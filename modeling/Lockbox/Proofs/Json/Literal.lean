import Lockbox.Proofs.Json.Truncation

/-!
# Integers and their literals

A natural number is read from its decimal digits and from nothing else: not from digits with a zero
in front, with a sign, a point or an exponent, whatever number these denote, and not at all unless
it fits 64 bits:

    value?_eq_integer_iff : value? depth cs = some (.integer n, rest) ↔
      n < Word.unsignedBound ∧ skipGap cs = Nat.toDigits 10 n ++ rest ∧ Stops rest
-/

namespace Lockbox.Json

variable {depth n k : Nat} {cs rest literal : List Char}

/-! ## Digits -/

/-- Digits are the values of characters, up to the first that is none. -/
theorem exists_literal_of_span {ds : List Nat} (h : Digits.span cs = (ds, rest)) :
    ∃ literal, cs = literal ++ rest ∧ ds = literal.map digitValue ∧
      (∀ c ∈ literal, c.isDigit = true) ∧ ∀ c more, rest = c :: more → Digits.value? c = none := by
  -- on the characters, up to the first that is no digit
  induction cs generalizing ds with
  | nil =>
    cases h
    exact ⟨[], rfl, rfl, nofun, nofun⟩
  | cons c tail ih =>
    rw [Digits.span] at h
    cases value : Digits.value? c with
    | none =>
      rw [value] at h
      cases h
      refine ⟨[], rfl, rfl, nofun, ?_⟩
      intro c' more eq
      obtain ⟨rfl, -⟩ := List.cons.inj eq
      exact value
    | some d =>
      rw [value] at h
      cases h
      obtain ⟨isDigit, rfl⟩ := isDigit_of_value? value
      obtain ⟨literal, text, digits, all, stops⟩ := ih rfl
      refine ⟨c :: literal, ?_, ?_, ?_, stops⟩
      · rw [List.cons_append, ← text]
      · rw [List.map_cons, digits]
      · intro c' hc'
        rcases List.mem_cons.1 hc' with rfl | more
        · exact isDigit
        · exact all c' more

theorem toNat_of_isDigit {c : Char} (h : c.isDigit = true) : 48 ≤ c.toNat ∧ c.toNat ≤ 57 := by
  simpa [Char.isDigit, UInt32.le_iff_toNat_le] using h

theorem digitValue_lt {c : Char} (h : c.isDigit = true) : digitValue c < 10 := by
  have bounds := toNat_of_isDigit h
  rw [digitValue]
  omega

/-- A digit is the one that its value is written with. -/
theorem digitChar_digitValue {c : Char} (h : c.isDigit = true) :
    Nat.digitChar (digitValue c) = c := by
  have bounds := toNat_of_isDigit h
  have all : ∀ d : Fin 10, Nat.digitChar d.val = Char.ofNat (d.val + 48) := by decide
  have eq : digitValue c + 48 = c.toNat := by
    rw [digitValue]
    omega
  rw [all ⟨digitValue c, digitValue_lt h⟩, eq, Char.ofNat_toNat]

theorem toDigits_digitValue {c : Char} (h : c.isDigit = true) :
    Nat.toDigits 10 (digitValue c) = [c] := by
  rw [Nat.toDigits_of_lt_base (digitValue_lt h), digitChar_digitValue h]

/-- Digits carry on the numeral of a number above zero. -/
theorem toDigits_append (positive : 0 < n) (isDigit : ∀ c ∈ literal, c.isDigit = true) :
    Nat.toDigits 10 (Nat.ofDigitChars 10 literal n) = Nat.toDigits 10 n ++ literal := by
  -- on the digits to come, while the number grows
  induction literal generalizing n with
  | nil => rw [Nat.ofDigitChars_nil, List.append_nil]
  | cons c tail ih =>
    have first := isDigit c List.mem_cons_self
    have step : Nat.toDigits 10 n ++ [c] = Nat.toDigits 10 (n * 10 + digitValue c) := by
      rw [← toDigits_digitValue first, Nat.mul_comm]
      exact Nat.toDigits_append_toDigits (by decide) positive (digitValue_lt first)
    calc
      Nat.toDigits 10 (Nat.ofDigitChars 10 (c :: tail) n)
        = Nat.toDigits 10 (Nat.ofDigitChars 10 tail (n * 10 + digitValue c)) := by
          rw [ofDigitChars_digit]
      _ = Nat.toDigits 10 (n * 10 + digitValue c) ++ tail :=
          ih (by omega) fun d hd => isDigit d (List.mem_cons_of_mem c hd)
      _ = Nat.toDigits 10 n ++ c :: tail := by
          rw [← step, List.append_assoc, List.singleton_append]

/-- Digits without a needless zero in front are the ones that their number is written with. -/
theorem toDigits_ofDigitChars {c : Char} {tail : List Char}
    (isDigit : ∀ d ∈ c :: tail, d.isDigit = true) (lead : digitValue c = 0 → tail = []) :
    Nat.toDigits 10 (Nat.ofDigitChars 10 (c :: tail) 0) = c :: tail := by
  have first := isDigit c List.mem_cons_self
  rw [ofDigitChars_digit, Nat.zero_mul, Nat.zero_add]
  by_cases zero : digitValue c = 0
  · rw [lead zero, Nat.ofDigitChars_nil, toDigits_digitValue first]
  · rw [toDigits_append (Nat.pos_of_ne_zero zero) fun d hd => isDigit d (List.mem_cons_of_mem c hd),
      toDigits_digitValue first, List.singleton_append]

/-! ## Numerals -/

/-- The digits before the point are those that their number is written with, for a zero stands
alone. -/
theorem exists_literal_of_scanWhole? {ds : List Nat}
    (h : Numeral.scanWhole? cs = some (ds, rest)) :
    ∃ literal, cs = literal ++ rest ∧ ds = literal.map digitValue ∧
      Nat.toDigits 10 (Nat.ofDigitChars 10 literal 0) = literal ∧
      ∀ c more, rest = c :: more → Digits.value? c = none := by
  unfold Numeral.scanWhole? at h
  split at h
  · cases h
  · cases h
  · next found nonempty lead =>
    have eq := Option.some.inj h
    obtain ⟨literal, text, digits, isDigit, stops⟩ := exists_literal_of_span eq
    refine ⟨literal, text, digits, ?_, stops⟩
    cases literal with
    | nil => exact absurd (eq.trans (by rw [digits]; rfl)) (nonempty rest)
    | cons c tail =>
      refine toDigits_ofDigitChars isDigit fun zero => ?_
      cases tail with
      | nil => rfl
      | cons d tail =>
        refine absurd ?_ (lead (digitValue d) (tail.map digitValue) rest)
        rw [eq, digits, List.map_cons, zero, List.map_cons]

/-- A number has no fraction if no point follows its digits. -/
theorem scanFraction?_eq_none (h : Numeral.scanFraction? cs = some (none, rest)) :
    rest = cs ∧ ∀ c more, cs = c :: more → c ≠ '.' := by
  unfold Numeral.scanFraction? at h
  split at h
  · next tail =>
    split at h
    · cases h
    · cases h
  · next unpointed =>
    cases h
    refine ⟨rfl, ?_⟩
    rintro c more eq rfl
    exact unpointed more eq

/-- A number has no exponent if neither letter follows. -/
theorem scanExponent?_eq_none (h : Numeral.scanExponent? cs = some (none, rest)) :
    rest = cs ∧ ∀ c more, cs = c :: more → c ≠ 'e' ∧ c ≠ 'E' := by
  cases cs with
  | nil =>
    cases h
    exact ⟨rfl, nofun⟩
  | cons c tail =>
    rw [Numeral.scanExponent?] at h
    split at h
    · split at h
      · cases h
      · cases h
    · next ne =>
      cases h
      refine ⟨rfl, ?_⟩
      intro c' more eq
      obtain ⟨rfl, -⟩ := List.cons.inj eq
      exact not_or.1 ne

/-- Digits that make a number of 64 bits were all taken into it. -/
theorem accumulate_eq {m : Nat} (h : Numeral.accumulate n (literal.map digitValue) = (m, []))
    (fits : n < Word.unsignedBound) :
    m = Nat.ofDigitChars 10 literal n ∧ m < Word.unsignedBound := by
  induction literal generalizing n with
  | nil =>
    cases h
    exact ⟨Nat.ofDigitChars_nil.symm, fits⟩
  | cons c tail ih =>
    rw [List.map_cons, Numeral.accumulate] at h
    -- there is room for another digit, or it would be left over
    split at h
    · next room =>
      rw [ofDigitChars_digit]
      exact ih h room
    · cases h

/-- A natural number is the value of digits that have no sign, point or exponent. -/
theorem eq_of_value?_eq_integer {numeral : Numeral} (h : numeral.value? = some (.integer n)) :
    numeral.negative = false ∧ numeral.fraction = none ∧ numeral.exponent = none ∧
      Numeral.accumulate 0 numeral.whole = (n, []) := by
  obtain ⟨negative, whole, fraction, exponent⟩ := numeral
  rw [Numeral.value?] at h
  cases sum : Numeral.accumulate 0 whole with
  | mk significand excess =>
    rw [sum] at h
    dsimp only at h
    split at h
    · next plain =>
      simp only [Bool.and_eq_true, Option.isNone_iff_eq_none, List.isEmpty_iff] at plain
      obtain ⟨⟨rfl, rfl⟩, rfl⟩ := plain
      cases negative with
      | false =>
        have value := Json.integer.inj (Option.some.inj h)
        exact ⟨rfl, rfl, rfl, by rw [Int.ofNat.inj value]⟩
      | true =>
        -- a number with a minus is below zero, or no integer
        rw [Numeral.wholeValue] at h
        simp only [if_true, Option.some.injEq] at h
        split at h
        · cases h
        · next nonzero =>
          have value := Json.integer.inj h
          omega
    · obtain ⟨x, -, eq⟩ := Option.map_eq_some_iff.1 h
      cases eq

theorem eq_of_minus (h : (Digits.minus cs).1 = false) : (Digits.minus cs).2 = cs := by
  unfold Digits.minus at h ⊢
  split at h
  · cases h
  · rfl

/-- A numeral that is a natural number is its digits, and ends there. -/
theorem toDigits_of_scan? {numeral : Numeral} (scan : Numeral.scan? cs = some (numeral, rest))
    (value : numeral.value? = some (.integer n)) :
    n < Word.unsignedBound ∧ cs = Nat.toDigits 10 n ++ rest ∧ Stops rest := by
  obtain ⟨⟨whole, rest₁⟩, first, scan⟩ := Option.bind_eq_some_iff.1 scan
  obtain ⟨⟨fraction, rest₂⟩, second, scan⟩ := Option.bind_eq_some_iff.1 scan
  obtain ⟨⟨exponent, rest₃⟩, third, scan⟩ := Option.bind_eq_some_iff.1 scan
  cases scan
  obtain ⟨unsigned, rfl, rfl, sum⟩ := eq_of_value?_eq_integer value
  obtain ⟨rfl, noPoint⟩ := scanFraction?_eq_none second
  obtain ⟨rfl, noExponent⟩ := scanExponent?_eq_none third
  rw [eq_of_minus unsigned] at first
  obtain ⟨literal, text, rfl, digits, stops⟩ := exists_literal_of_scanWhole? first
  obtain ⟨rfl, fits⟩ := accumulate_eq sum (by decide)
  refine ⟨fits, by rw [digits, text], ?_⟩
  intro c more eq
  exact ⟨stops c more eq, noPoint c more eq, noExponent c more eq⟩

/-! ## Values -/

/-- A natural number is read from its digits alone. -/
theorem value?_eq_integer_iff :
    value? depth cs = some (.integer n, rest) ↔
      n < Word.unsignedBound ∧ skipGap cs = Nat.toDigits 10 n ++ rest ∧ Stops rest := by
  constructor
  · intro h
    unfold value? at h
    -- numbers are what is read behind none of the other first characters
    split at h
    case h_7 =>
      obtain ⟨⟨numeral, after⟩, scan, h⟩ := Option.bind_eq_some_iff.1 h
      obtain ⟨v, value, h⟩ := Option.bind_eq_some_iff.1 h
      cases h
      exact toDigits_of_scan? scan value
    case h_4 =>
      obtain ⟨_, -, eq⟩ := Option.map_eq_some_iff.1 h
      cases eq
    case h_5 | h_6 =>
      cases depth with
      | zero => cases h
      | succ depth =>
        obtain ⟨_, -, eq⟩ := Option.map_eq_some_iff.1 h
        cases eq
    all_goals cases h
  · rintro ⟨fits, text, stops⟩
    have solid : skipGap (Nat.toDigits 10 n ++ rest) = Nat.toDigits 10 n ++ rest := by
      obtain ⟨c, tail, digits, isDigit⟩ := exists_head_toDigits n
      rw [digits, List.cons_append, skipGap_of_not_gap (isGap_of_isDigit isDigit)]
    rw [value?_congr (text.trans solid.symm)]
    exact value?_toDigits depth fits stops

end Lockbox.Json
