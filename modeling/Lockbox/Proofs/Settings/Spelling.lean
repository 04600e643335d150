import Lockbox.Proofs.Json.Literal
import Lockbox.Proofs.Text.Case
import Lockbox.Settings.Value

/-!
# Texts that settings keep as they are

A text stands for a number if it is spelled as one (`SpellsNumber`): a sign, then digits that may
have a point among them and an exponent behind them, or the word for infinity or for what is no
number. What a setting gives back is the text that was given exactly if that spells neither a truth
value nor a number, or is the way in which the value that it stands for is written (`Lasting`):

    toText_ofText_iff : (SettingValue.ofText t).toText = .ok t ↔ Lasting t

A text with a slash in it, as paths mostly are, is one of these (`lasting_of_mem`).
-/

namespace Lockbox.SettingValue

open Json (digitValue)

/-! ## Numbers in texts -/

def IsSign (cs : List Char) : Prop := cs = [] ∨ cs = ['+'] ∨ cs = ['-']

def IsDigits (cs : List Char) : Prop := ∀ c ∈ cs, c.isDigit = true

/-- An exponent or nothing. -/
inductive IsExponent : List Char → Prop
  | absent : IsExponent []
  | power {mark : Char} {sign digits : List Char} (marked : mark = 'e' ∨ mark = 'E')
    (signed : IsSign sign) (filled : digits ≠ []) (plain : IsDigits digits) :
    IsExponent (mark :: (sign ++ digits))

/-- Digits in front of an exponent, at least one, and a point before, among or behind them or
none. -/
inductive IsDecimal : List Char → Prop
  | whole {before exponent : List Char} (filled : before ≠ []) (plain : IsDigits before)
    (scaled : IsExponent exponent) : IsDecimal (before ++ exponent)
  | point {before after exponent : List Char} (filled : before ≠ [] ∨ after ≠ [])
    (plain : IsDigits before) (more : IsDigits after) (scaled : IsExponent exponent) :
    IsDecimal (before ++ '.' :: (after ++ exponent))

def numberWords : List String := ["inf", "infinity", "nan"]

/-- A text is spelled as a number, whether in digits or by a word in any case. -/
def SpellsNumber (t : String) : Prop :=
  ∃ sign cs, IsSign sign ∧ t.toList = sign ++ cs ∧
    (IsDecimal cs ∨ Text.lowerAscii (String.ofList cs) ∈ numberWords)

def SpellsTruth (t : String) : Prop := Text.lowerCase t = "true" ∨ Text.lowerCase t = "false"

/-- Texts that come back from a setting as they were given. -/
inductive Lasting : String → Prop
  | text {t : String} (noTruth : ¬SpellsTruth t) (noNumber : ¬SpellsNumber t) : Lasting t
  | truth {t : String} (lower : t = "true" ∨ t = "false") : Lasting t
  | whole {n : Int} (low : -Word.signedBound ≤ n) (high : n < Word.signedBound) :
    Lasting (toString n)
  | real {t : String} {x : Binary64} (stands : ofText t = .real x)
    (written : numberLayout.render x = t) : Lasting t

variable {cs rest : List Char} {t : String} {n : Int}

/-! ## Reading what is spelled -/

/-- Nothing in front of which a sign is read begins with a sign itself. -/
theorem sign_append {sign : List Char} (signed : IsSign sign)
    (bare : ∀ c more, cs = c :: more → c ≠ '+' ∧ c ≠ '-') : (Digits.sign (sign ++ cs)).2 = cs := by
  rcases signed with rfl | rfl | rfl
  · cases cs with
    | nil => rfl
    | cons c more =>
      obtain ⟨plus, minus⟩ := bare c more rfl
      rw [List.nil_append, Digits.sign.eq_def]
      split
      · next eq => exact absurd (List.cons.inj eq).1 plus
      · rw [Json.minus_of_ne minus]
  · rfl
  · rfl

/-- Whatever a text is, its sign is taken off the front. -/
theorem exists_sign (cs : List Char) : ∃ sign, IsSign sign ∧ cs = sign ++ (Digits.sign cs).2 := by
  unfold Digits.sign
  split
  · exact ⟨['+'], .inr (.inl rfl), rfl⟩
  · unfold Digits.minus
    split
    · exact ⟨['-'], .inr (.inr rfl), rfl⟩
    · exact ⟨[], .inl rfl, rfl⟩

theorem not_sign_of_isDigit {c : Char} (h : c.isDigit = true) : c ≠ '+' ∧ c ≠ '-' := by
  constructor
  · rintro rfl
    exact absurd h (by decide)
  · rintro rfl
    exact absurd h (by decide)

theorem not_sign_of_isDigits (h : IsDigits cs) : ∀ c more, cs = c :: more → c ≠ '+' ∧ c ≠ '-' := by
  rintro c more rfl
  exact not_sign_of_isDigit (h c List.mem_cons_self)

theorem span_of_isDigits (h : IsDigits cs) : Digits.span cs = (cs.map digitValue, []) := by
  have stops : ∀ c more, ([] : List Char) = c :: more → Digits.value? c = none := nofun
  have span := Json.span_digits h stops
  rw [List.append_nil] at span
  exact span

/-- An exponent ends digits and is no point. -/
theorem IsExponent.stops (h : IsExponent cs) :
    ∀ c more, cs = c :: more → Digits.value? c = none ∧ c ≠ '.' := by
  rintro c more eq
  cases h with
  | absent => cases eq
  | power marked _ _ _ =>
    obtain ⟨rfl, -⟩ := List.cons.inj eq
    rcases marked with rfl | rfl <;> decide

/-- What is read as an exponent is spelled as one, and the other way round. -/
theorem exponent?_isSome_iff : (exponent? cs).isSome ↔ IsExponent cs := by
  constructor
  · intro h
    cases cs with
    | nil => exact .absent
    | cons mark tail =>
      rw [exponent?] at h
      split at h
      · next marked =>
        obtain ⟨sign, signed, text⟩ := exists_sign tail
        cases span : Digits.span (Digits.sign tail).2 with
        | mk ds rest =>
          dsimp only at h
          rw [span] at h
          obtain ⟨literal, whole, values, plain, -⟩ := Json.exists_literal_of_span span
          split at h
          · next found =>
            cases found
            rw [text, whole, List.append_nil]
            refine .power marked signed ?_ plain
            rintro rfl
            cases values
          · cases h
      · cases h
  · intro h
    cases h with
    | absent => rfl
    | @power mark sign digits marked signed filled plain =>
      rw [exponent?, if_pos marked]
      dsimp only
      -- the digits behind the sign are all that is left
      rw [sign_append signed (not_sign_of_isDigits plain), span_of_isDigits plain]
      cases digits with
      | nil => exact absurd rfl filled
      | cons c more => rfl

theorem fraction_of_ne (h : ∀ c more, cs = c :: more → c ≠ '.') : fraction cs = ([], cs) := by
  unfold fraction
  split
  · next rest => exact absurd rfl (h '.' rest rfl)
  · rfl

/-- What is read as a decimal numeral is spelled as one. -/
theorem isDecimal_of_readDecimal? {negative : Bool} (h : (readDecimal? negative cs).isSome) :
    IsDecimal cs := by
  unfold readDecimal? at h
  cases first : Digits.span cs with
  | mk before rest =>
    obtain ⟨digits, rfl, rfl, plain, -⟩ := Json.exists_literal_of_span first
    rw [first] at h
    dsimp only at h
    -- with a point there are digits on one side at least, without one in front of the exponent
    unfold fraction at h
    split at h
    · next tail =>
      cases second : Digits.span tail with
      | mk after exponent =>
        obtain ⟨others, rfl, rfl, more, -⟩ := Json.exists_literal_of_span second
        rw [second] at h
        dsimp only at h
        split at h
        · cases h
        · next filled =>
          rw [Option.isSome_map, exponent?_isSome_iff] at h
          refine .point ?_ plain more h
          by_cases nothing : digits = []
          · refine .inr ?_
            rintro rfl
            rw [nothing] at filled
            exact filled rfl
          · exact .inl nothing
    · dsimp only at h
      split at h
      · cases h
      · next filled =>
        rw [Option.isSome_map, exponent?_isSome_iff] at h
        refine .whole ?_ plain h
        rintro rfl
        exact filled rfl

/-- What is spelled as a decimal numeral is read as one. -/
theorem readDecimal?_of_isDecimal (negative : Bool) (h : IsDecimal cs) :
    (readDecimal? negative cs).isSome := by
  unfold readDecimal?
  cases h with
  | @whole before exponent filled plain scaled =>
    have stops := scaled.stops
    rw [Json.span_digits plain fun c more eq => (stops c more eq).1]
    dsimp only
    rw [fraction_of_ne fun c more eq => (stops c more eq).2]
    dsimp only
    rw [if_neg (by simpa using filled), Option.isSome_map, exponent?_isSome_iff]
    exact scaled
  | @point before after exponent filled plain more scaled =>
    have stops := scaled.stops
    -- the point ends the digits in front of it
    have ended : ∀ c tail, '.' :: (after ++ exponent) = c :: tail → Digits.value? c = none := by
      intro c tail eq
      obtain ⟨rfl, -⟩ := List.cons.inj eq
      decide
    have behind : fraction ('.' :: (after ++ exponent)) = (after.map digitValue, exponent) :=
      Json.span_digits more fun c tail eq => (stops c tail eq).1
    rw [Json.span_digits plain ended]
    dsimp only
    rw [behind]
    dsimp only
    have enough : ¬((before.map digitValue).isEmpty && (after.map digitValue).isEmpty) = true := by
      rcases filled with filled | filled <;> simp [filled]
    rw [if_neg enough, Option.isSome_map, exponent?_isSome_iff]
    exact scaled

theorem readDecimal?_isSome_iff (negative : Bool) :
    (readDecimal? negative cs).isSome ↔ IsDecimal cs :=
  ⟨isDecimal_of_readDecimal?, readDecimal?_of_isDecimal negative⟩

/-- Neither digits nor words for numbers begin with a sign. -/
theorem not_sign_of_spelled
    (h : IsDecimal cs ∨ Text.lowerAscii (String.ofList cs) ∈ numberWords) :
    ∀ c more, cs = c :: more → c ≠ '+' ∧ c ≠ '-' := by
  rintro c more rfl
  rcases h with decimal | word
  · generalize text : c :: more = cs at decimal
    cases decimal with
    | @whole before exponent filled plain _ =>
      cases before with
      | nil => exact absurd rfl filled
      | cons d tail =>
        obtain ⟨rfl, -⟩ := List.cons.inj text
        exact not_sign_of_isDigit (plain c List.mem_cons_self)
    | @point before after exponent _ plain _ _ =>
      cases before with
      | nil =>
        obtain ⟨rfl, -⟩ := List.cons.inj text
        decide
      | cons d tail =>
        obtain ⟨rfl, -⟩ := List.cons.inj text
        exact not_sign_of_isDigit (plain c List.mem_cons_self)
  -- no word for a number has a sign for its first letter
  · have first : ∀ sign, sign = '+' ∨ sign = '-' →
        Text.lowerAscii (String.ofList (sign :: more)) ∉ numberWords := by
      intro sign signed word
      simp only [numberWords, Text.lowerAscii, String.toList_ofList, List.map_cons, List.mem_cons,
        List.not_mem_nil, or_false, ← String.toList_inj] at word
      rcases signed with rfl | rfl
      · rcases word with eq | eq | eq <;> cases eq
      · rcases word with eq | eq | eq <;> cases eq
    constructor
    · rintro rfl
      exact first '+' (.inl rfl) word
    · rintro rfl
      exact first '-' (.inr rfl) word

/-- A text is read as a real number exactly if it is spelled as a number. -/
theorem readReal?_isSome_iff : (readReal? t).isSome ↔ SpellsNumber t := by
  -- what is read follows the sign
  have taken : (readReal? t).isSome ↔ IsDecimal (Digits.sign t.toList).2 ∨
      Text.lowerAscii (String.ofList (Digits.sign t.toList).2) ∈ numberWords := by
    rw [readReal?, ← readDecimal?_isSome_iff (Digits.sign t.toList).1, numberWords]
    simp only [List.mem_cons, List.not_mem_nil, or_false]
    split
    · next infinite => exact ⟨fun _ => .inr (infinite.imp_right .inl), fun _ => rfl⟩
    · next finite =>
      split
      · next nan => exact ⟨fun _ => .inr (.inr (.inr nan)), fun _ => rfl⟩
      · next ne => simp only [not_or.1 finite, ne, or_self, or_false]
  rw [taken]
  constructor
  · intro spelled
    obtain ⟨sign, signed, text⟩ := exists_sign t.toList
    exact ⟨sign, _, signed, text, spelled⟩
  · rintro ⟨sign, cs, signed, text, spelled⟩
    rw [text, sign_append signed (not_sign_of_spelled spelled)]
    exact spelled

/-- A text is read as a truth value exactly if it spells one. -/
theorem readTruth?_eq_none_iff : readTruth? t = none ↔ ¬SpellsTruth t := by
  rw [readTruth?, SpellsTruth]
  split
  · next true => simp [true]
  · next ne =>
    split
    · next false => simp [false]
    · next another => simp [ne, another]

/-- A whole number of 64 bits is spelled as a number. -/
theorem of_readWhole? (h : readWhole? t = some n) :
    SpellsNumber t ∧ -Word.signedBound ≤ n ∧ n < Word.signedBound := by
  obtain ⟨sign, signed, text⟩ := exists_sign t.toList
  unfold readWhole? at h
  dsimp only at h
  -- the bounds are those of the test that the reader makes, with and without a minus
  split at h
  · next d ds span =>
    obtain ⟨literal, whole, values, plain, -⟩ := Json.exists_literal_of_span span
    rw [List.append_nil] at whole
    have filled : literal ≠ [] := by
      rintro rfl
      cases values
    have spelled : IsDecimal (Digits.sign t.toList).2 := by
      rw [whole, ← List.append_nil literal]
      exact .whole filled plain .absent
    have positive : 0 < Word.signedBound := by decide
    refine ⟨⟨sign, _, signed, text, .inl spelled⟩, ?_⟩
    split at h
    · split at h
      · cases h
        omega
      · cases h
    · split at h
      · cases h
        omega
      · cases h
  · cases h

/-! ## Whole numbers as they are written -/

theorem toNat_digits (literal : List Char) :
    Digits.toNat (literal.map digitValue) = Nat.ofDigitChars 10 literal 0 := by
  -- the fold of one is the recursion of the other, from any number on
  have fold : ∀ n, (literal.map digitValue).foldl (fun n d => n * 10 + d) n =
      Nat.ofDigitChars 10 literal n := by
    induction literal with
    | nil => exact fun n => Nat.ofDigitChars_nil.symm
    | cons c tail ih =>
      intro n
      rw [List.map_cons, List.foldl_cons, ih, Json.ofDigitChars_digit]
  exact fold 0

/-- The digits of a number, in front of which a sign was read, are read as the number. -/
theorem span_toDigits (k : Nat) : ∃ d ds, Digits.span (Nat.toDigits 10 k) = (d :: ds, []) ∧
    Digits.toNat (d :: ds) = k := by
  have plain : ∀ c ∈ Nat.toDigits 10 k, c.isDigit = true := fun c hc =>
    Nat.isDigit_of_mem_toDigits (by decide) (by decide) hc
  obtain ⟨c, tail, digits, -⟩ := Json.exists_head_toDigits k
  have number := toNat_digits (Nat.toDigits 10 k)
  rw [Nat.ofDigitChars_ten_toDigits] at number
  rw [span_of_isDigits plain]
  rw [digits, List.map_cons] at number ⊢
  exact ⟨_, _, rfl, number⟩

theorem toList_toString_natCast (k : Nat) : (toString (k : Int)).toList = Nat.toDigits 10 k :=
  Nat.toList_repr

theorem toList_toString_negSucc (k : Nat) :
    (toString (Int.negSucc k)).toList = '-' :: Nat.toDigits 10 (k + 1) := by
  show ("-" ++ Nat.repr (k + 1)).toList = _
  rw [String.toList_append, Nat.toList_repr]
  rfl

/-- A whole number of 64 bits is read as it was written. -/
theorem readWhole?_toString (low : -Word.signedBound ≤ n) (high : n < Word.signedBound) :
    readWhole? (toString n) = some n := by
  cases n with
  | ofNat k =>
    have text := toList_toString_natCast k
    obtain ⟨d, ds, span, number⟩ := span_toDigits k
    obtain ⟨c, tail, digits, head⟩ := Json.exists_head_toDigits k
    have unsigned : Digits.sign (Nat.toDigits 10 k) = (false, Nat.toDigits 10 k) := by
      rw [digits]
      obtain ⟨plus, minus⟩ := not_sign_of_isDigit head
      rw [Digits.sign.eq_def]
      split
      · next eq => exact absurd (List.cons.inj eq).1 plus
      · exact Json.minus_of_ne minus tail
    unfold readWhole?
    rw [show (toString (Int.ofNat k)).toList = _ from text, unsigned]
    dsimp only
    rw [span]
    dsimp only
    rw [number, if_neg Bool.false_ne_true, if_pos (Int.ofNat_lt.1 high)]
    rfl
  | negSucc k =>
    have text := toList_toString_negSucc k
    obtain ⟨d, ds, span, number⟩ := span_toDigits (k + 1)
    have fits : k + 1 ≤ Word.signedBound := by omega
    have negative : Digits.sign ('-' :: Nat.toDigits 10 (k + 1)) =
        (true, Nat.toDigits 10 (k + 1)) := rfl
    unfold readWhole?
    rw [text, negative]
    dsimp only
    rw [span]
    dsimp only
    rw [number, if_pos rfl, if_pos fits]
    rfl

theorem isLow_of_isDigit {c : Char} (h : c.isDigit = true) : Text.IsLow c := by
  have bounds := Json.toNat_of_isDigit h
  have ascii : c.toNat < 0x80 := by omega
  rw [Text.IsLow, Text.lowerChar, if_pos ascii, Text.toLower_eq_self (by omega)]

/-- Nothing in a whole number has a case to lose. -/
theorem isLow_of_mem_toString {c : Char} (h : c ∈ (toString n).toList) : Text.IsLow c := by
  have digit : ∀ k : Nat, c ∈ Nat.toDigits 10 k → Text.IsLow c := fun k hc =>
    isLow_of_isDigit (Nat.isDigit_of_mem_toDigits (by decide) (by decide) hc)
  cases n with
  | ofNat k => exact digit k (toList_toString_natCast k ▸ h)
  | negSucc k =>
    rw [toList_toString_negSucc] at h
    rcases List.mem_cons.1 h with rfl | later
    · decide
    · exact digit (k + 1) later

/-- The text of a whole number of 64 bits stands for that number. -/
theorem ofText_toString (low : -Word.signedBound ≤ n) (high : n < Word.signedBound) :
    ofText (toString n) = .whole n := by
  have read := readWhole?_toString low high
  have noTruth : readTruth? (toString n) = none := by
    rw [readTruth?_eq_none_iff, SpellsTruth, Text.lowerCase_eq_self fun _ => isLow_of_mem_toString]
    rintro (eq | eq)
    · rw [eq] at read
      cases read
    · rw [eq] at read
      cases read
  rw [ofText, noTruth, read]

/-! ## Texts that last -/

/-- A text that spells nothing else stands for itself. -/
theorem ofText_of_text (noTruth : ¬SpellsTruth t) (noNumber : ¬SpellsNumber t) :
    ofText t = .text t := by
  have noWhole : readWhole? t = none := by
    cases whole : readWhole? t with
    | none => rfl
    | some n => exact absurd (of_readWhole? whole).1 noNumber
  have noReal : readReal? t = none := by
    rw [← readReal?_isSome_iff, Option.not_isSome_iff_eq_none] at noNumber
    exact noNumber
  rw [ofText, readTruth?_eq_none_iff.2 noTruth, noWhole, noReal]

/-- A setting gives back the text that it was given exactly if that text lasts. -/
theorem toText_ofText_iff : (ofText t).toText = .ok t ↔ Lasting t := by
  constructor
  · intro h
    -- the cases are tried in the order of the reader
    unfold ofText at h
    split at h
    · next b _ =>
      cases b with
      | true => exact .truth (.inl (Except.ok.inj h).symm)
      | false => exact .truth (.inr (Except.ok.inj h).symm)
    · next noTruth =>
      split at h
      · next n whole =>
        obtain ⟨-, low, high⟩ := of_readWhole? whole
        rw [← Except.ok.inj h]
        exact .whole low high
      · next noWhole =>
        split at h
        · next x real =>
          exact .real (by rw [ofText, noTruth, noWhole, real]) (Except.ok.inj h)
        · next noReal =>
          refine .text (readTruth?_eq_none_iff.1 noTruth) ?_
          rw [← readReal?_isSome_iff, noReal]
          exact Bool.false_ne_true
  · intro lasting
    cases lasting with
    | text noTruth noNumber => rw [ofText_of_text noTruth noNumber, toText]
    | truth lower => rcases lower with rfl | rfl <;> rfl
    | whole low high => rw [ofText_toString low high, toText]
    | real stands written => rw [stands, toText, written]

theorem isAlphanum_of_mem_word {word : String} (special : word ∈ numberWords ++ ["true", "false"])
    {c : Char} (mem : c ∈ word.toList) : c.isAlphanum = true := by
  have letters : (numberWords ++ ["true", "false"]).all (fun w => w.toList.all Char.isAlphanum) =
      true := by decide +kernel
  exact List.all_eq_true.1 (List.all_eq_true.1 letters word special) c mem

/-- A character of numbers: a letter or a digit, a sign or a point. -/
def IsNumeric (c : Char) : Prop := c.isAlphanum = true ∨ c ∈ ['+', '-', '.']

instance : DecidablePred IsNumeric := fun c =>
  inferInstanceAs (Decidable (c.isAlphanum = true ∨ c ∈ ['+', '-', '.']))

variable {c : Char}

theorem IsSign.isNumeric (h : IsSign cs) (mem : c ∈ cs) : IsNumeric c := by
  rcases h with rfl | rfl | rfl
  · cases mem
  · exact .inr (by simp [List.mem_singleton.1 mem])
  · exact .inr (by simp [List.mem_singleton.1 mem])

theorem IsDigits.isNumeric (h : IsDigits cs) (mem : c ∈ cs) : IsNumeric c :=
  .inl (by simp [Char.isAlphanum, h c mem])

theorem IsExponent.isNumeric (h : IsExponent cs) (mem : c ∈ cs) : IsNumeric c := by
  cases h with
  | absent => cases mem
  | power marked signed _ plain =>
    rcases List.mem_cons.1 mem with rfl | mem
    · rcases marked with rfl | rfl <;> exact .inl (by decide)
    · rcases List.mem_append.1 mem with mem | mem
      · exact signed.isNumeric mem
      · exact IsDigits.isNumeric plain mem

theorem IsDecimal.isNumeric (h : IsDecimal cs) (mem : c ∈ cs) : IsNumeric c := by
  cases h with
  | whole _ plain scaled =>
    rcases List.mem_append.1 mem with mem | mem
    · exact IsDigits.isNumeric plain mem
    · exact scaled.isNumeric mem
  | point _ plain more scaled =>
    rcases List.mem_append.1 mem with mem | mem
    · exact IsDigits.isNumeric plain mem
    · rcases List.mem_cons.1 mem with rfl | mem
      · exact .inr (by decide)
      · rcases List.mem_append.1 mem with mem | mem
        · exact IsDigits.isNumeric more mem
        · exact scaled.isNumeric mem

/-- Of the characters in lower case, a number has those of numbers only. -/
theorem isNumeric_of_spellsNumber (h : SpellsNumber t) (mem : c ∈ t.toList)
    (low : Text.IsLow c) : IsNumeric c := by
  obtain ⟨sign, cs, signed, text, spelled⟩ := h
  rw [text, List.mem_append] at mem
  rcases mem with mem | mem
  · exact signed.isNumeric mem
  · rcases spelled with decimal | word
    · exact decimal.isNumeric mem
    · have kept : c ∈ (Text.lowerAscii (String.ofList cs)).toList := by
        rw [Text.lowerAscii, String.toList_ofList, String.toList_ofList, List.mem_map]
        exact ⟨c, mem, Text.toLower_of_isLow low⟩
      exact .inl (isAlphanum_of_mem_word (List.mem_append_left _ word) kept)

/-- A text lasts if it has a character in lower case that is none of numbers, such as the slash of a
path. -/
theorem lasting_of_mem (mem : c ∈ t.toList) (low : Text.IsLow c) (notNumeric : ¬IsNumeric c) :
    Lasting t := by
  have kept := Text.mem_lowerCase_of_isLow low mem
  refine .text ?_ fun number => notNumeric (isNumeric_of_spellsNumber number mem low)
  -- a truth value has letters only
  intro truth
  have word : Text.lowerCase t ∈ ["true", "false"] := by
    rw [List.mem_cons, List.mem_singleton]
    exact truth
  exact notNumeric (.inl (isAlphanum_of_mem_word (List.mem_append_right _ word) kept))

end Lockbox.SettingValue
