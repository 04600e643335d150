import Lockbox.Proofs.Json.RoundTrip

/-!
# Texts that are cut off

A reader that stopped within a text stops at the same place if the text goes on (`Steadfast`). Only
a number at the very end of a text can turn into another when more follows. A printed object ends
with its bracket, so that nothing of its text but the whole can be read:

    eq_nil_of_parse?_prefix : parse? t = some v →
      (Json.object members).pretty.toList = t.toList ++ more → more = []
-/

namespace Lockbox.Json

variable {α : Type}

/-- A reader that stops in front of something stops there too if more follows. -/
def Steadfast (item : List Char → Option (α × List Char)) : Prop :=
  ∀ {cs rest : List Char} {a : α}, item cs = some (a, rest) → rest ≠ [] →
    ∀ more, item (cs ++ more) = some (a, rest ++ more)

/-- A gap that ended in front of a character ends there. -/
theorem skipGap_append {cs tail : List Char} {c : Char} (h : skipGap cs = c :: tail)
    (more : List Char) : skipGap (cs ++ more) = c :: (tail ++ more) := by
  have solid : (skipGap cs).isEmpty = false := by
    rw [h]
    rfl
  rw [skipGap, List.dropWhile_append, ← skipGap, solid, h]
  rfl

/-! ## Strings -/

theorem escape?_of_ne {c : Char} (h : c ≠ 'u') (rest : List Char) :
    escape? (c :: rest) = (shortEscape? c).map (·, rest) := by
  unfold escape?
  split
  · next e => exact absurd (List.cons.inj e).1 h
  · next e => obtain ⟨rfl, rfl⟩ := List.cons.inj e; rfl
  · next e => cases e

/-- An escape is as long as it says, a pair of surrogates included. -/
theorem escape?_append {cs rest : List Char} {c : Char} (h : escape? cs = some (c, rest))
    (more : List Char) : escape? (cs ++ more) = some (c, rest ++ more) := by
  unfold escape? at h
  split at h
  · next a b d e tail =>
    obtain ⟨first, unit, h⟩ := Option.bind_eq_some_iff.1 h
    simp only [List.cons_append, escape?, unit, Option.bind_eq_bind, Option.bind_some]
    -- a first surrogate calls for a second one, which is there
    by_cases high : 0xd800 ≤ first ∧ first < 0xdc00
    · rw [if_pos high] at h ⊢
      split at h
      · next f g i j tail =>
        obtain ⟨second, unit', h⟩ := Option.bind_eq_some_iff.1 h
        obtain ⟨code, pair, h⟩ := Option.bind_eq_some_iff.1 h
        cases h
        simp only [List.cons_append, unit', pair, Option.bind_some]
      · cases h
    · rw [if_neg high] at h ⊢
      by_cases low : 0xdc00 ≤ first ∧ first < 0xe000
      · rw [if_pos low] at h
        cases h
      · rw [if_neg low] at h ⊢
        cases h
        rfl
  · next letter tail _ =>
    have ne : letter ≠ 'u' := by
      rintro rfl
      cases h
    obtain ⟨d, short, eq⟩ := Option.map_eq_some_iff.1 h
    cases eq
    rw [List.cons_append, escape?_of_ne ne, short]
    rfl
  · cases h

/-- A text ends at its closing quote. The longer text has the more fuel. -/
theorem stringBody?_append {fuel fuel' : Nat} {cs body rest : List Char}
    (h : stringBody? fuel cs = some (body, rest)) (enough : fuel ≤ fuel') (more : List Char) :
    stringBody? fuel' (cs ++ more) = some (body, rest ++ more) := by
  -- on the fuel, which bounds the characters that are left
  induction fuel generalizing fuel' cs body with
  | zero => cases h
  | succ fuel ih =>
    obtain ⟨fuel', rfl⟩ := Nat.exists_eq_add_of_lt enough
    cases cs with
    | nil => cases h
    | cons c tail =>
      rw [stringBody?] at h
      rw [List.cons_append, stringBody?]
      -- a quote ends the text, a backslash begins an escape, and all else is itself
      by_cases quote : c = '\x22'
      · rw [if_pos quote] at h ⊢
        cases h
        rfl
      · rw [if_neg quote] at h ⊢
        by_cases escape : c = '\\'
        · rw [if_pos escape] at h ⊢
          obtain ⟨⟨d, after⟩, escaped, h⟩ := Option.bind_eq_some_iff.1 h
          obtain ⟨⟨cs, after'⟩, read, h⟩ := Option.bind_eq_some_iff.1 h
          cases h
          rw [escape?_append escaped more]
          simp only [Option.bind_eq_bind, Option.bind_some]
          rw [ih read (by omega)]
          rfl
        · rw [if_neg escape] at h ⊢
          by_cases control : c.toNat < 0x20
          · rw [if_pos control] at h
            cases h
          · rw [if_neg control] at h ⊢
            obtain ⟨⟨cs, after⟩, read, h⟩ := Option.bind_eq_some_iff.1 h
            cases h
            rw [ih read (by omega)]
            rfl

theorem string?_append {cs rest : List Char} {s : String} (h : string? cs = some (s, rest))
    (more : List Char) : string? (cs ++ more) = some (s, rest ++ more) := by
  obtain ⟨⟨body, after⟩, read, eq⟩ := Option.map_eq_some_iff.1 h
  cases eq
  rw [string?, stringBody?_append read (by rw [List.length_append]; omega) more]
  rfl

/-! ## Numbers -/

/-- Digits that end in front of something else end there. -/
theorem span_append {cs rest : List Char} {ds : List Nat} (h : Digits.span cs = (ds, rest))
    (left : rest ≠ []) (more : List Char) : Digits.span (cs ++ more) = (ds, rest ++ more) := by
  -- on the characters, the first of which that is no digit ends the number
  induction cs generalizing ds with
  | nil =>
    cases h
    exact absurd rfl left
  | cons c tail ih =>
    rw [Digits.span] at h
    rw [List.cons_append, Digits.span]
    cases value : Digits.value? c with
    | none =>
      rw [value] at h
      cases h
      rfl
    | some d =>
      rw [value] at h
      cases h
      dsimp only
      rw [ih rfl]

theorem steadfast_scanWhole? : Steadfast Numeral.scanWhole? := by
  intro cs rest ds h left more
  rw [Numeral.scanWhole?] at h ⊢
  cases found : Digits.span cs with
  | mk digits after =>
    rw [found] at h
    cases digits with
    | nil => cases h
    | cons d others =>
      -- a zero stands alone, and any other digit may be followed by more
      cases others with
      | nil =>
        have eq : some ([d], after) = some (ds, rest) := by
          cases d <;> exact h
        cases eq
        rw [span_append found left]
        cases d <;> rfl
      | cons e others =>
        cases d with
        | zero => cases h
        | succ d =>
          cases h
          rw [span_append found left]
          rfl

theorem steadfast_scanFraction? : Steadfast Numeral.scanFraction? := by
  intro cs rest ds h left more
  unfold Numeral.scanFraction? at h
  split at h
  · next tail =>
    rw [List.cons_append, Numeral.scanFraction?]
    cases found : Digits.span tail with
    | mk digits after =>
      rw [found] at h
      cases digits with
      | nil => cases h
      | cons d digits =>
        cases h
        rw [span_append found left]
  · next unpointed =>
    cases h
    cases cs with
    | nil => exact absurd rfl left
    | cons c tail =>
      unfold Numeral.scanFraction?
      split
      · next e => exact absurd (List.cons.inj e).1 fun dot => unpointed tail (by rw [dot])
      · rfl

/-- A minus is the first character or is not there. -/
theorem minus_append {c : Char} (cs more : List Char) :
    Digits.minus (c :: cs ++ more) =
      ((Digits.minus (c :: cs)).1, (Digits.minus (c :: cs)).2 ++ more) := by
  by_cases minus : c = '-'
  · rw [minus]
    rfl
  · rw [List.cons_append, minus_of_ne minus, minus_of_ne minus, List.cons_append]

/-- So is a sign. -/
theorem sign_append {c : Char} (cs more : List Char) :
    Digits.sign (c :: cs ++ more) =
      ((Digits.sign (c :: cs)).1, (Digits.sign (c :: cs)).2 ++ more) := by
  have signs : ∀ tail, c ≠ '+' → Digits.sign (c :: tail) = Digits.minus (c :: tail) := by
    intro tail h
    unfold Digits.sign
    split
    · next e => exact absurd (List.cons.inj e).1 h
    · rfl
  by_cases plus : c = '+'
  · rw [plus]
    rfl
  · rw [List.cons_append, signs _ plus, signs _ plus, ← List.cons_append, minus_append]

/-- An exponent that ends in front of something ends there, and so does one that is not there. -/
theorem steadfast_scanExponent? : Steadfast Numeral.scanExponent? := by
  intro cs rest ds h left more
  cases cs with
  | nil =>
    cases h
    exact absurd rfl left
  | cons c tail =>
    rw [Numeral.scanExponent?] at h
    rw [List.cons_append, Numeral.scanExponent?]
    by_cases mark : c = 'e' ∨ c = 'E'
    · rw [if_pos mark] at h ⊢
      cases tail with
      | nil => cases h
      | cons d tail =>
        rw [sign_append]
        cases found : Digits.span (Digits.sign (d :: tail)).2 with
        | mk digits after =>
          rw [found] at h
          cases digits with
          | nil => cases h
          | cons e digits =>
            cases h
            dsimp only
            rw [span_append found left]
    · rw [if_neg mark] at h ⊢
      cases h
      rfl

/-- A number that does not end with the text ends there. -/
theorem steadfast_scan? : Steadfast Numeral.scan? := by
  intro cs rest n h left more
  obtain ⟨⟨whole, after⟩, first, h⟩ := Option.bind_eq_some_iff.1 h
  obtain ⟨⟨fraction, after'⟩, second, h⟩ := Option.bind_eq_some_iff.1 h
  obtain ⟨⟨exponent, after''⟩, third, h⟩ := Option.bind_eq_some_iff.1 h
  cases h
  -- what is left at the end was left all along
  have left' : after' ≠ [] := by
    rintro rfl
    cases third
    exact left rfl
  have left'' : after ≠ [] := by
    rintro rfl
    cases second
    exact left' rfl
  cases cs with
  | nil => cases first
  | cons c tail =>
    rw [Numeral.scan?, minus_append]
    simp only [steadfast_scanWhole? first left'' more, steadfast_scanFraction? second left' more,
      steadfast_scanExponent? third left more, Option.bind_eq_bind, Option.bind_some]

/-- A number begins with a digit or with a minus. -/
theorem head_of_scan? {cs rest : List Char} {n : Numeral} (h : Numeral.scan? cs = some (n, rest)) :
    ∃ c tail, cs = c :: tail ∧ (c = '-' ∨ c.isDigit = true) := by
  obtain ⟨⟨whole, after⟩, first, -⟩ := Option.bind_eq_some_iff.1 h
  cases cs with
  | nil => cases first
  | cons c tail =>
    refine ⟨c, tail, rfl, ?_⟩
    by_cases minus : c = '-'
    · exact .inl minus
    · right
      rw [minus_of_ne minus, Numeral.scanWhole?, Digits.span] at first
      cases value : Digits.value? c with
      | none =>
        rw [value] at first
        cases first
      | some d => exact (isDigit_of_value? value).1

/-! ## Series -/

/-- A series ends at its closing bracket, and so do its items before. -/
theorem series?_append {item : List Char → Option (α × List Char)} (steadfast : Steadfast item)
    {closing : Char} {fuel fuel' : Nat} {cs rest : List Char} {as : List α}
    (h : series? item closing fuel cs = some (as, rest)) (enough : fuel ≤ fuel')
    (more : List Char) : series? item closing fuel' (cs ++ more) = some (as, rest ++ more) := by
  -- on the fuel, which bounds the items that are left
  induction fuel generalizing fuel' cs as with
  | zero => cases h
  | succ fuel ih =>
    obtain ⟨fuel', rfl⟩ := Nat.exists_eq_add_of_lt enough
    rw [series?] at h ⊢
    obtain ⟨⟨a, after⟩, read, h⟩ := Option.bind_eq_some_iff.1 h
    dsimp only at h
    cases gap : skipGap after with
    | nil =>
      rw [gap] at h
      cases h
    | cons c tail =>
      have left : after ≠ [] := by
        rintro rfl
        cases gap
      rw [gap] at h
      rw [steadfast read left more]
      simp only [Option.bind_eq_bind, Option.bind_some, skipGap_append gap]
      -- a comma calls for another item, and the bracket ends the series
      by_cases comma : c = ','
      · simp only [if_pos comma] at h ⊢
        obtain ⟨⟨others, after'⟩, later, h⟩ := Option.bind_eq_some_iff.1 h
        cases h
        rw [ih later (by omega)]
        rfl
      · simp only [if_neg comma] at h ⊢
        by_cases close : c = closing
        · rw [if_pos close] at h ⊢
          cases h
          rfl
        · rw [if_neg close] at h
          cases h

/-- Whatever is enclosed in brackets ends at the closing one, also at the end of the text. -/
theorem enclosed?_append {item : List Char → Option (α × List Char)} (steadfast : Steadfast item)
    {closing : Char} {cs rest : List Char} {as : List α}
    (h : enclosed? item closing cs = some (as, rest)) (more : List Char) :
    enclosed? item closing (cs ++ more) = some (as, rest ++ more) := by
  rw [enclosed?] at h ⊢
  cases gap : skipGap cs with
  | nil =>
    rw [gap] at h
    cases h
  | cons c tail =>
    rw [gap] at h
    rw [skipGap_append gap]
    dsimp only at h ⊢
    by_cases close : c = closing
    · rw [if_pos close] at h ⊢
      cases h
      rfl
    · rw [if_neg close] at h ⊢
      exact series?_append steadfast h (by rw [List.length_append]; omega) more

/-- A member is as steadfast as its value. -/
theorem steadfast_member {value : List Char → Option (Json × List Char)}
    (steadfast : Steadfast value) : Steadfast (member value) := by
  intro cs rest m h left more
  unfold member at h
  split at h
  · next tail quote =>
    obtain ⟨⟨name, after⟩, named, h⟩ := Option.bind_eq_some_iff.1 h
    dsimp only at h
    split at h
    · next tail' colon =>
      obtain ⟨⟨v, after'⟩, read, h⟩ := Option.bind_eq_some_iff.1 h
      cases h
      simp only [member, skipGap_append quote, string?_append named, skipGap_append colon,
        steadfast read left more, Option.bind_eq_bind, Option.bind_some]
    · cases h
  · cases h

/-! ## Values -/

/-- What begins like a number is read as one. -/
theorem value?_of_head {depth : Nat} {cs tail : List Char} {c : Char}
    (start : skipGap cs = c :: tail) (head : c = '-' ∨ c.isDigit = true) :
    value? depth cs = (Numeral.scan? (c :: tail)).bind fun r => r.1.value?.bind fun v =>
      some (v, r.2) := by
  unfold value?
  rw [start]
  split
  case h_7 => rfl
  all_goals
    next e =>
      obtain ⟨rfl, -⟩ := List.cons.inj e
      rcases head with eq | digit
      · exact absurd eq (by decide)
      · exact absurd digit (by decide)

/-- An object is read up to its closing bracket, whatever follows. -/
theorem value?_brace_append {depth : Nat} {cs tail rest : List Char} {v : Json}
    (start : skipGap cs = '\x7b' :: tail) (steadfast : ∀ d < depth, Steadfast (value? d))
    (h : value? depth cs = some (v, rest)) (more : List Char) :
    value? depth (cs ++ more) = some (v, rest ++ more) := by
  cases depth with
  | zero =>
    unfold value? at h
    rw [start] at h
    cases h
  | succ depth =>
    unfold value? at h ⊢
    rw [start] at h
    rw [skipGap_append start]
    obtain ⟨⟨members, after⟩, read, eq⟩ := Option.map_eq_some_iff.1 h
    cases eq
    simp only [enclosed?_append (steadfast_member (steadfast depth (Nat.lt_succ_self depth))) read,
      Option.map_some]

/-- No reader of values is misled by what follows, at any depth. -/
theorem steadfast_value? (depth : Nat) : Steadfast (value? depth) := by
  -- on the depth that is left: items and members are values of less depth
  induction depth using Nat.strongRecOn with
  | ind depth ih =>
    intro cs rest v h left more
    have read := h
    unfold value? at h
    -- by the first character behind the gap: three words, a string, an array, an object, a number
    split at h
    · next start =>
      cases h
      unfold value?
      rw [skipGap_append start]
      rfl
    · next start =>
      cases h
      unfold value?
      rw [skipGap_append start]
      rfl
    · next start =>
      cases h
      unfold value?
      rw [skipGap_append start]
      rfl
    · next tail start =>
      obtain ⟨⟨s, after⟩, string, eq⟩ := Option.map_eq_some_iff.1 h
      cases eq
      unfold value?
      rw [skipGap_append start]
      simp only [string?_append string, Option.map_some]
    · next tail start =>
      cases depth with
      | zero => cases h
      | succ depth =>
        obtain ⟨⟨items, after⟩, inside, eq⟩ := Option.map_eq_some_iff.1 h
        cases eq
        unfold value?
        rw [skipGap_append start]
        simp only [enclosed?_append (ih depth (Nat.lt_succ_self depth)) inside, Option.map_some]
    · next tail brace => exact value?_brace_append brace ih read more
    · obtain ⟨⟨n, after⟩, scan, h⟩ := Option.bind_eq_some_iff.1 h
      obtain ⟨v', number, eq⟩ := Option.bind_eq_some_iff.1 h
      cases eq
      obtain ⟨c, tail, start, head⟩ := head_of_scan? scan
      rw [value?_of_head (skipGap_append start more) head, ← List.cons_append, ← start,
        steadfast_scan? scan left more]
      simp only [Option.bind_some, number]

/-! ## Printed objects -/

/-- What begins a printed object and can be read is all of it. -/
theorem eq_nil_of_parse?_prefix {members : List (String × Json)} {t : String} {v : Json}
    {more : List Char} (legible : Legible maxDepth (.object members)) (read : parse? t = some v)
    (cut : (Json.object members).pretty.toList = t.toList ++ more) : more = [] := by
  rw [parse?] at read
  cases found : value? maxDepth t.toList with
  | none =>
    rw [found] at read
    cases read
  | some r =>
    obtain ⟨w, rest⟩ := r
    have text : (Json.object members).pretty.toList = prettyChars 0 (.object members) := by
      rw [pretty, String.toList_ofList]
    have whole := reads_pretty legible 0 [] stops_nil
    rw [List.append_nil, ← text, cut] at whole
    cases front : t.toList with
    | nil =>
      rw [front] at found
      cases found
    | cons c tail =>
      -- what can be read begins with the bracket that the whole begins with
      have brace : c = '\x7b' := by
        rw [text, prettyChars, block_eq_cons, front] at cut
        exact (List.cons.inj cut).1.symm
      have start : skipGap t.toList = '\x7b' :: tail := by
        rw [front, brace]
        exact skipGap_of_not_gap (by decide) tail
      rw [value?_brace_append start (fun d _ => steadfast_value? d) found more,
        Option.some.injEq] at whole
      exact (List.append_eq_nil_iff.1 (Prod.mk.inj whole).2).2

end Lockbox.Json
