import Lockbox.Proofs.Text.Base64
import Lockbox.Store.Generation

/-!
# What a key value tells

A key value is 54 digits and two `=`, one digit for each six bits of the forty bytes that are drawn
for it (`valueOf_eq`). The digit `+` is replaced by one that stands for another number already, so
that the value tells all six bits of a group unless they make 26 or 62, and then that they make one
of these (`merged`):

    values_tell_groups : … ∧
      (valueOf bytes = valueOf bytes' ↔
        ∀ i < 54, merged (Base64.group bytes i) = merged (Base64.group bytes' i))
-/

namespace Lockbox.Generation

variable {bytes bytes' : List UInt8} {m n : Nat}

/-! ## Digits -/

/-- The characters of a key value, but for what fills it up. -/
def IsSafe (c : Char) : Prop :=
  'A' ≤ c ∧ c ≤ 'Z' ∨ 'a' ≤ c ∧ c ≤ 'z' ∨ '0' ≤ c ∧ c ≤ '9' ∨ c = '/'

instance (c : Char) : Decidable (IsSafe c) := inferInstanceAs (Decidable (_ ∨ _))

/-- The number of `+` is taken for that of `a`. -/
def merged (n : Nat) : Nat := if n = 62 then 26 else n

theorem merged_lt (h : n < 64) : merged n < 64 := by
  rw [merged]
  split <;> omega

/-- The digit that is written for a number is the one of the number that it is taken for. -/
theorem safeDigit_digit (h : n < 64) :
    safeDigit (Base64.digit n) = Base64.digit (merged n) := by
  have all : ∀ n : Fin 64, safeDigit (Base64.digit n) = Base64.digit (merged n) := by
    decide +kernel
  exact all ⟨n, h⟩

theorem isSafe_safeDigit (h : n < 64) : IsSafe (safeDigit (Base64.digit n)) := by
  have all : ∀ n : Fin 64, IsSafe (safeDigit (Base64.digit n)) := by decide +kernel
  exact all ⟨n, h⟩

theorem safeDigit_inj (hm : m < 64) (hn : n < 64) :
    safeDigit (Base64.digit m) = safeDigit (Base64.digit n) ↔ merged m = merged n := by
  rw [safeDigit_digit hm, safeDigit_digit hn, Base64.digit_inj (merged_lt hm) (merged_lt hn)]

theorem not_isSafe_plus : ¬IsSafe '+' := by decide

/-! ## Values -/

def digits (bytes : List UInt8) : List Char :=
  (List.range 54).map fun i => safeDigit (Base64.digit (Base64.group bytes i))

theorem group_lt_of_drawn (drawn : bytes.length = valueBytes) {i : Nat} (h : i < 54) :
    Base64.group bytes i < 64 := by
  apply Base64.group_lt
  rw [drawn]
  exact h

theorem isSafe_of_mem_digits (drawn : bytes.length = valueBytes) {c : Char}
    (h : c ∈ digits bytes) : IsSafe c := by
  obtain ⟨i, mem, rfl⟩ := List.mem_map.1 h
  exact isSafe_safeDigit (group_lt_of_drawn drawn (List.mem_range.1 mem))

/-- A key value is a digit for each group, filled up. -/
theorem valueOf_eq (drawn : bytes.length = valueBytes) :
    (valueOf bytes).toList = digits bytes ++ ['=', '='] := by
  rw [valueOf, String.toList_ofList, Base64.encodeChars, Base64.sextets_eq, Base64.padding, drawn,
    List.map_append, List.map_map, List.map_map]
  rfl

theorem valueOf_inj (drawn : bytes.length = valueBytes) (drawn' : bytes'.length = valueBytes) :
    valueOf bytes = valueOf bytes' ↔
      ∀ i < 54, merged (Base64.group bytes i) = merged (Base64.group bytes' i) := by
  rw [← String.toList_inj, valueOf_eq drawn, valueOf_eq drawn', List.append_cancel_right_eq, digits,
    digits, List.map_inj_left]
  constructor
  · intro agree i lt
    have one := agree i (List.mem_range.2 lt)
    exact (safeDigit_inj (group_lt_of_drawn drawn lt) (group_lt_of_drawn drawn' lt)).1 one
  · intro agree i mem
    have lt := List.mem_range.1 mem
    exact (safeDigit_inj (group_lt_of_drawn drawn lt) (group_lt_of_drawn drawn' lt)).2
      (agree i lt)

/-- The forty bytes that are drawn make a value of 54 safe digits and two `=`. Two draws make the
same value exactly if their groups of six bits agree one by one, 26 and 62 taken for the same; and
that the groups agree altogether is that the bytes are the same. -/
theorem values_tell_groups (drawn : bytes.length = 40) (drawn' : bytes'.length = 40) :
    (∀ {σ : Type} (w : World σ), w.entropy.peek 40 = bytes →
      value.run.run w = (.ok (valueOf bytes), { w with entropy := w.entropy.advance 40 })) ∧
    (∃ front, (valueOf bytes).toList = front ++ ['=', '='] ∧ front.length = 54 ∧
      ∀ c ∈ front, IsSafe c) ∧
    (valueOf bytes).length = 56 ∧ '+' ∉ (valueOf bytes).toList ∧
    (valueOf bytes = valueOf bytes' ↔
      ∀ i < 54, merged (Base64.group bytes i) = merged (Base64.group bytes' i)) ∧
    (bytes = bytes' ↔ ∀ i < 54, Base64.group bytes i = Base64.group bytes' i) := by
  have form := valueOf_eq drawn
  have size : (digits bytes).length = 54 := by rw [digits, List.length_map, List.length_range]
  refine ⟨?_, ⟨digits bytes, form, size, fun c => isSafe_of_mem_digits drawn⟩, ?_, ?_,
    valueOf_inj drawn drawn', ?_⟩
  · rintro σ w rfl
    rfl
  · rw [← String.length_toList, form, List.length_append, size]
    rfl
  · rw [form, List.mem_append, not_or]
    exact ⟨fun mem => not_isSafe_plus (isSafe_of_mem_digits drawn mem), by decide⟩
  · have eq := Base64.eq_iff_groups (drawn.trans drawn'.symm)
    rw [drawn] at eq
    exact eq

/-- A draw whose first group is 62, and no other group anything but zero. -/
def plusDraw : List UInt8 := 0xF8 :: List.replicate 39 0

/-- The same with 26. -/
def letterDraw : List UInt8 := 0x68 :: List.replicate 39 0

/-- Two draws that are merged. -/
theorem values_tell_groups_merged :
    (∃ w : World Unit, (value.run.run w).1 = .ok (valueOf plusDraw)) ∧
      valueOf plusDraw = valueOf letterDraw ∧
      ¬∀ i < 54, Base64.group plusDraw i = Base64.group letterDraw i := by
  have plus : plusDraw.length = 40 := by decide
  have letter : letterDraw.length = 40 := by decide
  obtain ⟨answers, -, -, -, values, draws⟩ := values_tell_groups plus letter
  refine ⟨?_, values.2 (by decide +kernel), (not_congr draws).1 (by decide)⟩
  have drawn := answers (⟨fun _ => none, .repeating plusDraw, .empty, [], ()⟩ : World Unit)
    (by decide)
  exact ⟨_, congrArg Prod.fst drawn⟩

end Lockbox.Generation
