import Lockbox.Text.Quoted

/-!
# Quoted texts tell texts apart

Each character is written in one of three forms (`quoteChar_cases`): as it is, as a short escape, or
by its number in braces. None of them begins another, so that a quoted text is read back in one way:

    quoted_injective : quoted s = quoted t → s = t
-/

namespace Lockbox.Text

/-! ## Numbers in braces -/

theorem digitChar_injective {m n : Nat} (hm : m < 16) (hn : n < 16)
    (h : m.digitChar = n.digitChar) : m = n := by
  have all : ∀ m n : Fin 16, Nat.digitChar m = Nat.digitChar n → m = n := by decide
  exact Fin.mk.inj_iff.1 (all ⟨m, hm⟩ ⟨n, hn⟩ h)

/-- The last digit of a number and those before it, if there are any. -/
theorem toDigits_cases (n : Nat) :
    (n < 16 ∧ Nat.toDigits 16 n = [n.digitChar]) ∨
      n / 16 < n ∧ Nat.toDigits 16 n = Nat.toDigits 16 (n / 16) ++ [(n % 16).digitChar] := by
  by_cases small : n < 16
  · exact .inl ⟨small, Nat.toDigits_of_lt_base small⟩
  · exact .inr ⟨by omega, Nat.toDigits_of_base_le (by decide) (by omega)⟩

/-- No digit is a brace, so that a brace ends the digits in front of it. -/
theorem brace_not_mem_toDigits (n : Nat) : '\x7d' ∉ Nat.toDigits 16 n := by
  induction n using Nat.strongRecOn with
  | ind n ih =>
    have digit : ∀ d < 16, '\x7d' ≠ Nat.digitChar d := by decide
    rcases toDigits_cases n with ⟨small, digits⟩ | ⟨less, digits⟩
    · rw [digits, List.mem_singleton]
      exact digit n small
    · rw [digits, List.mem_append, List.mem_singleton]
      rintro (front | last)
      · exact ih _ less front
      · exact digit _ (Nat.mod_lt n (by decide)) last

theorem toDigits_injective {m n : Nat} (h : Nat.toDigits 16 m = Nat.toDigits 16 n) : m = n := by
  induction m using Nat.strongRecOn generalizing n with
  | ind m ih =>
    rcases toDigits_cases m with ⟨small, left⟩ | ⟨less, left⟩ <;>
      rcases toDigits_cases n with ⟨small', right⟩ | ⟨less', right⟩ <;> rw [left, right] at h
    · exact digitChar_injective small small' (List.cons.inj h).1
    · -- a number of one digit has no digits before it
      rw [← List.nil_append [m.digitChar]] at h
      obtain ⟨nothing, -⟩ := List.append_inj' h rfl
      exact absurd nothing.symm Nat.toDigits_ne_nil
    · rw [← List.nil_append [n.digitChar]] at h
      obtain ⟨nothing, -⟩ := List.append_inj' h rfl
      exact absurd nothing Nat.toDigits_ne_nil
    · obtain ⟨front, last⟩ := List.append_inj' h rfl
      have high := ih _ less front
      have low := digitChar_injective (Nat.mod_lt m (by decide)) (Nat.mod_lt n (by decide))
        (List.cons.inj last).1
      omega

/-! ## Characters -/

/-- The characters with a short escape, and its letter. -/
def shortEscapes : List (Char × Char) :=
  [('\x22', '\x22'), ('\\', '\\'), ('\n', 'n'), ('\r', 'r'), ('\t', 't'), ('\x00', '0')]

/-- A character stands for itself, has a short escape or is written by its number. -/
theorem quoteChar_cases (c : Char) :
    (c ≠ '\\' ∧ c ≠ '\x22' ∧ quoteChar '\x22' c = [c]) ∨
      (∃ e, (c, e) ∈ shortEscapes ∧ quoteChar '\x22' c = ['\\', e]) ∨
      quoteChar '\x22' c = numbered c := by
  unfold quoteChar
  split
  · next mark => exact .inr (.inl ⟨c, by rw [mark]; decide, rfl⟩)
  · next ne =>
    split
    · exact .inr (.inl ⟨_, by decide, rfl⟩)
    · exact .inr (.inl ⟨_, by decide, rfl⟩)
    · exact .inr (.inl ⟨_, by decide, rfl⟩)
    · exact .inr (.inl ⟨_, by decide, rfl⟩)
    · exact .inr (.inl ⟨_, by decide, rfl⟩)
    · next backslash _ _ _ _ =>
      rw [quotePlain]
      split
      · exact .inl ⟨backslash, ne, rfl⟩
      · split
        · exact .inr (.inr rfl)
        · exact .inl ⟨backslash, ne, rfl⟩

/-- The quote that ends a text is no character of it. -/
theorem quoteChar_ne_mark (c : Char) : ∃ d cs, quoteChar '\x22' c = d :: cs ∧ d ≠ '\x22' := by
  rcases quoteChar_cases c with ⟨-, ne, form⟩ | ⟨e, -, form⟩ | form
  · exact ⟨c, [], form, ne⟩
  · exact ⟨'\\', [e], form, by decide⟩
  · exact ⟨'\\', _, form, by decide⟩

/-- The form of a character tells the character and where the form ends. -/
theorem quoteChar_append_inj {c d : Char} {xs ys : List Char}
    (h : quoteChar '\x22' c ++ xs = quoteChar '\x22' d ++ ys) : c = d ∧ xs = ys := by
  have single : ∀ p ∈ shortEscapes, ∀ q ∈ shortEscapes, p.2 = q.2 → p.1 = q.1 := by decide
  have letter : ∀ p ∈ shortEscapes, p.2 ≠ 'u' := by decide
  rcases quoteChar_cases c with ⟨solid, -, left⟩ | ⟨e, short, left⟩ | left <;>
    rcases quoteChar_cases d with ⟨solid', -, right⟩ | ⟨f, short', right⟩ | right <;>
    rw [left, right] at h
  · exact ⟨(List.cons.inj h).1, (List.cons.inj h).2⟩
  · exact absurd (List.cons.inj h).1 solid
  · exact absurd (List.cons.inj h).1 solid
  · exact absurd (List.cons.inj h).1.symm solid'
  · obtain ⟨-, rest⟩ := List.cons.inj h
    obtain ⟨eq, rest⟩ := List.cons.inj rest
    exact ⟨single _ short _ short' eq, rest⟩
  · obtain ⟨-, rest⟩ := List.cons.inj h
    exact absurd (List.cons.inj rest).1 (letter _ short)
  · exact absurd (List.cons.inj h).1.symm solid'
  · obtain ⟨-, rest⟩ := List.cons.inj h
    exact absurd (List.cons.inj rest).1.symm (letter _ short')
  · have digits : Nat.toDigits 16 c.toNat ++ '\x7d' :: xs =
        Nat.toDigits 16 d.toNat ++ '\x7d' :: ys := by
      simpa [numbered] using h
    -- both numbers end at the first brace
    have size : (Nat.toDigits 16 c.toNat).length = (Nat.toDigits 16 d.toNat).length := by
      have brace := congrArg (List.idxOf '\x7d') digits
      simpa [List.idxOf_append, brace_not_mem_toDigits] using brace
    obtain ⟨number, rest⟩ := List.append_inj digits size
    exact ⟨Char.toNat_inj.1 (toDigits_injective number), (List.cons.inj rest).2⟩

/-! ## Texts -/

/-- Two texts are shown alike only if they are the same. -/
theorem quoted_injective {s t : String} (h : quoted s = quoted t) : s = t := by
  have inner : ∀ cs ds : List Char, cs.flatMap (quoteChar '\x22') ++ ['\x22'] =
      ds.flatMap (quoteChar '\x22') ++ ['\x22'] → cs = ds := by
    intro cs
    induction cs with
    | nil =>
      intro ds eq
      cases ds with
      | nil => rfl
      | cons d rest =>
        obtain ⟨e, more, form, ne⟩ := quoteChar_ne_mark d
        rw [List.flatMap_cons, form] at eq
        exact absurd (List.cons.inj eq).1.symm ne
    | cons c rest ih =>
      intro ds eq
      cases ds with
      | nil =>
        obtain ⟨e, more, form, ne⟩ := quoteChar_ne_mark c
        rw [List.flatMap_cons, form] at eq
        exact absurd (List.cons.inj eq).1 ne
      | cons d others =>
        rw [List.flatMap_cons, List.flatMap_cons, List.append_assoc, List.append_assoc] at eq
        obtain ⟨rfl, later⟩ := quoteChar_append_inj eq
        rw [ih others later]
  rw [quoted, quoted, String.ofList_inj] at h
  exact String.toList_inj.1 (inner _ _ (List.cons.inj h).2)

end Lockbox.Text
