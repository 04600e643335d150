import Lockbox.Text.Case

/-!
# Lower case stays as it is

Every character of a text in lower case is its own lower-case form, and so lower-casing a text again
changes nothing:

    lowerCase_lowerCase : lowerCase (lowerCase s) = lowerCase s

Sigmas do no harm to this, since no capital one is left to decide about. That no run of the table
leads into another is checked run against run, by their ends and their parity (`isApart`).
-/

namespace Lockbox.Text

/-! ## Runs -/

namespace CaseRun

/-- A code point whose lower-case form a run gives. -/
def Covers (r : CaseRun) (n : Nat) : Prop :=
  r.first ≤ n ∧ n ≤ r.last ∧ (n - r.first) % r.step = 0

def image (r : CaseRun) (n : Nat) : Nat := ((n : Int) + r.offset).toNat

/-- Whether one run leads to no code point of another, going by ends and parity. -/
def isApart (r s : CaseRun) : Bool :=
  (r.image r.last).blt s.first || s.last.blt (r.image r.first) ||
    (s.step == 2 && (r.first == r.last || r.step == 2) && r.image r.first % 2 != s.first % 2)

/-- The dotted capital I, which no run covers, as a run. -/
def dotted : CaseRun := ⟨0x130, 0x130, 1, 0⟩

/-- Whether a run leads to characters that have no other lower-case form. -/
def isSettled (r : CaseRun) : Bool :=
  decide (0 ≤ (r.first : Int) + r.offset) &&
    (r.image r.last < 0xd800 || (0xdfff < r.image r.first && r.image r.last < 0x110000)) &&
    r.isApart dotted && lowerRuns.all r.isApart

/-- This is where the table is looked at, and it is looked at as a whole. -/
theorem isSettled_of_mem : ∀ r ∈ lowerRuns, r.isSettled = true := by
  decide +kernel

/-- A run ends before another one starts, or starts behind its end, or both go by twos and miss each
other. -/
theorem not_covers_of_isApart {r s : CaseRun} {n : Nat} (nonneg : 0 ≤ (r.first : Int) + r.offset)
    (apart : r.isApart s = true) (covers : r.Covers n) : ¬s.Covers (r.image n) := by
  obtain ⟨low, high, step⟩ := covers
  rintro ⟨low', high', step'⟩
  simp only [isApart, Bool.or_eq_true, Bool.and_eq_true, Nat.blt_eq, beq_iff_eq,
    bne_iff_ne] at apart
  simp only [image] at apart low' high' step'
  rcases apart with (below | above) | ⟨⟨double, single | double'⟩, parity⟩
  · omega
  · omega
  · rw [double] at step'
    omega
  · rw [double] at step'
    rw [double'] at step
    omega

/-- What a run leads to is a code point, and neither the dotted capital I nor one of any run. -/
theorem image_of_covers {r : CaseRun} (hr : r ∈ lowerRuns) {n : Nat} (covers : r.Covers n) :
    (r.image n).isValidChar ∧ r.image n ≠ 0x130 ∧ ∀ s ∈ lowerRuns, ¬s.Covers (r.image n) := by
  have settled := isSettled_of_mem r hr
  simp only [isSettled, Bool.and_eq_true, decide_eq_true_eq, List.all_eq_true] at settled
  obtain ⟨⟨⟨nonneg, valid⟩, undotted⟩, apart⟩ := settled
  -- a code point, not the dotted capital I, and of no run
  refine ⟨?_, ?_, ?_⟩
  · obtain ⟨low, high, -⟩ := covers
    simp only [Bool.or_eq_true, Bool.and_eq_true, decide_eq_true_eq] at valid
    simp only [image] at valid
    simp only [image, Nat.isValidChar]
    omega
  · intro eq
    apply not_covers_of_isApart nonneg undotted covers
    rw [eq]
    exact ⟨Nat.le_refl _, Nat.le_refl _, rfl⟩
  · intro s hs
    exact not_covers_of_isApart nonneg (apart s hs) covers

end CaseRun

/-! ## Characters -/

def IsLow (c : Char) : Prop := lowerChar c = [c]

instance (c : Char) : Decidable (IsLow c) := inferInstanceAs (Decidable (lowerChar c = [c]))

/-- Only the capital letters among ASCII are folded. -/
theorem toLower_eq_self {c : Char} (h : c.toNat < 0x41 ∨ 0x5a < c.toNat) : c.toLower = c := by
  apply dif_neg
  rintro ⟨low, high⟩
  have above : 0x41 ≤ c.toNat := UInt32.le_iff_toNat_le.1 low
  have below : c.toNat ≤ 0x5a := UInt32.le_iff_toNat_le.1 high
  omega

theorem isLow_toLower_of_ascii {c : Char} (h : c.toNat < 0x80) : IsLow c.toLower := by
  have all : ∀ n : Fin 128, IsLow (Char.ofNat n).toLower := by decide +kernel
  have low := all ⟨c.toNat, h⟩
  rwa [Char.ofNat_toNat] at low

def run? (c : Char) : Option CaseRun :=
  lowerRuns.find? fun r => r.first ≤ c.toNat && c.toNat ≤ r.last &&
    (c.toNat - r.first) % r.step == 0

/-- Outside ASCII a character goes where its run leads, and to itself if there is none. -/
theorem lowerChar_of_run? {c : Char} (ascii : ¬c.toNat < 0x80) (dotted : c ≠ 'İ') :
    lowerChar c = match run? c with
      | some r => [Char.ofNat (r.image c.toNat)]
      | none => [c] := by
  rw [lowerChar, if_neg ascii, if_neg dotted]
  rfl

/-- The run that is found is one of the table and has the character. -/
theorem covers_of_run?_eq_some {c : Char} {r : CaseRun} (h : run? c = some r) :
    r ∈ lowerRuns ∧ r.Covers c.toNat := by
  refine ⟨List.mem_of_find?_eq_some h, ?_⟩
  have found := List.find?_some h
  simp only [Bool.and_eq_true, decide_eq_true_eq, beq_iff_eq] at found
  exact ⟨found.1.1, found.1.2, found.2⟩

theorem run?_eq_none {c : Char} (h : ∀ r ∈ lowerRuns, ¬r.Covers c.toNat) : run? c = none := by
  rw [run?, List.find?_eq_none]
  intro r hr
  simp only [Bool.and_eq_true, decide_eq_true_eq, beq_iff_eq]
  rintro ⟨⟨low, high⟩, step⟩
  exact h r hr ⟨low, high, step⟩

/-- A character that no run covers is in lower case. -/
theorem isLow_of_not_covers {c : Char} (dotted : c.toNat ≠ 0x130)
    (h : ∀ r ∈ lowerRuns, ¬r.Covers c.toNat) : IsLow c := by
  by_cases ascii : c.toNat < 0x80
  -- the first run of the table is that of the capital letters
  · have capitals : ¬(0x41 ≤ c.toNat ∧ c.toNat ≤ 0x5a) := by
      rintro ⟨low, high⟩
      exact h ⟨0x41, 0x5a, 1, 32⟩ (.head _) ⟨low, high, Nat.mod_one _⟩
    have eq : c.toLower = c := toLower_eq_self (by omega)
    rw [IsLow, lowerChar, if_pos ascii, eq]
  · have undotted : c ≠ 'İ' := by
      rintro rfl
      exact dotted rfl
    rw [IsLow, lowerChar_of_run? ascii undotted, run?_eq_none h]

/-- The lower-case form of a character is in lower case. -/
theorem isLow_of_mem_lowerChar {c d : Char} (h : d ∈ lowerChar c) : IsLow d := by
  -- the letters of ASCII, then the one character that has two, then the table
  by_cases ascii : c.toNat < 0x80
  · rw [lowerChar, if_pos ascii, List.mem_singleton] at h
    rw [h]
    exact isLow_toLower_of_ascii ascii
  · by_cases dotted : c = 'İ'
    · rw [lowerChar, if_neg ascii, if_pos dotted] at h
      have both : IsLow 'i' ∧ IsLow '\u0307' := by decide
      rw [List.mem_cons, List.mem_singleton] at h
      rcases h with rfl | rfl
      · exact both.1
      · exact both.2
    · rw [lowerChar_of_run? ascii dotted] at h
      cases found : run? c with
      | none =>
        rw [found, List.mem_singleton] at h
        rw [h, IsLow, lowerChar_of_run? ascii dotted, found]
      | some r =>
        rw [found, List.mem_singleton] at h
        obtain ⟨hr, covers⟩ := covers_of_run?_eq_some found
        obtain ⟨valid, undotted, apart⟩ := CaseRun.image_of_covers hr covers
        have number : d.toNat = r.image c.toNat := by
          rw [h, Char.ofNat, dif_pos valid]
          rfl
        rw [← number] at undotted apart
        exact isLow_of_not_covers undotted apart

/-! ## Texts -/

theorem isLow_of_all {s : String} (h : s.toList.all (fun c => lowerChar c == [c]) = true) :
    ∀ c ∈ s.toList, IsLow c := by
  intro c hc
  exact beq_iff_eq.1 (List.all_eq_true.1 h c hc)

/-- Nothing but characters in lower case is written, whatever stood before. -/
theorem isLow_of_mem_lowerAfter {before cs : List Char} {d : Char}
    (h : d ∈ lowerAfter before cs) : IsLow d := by
  -- on the characters to come; those before only decide about a sigma
  induction cs generalizing before with
  | nil => cases h
  | cons c rest ih =>
    rw [lowerAfter, List.mem_append] at h
    rcases h with first | later
    · split at first
      -- a capital sigma becomes one of two small ones
      · have all : IsLow 'ς' ∧ IsLow 'σ' := by decide
        split at first
        · rw [List.mem_singleton.1 first]
          exact all.1
        · rw [List.mem_singleton.1 first]
          exact all.2
      · exact isLow_of_mem_lowerChar first
    · exact ih later

/-- Characters in lower case are written as they are. -/
theorem lowerAfter_of_isLow {before cs : List Char} (h : ∀ c ∈ cs, IsLow c) :
    lowerAfter before cs = cs := by
  induction cs generalizing before with
  | nil => rfl
  | cons c rest ih =>
    have low : lowerChar c = [c] := h c List.mem_cons_self
    have plain : c ≠ 'Σ' := by
      rintro rfl
      exact absurd low (by decide)
    rw [lowerAfter, if_neg plain, low, ih fun d hd => h d (List.mem_cons_of_mem c hd)]
    rfl

/-- A text that was lower-cased is in lower case throughout. -/
theorem isLow_of_mem_lowerCase {s : String} {c : Char} (h : c ∈ (lowerCase s).toList) :
    IsLow c := by
  rw [lowerCase, String.toList_ofList] at h
  exact isLow_of_mem_lowerAfter h

/-- A text in lower case is left as it is. -/
theorem lowerCase_eq_self {s : String} (h : ∀ c ∈ s.toList, IsLow c) : lowerCase s = s := by
  rw [lowerCase, lowerAfter_of_isLow h, String.ofList_toList]

theorem mem_lowerAfter_of_isLow {before cs : List Char} {c : Char} (low : IsLow c) (h : c ∈ cs) :
    c ∈ lowerAfter before cs := by
  induction cs generalizing before with
  | nil => cases h
  | cons d rest ih =>
    rw [lowerAfter, List.mem_append]
    rcases List.mem_cons.1 h with rfl | later
    · have plain : c ≠ 'Σ' := by
        rintro rfl
        exact absurd low (by decide)
      rw [if_neg plain, low]
      exact .inl List.mem_cons_self
    · exact .inr (ih later)

/-- A character in lower case stays in a text. -/
theorem mem_lowerCase_of_isLow {s : String} {c : Char} (low : IsLow c) (h : c ∈ s.toList) :
    c ∈ (lowerCase s).toList := by
  rw [lowerCase, String.toList_ofList]
  exact mem_lowerAfter_of_isLow low h

/-- Lower-casing a text again changes nothing. -/
theorem lowerCase_lowerCase (s : String) : lowerCase (lowerCase s) = lowerCase s :=
  lowerCase_eq_self fun _ hc => isLow_of_mem_lowerCase hc

/-- Folding the ASCII letters changes nothing either. -/
theorem toLower_of_isLow {c : Char} (h : IsLow c) : c.toLower = c := by
  by_cases ascii : c.toNat < 0x80
  · rw [IsLow, lowerChar, if_pos ascii] at h
    exact List.singleton_inj.1 h
  · exact toLower_eq_self (by omega)

theorem lowerAscii_eq_self {s : String} (h : ∀ c ∈ s.toList, IsLow c) : lowerAscii s = s := by
  rw [lowerAscii, List.map_congr_left fun c hc => toLower_of_isLow (h c hc), List.map_id',
    String.ofList_toList]

end Lockbox.Text
