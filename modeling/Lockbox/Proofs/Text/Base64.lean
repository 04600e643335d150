import Lockbox.Proofs.Cipher.Blob

/-!
# The numbers that Base64 writes

The numbers into which bytes are regrouped are their bits taken by six (`group`), as if zeros
followed the last byte:

    sextets_eq : sextets bytes = (List.range ((4 * bytes.length + 2) / 3)).map (group bytes)

They and the number of bytes determine the bytes, and digits determine their numbers.
-/

namespace Lockbox.Base64

variable {bytes bytes' : List UInt8} {m n : Nat}

/-! ## Bits -/

/-- A bit of the bytes, counted from the most significant one of the first byte. Zeros follow. -/
def bit (bytes : List UInt8) (k : Nat) : Nat :=
  (bytes.getD (k / 8) 0).toNat >>> (7 - k % 8) % 2

/-- The number that the six bits of a group make. -/
def group (bytes : List UInt8) (i : Nat) : Nat :=
  (List.range 6).foldl (fun n j => 2 * n + bit bytes (6 * i + j)) 0

/-- Behind the first byte the bits are those of the others. -/
theorem bit_cons (a : UInt8) (bytes : List UInt8) (k : Nat) :
    bit (a :: bytes) (k + 8) = bit bytes k := by
  rw [bit, Nat.add_div_right k (by decide), Nat.add_mod_right, List.getD_cons_succ]
  rfl

/-- Three bytes are four groups. -/
theorem group_cons (a b c : UInt8) (bytes : List UInt8) (i : Nat) :
    group (a :: b :: c :: bytes) (i + 4) = group bytes i := by
  have shifted : ∀ j, bit (a :: b :: c :: bytes) (6 * (i + 4) + j) = bit bytes (6 * i + j) := by
    intro j
    rw [show 6 * (i + 4) + j = 6 * i + j + 8 + 8 + 8 by omega, bit_cons, bit_cons, bit_cons]
  simp only [group, shifted]

/-! ## The first four groups -/

/-- The bits of the first four groups are those of the first three bytes. -/
theorem group_zero (bytes : List UInt8) : group bytes 0 = (bytes.getD 0 0).toNat / 4 := by
  have byte := (bytes.getD 0 0).toNat_lt
  simp [group, bit, List.range, List.range.loop] at byte ⊢
  omega

theorem group_one (bytes : List UInt8) :
    group bytes 1 = (bytes.getD 0 0).toNat % 4 * 16 + (bytes.getD 1 0).toNat / 16 := by
  have byte := (bytes.getD 1 0).toNat_lt
  simp [group, bit, List.range, List.range.loop] at byte ⊢
  omega

theorem group_two (bytes : List UInt8) :
    group bytes 2 = (bytes.getD 1 0).toNat % 16 * 4 + (bytes.getD 2 0).toNat / 64 := by
  have byte := (bytes.getD 2 0).toNat_lt
  simp [group, bit, List.range, List.range.loop] at byte ⊢
  omega

theorem group_three (bytes : List UInt8) : group bytes 3 = (bytes.getD 2 0).toNat % 64 := by
  simp [group, bit, List.range, List.range.loop]
  omega

/-! ## All groups -/

/-- Bytes are regrouped by six bits. -/
theorem sextets_eq (bytes : List UInt8) :
    sextets bytes = (List.range ((4 * bytes.length + 2) / 3)).map (group bytes) := by
  -- three bytes at a time, as bytes are regrouped; one or two may be left
  fun_induction sextets bytes with
  | case1 => rfl
  | case2 a => simp [List.range_succ, group_zero, group_one]
  | case3 a b => simp [List.range_succ, group_zero, group_one, group_two]
  | case4 a b c rest ih =>
    have count : (4 * (a :: b :: c :: rest).length + 2) / 3 =
        4 + (4 * rest.length + 2) / 3 := by
      simp only [List.length_cons]
      omega
    have behind : group (a :: b :: c :: rest) ∘ (4 + ·) = group rest := by
      funext i
      rw [Function.comp_apply, Nat.add_comm, group_cons]
    rw [count, List.range_add, List.map_append, List.map_map, behind, ← ih]
    simp [List.range_succ, group_zero, group_one, group_two, group_three]

/-- A group has six bits. -/
theorem group_lt {i : Nat} (h : i < (4 * bytes.length + 2) / 3) : group bytes i < 64 := by
  have mem : group bytes i ∈ sextets bytes := by
    rw [sextets_eq]
    exact List.mem_map_of_mem (List.mem_range.2 h)
  exact lt_of_mem_sextets mem

/-- As many bytes with the same groups are the same. -/
theorem eq_iff_groups (size : bytes.length = bytes'.length) :
    bytes = bytes' ↔ ∀ i < (4 * bytes.length + 2) / 3, group bytes i = group bytes' i := by
  constructor
  · rintro rfl i _
    rfl
  · intro agree
    have regrouped : sextets bytes = sextets bytes' := by
      rw [sextets_eq, sextets_eq, ← size]
      exact List.map_congr_left fun i mem => agree i (List.mem_range.1 mem)
    -- the groups make the text, from which the bytes can be decoded
    have written : encodeChars bytes = encodeChars bytes' := by
      rw [encodeChars, encodeChars, regrouped, size]
    exact Option.some.inj (by rw [← decodeChars_encodeChars, written, decodeChars_encodeChars])

/-- The digits of the alphabet differ. -/
theorem digit_inj (hm : m < 64) (hn : n < 64) : digit m = digit n ↔ m = n := by
  constructor
  · intro eq
    exact Option.some.inj (by rw [← value?_digit hm, eq, value?_digit hn])
  · rintro rfl
    rfl

end Lockbox.Base64
