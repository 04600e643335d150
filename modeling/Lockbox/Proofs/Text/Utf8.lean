import Lockbox.Text.Utf8

/-!
# Bytes of texts

The bytes of a text are those of its characters in order. A byte below 0x80 is a character by
itself, and is part of no other.
-/

namespace Lockbox.Utf8

theorem encode_eq_flatMap (s : String) : encode s = s.toList.flatMap String.utf8EncodeChar := by
  show s.toByteArray.data.toList = _
  rw [← String.utf8Encode_toList, List.utf8Encode]
  simp

theorem encode_append (s t : String) : encode (s ++ t) = encode s ++ encode t := by
  rw [encode_eq_flatMap, String.toList_append, List.flatMap_append, ← encode_eq_flatMap,
    ← encode_eq_flatMap]

theorem encode_injective {s t : String} (h : encode s = encode t) : s = t := by
  have eq := decode_encode s
  rw [h, decode_encode] at eq
  exact (Option.some.inj eq).symm

theorem toNat_of_mem_utf8EncodeChar {c : Char} {b : UInt8} (h : b ∈ String.utf8EncodeChar c)
    (ascii : b.toNat < 0x80) : c.toNat = b.toNat := by
  have number : c.val.toNat = c.toNat := rfl
  unfold String.utf8EncodeChar at h
  rw [number] at h
  dsimp only at h
  split at h
  · rw [List.mem_singleton] at h
    rw [h, UInt8.toNat_ofNat']
    omega
  · -- every byte of a longer form is at least 0x80
    exfalso
    split at h
    · simp only [List.mem_cons, List.not_mem_nil, or_false] at h
      rcases h with rfl | rfl <;> rw [UInt8.toNat_ofNat'] at ascii <;> omega
    · split at h
      · simp only [List.mem_cons, List.not_mem_nil, or_false] at h
        rcases h with rfl | rfl | rfl <;> rw [UInt8.toNat_ofNat'] at ascii <;> omega
      · simp only [List.mem_cons, List.not_mem_nil, or_false] at h
        rcases h with rfl | rfl | rfl | rfl <;> rw [UInt8.toNat_ofNat'] at ascii <;> omega

/-- A byte below 0x80 stands for a character of the text. -/
theorem exists_of_mem_encode {s : String} {b : UInt8} (h : b ∈ encode s) (ascii : b.toNat < 0x80) :
    ∃ c ∈ s.toList, c.toNat = b.toNat := by
  rw [encode_eq_flatMap, List.mem_flatMap] at h
  obtain ⟨c, hc, hb⟩ := h
  exact ⟨c, hc, toNat_of_mem_utf8EncodeChar hb ascii⟩

/-- A character below 0x80 is one byte. -/
theorem length_utf8EncodeChar_of_ascii {c : Char} (ascii : c.toNat < 0x80) :
    (String.utf8EncodeChar c).length = 1 := by
  have small : c.toNat ≤ 0x7f := Nat.le_of_lt_succ ascii
  simp [String.utf8EncodeChar, small]

theorem exists_flatMap_front {front back : List UInt8} {b : UInt8} (ascii : b.toNat < 0x80)
    {cs : List Char} (h : front ++ b :: back = cs.flatMap String.utf8EncodeChar) :
    ∃ ds : List Char, front = ds.flatMap String.utf8EncodeChar := by
  induction cs generalizing front with
  | nil => simp at h
  | cons c cs ih =>
    rw [List.flatMap_cons, List.append_eq_append_iff] at h
    rcases h with ⟨more, eq, after⟩ | ⟨more, rfl, after⟩
    · cases more with
      | nil => exact ⟨[c], by simpa using eq.symm⟩
      | cons d more =>
        -- the byte is within the character, and so is all of it
        obtain ⟨rfl, -⟩ := List.cons.inj after
        have number := toNat_of_mem_utf8EncodeChar (c := c) (by simp [eq]) ascii
        have whole := length_utf8EncodeChar_of_ascii (number ▸ ascii)
        rw [eq, List.length_append, List.length_cons] at whole
        exact ⟨[], List.length_eq_zero_iff.1 (by omega)⟩
    · obtain ⟨ds, rfl⟩ := ih after.symm
      exact ⟨c :: ds, rfl⟩

/-- What comes before a byte below 0x80 in the form of a text is that of a text. -/
theorem exists_decode_front {front back : List UInt8} {b : UInt8} {t : String}
    (ascii : b.toNat < 0x80) (h : decode (front ++ b :: back) = some t) :
    ∃ s, decode front = some s := by
  rw [decode_eq_some_iff, encode_eq_flatMap] at h
  obtain ⟨ds, rfl⟩ := exists_flatMap_front ascii h
  refine ⟨String.ofList ds, ?_⟩
  rw [decode_eq_some_iff, encode_eq_flatMap, String.toList_ofList]

end Lockbox.Utf8
