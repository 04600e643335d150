import Lockbox.Proofs.Text.Utf8

/-!
# Reading what is not damaged

Reading bytes with damage marked gives back the text that the bytes encode, if they encode one: the
bytes of each character are announced by its first (`lead?_of_two`, `lead?_of_three`,
`lead?_of_four`) and taken together (`nextChar_of_lead`), so that

    lossy_encode : lossy (encode s) = s
-/

namespace Lockbox.Utf8

/-! ## First bytes -/

/-- No second byte after these is excluded. -/
theorem lead?_of_two {b : UInt8} (low : 0xc2 ≤ b.toNat) (high : b.toNat ≤ 0xdf) :
    lead? b = some ⟨0x80, 0xbf, 1⟩ := by
  have within : (decide (0xc2 ≤ b) && decide (b ≤ 0xdf)) = true := by
    rw [Bool.and_eq_true, decide_eq_true_iff, decide_eq_true_iff, UInt8.le_iff_toNat_le,
      UInt8.le_iff_toNat_le]
    exact ⟨low, high⟩
  exact if_pos within

/-- The second byte of three excludes overlong forms and surrogates. -/
theorem lead?_of_three {b : UInt8} (low : 0xe0 ≤ b.toNat) (high : b.toNat ≤ 0xef) :
    ∃ lead, lead? b = some lead ∧ lead.following = 2 ∧
      lead.low.toNat = (if b.toNat = 0xe0 then 0xa0 else 0x80) ∧
      lead.high.toNat = (if b.toNat = 0xed then 0x9f else 0xbf) := by
  unfold lead?
  simp only [Bool.and_eq_true, decide_eq_true_iff, beq_iff_eq, UInt8.le_iff_toNat_le,
    ← UInt8.toNat_inj, UInt8.reduceToNat]
  by_cases first : b.toNat = 0xe0
  · exact ⟨⟨0xa0, 0xbf, 2⟩, by grind⟩
  · by_cases surrogate : b.toNat = 0xed
    · exact ⟨⟨0x80, 0x9f, 2⟩, by grind⟩
    · exact ⟨⟨0x80, 0xbf, 2⟩, by grind⟩

/-- The second byte of four excludes overlong forms and numbers past the last code point. -/
theorem lead?_of_four {b : UInt8} (low : 0xf0 ≤ b.toNat) (high : b.toNat ≤ 0xf4) :
    ∃ lead, lead? b = some lead ∧ lead.following = 3 ∧
      lead.low.toNat = (if b.toNat = 0xf0 then 0x90 else 0x80) ∧
      lead.high.toNat = (if b.toNat = 0xf4 then 0x8f else 0xbf) := by
  unfold lead?
  simp only [Bool.and_eq_true, decide_eq_true_iff, beq_iff_eq, UInt8.le_iff_toNat_le,
    ← UInt8.toNat_inj, UInt8.reduceToNat]
  by_cases first : b.toNat = 0xf0
  · exact ⟨⟨0x90, 0xbf, 3⟩, by grind⟩
  · by_cases last : b.toNat = 0xf4
    · exact ⟨⟨0x80, 0x8f, 3⟩, by grind⟩
    · exact ⟨⟨0x80, 0xbf, 3⟩, by grind⟩

/-! ## Characters -/

/-- The bytes that are not first are told by their two highest bits. -/
theorem isContinuation_iff {b : UInt8} :
    isContinuation b = true ↔ 0x80 ≤ b.toNat ∧ b.toNat ≤ 0xbf := by
  rw [isContinuation, Bool.and_eq_true, decide_eq_true_iff, decide_eq_true_iff,
    UInt8.le_iff_toNat_le, UInt8.le_iff_toNat_le]
  rfl

/-- Bytes that go on as announced are taken, and no further one. -/
theorem continuation_append {lead : Lead} {b : UInt8} {more : List UInt8} (rest : List UInt8)
    (low : lead.low.toNat ≤ b.toNat) (high : b.toNat ≤ lead.high.toNat)
    (count : more.length = lead.following - 1) (continues : ∀ x ∈ more, isContinuation x = true) :
    continuation lead (b :: more ++ rest) = b :: more := by
  have within : (decide (lead.low ≤ b) && decide (b ≤ lead.high)) = true := by
    rw [Bool.and_eq_true, decide_eq_true_iff, decide_eq_true_iff]
    exact ⟨low, high⟩
  have all : more.takeWhile isContinuation = more := by
    have taken := @List.takeWhile_append_of_pos _ isContinuation more [] continues
    rwa [List.takeWhile_nil, List.append_nil] at taken
  rw [List.cons_append, continuation, if_pos within, ← count, List.take_left, all]

/-- A first byte and the bytes that it announces are one character. -/
theorem nextChar_of_lead {first : UInt8} {lead : Lead} {more : List UInt8} {c : Char}
    (rest : List UInt8) (above : 0x80 ≤ first.toNat) (announced : lead? first = some lead)
    (taken : continuation lead (more ++ rest) = more) (count : more.length = lead.following)
    (number : codePoint first lead more = c.toNat) :
    nextChar first (more ++ rest) = (c, more.length) := by
  have high : ¬first < 0x80 := by
    rw [UInt8.not_lt, UInt8.le_iff_toNat_le]
    exact above
  rw [nextChar, if_neg high, announced]
  dsimp only
  rw [taken, if_pos count, number, Char.ofNat_toNat]

theorem toNat_ofNat_of_lt {n : Nat} (h : n < 256) : (UInt8.ofNat n).toNat = n := by
  rw [UInt8.toNat_ofNat']
  exact Nat.mod_eq_of_lt h

/-! ### By the number of bytes

A character of the number `v` is written in one to four bytes. -/

section

variable {c : Char} {v : Nat} (number : c.toNat = v) (rest : List UInt8)

/-- Six digits of a number in a byte that is not first. -/
theorem toNat_tail (n : Nat) : (UInt8.ofNat (n % 64 + 128)).toNat = n % 64 + 128 :=
  toNat_ofNat_of_lt (by omega)

/-- A byte of six digits is one that is not first. -/
theorem isContinuation_tail (n : Nat) : isContinuation (UInt8.ofNat (n % 64 + 128)) = true := by
  rw [isContinuation_iff, toNat_tail]
  omega

include number

/-- The characters of ASCII are their own bytes. -/
theorem nextChar_one (small : v < 0x80) : nextChar (UInt8.ofNat v) rest = (c, 0) := by
  have byte : (UInt8.ofNat v).toNat = v := toNat_ofNat_of_lt (by omega)
  have ascii : UInt8.ofNat v < 0x80 := by
    rw [UInt8.lt_iff_toNat_lt, byte]
    exact small
  rw [nextChar, if_pos ascii, byte, ← number, Char.ofNat_toNat]

/-- The number is split in five and six digits. -/
theorem nextChar_two (low : 0x80 ≤ v) (high : v < 0x800) :
    nextChar (UInt8.ofNat (v / 64 % 32 + 192)) ([UInt8.ofNat (v % 64 + 128)] ++ rest) =
      (c, 1) := by
  have first : (UInt8.ofNat (v / 64 % 32 + 192)).toNat = v / 64 % 32 + 192 :=
    toNat_ofNat_of_lt (by omega)
  apply nextChar_of_lead rest (by omega) (lead?_of_two (by omega) (by omega))
  · apply continuation_append rest _ _ rfl (List.forall_mem_nil _)
    · rw [toNat_tail]
      exact Nat.le_add_left 128 _
    · rw [toNat_tail]
      show v % 64 + 128 ≤ 191
      omega
  · rfl
  · rw [codePoint, number, List.foldl_cons, List.foldl_nil, toNat_tail, first]
    show (v / 64 % 32 + 192) % 32 * 64 + (v % 64 + 128) % 64 = v
    omega

/-- The number is split in four, six and six digits. It is no surrogate, so that the second byte is
in its bounds. -/
theorem nextChar_three (low : 0x800 ≤ v) (high : v < 0x10000) (valid : v < 0xd800 ∨ 0xdfff < v) :
    nextChar (UInt8.ofNat (v / 4096 % 16 + 224))
      ([UInt8.ofNat (v / 64 % 64 + 128), UInt8.ofNat (v % 64 + 128)] ++ rest) = (c, 2) := by
  have first : (UInt8.ofNat (v / 4096 % 16 + 224)).toNat = v / 4096 % 16 + 224 :=
    toNat_ofNat_of_lt (by omega)
  obtain ⟨lead, announced, following, least, most⟩ :=
    @lead?_of_three (UInt8.ofNat (v / 4096 % 16 + 224)) (by omega) (by omega)
  apply nextChar_of_lead rest (by omega) announced
  · apply continuation_append
    · rw [least, first, toNat_tail]
      split <;> omega
    · rw [most, first, toNat_tail]
      split <;> omega
    · rw [following]
      rfl
    · exact List.forall_mem_cons.2 ⟨isContinuation_tail v, List.forall_mem_nil _⟩
  · rw [following]
    rfl
  · simp only [codePoint, number, following, List.foldl_cons, List.foldl_nil, toNat_tail, first]
    show ((v / 4096 % 16 + 224) % 16 * 64 + (v / 64 % 64 + 128) % 64) * 64 +
      (v % 64 + 128) % 64 = v
    omega

/-- The number is split in three and three times six digits. -/
theorem nextChar_four (low : 0x10000 ≤ v) (high : v < 0x110000) :
    nextChar (UInt8.ofNat (v / 262144 % 8 + 240))
      ([UInt8.ofNat (v / 4096 % 64 + 128), UInt8.ofNat (v / 64 % 64 + 128),
        UInt8.ofNat (v % 64 + 128)] ++ rest) = (c, 3) := by
  have first : (UInt8.ofNat (v / 262144 % 8 + 240)).toNat = v / 262144 % 8 + 240 :=
    toNat_ofNat_of_lt (by omega)
  obtain ⟨lead, announced, following, least, most⟩ :=
    @lead?_of_four (UInt8.ofNat (v / 262144 % 8 + 240)) (by omega) (by omega)
  apply nextChar_of_lead rest (by omega) announced
  · apply continuation_append
    · rw [least, first, toNat_tail]
      split <;> omega
    · rw [most, first, toNat_tail]
      split <;> omega
    · rw [following]
      rfl
    · exact List.forall_mem_cons.2 ⟨isContinuation_tail (v / 64),
        List.forall_mem_cons.2 ⟨isContinuation_tail v, List.forall_mem_nil _⟩⟩
  · rw [following]
    rfl
  · simp only [codePoint, number, following, List.foldl_cons, List.foldl_nil, toNat_tail, first]
    show (((v / 262144 % 8 + 240) % 8 * 64 + (v / 4096 % 64 + 128) % 64) * 64 +
      (v / 64 % 64 + 128) % 64) * 64 + (v % 64 + 128) % 64 = v
    omega

end

/-- The first byte and the others of a character are read as that character. -/
theorem nextChar_utf8EncodeChar (c : Char) (rest : List UInt8) :
    ∃ first more, String.utf8EncodeChar c = first :: more ∧
      nextChar first (more ++ rest) = (c, more.length) := by
  have valid : c.toNat < 0xd800 ∨ (0xdfff < c.toNat ∧ c.toNat < 0x110000) := c.valid
  have value : c.val.toNat = c.toNat := rfl
  unfold String.utf8EncodeChar
  rw [value]
  dsimp only
  -- by the number of bytes, which goes by the code point
  generalize number : c.toNat = v at valid
  split
  · exact ⟨_, [], rfl, nextChar_one number rest (by omega)⟩
  · split
    · exact ⟨_, _, rfl, nextChar_two number rest (by omega) (by omega)⟩
    · split
      · exact ⟨_, _, rfl, nextChar_three number rest (by omega) (by omega) (by omega)⟩
      · exact ⟨_, _, rfl, nextChar_four number rest (by omega) (by omega)⟩

/-- A character is read off the front of bytes. -/
theorem lossyChars_append (c : Char) (rest : List UInt8) :
    lossyChars (String.utf8EncodeChar c ++ rest) = c :: lossyChars rest := by
  obtain ⟨first, more, bytes, next⟩ := nextChar_utf8EncodeChar c rest
  rw [bytes, List.cons_append, lossyChars, next, List.drop_left]

/-- A text is read off the front of bytes as it is. -/
theorem lossyChars_encode_append (s : String) (rest : List UInt8) :
    lossyChars (encode s ++ rest) = s.toList ++ lossyChars rest := by
  rw [encode_eq_flatMap]
  -- on the characters, whose bytes follow one another
  induction s.toList with
  | nil => rfl
  | cons c cs ih =>
    rw [List.flatMap_cons, List.append_assoc, lossyChars_append, ih, List.cons_append]

theorem lossyChars_encode (s : String) : lossyChars (encode s) = s.toList := by
  have whole := lossyChars_encode_append s []
  rwa [List.append_nil, lossyChars.eq_1, List.append_nil] at whole

/-- A text is read back from its bytes as it is. -/
theorem lossy_encode (s : String) : lossy (encode s) = s := by
  rw [lossy, lossyChars_encode, String.ofList_toList]

/-- The first bytes of a text are those of the beginning of it, if they are a text. -/
theorem exists_append_of_decode_take {s t : String} {k : Nat}
    (h : decode ((encode s).take k) = some t) :
    ∃ more, s.toList = t.toList ++ more := by
  have split := List.take_append_drop k (encode s)
  rw [eq_encode_of_decode h] at split
  refine ⟨lossyChars ((encode s).drop k), ?_⟩
  calc s.toList = lossyChars (encode s) := (lossyChars_encode s).symm
    _ = lossyChars (encode t ++ (encode s).drop k) := by rw [split]
    _ = t.toList ++ lossyChars ((encode s).drop k) := lossyChars_encode_append t _

end Lockbox.Utf8
