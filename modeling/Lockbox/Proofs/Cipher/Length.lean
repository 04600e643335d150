import Lockbox.Proofs.Cipher.Acceptance
import Lockbox.Proofs.Text.Utf8

/-!
# How long blobs are

A blob is longer than any text that is deciphered from it, by bytes:

    length_lt_of_decrypt : decrypt blob key = .ok text →
      (Utf8.encode text).length < (Utf8.encode blob).length

The initial block and the padding make a blob of more bytes than the text has, Base64 makes four
characters of each three of them, and a character is a byte or more. What is trimmed off a blob only
makes up for more, and the text may lose a byte order mark besides.
-/

namespace Lockbox

namespace Text

theorem length_trim_le (s : String) : (trim s).toList.length ≤ s.toList.length := by
  have front : (s.toList.dropWhile isBlankChar).length ≤ s.toList.length :=
    (List.dropWhile_sublist isBlankChar).length_le
  have back : (trimEnd (s.toList.dropWhile isBlankChar)).length ≤
      (s.toList.dropWhile isBlankChar).reverse.length := by
    rw [trimEnd, List.length_reverse]
    exact (List.dropWhile_sublist isBlankChar).length_le
  rw [trim, String.toList_ofList]
  rw [List.length_reverse] at back
  exact Nat.le_trans back front

end Text

namespace Utf8

/-- A character takes a byte or more. -/
theorem length_le_length_encode (s : String) : s.toList.length ≤ (encode s).length := by
  rw [encode_eq_flatMap]
  induction s.toList with
  | nil => exact Nat.le_refl 0
  | cons c rest ih =>
    have byte : 0 < (String.utf8EncodeChar c).length := by
      rw [String.length_utf8EncodeChar]
      exact c.utf8Size_pos
    rw [List.flatMap_cons, List.length_append, List.length_cons]
    omega

end Utf8

namespace Base64

/-- Three bytes make four characters, and so do one or two that are left. -/
theorem length_encodeChars (bytes : List UInt8) :
    (encodeChars bytes).length = 4 * ((bytes.length + 2) / 3) := by
  rw [encodeChars, List.length_append, List.length_map, padding, List.length_replicate]
  fun_induction sextets bytes with
  | case1 => decide
  | case2 a => simp only [List.length_cons, List.length_nil]
  | case3 a b => simp only [List.length_cons, List.length_nil]
  | case4 a b c rest ih =>
    simp only [List.length_cons]
    omega

end Base64

namespace Blob

theorem length_dropMark_le (s : String) :
    (Utf8.encode (dropMark s)).length ≤ (Utf8.encode s).length := by
  rcases eq_dropMark_or_eq_marked s with ⟨-, eq⟩ | eq
  · exact Nat.le_of_eq (by rw [← eq])
  · have whole : Utf8.encode (marked (dropMark s)) =
        String.utf8EncodeChar byteOrderMark ++ Utf8.encode (dropMark s) := by
      rw [Utf8.encode_eq_flatMap, marked, String.toList_ofList, List.flatMap_cons,
        Utf8.encode_eq_flatMap]
    rw [← eq] at whole
    rw [whole, List.length_append]
    exact Nat.le_add_left _ _

/-- The blocks of a blob: the initial one, those that the text fills, and one more. -/
theorem length_encryptBytes {iv : List UInt8} (block : iv.length = Cbc.blockLength)
    (key text : List UInt8) : (encryptBytes iv key text).length =
      Cbc.blockLength * (text.length / Cbc.blockLength + 2) := by
  obtain ⟨initial, rfl⟩ := Aes.exists_block_of_length block
  rw [encryptBytes_eq, Aes.length_bytesOfBlocks, List.length_cons, length_chain]

/-- A blob holds its initial block and, behind it, the blocks that the text fills and one more. -/
theorem decode_of_encrypt {iv key : List UInt8} {text blob : String}
    (block : iv.length = Cbc.blockLength) (h : encrypt iv key text = .ok blob) :
    ∃ behind, Base64.decode blob = some (iv ++ behind) ∧
      behind.length = Cbc.blockLength * ((Utf8.encode text).length / Cbc.blockLength + 1) := by
  obtain ⟨initial, rfl⟩ := Aes.exists_block_of_length block
  unfold encrypt at h
  split at h
  · refine ⟨Aes.bytesOfBlocks (chain initial key (Utf8.encode text)), ?_, ?_⟩
    · rw [← Except.ok.inj h, Base64.decode_encode, encryptBytes_eq, Aes.bytesOfBlocks,
        List.flatMap_cons]
      rfl
    · rw [Aes.length_bytesOfBlocks, length_chain]
  · cases h

/-- Texts that were enciphered under different blocks have different blobs. -/
theorem block_eq_of_encrypt {iv iv' key key' : List UInt8} {text text' blob : String}
    (block : iv.length = Cbc.blockLength) (block' : iv'.length = Cbc.blockLength)
    (h : encrypt iv key text = .ok blob) (h' : encrypt iv' key' text' = .ok blob) : iv = iv' := by
  obtain ⟨behind, decoded, -⟩ := decode_of_encrypt block h
  obtain ⟨behind', decoded', -⟩ := decode_of_encrypt block' h'
  have eq : iv ++ behind = iv' ++ behind' := Option.some.inj (decoded.symm.trans decoded')
  exact (List.append_inj eq (block.trans block'.symm)).1

/-- How many characters a blob has. -/
theorem length_of_encrypt {iv key : List UInt8} {text blob : String}
    (block : iv.length = Cbc.blockLength) (h : encrypt iv key text = .ok blob) :
    blob.toList.length =
      4 * ((Cbc.blockLength * ((Utf8.encode text).length / Cbc.blockLength + 2) + 2) / 3) := by
  unfold encrypt at h
  split at h
  · rw [← Except.ok.inj h, Base64.encode, String.toList_ofList, Base64.length_encodeChars,
      length_encryptBytes block]
  · cases h

/-- A text has fewer bytes than the blob that it is deciphered from. -/
theorem length_lt_of_decrypt {blob text : String} {key : List UInt8}
    (h : decrypt blob key = .ok text) :
    (Utf8.encode text).length < (Utf8.encode blob).length := by
  obtain ⟨iv, whole, block, enciphered, rfl⟩ := exists_encrypt_of_decrypt h
  have digits := length_of_encrypt block enciphered
  have grown : (Utf8.encode whole).length < (Text.trim blob).toList.length := by
    rw [digits, Cbc.blockLength]
    omega
  calc (Utf8.encode (dropMark whole)).length
    _ ≤ (Utf8.encode whole).length := length_dropMark_le whole
    _ < (Text.trim blob).toList.length := grown
    _ ≤ blob.toList.length := Text.length_trim_le blob
    _ ≤ (Utf8.encode blob).length := Utf8.length_le_length_encode blob

end Blob

end Lockbox
