import Lockbox.Proofs.Cipher.Blob

/-!
# Which blobs are deciphered

Deciphering under a key accepts the blobs that enciphering under that key gives, blanks around them
aside, and no others:

    decrypt_eq_ok_iff : decrypt blob key = .ok text ↔ ∃ iv, iv.length = blockLength ∧
      (encrypt iv key (marked text) = .ok (trim blob) ∨
        ¬ IsMarked text ∧ encrypt iv key text = .ok (trim blob))

Each stage of deciphering has one preimage only: Base64 is canonical, blocks and bytes determine
each other, a chain of blocks is enciphered back into itself, and padding that is removed is the
padding that would be put there. Only the byte order mark is dropped for good.
-/

namespace Lockbox

namespace Blob

/-! ## Byte order marks -/

def marked (s : String) : String := String.ofList (byteOrderMark :: s.toList)

def IsMarked (s : String) : Prop := s.toList.head? = some byteOrderMark

theorem dropMark_marked (s : String) : dropMark (marked s) = s := by
  unfold dropMark marked
  rw [String.toList_ofList]
  simp only [if_true, String.ofList_toList]

theorem dropMark_of_not_isMarked {s : String} (h : ¬ IsMarked s) : dropMark s = s := by
  unfold dropMark
  split
  · next c rest front =>
    apply if_neg
    rintro rfl
    apply h
    rw [IsMarked, front, List.head?_cons]
  · rfl

/-- Either a text has no mark, or what is left without its mark is the text behind it. -/
theorem eq_dropMark_or_eq_marked (s : String) :
    (¬ IsMarked s ∧ s = dropMark s) ∨ s = marked (dropMark s) := by
  by_cases front : IsMarked s
  · obtain ⟨rest, whole⟩ := List.head?_eq_some_iff.1 front
    have restored : s = marked (String.ofList rest) := by
      rw [marked, String.toList_ofList, ← whole, String.ofList_toList]
    refine .inr ?_
    rw [restored, dropMark_marked]
  · exact .inl ⟨front, (dropMark_of_not_isMarked front).symm⟩

/-! ## Framed bytes -/

/-- Framed bytes are an initial block and others behind it. -/
theorem exists_blocks_of_isFramed {framed : List UInt8} (h : isFramed framed = true) :
    ∃ (initial : Aes.Block) (rest : List Aes.Block),
      framed = Aes.bytesOfBlocks (initial :: rest) := by
  rw [isFramed, Bool.and_eq_true, decide_eq_true_iff, beq_iff_eq] at h
  obtain ⟨enough, whole⟩ := h
  obtain ⟨count, size⟩ := Nat.dvd_of_mod_eq_zero whole
  obtain ⟨bs, length, bytes⟩ := Aes.exists_blocks_of_length size
  cases bs with
  | nil =>
    rw [← length, List.length_nil, Nat.mul_zero] at size
    simp only [size, Cbc.blockLength] at enough
    omega
  | cons initial rest => exact ⟨initial, rest, bytes.symm⟩

/-- Blocks whose deciphered bytes are properly padded are the chain of the text in them. -/
theorem eq_encryptBytes_of_unpad? {initial : Aes.Block} {rest : List Aes.Block}
    {key text : List UInt8}
    (h : Cbc.unpad? (decryptBytes key (Aes.bytesOfBlocks (initial :: rest))) = some text) :
    Aes.bytesOfBlocks (initial :: rest) = encryptBytes initial.toBytes key text := by
  rw [decryptBytes, Aes.blocksOfBytes_bytesOfBlocks] at h
  dsimp only at h
  have whole : ∀ bs : List Aes.Block, (Aes.bytesOfBlocks bs).length % Cbc.blockLength = 0 := by
    intro bs
    rw [Aes.length_bytesOfBlocks, Nat.mul_mod_right]
  have padded := Cbc.eq_pad_of_unpad? (whole _) h
  have inverse : ∀ s, Aes.encipher (Aes.roundKeys key) (Aes.decipher (Aes.roundKeys key) s) = s :=
    Aes.encipher_decipher (Aes.roundKeys key)
  rw [encryptBytes_eq, chain, ← padded, Aes.blocksOfBytes_bytesOfBlocks,
    Cbc.encipher_decipher inverse]

/-! ## Blobs -/

/-- A blob that is deciphered was enciphered from a text that gives the answer. -/
theorem exists_encrypt_of_decrypt {blob text : String} {key : List UInt8}
    (h : decrypt blob key = .ok text) :
    ∃ iv whole, iv.length = Cbc.blockLength ∧ encrypt iv key whole = .ok (Text.trim blob) ∧
      dropMark whole = text := by
  unfold decrypt at h
  split at h
  · next proper =>
    split at h
    · cases h
    · next framed decoded =>
      split at h
      · next frame =>
        obtain ⟨initial, rest, rfl⟩ := exists_blocks_of_isFramed frame
        split at h
        · cases h
        · next bytes unpadded =>
          split at h
          · cases h
          · next whole read =>
            cases h
            refine ⟨initial.toBytes, whole, Aes.length_toBytes initial, ?_, rfl⟩
            rw [encrypt, if_pos proper, ← Utf8.eq_encode_of_decode read,
              ← eq_encryptBytes_of_unpad? unpadded, ← Base64.eq_encode_of_decode decoded]
      · cases h
  · cases h

/-- There are no blanks around a blob. -/
theorem trim_of_encrypt {iv key : List UInt8} {text blob : String}
    (h : encrypt iv key text = .ok blob) : Text.trim blob = blob := by
  unfold encrypt at h
  split at h
  · rw [← Except.ok.inj h, Base64.trim_encode]
  · cases h

theorem decrypt_of_encrypt_trim {iv key : List UInt8} {blob whole : String}
    (block : iv.length = Cbc.blockLength) (h : encrypt iv key whole = .ok (Text.trim blob)) :
    decrypt blob key = .ok (dropMark whole) := by
  have plain := decrypt_encrypt block h
  rw [decrypt, trim_of_encrypt h] at plain
  exact plain

/-- A blob is deciphered to a text exactly if it is, blanks around it aside, a blob of that text
behind a byte order mark, or of the text itself and that has no such mark. -/
theorem decrypt_eq_ok_iff (key : List UInt8) (blob text : String) :
    decrypt blob key = .ok text ↔
      ∃ iv : List UInt8, iv.length = Cbc.blockLength ∧
        (encrypt iv key (marked text) = .ok (Text.trim blob) ∨
          (¬ IsMarked text ∧ encrypt iv key text = .ok (Text.trim blob))) := by
  constructor
  · intro deciphered
    obtain ⟨iv, whole, block, enciphered, rfl⟩ := exists_encrypt_of_decrypt deciphered
    refine ⟨iv, block, ?_⟩
    rcases eq_dropMark_or_eq_marked whole with ⟨bare, eq⟩ | eq
    · rw [← eq]
      exact .inr ⟨bare, enciphered⟩
    · rw [← eq]
      exact .inl enciphered
  · rintro ⟨iv, block, enciphered | ⟨bare, enciphered⟩⟩
    · rw [decrypt_of_encrypt_trim block enciphered, dropMark_marked]
    · rw [decrypt_of_encrypt_trim block enciphered, dropMark_of_not_isMarked bare]

/-- Under a key of a proper length, every text is enciphered and comes back, less one byte order
mark at its front, and nothing else is deciphered than what can have been enciphered. -/
theorem decrypts_exactly_what_was_encrypted {key : List UInt8}
    (proper : key.length ∈ Aes.keyLengths) :
    (∀ (iv : List UInt8) (text : String), iv.length = Cbc.blockLength →
      ∃ blob, encrypt iv key text = .ok blob ∧ decrypt blob key = .ok (dropMark text)) ∧
    ∀ blob text : String, decrypt blob key = .ok text ↔
      ∃ iv : List UInt8, iv.length = Cbc.blockLength ∧
        (encrypt iv key (marked text) = .ok (Text.trim blob) ∨
          (¬ IsMarked text ∧ encrypt iv key text = .ok (Text.trim blob))) := by
  refine ⟨?_, decrypt_eq_ok_iff key⟩
  intro iv text block
  obtain ⟨blob, enciphered⟩ := exists_encrypt proper iv text
  exact ⟨blob, enciphered, decrypt_encrypt block enciphered⟩

/-- The bytes from 0 to 15, as a key and as an initial block. -/
def firstBytes : List UInt8 := (List.range 16).map UInt8.ofNat

theorem encrypt_marked_x :
    encrypt firstBytes firstBytes (marked "x") =
      .ok "AAECAwQFBgcICQoLDA0OD8ZcwB4XTo3scaW6gIoqSVs=" := by
  have digits : Base64.encode (encryptBytes firstBytes firstBytes (Utf8.encode (marked "x"))) =
      "AAECAwQFBgcICQoLDA0OD8ZcwB4XTo3scaW6gIoqSVs=" := by decide +kernel
  rw [encrypt, if_pos (by decide), digits]

/-- A blob between blanks is deciphered, and loses its mark. -/
theorem decrypt_between_blanks :
    firstBytes.length ∈ Aes.keyLengths ∧
      decrypt "\u00a0AAECAwQFBgcICQoLDA0OD8ZcwB4XTo3scaW6gIoqSVs=\n" firstBytes = .ok "x" := by
  have proper : firstBytes.length ∈ Aes.keyLengths := by decide
  refine ⟨proper, ?_⟩
  apply ((decrypts_exactly_what_was_encrypted proper).2 _ _).2
  exact ⟨firstBytes, rfl, .inl encrypt_marked_x⟩

end Blob

end Lockbox
