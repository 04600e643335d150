import Lockbox.Cipher.Aes.Inverse
import Lockbox.Cipher.Blob

/-!
# Deciphering a blob

What was enciphered is deciphered under the same key, less one byte order mark at its front:

    decrypt_encrypt : encrypt iv key text = .ok blob → decrypt blob key = .ok (dropMark text)

A blob is the initial block and the enciphered ones (`encryptBytes_eq`), blocks and their bytes
determine each other, and neither Base64 digits nor their padding are blank, so that nothing is
trimmed.
-/

namespace Lockbox

/-! ## Blocks and bytes -/

namespace Aes

theorem columns_toBytes_append (v : Column) (bytes : List UInt8) :
    columns (v.toBytes ++ bytes) = v :: columns bytes := rfl

/-- The bytes of a block are regrouped into that block. -/
theorem blocksOfBytes_toBytes_append (s : Block) (bytes : List UInt8) :
    blocksOfBytes (s.toBytes ++ bytes) = s :: blocksOfBytes bytes := by
  simp only [blocksOfBytes, Block.toBytes, List.append_assoc, columns_toBytes_append, blocks]

/-- Blocks can be read off their bytes. -/
theorem blocksOfBytes_bytesOfBlocks (bs : List Block) : blocksOfBytes (bytesOfBlocks bs) = bs := by
  induction bs with
  | nil => rfl
  | cons s rest ih =>
    rw [bytesOfBlocks, List.flatMap_cons, blocksOfBytes_toBytes_append]
    exact congrArg (s :: ·) ih

theorem length_toBytes (s : Block) : s.toBytes.length = Cbc.blockLength := rfl

theorem length_bytesOfBlocks (bs : List Block) :
    (bytesOfBlocks bs).length = Cbc.blockLength * bs.length := by
  induction bs with
  | nil => rfl
  | cons s rest ih =>
    rw [bytesOfBlocks, List.flatMap_cons, List.length_append, length_toBytes, List.length_cons,
      Nat.mul_succ, Nat.add_comm]
    exact congrArg (· + Cbc.blockLength) ih

/-- Sixteen bytes are those of a block. -/
theorem exists_block_of_length {bytes : List UInt8} (h : bytes.length = Cbc.blockLength) :
    ∃ s : Block, s.toBytes = bytes := by
  match bytes, h with
  | [a, b, c, d, e, f, g, h, i, j, k, l, m, n, o, p], _ =>
    exact ⟨⟨⟨a, b, c, d⟩, ⟨e, f, g, h⟩, ⟨i, j, k, l⟩, ⟨m, n, o, p⟩⟩, rfl⟩

/-- Whole blocks of bytes are those of their blocks. -/
theorem exists_blocks_of_length {bytes : List UInt8} {count : Nat}
    (h : bytes.length = Cbc.blockLength * count) :
    ∃ bs : List Block, bs.length = count ∧ bytesOfBlocks bs = bytes := by
  -- on the number of blocks, of which the first one is cut off
  induction count generalizing bytes with
  | zero => exact ⟨[], rfl, (List.length_eq_zero_iff.1 h).symm⟩
  | succ count ih =>
    have size : bytes.length = Cbc.blockLength * count + Cbc.blockLength := h
    have front : (bytes.take Cbc.blockLength).length = Cbc.blockLength := by
      rw [List.length_take]
      omega
    have back : (bytes.drop Cbc.blockLength).length = Cbc.blockLength * count := by
      rw [List.length_drop]
      omega
    obtain ⟨s, first⟩ := exists_block_of_length front
    obtain ⟨bs, length, rest⟩ := ih back
    refine ⟨s :: bs, by rw [List.length_cons, length], ?_⟩
    rw [bytesOfBlocks, List.flatMap_cons, first]
    exact (congrArg (bytes.take Cbc.blockLength ++ ·) rest).trans (List.take_append_drop _ bytes)

/-- Bytes that fill whole blocks can be read off the blocks. -/
theorem bytesOfBlocks_blocksOfBytes {bytes : List UInt8} {count : Nat}
    (h : bytes.length = Cbc.blockLength * count) : bytesOfBlocks (blocksOfBytes bytes) = bytes := by
  obtain ⟨bs, -, rfl⟩ := exists_blocks_of_length h
  rw [blocksOfBytes_bytesOfBlocks]

end Aes

/-! ## Texts that are not trimmed -/

namespace Text

theorem dropWhile_eq_self {p : Char → Bool} {cs : List Char} (h : ∀ c ∈ cs, p c = false) :
    cs.dropWhile p = cs := by
  cases cs with
  | nil => rfl
  | cons c rest => exact List.dropWhile_cons_of_neg (by simp [h c List.mem_cons_self])

/-- Nothing is trimmed off a text without blanks. -/
theorem trim_eq_self {s : String} (h : ∀ c ∈ s.toList, isBlankChar c = false) : trim s = s := by
  have reversed : ∀ c ∈ s.toList.reverse, isBlankChar c = false :=
    fun c hc => h c (List.mem_reverse.1 hc)
  rw [trim, dropWhile_eq_self h, trimEnd, dropWhile_eq_self reversed, List.reverse_reverse,
    String.ofList_toList]

end Text

namespace Base64

/-- What bytes are regrouped into has six bits. -/
theorem lt_of_mem_sextets {bytes : List UInt8} {n : Nat} (h : n ∈ sextets bytes) : n < 64 := by
  -- three bytes at a time; a number is bounded by the bytes that it is made of
  fun_induction sextets bytes with
  | case1 => cases h
  | case2 a =>
    have := a.toNat_lt
    simp only [List.mem_cons, List.not_mem_nil, or_false] at h
    omega
  | case3 a b =>
    have := a.toNat_lt
    have := b.toNat_lt
    simp only [List.mem_cons, List.not_mem_nil, or_false] at h
    omega
  | case4 a b c rest ih =>
    have := a.toNat_lt
    have := b.toNat_lt
    have := c.toNat_lt
    simp only [List.mem_cons] at h
    rcases h with h | h | h | h | h
    · omega
    · omega
    · omega
    · omega
    · exact ih h

theorem not_blank_digit {n : Nat} (h : n < 64) : Text.isBlankChar (digit n) = false := by
  have all : ∀ n : Fin 64, Text.isBlankChar (digit n) = false := by decide +kernel
  exact all ⟨n, h⟩

/-- Base64 is written with digits and padding, and neither is blank. -/
theorem not_blank_of_mem_encode {bytes : List UInt8} {c : Char} (h : c ∈ (encode bytes).toList) :
    Text.isBlankChar c = false := by
  rw [encode, String.toList_ofList, encodeChars, List.mem_append] at h
  rcases h with h | h
  · obtain ⟨n, hn, rfl⟩ := List.mem_map.1 h
    exact not_blank_digit (lt_of_mem_sextets hn)
  · obtain ⟨-, rfl⟩ := List.mem_replicate.1 h
    decide

theorem trim_encode (bytes : List UInt8) : Text.trim (encode bytes) = encode bytes :=
  Text.trim_eq_self fun _ hc => not_blank_of_mem_encode hc

end Base64

/-! ## Blobs -/

namespace Blob

/-- The blocks of a text behind its initial block, enciphered. -/
def chain (initial : Aes.Block) (key text : List UInt8) : List Aes.Block :=
  Cbc.encipher (Aes.encipher (Aes.roundKeys key)) initial (Aes.blocksOfBytes (Cbc.pad text))

/-- The block that was drawn stands in front of the enciphered ones. -/
theorem encryptBytes_eq (initial : Aes.Block) (key text : List UInt8) :
    encryptBytes initial.toBytes key text =
      Aes.bytesOfBlocks (initial :: chain initial key text) := by
  have block : Aes.blocksOfBytes initial.toBytes = [initial] := rfl
  rw [encryptBytes, block, Aes.bytesOfBlocks, List.flatMap_cons]
  rfl

/-- There is a block for every full block of the text, and one for what is left over and the
padding. -/
theorem length_chain (initial : Aes.Block) (key text : List UInt8) :
    (chain initial key text).length = text.length / Cbc.blockLength + 1 := by
  -- padding makes whole blocks, and one more than the text fills
  obtain ⟨bs, length, bytes⟩ := Aes.exists_blocks_of_length (Cbc.length_pad text)
  rw [chain, Cbc.length_encipher, ← bytes, Aes.blocksOfBytes_bytesOfBlocks, length]

/-- A blob is long enough and a number of whole blocks. -/
theorem isFramed_encryptBytes (initial : Aes.Block) (key text : List UInt8) :
    isFramed (encryptBytes initial.toBytes key text) = true := by
  have enough : 2 * Cbc.blockLength ≤
      Cbc.blockLength * (text.length / Cbc.blockLength + 1 + 1) := by
    simp only [Cbc.blockLength]
    omega
  rw [encryptBytes_eq, isFramed, Aes.length_bytesOfBlocks, List.length_cons, length_chain,
    Nat.mul_mod_right, decide_eq_true enough]
  rfl

/-- Deciphering gives the padded text, before it is told whether that is one. -/
theorem decryptBytes_encryptBytes (initial : Aes.Block) (key text : List UInt8) :
    decryptBytes key (encryptBytes initial.toBytes key text) = Cbc.pad text := by
  have inverse : ∀ s, Aes.decipher (Aes.roundKeys key) (Aes.encipher (Aes.roundKeys key) s) = s :=
    Aes.decipher_encipher (Aes.roundKeys key)
  rw [encryptBytes_eq, decryptBytes, Aes.blocksOfBytes_bytesOfBlocks]
  -- the first block is the one that was drawn
  dsimp only
  rw [chain, Cbc.decipher_encipher inverse, Aes.bytesOfBlocks_blocksOfBytes (Cbc.length_pad text)]

/-- A blob gives back the text that it was made of, less one byte order mark at its front. -/
theorem decrypt_encrypt {iv key : List UInt8} {text blob : String}
    (block : iv.length = Cbc.blockLength) (h : encrypt iv key text = .ok blob) :
    decrypt blob key = .ok (dropMark text) := by
  obtain ⟨initial, rfl⟩ := Aes.exists_block_of_length block
  unfold encrypt at h
  split at h
  · next proper =>
    cases h
    rw [decrypt, if_pos proper, Base64.trim_encode, Base64.decode_encode]
    simp only [isFramed_encryptBytes, if_true, decryptBytes_encryptBytes, Cbc.unpad?_pad,
      Utf8.decode_encode]
  · cases h

/-- Every text can be enciphered under a key of a proper length. -/
theorem exists_encrypt {key : List UInt8} (proper : key.length ∈ Aes.keyLengths)
    (iv : List UInt8) (text : String) : ∃ blob, encrypt iv key text = .ok blob :=
  ⟨_, if_pos proper⟩

end Blob

end Lockbox
