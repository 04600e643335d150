import Lockbox.Cipher.Aes

/-!
# Chained blocks and padding

Each block is added to the enciphered block before it, the first to an initial block, before it is
enciphered itself. Bytes are padded to whole blocks by as many bytes as are missing, at least one,
each holding their number.
-/

namespace Lockbox.Cbc

open Aes (Block)

def blockLength : Nat := 16

/-- Encipher blocks that follow the enciphered block `previous`. -/
def encipher (cipher : Block → Block) (previous : Block) : List Block → List Block
  | [] => []
  | s :: rest =>
    cipher (s.add previous) :: encipher cipher (cipher (s.add previous)) rest

def decipher (decipherBlock : Block → Block) (previous : Block) : List Block → List Block
  | [] => []
  | s :: rest => (decipherBlock s).add previous :: decipher decipherBlock s rest

/-- How many bytes of padding follow `n` bytes. -/
def paddingLength (n : Nat) : Nat := blockLength - n % blockLength

def pad (bytes : List UInt8) : List UInt8 :=
  bytes ++ List.replicate (paddingLength bytes.length) (UInt8.ofNat (paddingLength bytes.length))

/-- Remove padding, if it is proper. -/
def unpad? (bytes : List UInt8) : Option (List UInt8) :=
  match bytes.getLast? with
  | none => none
  | some last =>
    let count := last.toNat
    if 0 < count ∧ count ≤ blockLength ∧ count ≤ bytes.length ∧
        (bytes.drop (bytes.length - count)).all (· == last) then
      some (bytes.take (bytes.length - count))
    else none

/-! ### Chains -/

/-- A chain is undone by any function that undoes the cipher. -/
theorem decipher_encipher {cipher decipherBlock : Block → Block}
    (h : ∀ s, decipherBlock (cipher s) = s) (previous : Block) (bs : List Block) :
    decipher decipherBlock previous (encipher cipher previous bs) = bs := by
  induction bs generalizing previous with
  | nil => rfl
  | cons s rest ih => simp only [encipher, decipher, h, ih, Aes.Block.add_add]

theorem encipher_decipher {cipher decipherBlock : Block → Block}
    (h : ∀ s, cipher (decipherBlock s) = s) (previous : Block) (bs : List Block) :
    encipher cipher previous (decipher decipherBlock previous bs) = bs := by
  induction bs generalizing previous with
  | nil => rfl
  | cons s rest ih => simp only [encipher, decipher, h, ih, Aes.Block.add_add]

theorem length_encipher (cipher : Block → Block) (previous : Block) (bs : List Block) :
    (encipher cipher previous bs).length = bs.length := by
  induction bs generalizing previous with
  | nil => rfl
  | cons s rest ih => simp only [encipher, List.length_cons, ih]

/-! ### Padding -/

theorem paddingLength_pos (n : Nat) : 0 < paddingLength n := by
  have := Nat.mod_lt n (show 0 < blockLength by decide)
  unfold paddingLength
  omega

theorem paddingLength_le (n : Nat) : paddingLength n ≤ blockLength := by
  unfold paddingLength
  omega

theorem toNat_paddingLength (n : Nat) :
    (UInt8.ofNat (paddingLength n)).toNat = paddingLength n := by
  have := paddingLength_le n
  simp only [blockLength] at this
  simp only [UInt8.toNat_ofNat']
  omega

/-- Padding fills up the last block, or is a block of its own. -/
theorem length_pad (bytes : List UInt8) :
    (pad bytes).length = blockLength * (bytes.length / blockLength + 1) := by
  have := Nat.div_add_mod bytes.length blockLength
  have := Nat.mod_lt bytes.length (show 0 < blockLength by decide)
  simp only [pad, List.length_append, List.length_replicate, paddingLength, blockLength] at *
  omega

theorem unpad?_pad (bytes : List UInt8) : unpad? (pad bytes) = some bytes := by
  have pos := paddingLength_pos bytes.length
  have le := paddingLength_le bytes.length
  have last : (pad bytes).getLast? = some (UInt8.ofNat (paddingLength bytes.length)) := by
    simp [pad, List.getLast?_append, List.getLast?_replicate, Nat.ne_of_gt pos]
  have rest : (pad bytes).length - paddingLength bytes.length = bytes.length := by simp [pad]
  simp only [unpad?, last, toNat_paddingLength, rest]
  simp [pad, pos, le]

/-- Padding of whole blocks is proper only if it is what `pad` puts there. -/
theorem eq_pad_of_unpad? {bytes text : List UInt8} (whole : bytes.length % blockLength = 0)
    (h : unpad? bytes = some text) : bytes = pad text := by
  unfold unpad? at h
  split at h
  · cases h
  next last _ =>
    dsimp only at h
    split at h
    · next proper =>
      obtain ⟨pos, le, fits, same⟩ := proper
      cases h
      have filled : bytes.drop (bytes.length - last.toNat) = List.replicate last.toNat last :=
        List.eq_replicate_iff.2 ⟨by simp; omega, by simpa using same⟩
      have count : paddingLength (bytes.length - last.toNat) = last.toNat := by
        simp only [paddingLength, blockLength] at *
        omega
      have size : (bytes.take (bytes.length - last.toNat)).length = bytes.length - last.toNat := by
        simp
      rw [pad, size, count, UInt8.ofNat_toNat, ← filled, List.take_append_drop]
    · cases h

end Lockbox.Cbc
