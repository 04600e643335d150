import Lockbox.Cipher.Cbc
import Lockbox.Text.Base64
import Lockbox.Text.Blank
import Lockbox.Text.Hex

/-!
# Enciphered texts

A blob is the Base64 text of an initial block followed by the enciphered blocks of a text. It
carries no seal: damage may go unnoticed and give another text. Reading tolerates blanks around a
blob and drops one byte order mark from the front of the text.
-/

namespace Lockbox

/-- Why key material or a blob cannot be used. -/
inductive CipherFault where
  | keyLength (bytes : Nat)
  | notBase64
  | framing
  | padding
  | notUtf8
  | keyNotHex (id : String) (fault : Hex.Fault)
  | other (text : String)
  deriving DecidableEq

def CipherFault.message : CipherFault → String
  | .keyLength bytes =>
    "invalid key length: expected 16, 24 or 32 bytes, got " ++ toString bytes
  | .notBase64 => "encrypted value is not valid base64"
  | .framing => "encrypted value has invalid IV/ciphertext framing"
  | .padding => "decryption failed"
  | .notUtf8 => "decrypted value is not valid UTF-8"
  | .keyNotHex id fault =>
    "key material for " ++ Text.quoted id ++ " is not valid hex: " ++ fault.message
  | .other text => text

namespace Blob

/-- The mark that some editors put in front of a text. -/
def byteOrderMark : Char := '\ufeff'

/-- The text without a byte order mark at its front. -/
def dropMark (s : String) : String :=
  match s.toList with
  | c :: rest => if c = byteOrderMark then String.ofList rest else s
  | [] => s

/-- The bytes of the blob of `text`, given the bytes of the initial block. -/
def encryptBytes (iv key text : List UInt8) : List UInt8 :=
  match Aes.blocksOfBytes iv with
  | [] => []
  | initial :: _ =>
    iv ++ Aes.bytesOfBlocks
      (Cbc.encipher (Aes.encipher (Aes.roundKeys key)) initial (Aes.blocksOfBytes (Cbc.pad text)))

def encrypt (iv key : List UInt8) (text : String) : Except CipherFault String :=
  if key.length ∈ Aes.keyLengths then
    .ok (Base64.encode (encryptBytes iv key (Utf8.encode text)))
  else .error (.keyLength key.length)

/-- The padded bytes that framed bytes hold. -/
def decryptBytes (key framed : List UInt8) : List UInt8 :=
  match Aes.blocksOfBytes framed with
  | [] => []
  | initial :: rest =>
    Aes.bytesOfBlocks (Cbc.decipher (Aes.decipher (Aes.roundKeys key)) initial rest)

/-- Whether there are an initial block and at least one other, all of them whole. -/
def isFramed (bytes : List UInt8) : Bool :=
  2 * Cbc.blockLength ≤ bytes.length && bytes.length % Cbc.blockLength == 0

def decrypt (blob : String) (key : List UInt8) : Except CipherFault String :=
  if key.length ∈ Aes.keyLengths then
    match Base64.decode (Text.trim blob) with
    | none => .error .notBase64
    | some framed =>
      if isFramed framed then
        match Cbc.unpad? (decryptBytes key framed) with
        | none => .error .padding
        | some bytes =>
          match Utf8.decode bytes with
          | none => .error .notUtf8
          | some text => .ok (dropMark text)
      else .error .framing
  else .error (.keyLength key.length)

end Blob

end Lockbox
