import Lockbox.Text.Quoted
import Lockbox.Text.Utf8

/-!
# Hexadecimal bytes

Bytes are written as pairs of lower-case digits and read in either case. Reading reports an odd
number of digits before anything else, and otherwise the first byte of the text that is no digit.
-/

namespace Lockbox.Hex

def digit (n : Nat) : Char := Nat.digitChar n

def encode (bytes : List UInt8) : String :=
  String.ofList (bytes.flatMap fun b => [digit (b.toNat / 16), digit (b.toNat % 16)])

/-- Why a text is not hexadecimal. -/
inductive Fault where
  | oddLength
  | badDigit (byte : UInt8) (position : Nat)
  deriving DecidableEq

/-- The fault in words; a byte that is no digit is shown as the character of its number. -/
def Fault.message : Fault → String
  | .oddLength => "Odd number of digits"
  | .badDigit byte position =>
    "Invalid character " ++ Text.quotedChar (Char.ofNat byte.toNat) ++ " at position " ++
      toString position

def value? (b : UInt8) : Option Nat :=
  if 0x30 ≤ b && b ≤ 0x39 then some (b.toNat - 0x30)
  else if 0x61 ≤ b && b ≤ 0x66 then some (b.toNat - 0x61 + 10)
  else if 0x41 ≤ b && b ≤ 0x46 then some (b.toNat - 0x41 + 10)
  else none

/-- Read pairs of digits, the first of which stands at `position`. -/
def decodeFrom (position : Nat) : List UInt8 → Except Fault (List UInt8)
  | high :: low :: rest =>
    match value? high, value? low with
    | some h, some l => (decodeFrom (position + 2) rest).map (UInt8.ofNat (16 * h + l) :: ·)
    | none, _ => .error (.badDigit high position)
    | some _, none => .error (.badDigit low (position + 1))
  | _ => .ok []

def decode (s : String) : Except Fault (List UInt8) :=
  let bytes := Utf8.encode s
  if bytes.length % 2 = 1 then .error .oddLength else decodeFrom 0 bytes

end Lockbox.Hex
