import Lockbox.Number.Digits
import Lockbox.Number.Shortest
import Lockbox.Number.Word
import Lockbox.Text.Case

/-!
# Values of settings

The text of a setting is taken for a truth value, a whole number of 64 bits or a floating point
number if it can be, and for a text otherwise. Where a text is wanted, the value is written out
again, which need not give the text it was read from. A setting that only has members or elements is
neither a truth value nor a text.
-/

namespace Lockbox

/-- What a setting is given: what its text stands for, or parts of it. -/
inductive SettingValue where
  | truth (value : Bool)
  | whole (value : Int)
  | real (value : Binary64)
  | text (value : String)
  | members
  | elements
  deriving DecidableEq

/-- What a value is that is not of the kind that is wanted. -/
inductive Mismatch where
  | text (value : String)
  | members
  | elements
  deriving DecidableEq

namespace SettingValue

/-- Numbers are written without exponent and, if whole, without a point. A tie between digits goes
to the larger one. -/
def numberLayout : Binary64.Layout where
  tie := .upward
  isPlain _ := true
  wholeMark := ""
  infinity := "inf"
  nan := "NaN"

/-- The truth value that a text spells, in any case. -/
def readTruth? (s : String) : Option Bool :=
  let lowered := Text.lowerCase s
  if lowered = "true" then some true
  else if lowered = "false" then some false
  else none

def readWhole? (s : String) : Option Int :=
  let (negative, rest) := Digits.sign s.toList
  match Digits.span rest with
  | (d :: ds, []) =>
    let n := Digits.toNat (d :: ds)
    if negative then (if n ≤ Word.signedBound then some (-n) else none)
    else if n < Word.signedBound then some n else none
  | _ => none

/-- The digits after a point, if there is a point, and what follows. -/
def fraction : List Char → List Nat × List Char
  | '.' :: rest => Digits.span rest
  | rest => ([], rest)

/-- The exponent that a text ends with; none counts as zero. -/
def exponent? : List Char → Option Int
  | [] => some 0
  | c :: rest =>
    if c = 'e' ∨ c = 'E' then
      let (negative, rest) := Digits.sign rest
      match Digits.span rest with
      | (d :: ds, []) =>
        let n : Int := Digits.toNat (d :: ds)
        some (if negative then -n else n)
      | _ => none
    else none

/-- Decimal exponents beyond this lead to zero or infinity. -/
def farExponent : Int := 400

/-- The number nearest to `digits * 10 ^ exponent`, also for exponents far out. -/
def nearest (negative : Bool) (digits : Nat) (exponent : Int) : Binary64 :=
  let lead := exponent + (Nat.toDigits 10 digits).length
  if digits = 0 then .zero negative
  else if farExponent < lead then .infinite negative
  else if lead < -farExponent then .zero negative
  else .ofDecimal negative digits exponent

/-- The floating point number that the characters after a sign spell in digits. -/
def readDecimal? (negative : Bool) (cs : List Char) : Option Binary64 :=
  let (before, rest) := Digits.span cs
  let (after, rest) := fraction rest
  if before.isEmpty && after.isEmpty then none
  else
    (exponent? rest).map fun e =>
      nearest negative (Digits.toNat (before ++ after)) (e - after.length)

/-- The floating point number that a text spells, in digits or by a word in any case. -/
def readReal? (s : String) : Option Binary64 :=
  let (negative, rest) := Digits.sign s.toList
  let word := Text.lowerAscii (String.ofList rest)
  if word = "inf" ∨ word = "infinity" then some (.infinite negative)
  else if word = "nan" then some .nan
  else readDecimal? negative rest

def ofText (s : String) : SettingValue :=
  match readTruth? s with
  | some b => .truth b
  | none =>
    match readWhole? s with
    | some n => .whole n
    | none =>
      match readReal? s with
      | some x => .real x
      | none => .text s

def toText : SettingValue → Except Mismatch String
  | .truth b => .ok (if b then "true" else "false")
  | .whole n => .ok (toString n)
  | .real x => .ok (numberLayout.render x)
  | .text s => .ok s
  | .members => .error .members
  | .elements => .error .elements

def yesWords : List String := ["1", "true", "on", "yes"]

def noWords : List String := ["0", "false", "off", "no"]

/-- The value as a truth value. A text that stands for none is reported in lower case. -/
def toTruth : SettingValue → Except Mismatch Bool
  | .truth b => .ok b
  | .whole n => .ok (n != 0)
  | .real x => .ok !x.isZero
  | .text s =>
    let lowered := Text.lowerCase s
    if lowered ∈ yesWords then .ok true
    else if lowered ∈ noWords then .ok false
    else .error (.text lowered)
  | .members => .error .members
  | .elements => .error .elements

end SettingValue

end Lockbox
