import Lockbox.Json.Basic
import Lockbox.Number.Digits
import Lockbox.Number.Word

/-!
# Numbers in JSON text

`Numeral.scan?` takes a number apart at the head of a text, `Numeral.value?` gives its value. An
integer that fits 64 bits is exact. Any other number is a significand of at most 64 bits, made of
the leading digits, times a power of ten, both rounded to double precision before they are combined;
it has no value if it is too large for that precision.
-/

namespace Lockbox.Json

/-- The parts of a number: sign, digits before the point, digits after it (none if there is no
point) and a signed exponent. -/
structure Numeral where
  negative : Bool
  whole : List Nat
  fraction : Option (List Nat)
  exponent : Option (Bool × List Nat)

namespace Numeral

/-! ### Taking a number apart -/

/-- The digits before the point: at least one, and no zero in front of others. -/
def scanWhole? (cs : List Char) : Option (List Nat × List Char) :=
  match Digits.span cs with
  | ([], _) => none
  | (0 :: _ :: _, _) => none
  | found => some found

/-- A point and at least one digit, if there is a point. -/
def scanFraction? : List Char → Option (Option (List Nat) × List Char)
  | '.' :: rest =>
    match Digits.span rest with
    | ([], _) => none
    | (ds, rest) => some (some ds, rest)
  | rest => some (none, rest)

/-- An exponent of at least one digit, if there is an exponent mark. -/
def scanExponent? : List Char → Option (Option (Bool × List Nat) × List Char)
  | [] => some (none, [])
  | c :: rest =>
    if c = 'e' ∨ c = 'E' then
      match Digits.span (Digits.sign rest).2 with
      | ([], _) => none
      | (ds, after) => some (some ((Digits.sign rest).1, ds), after)
    else some (none, c :: rest)

/-- The number at the head of a text and what follows it. -/
def scan? (cs : List Char) : Option (Numeral × List Char) := do
  let (whole, rest) ← scanWhole? (Digits.minus cs).2
  let (fraction, rest) ← scanFraction? rest
  let (exponent, rest) ← scanExponent? rest
  some (⟨(Digits.minus cs).1, whole, fraction, exponent⟩, rest)

/-! ### The value of a number -/

/-- Append digits to a significand as long as it fits a word; the digits that found no room are
returned. -/
def accumulate (significand : Nat) : List Nat → Nat × List Nat
  | [] => (significand, [])
  | d :: ds =>
    if significand * 10 + d < Word.unsignedBound then accumulate (significand * 10 + d) ds
    else (significand, d :: ds)

/-- The largest power of ten that one step multiplies or divides by. -/
def maxStep : Int := 308

/-- A magnitude times `10 ^ exponent`, if it is not too large. A power of ten outside double
precision is applied in steps when it divides, and is too large when it multiplies. -/
def scale? (x : Binary64) (exponent : Int) : Option Binary64 :=
  if exponent < -maxStep then
    if x.isZero then some x else scale? (x.div (.ofDecimal false 1 maxStep)) (exponent + maxStep)
  else if exponent < 0 then some (x.div (.ofDecimal false 1 (-exponent)))
  else if exponent ≤ maxStep then
    let product := x.mul (.ofDecimal false 1 exponent)
    if product.isInfinite then none else some product
  else if x.isZero then some x
  else none
termination_by (-exponent).toNat
decreasing_by simp only [maxStep] at *; omega

/-- Exponents beyond this are not computed with. -/
def maxExponent : Nat := 0x7fffffff

/-- The magnitude of a number that is no exact integer: `significand * 10 ^ shift` before its
exponent is applied. -/
def magnitude? (significand : Nat) (shift : Int) : Option (Bool × List Nat) → Option Binary64
  | none => scale? (.ofNat significand) shift
  | some (negative, ds) =>
    let size := Digits.toNat ds
    if size ≤ maxExponent then
      scale? (.ofNat significand) (if negative then shift - size else shift + size)
    else if negative || significand == 0 then some (.zero false)
    else none

/-- A whole number without exponent. Zero with a sign and what is below the signed 64-bit numbers
are floating point. -/
def wholeValue (negative : Bool) (n : Nat) : Json :=
  if negative then
    if n = 0 ∨ Word.signedBound < n then .real (Binary64.ofNat n).negate else .integer (-n)
  else .integer n

def value? (n : Numeral) : Option Json :=
  let (significand, excess) := accumulate 0 n.whole
  if n.fraction.isNone && n.exponent.isNone && excess.isEmpty then
    some (wholeValue n.negative significand)
  else
    let fraction := n.fraction.getD []
    let (significand, unused) := accumulate significand fraction
    let shift : Int := excess.length - (fraction.length - unused.length : Nat)
    (magnitude? significand shift n.exponent).map fun x =>
      .real (if n.negative then x.negate else x)

end Numeral

end Lockbox.Json
