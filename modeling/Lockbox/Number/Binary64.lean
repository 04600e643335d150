/-!
# Binary floating point

Double precision numbers as exact values: a finite number is a sign, a significand below `2 ^ 53`
and a power of two. Every operation here computes the exact quotient or product and rounds it once,
to the nearest number and to the even significand when two are equally near.
-/

namespace Lockbox

inductive Binary64 where
  /-- The number `significand * 2 ^ exponent`, negated if `negative`. -/
  | finite (negative : Bool) (significand : Nat) (exponent : Int)
  | infinite (negative : Bool)
  | nan
  deriving DecidableEq

namespace Binary64

/-- The exponent of the finest grid of numbers. -/
def leastExponent : Int := -1074

/-- The exponent of the coarsest grid of numbers. -/
def greatestExponent : Int := 971

/-- The least significand of 53 bits, `2 ^ 52`. -/
def leastFull : Nat := 0x10000000000000

def zero (negative : Bool) : Binary64 := .finite negative 0 leastExponent

def isZero : Binary64 → Bool
  | .finite _ significand _ => significand == 0
  | _ => false

def isInfinite : Binary64 → Bool
  | .infinite _ => true
  | _ => false

def negate : Binary64 → Binary64
  | .finite negative significand exponent => .finite (!negative) significand exponent
  | .infinite negative => .infinite (!negative)
  | .nan => .nan

def powerOfTwo (exponent : Int) : Nat × Nat :=
  (Nat.pow 2 exponent.toNat, Nat.pow 2 (-exponent).toNat)

def powerOfTen (exponent : Int) : Nat × Nat :=
  (Nat.pow 10 exponent.toNat, Nat.pow 10 (-exponent).toNat)

/-- The quotient rounded to the nearest integer, a half to the even one. -/
def roundHalfEven (numerator denominator : Nat) : Nat :=
  let whole := numerator / denominator
  let rest := numerator % denominator
  if 2 * rest < denominator ∨ (2 * rest = denominator ∧ whole % 2 = 0) then whole else whole + 1

/-- How often the quotient holds two to the power `exponent`, rounded. -/
def onGrid (numerator denominator : Nat) (exponent : Int) : Nat :=
  let unit := powerOfTwo exponent
  roundHalfEven (numerator * unit.2) (denominator * unit.1)

/-- The exponent of the grid on which a positive quotient has 53 significant bits, or the finest
grid. -/
def gridOf (numerator denominator : Nat) : Int :=
  let guess : Int := (numerator.log2 : Int) - (denominator.log2 : Int) - 52
  let unit := powerOfTwo guess
  let full := decide (leastFull * (denominator * unit.1) ≤ numerator * unit.2)
  max leastExponent (if full then guess else guess - 1)

def ofRatio (negative : Bool) (numerator denominator : Nat) : Binary64 :=
  if numerator = 0 then zero negative
  else
    let exponent := gridOf numerator denominator
    let significand := onGrid numerator denominator exponent
    let carried := significand = 2 * leastFull
    let exponent := if carried then exponent + 1 else exponent
    let significand := if carried then leastFull else significand
    if exponent > greatestExponent then .infinite negative
    else .finite negative significand exponent

def ofNat (n : Nat) : Binary64 := ofRatio false n 1

/-- The number nearest to `digits * 10 ^ exponent`. -/
def ofDecimal (negative : Bool) (digits : Nat) (exponent : Int) : Binary64 :=
  let unit := powerOfTen exponent
  ofRatio negative (digits * unit.1) unit.2

/-- The magnitude of a finite number as a numerator and a denominator. -/
def magnitude (significand : Nat) (exponent : Int) : Nat × Nat :=
  let unit := powerOfTwo exponent
  (significand * unit.1, unit.2)

def mul : Binary64 → Binary64 → Binary64
  | .finite n₁ s₁ e₁, .finite n₂ s₂ e₂ =>
    let a := magnitude s₁ e₁
    let b := magnitude s₂ e₂
    ofRatio (n₁ != n₂) (a.1 * b.1) (a.2 * b.2)
  | _, _ => .nan

/-- The quotient of a finite number by a finite number other than zero. -/
def div : Binary64 → Binary64 → Binary64
  | .finite n₁ s₁ e₁, .finite n₂ s₂ e₂ =>
    let a := magnitude s₁ e₁
    let b := magnitude s₂ e₂
    ofRatio (n₁ != n₂) (a.1 * b.2) (a.2 * b.1)
  | _, _ => .nan

end Binary64

end Lockbox
