import Lockbox.Number.Binary64

/-!
# Shortest decimal text of a number

`Binary64.shortest` finds the coarsest decimal grid that has a point among the reals that round to a
number, and on it the point nearest to the number: no shorter decimal reads back, and of those as
short none is nearer. A `Layout` says how the digits are set: which of two points equally near is
taken, where plain notation ends, whether a whole number keeps a fraction and how the special values
are spelled.
-/

namespace Lockbox

namespace Binary64

/-- The reals that round to a finite number, and the number itself, as multiples of
`2 ^ (exponent - 2)`. The ends belong to it when the significand is even. -/
structure Interval where
  low : Nat
  center : Nat
  high : Nat
  closed : Bool
  exponent : Int

/-- The interval of a positive number. Below a power of two the numbers lie half as far apart. -/
def interval (significand : Nat) (exponent : Int) : Interval :=
  let gap := if significand = leastFull ∧ leastExponent < exponent then 1 else 2
  { low := 4 * significand - gap
    center := 4 * significand
    high := 4 * significand + 2
    closed := significand % 2 == 0
    exponent := exponent - 2 }

/-- Which of two neighbouring points is taken when the number lies halfway between them. -/
inductive Tie where
  | toEven
  | upward
  deriving DecidableEq

/-- The choice between a point and the next one. -/
def Tie.choose : Tie → Nat → Nat
  | .toEven, below => if below % 2 = 0 then below else below + 1
  | .upward, below => below + 1

/-- The point nearest to the number among the two neighbours that the grid of `10 ^ scale` has
around it, of those that read back. -/
def Interval.pointOn? (i : Interval) (tie : Tie) (scale : Int) : Option Nat :=
  let two := powerOfTwo i.exponent
  let ten := powerOfTen scale
  -- `point n` and `bound x` bring grid points and multiples of the unit to one denominator
  let point := fun n : Nat => n * (ten.1 * two.2)
  let bound := fun x : Nat => x * (two.1 * ten.2)
  let inside := fun n : Nat =>
    if i.closed then decide (bound i.low ≤ point n ∧ point n ≤ bound i.high)
    else decide (bound i.low < point n ∧ point n < bound i.high)
  let below := bound i.center / (ten.1 * two.2)
  match inside below, inside (below + 1) with
  | true, true =>
    match compare (bound i.center - point below) (point (below + 1) - bound i.center) with
    | .lt => some below
    | .eq => some (tie.choose below)
    | .gt => some (below + 1)
  | true, false => some below
  | false, true => some (below + 1)
  | false, false => none

/-- The coarsest grid from `scale + steps - 1` down to `scale` that has a point, and the point. -/
def Interval.search (i : Interval) (tie : Tie) (scale : Int) : Nat → Option (Nat × Int)
  | 0 => none
  | steps + 1 =>
    match i.pointOn? tie (scale + steps) with
    | some point => some (point, scale + steps)
    | none => i.search tie scale steps

/-- The shortest decimal `digits * 10 ^ scale` that reads back as a positive number. -/
def shortest (tie : Tie) (significand : Nat) (exponent : Int) : Nat × Int :=
  ((interval significand exponent).search tie (-324) 634).getD (0, 0)

/-- How the digits of a number are set. -/
structure Layout where
  tie : Tie
  /-- The exponents of the first digit for which no exponent is written. -/
  isPlain : Int → Bool
  /-- What follows the last digit of a whole number in plain notation. -/
  wholeMark : String
  infinity : String
  nan : String

def zeros (n : Nat) : String := String.ofList (List.replicate n '0')

/-- Digits without exponent; the first digit stands for `10 ^ lead`. -/
def plainText (mark digits : String) (lead : Int) : String :=
  if lead < 0 then "0." ++ zeros (-lead - 1).toNat ++ digits
  else
    let whole := lead.toNat + 1
    if digits.length ≤ whole then digits ++ zeros (whole - digits.length) ++ mark
    else String.ofList (digits.toList.take whole) ++ "." ++ String.ofList (digits.toList.drop whole)

/-- One digit, a fraction if there are more, and a signed exponent. -/
def exponentText (digits : String) (lead : Int) : String :=
  let fraction := digits.toList.drop 1
  String.ofList (digits.toList.take 1) ++
    (if fraction.isEmpty then "" else "." ++ String.ofList fraction) ++ "e" ++
    (if lead < 0 then "-" else "+") ++ toString lead.natAbs

def Layout.magnitude (layout : Layout) (significand : Nat) (exponent : Int) : String :=
  if significand = 0 then "0" ++ layout.wholeMark
  else
    let decimal := shortest layout.tie significand exponent
    let digits := toString decimal.1
    let lead := decimal.2 + digits.length - 1
    if layout.isPlain lead then plainText layout.wholeMark digits lead
    else exponentText digits lead

def Layout.render (layout : Layout) : Binary64 → String
  | .finite negative significand exponent =>
    (if negative then "-" else "") ++ layout.magnitude significand exponent
  | .infinite negative => (if negative then "-" else "") ++ layout.infinity
  | .nan => layout.nan

end Binary64

end Lockbox
