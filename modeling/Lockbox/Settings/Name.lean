import Lockbox.Number.Digits
import Lockbox.Number.Word

/-!
# Names of settings

The name of a variable is that of a setting, or leads into one: to a member by a point and its name,
to an element by its number in brackets, any number of times (`name.member[3]`). A name that is not
of this form is the name of a setting as it stands.
-/

namespace Lockbox

/-- A step into a setting. -/
inductive Inward where
  | member (name : String)
  | element (index : Int)
  deriving DecidableEq

/-- A setting and the steps into it. -/
structure SettingName where
  setting : String
  inner : List Inward
  deriving DecidableEq

namespace SettingName

/-- What plain names are made of. -/
def isPlain (c : Char) : Bool := c.isAlphanum || c = ' ' || c = '_' || c = '-'

/-- The number at the head of a text that closes a bracket, and what follows the bracket. -/
def index? (cs : List Char) : Option (Int × List Char) :=
  let (negative, rest) := Digits.minus cs
  match Digits.span rest with
  | (d :: ds, ']' :: rest) =>
    let n := Digits.toNat (d :: ds)
    if negative then (if n ≤ Word.signedBound then some (-n, rest) else none)
    else if n < Word.signedBound then some (n, rest) else none
  | _ => none

/-- The step at the head of a text and what follows it. -/
def step? : List Char → Option (Inward × List Char)
  | '.' :: rest =>
    let name := rest.takeWhile isPlain
    if name.isEmpty then none
    else some (.member (String.ofList name), rest.drop name.length)
  | '[' :: rest => (index? rest).map fun (n, rest) => (.element n, rest)
  | _ => none

/-- The steps that a text consists of, at most `count` of them. -/
def steps? : Nat → List Char → Option (List Inward)
  | _, [] => some []
  | 0, _ :: _ => none
  | count + 1, cs => do
    let (first, rest) ← step? cs
    return first :: (← steps? count rest)

/-- The setting that a name leads into. -/
def parse (s : String) : SettingName :=
  let head := s.toList.takeWhile isPlain
  let rest := s.toList.drop head.length
  match head, steps? rest.length rest with
  | _ :: _, some inner => ⟨String.ofList head, inner⟩
  | _, _ => ⟨s, []⟩

end SettingName

end Lockbox
