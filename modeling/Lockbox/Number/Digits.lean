/-!
# Decimal digits

Reading digits off the head of a text, and the number that digits denote.
-/

namespace Lockbox.Digits

def value? (c : Char) : Option Nat :=
  if '0' ≤ c ∧ c ≤ '9' then some (c.toNat - 48) else none

/-- The digits at the head of a text and what follows them. -/
def span : List Char → List Nat × List Char
  | [] => ([], [])
  | c :: rest =>
    match value? c with
    | some d => (d :: (span rest).1, (span rest).2)
    | none => ([], c :: rest)

def toNat (ds : List Nat) : Nat := ds.foldl (fun n d => n * 10 + d) 0

/-- The sign at the head of a text; `true` for minus. -/
def minus : List Char → Bool × List Char
  | '-' :: rest => (true, rest)
  | rest => (false, rest)

/-- The sign at the head of a text, where a plus may be written; `true` for minus. -/
def sign : List Char → Bool × List Char
  | '+' :: rest => (false, rest)
  | rest => minus rest

end Lockbox.Digits
