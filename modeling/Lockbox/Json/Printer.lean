import Lockbox.Json.Basic
import Lockbox.Number.Shortest

/-!
# Writing JSON

Two forms: compact, without a blank, and indented by two spaces a level, where an empty array or
object stays on its line. Members are written in the order in which they stand.
-/

namespace Lockbox.Json

/-- Numbers keep a fraction or an exponent, so that they read back as floating point; exponents are
written below `10 ^ -5` and from `10 ^ 16` on, and a tie between digits goes to the even one. There
is no spelling for what is not finite. -/
def numberLayout : Binary64.Layout where
  tie := .toEven
  isPlain lead := -5 ≤ lead && lead ≤ 15
  wholeMark := ".0"
  infinity := "null"
  nan := "null"

def printReal (x : Binary64) : String := numberLayout.render x

/-- A control character by its number, in four digits. -/
def printControl (c : Char) : List Char :=
  ['\\', 'u', '0', '0', Nat.digitChar (c.toNat / 16), Nat.digitChar (c.toNat % 16)]

def printChar (c : Char) : List Char :=
  match c with
  | '\x22' => ['\\', '\x22']
  | '\\' => ['\\', '\\']
  | '\n' => ['\\', 'n']
  | '\r' => ['\\', 'r']
  | '\t' => ['\\', 't']
  | '\x08' => ['\\', 'b']
  | '\x0c' => ['\\', 'f']
  | c => if c.toNat < 0x20 then printControl c else [c]

def printString (s : String) : List Char :=
  '\x22' :: (s.toList.flatMap printChar ++ ['\x22'])

def printScalar : Json → List Char
  | .null => ['n', 'u', 'l', 'l']
  | .bool true => ['t', 'r', 'u', 'e']
  | .bool false => ['f', 'a', 'l', 's', 'e']
  | .integer n => (toString n).toList
  | .real x => (printReal x).toList
  | .string s => printString s
  | .array _ => []
  | .object _ => []

def commaSeparated : List (List Char) → List Char
  | [] => []
  | [piece] => piece
  | piece :: rest => piece ++ ',' :: commaSeparated rest

mutual

def compactChars : Json → List Char
  | .array items => '[' :: (commaSeparated (compactItems items) ++ [']'])
  | .object members => '\x7b' :: (commaSeparated (compactMembers members) ++ ['\x7d'])
  | scalar => printScalar scalar

def compactItems : List Json → List (List Char)
  | [] => []
  | item :: rest => compactChars item :: compactItems rest

def compactMembers : List (String × Json) → List (List Char)
  | [] => []
  | (name, value) :: rest =>
    (printString name ++ ':' :: compactChars value) :: compactMembers rest

end

/-- A line end and the indentation of a level. -/
def newLine (level : Nat) : List Char := '\n' :: List.replicate (2 * level) ' '

/-- Pieces on lines of their own between two brackets, which stand at `level`. -/
def block (level : Nat) (opening closing : Char) (pieces : List (List Char)) : List Char :=
  if pieces.isEmpty then [opening, closing]
  else
    opening :: (commaSeparated (pieces.map (newLine (level + 1) ++ ·)) ++
      newLine level ++ [closing])

mutual

/-- The indented form of a value that stands at `level`. -/
def prettyChars (level : Nat) : Json → List Char
  | .array items => block level '[' ']' (prettyItems (level + 1) items)
  | .object members => block level '\x7b' '\x7d' (prettyMembers (level + 1) members)
  | scalar => printScalar scalar

def prettyItems (level : Nat) : List Json → List (List Char)
  | [] => []
  | item :: rest => prettyChars level item :: prettyItems level rest

def prettyMembers (level : Nat) : List (String × Json) → List (List Char)
  | [] => []
  | (name, value) :: rest =>
    (printString name ++ ':' :: ' ' :: prettyChars level value) :: prettyMembers level rest

end

def compact (j : Json) : String := String.ofList (compactChars j)

def pretty (j : Json) : String := String.ofList (prettyChars 0 j)

end Lockbox.Json
