import Lockbox.Json.Numeral

/-!
# Reading JSON

A strict reader: one value and nothing after it, no trailing commas, no control characters inside
strings, no half of a surrogate pair, and at most 127 arrays and objects inside each other.
-/

namespace Lockbox.Json

def isGap (c : Char) : Bool := c = ' ' || c = '\n' || c = '\r' || c = '\t'

def skipGap (cs : List Char) : List Char := cs.dropWhile isGap

/-! ### Strings -/

def hexDigit? (c : Char) : Option Nat :=
  if '0' ≤ c ∧ c ≤ '9' then some (c.toNat - 48)
  else if 'a' ≤ c ∧ c ≤ 'f' then some (c.toNat - 87)
  else if 'A' ≤ c ∧ c ≤ 'F' then some (c.toNat - 55)
  else none

/-- The number that four hexadecimal digits denote. -/
def unit? (a b c d : Char) : Option Nat := do
  let a ← hexDigit? a
  let b ← hexDigit? b
  let c ← hexDigit? c
  let d ← hexDigit? d
  some (((a * 16 + b) * 16 + c) * 16 + d)

/-- The character that a letter after a backslash stands for. -/
def shortEscape? (c : Char) : Option Char :=
  match c with
  | '\x22' => some '\x22'
  | '\\' => some '\\'
  | '/' => some '/'
  | 'b' => some '\x08'
  | 'f' => some '\x0c'
  | 'n' => some '\n'
  | 'r' => some '\r'
  | 't' => some '\t'
  | _ => none

/-- The code point of a surrogate pair. -/
def pairValue? (high low : Nat) : Option Nat :=
  if 0xdc00 ≤ low ∧ low < 0xe000 then some (0x10000 + (high - 0xd800) * 0x400 + (low - 0xdc00))
  else none

/-- What follows the backslash of an escape, read: a character and the rest of the text. -/
def escape? : List Char → Option (Char × List Char)
  | 'u' :: a :: b :: c :: d :: rest => do
    let first ← unit? a b c d
    if 0xd800 ≤ first ∧ first < 0xdc00 then
      match rest with
      | '\\' :: 'u' :: e :: f :: g :: h :: rest => do
        let second ← unit? e f g h
        let code ← pairValue? first second
        some (Char.ofNat code, rest)
      | _ => none
    else if 0xdc00 ≤ first ∧ first < 0xe000 then none
    else some (Char.ofNat first, rest)
  | c :: rest => (shortEscape? c).map (·, rest)
  | [] => none

/-- The characters of a string up to its closing quote, in at most `fuel` steps, and the rest of the
text. -/
def stringBody? : Nat → List Char → Option (List Char × List Char)
  | 0, _ => none
  | _ + 1, [] => none
  | fuel + 1, c :: rest =>
    if c = '\x22' then some ([], rest)
    else if c = '\\' then do
      let (d, rest) ← escape? rest
      let (cs, rest) ← stringBody? fuel rest
      some (d :: cs, rest)
    else if c.toNat < 0x20 then none
    else do
      let (cs, rest) ← stringBody? fuel rest
      some (c :: cs, rest)

/-- A string whose opening quote was read. -/
def string? (cs : List Char) : Option (String × List Char) :=
  (stringBody? cs.length cs).map fun (body, rest) => (String.ofList body, rest)

/-! ### Values -/

/-- One or more items with commas between them, up to the closing bracket, in at most `fuel`
steps. -/
def series? (item : List Char → Option (α × List Char)) (closing : Char) :
    Nat → List Char → Option (List α × List Char)
  | 0, _ => none
  | fuel + 1, cs => do
    let (a, rest) ← item cs
    match skipGap rest with
    | [] => none
    | c :: rest =>
      if c = ',' then do
        let (as, rest) ← series? item closing fuel rest
        some (a :: as, rest)
      else if c = closing then some ([a], rest)
      else none

/-- What follows an opening bracket: nothing or a series, and the closing bracket. -/
def enclosed? (item : List Char → Option (α × List Char)) (closing : Char) (cs : List Char) :
    Option (List α × List Char) :=
  match skipGap cs with
  | [] => none
  | c :: rest => if c = closing then some ([], rest) else series? item closing cs.length cs

/-- A member of an object, given how its value is read. -/
def member (value : List Char → Option (Json × List Char)) (cs : List Char) :
    Option ((String × Json) × List Char) :=
  match skipGap cs with
  | '\x22' :: rest => do
    let (name, rest) ← string? rest
    match skipGap rest with
    | ':' :: rest => do
      let (v, rest) ← value rest
      some ((name, v), rest)
    | _ => none
  | _ => none

/-- The value at the head of a text, with at most `depth` arrays and objects inside each other, and
the rest of the text. -/
def value? (depth : Nat) (cs : List Char) : Option (Json × List Char) :=
  match skipGap cs with
  | 'n' :: 'u' :: 'l' :: 'l' :: rest => some (.null, rest)
  | 't' :: 'r' :: 'u' :: 'e' :: rest => some (.bool true, rest)
  | 'f' :: 'a' :: 'l' :: 's' :: 'e' :: rest => some (.bool false, rest)
  | '\x22' :: rest => (string? rest).map fun (s, rest) => (.string s, rest)
  | '[' :: rest =>
    match depth with
    | 0 => none
    | depth + 1 => (enclosed? (value? depth) ']' rest).map fun (items, rest) => (.array items, rest)
  | '\x7b' :: rest =>
    match depth with
    | 0 => none
    | depth + 1 =>
      (enclosed? (member (value? depth)) '\x7d' rest).map fun (members, rest) =>
        (.object (sortMembers members), rest)
  | cs => do
    let (numeral, rest) ← Numeral.scan? cs
    let v ← numeral.value?
    some (v, rest)

def maxDepth : Nat := 127

/-- The value that a text denotes, if it is JSON. -/
def parse? (s : String) : Option Json :=
  match value? maxDepth s.toList with
  | some (v, rest) => if (skipGap rest).isEmpty then some v else none
  | none => none

end Lockbox.Json
