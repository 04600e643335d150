import Lockbox.Text.Case.Table

/-!
# Lower case

`lowerCase` is full lower-casing: each letter goes to its lower-case form, the dotted capital I to
two characters, and a capital sigma at the end of a word to the final sigma. `sameIgnoringCase`
compares texts with the ASCII letters alone folded.
-/

namespace Lockbox.Text

/-- The lower-case form of a character standing alone. -/
def lowerChar (c : Char) : List Char :=
  if c.toNat < 0x80 then [c.toLower]
  else if c = 'İ' then ['i', '\u0307']
  else
    match lowerRuns.find? fun r => r.first ≤ c.toNat && c.toNat ≤ r.last &&
        (c.toNat - r.first) % r.step == 0 with
    | some r => [Char.ofNat (c.toNat + r.offset).toNat]
    | none => [c]

/-- Whether a cased letter follows, characters that do not interrupt a word left aside. -/
def reachesCased (cs : List Char) : Bool :=
  match cs.dropWhile caseIgnorableRanges.contains with
  | c :: _ => casedRanges.contains c
  | [] => false

/-- Lower-case `cs`, which stands after the reversed text `before`. A capital sigma ends a word when
a cased letter comes before it and none after it. -/
def lowerAfter (before : List Char) : List Char → List Char
  | [] => []
  | c :: rest =>
    (if c = 'Σ' then
      if reachesCased before && !reachesCased rest then ['ς'] else ['σ']
    else lowerChar c) ++ lowerAfter (c :: before) rest

def lowerCase (s : String) : String := String.ofList (lowerAfter [] s.toList)

def lowerAscii (s : String) : String := String.ofList (s.toList.map Char.toLower)

def sameIgnoringCase (s t : String) : Bool := lowerAscii s == lowerAscii t

end Lockbox.Text
