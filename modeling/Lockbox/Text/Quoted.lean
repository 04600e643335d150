import Lockbox.Text.Quoted.Hidden

/-!
# Quoted texts

A text shown inside a message stands in double quotes. The quote, the backslash, line ends, tabs and
the NUL have short escapes; a character without a visible form of its own is written by its number
in braces.
-/

namespace Lockbox.Text

def numbered (c : Char) : List Char :=
  ['\\', 'u', '\x7b'] ++ Nat.toDigits 16 c.toNat ++ ['\x7d']

/-- A character that has no short escape. -/
def quotePlain (c : Char) : List Char :=
  if 0x20 ≤ c.toNat ∧ c.toNat < 0x7f then [c]
  else if hiddenRanges.contains c then numbered c
  else [c]

/-- A character inside quotes of the kind `mark`. -/
def quoteChar (mark c : Char) : List Char :=
  if c = mark then ['\\', c]
  else
    match c with
    | '\\' => ['\\', '\\']
    | '\n' => ['\\', 'n']
    | '\r' => ['\\', 'r']
    | '\t' => ['\\', 't']
    | '\x00' => ['\\', '0']
    | _ => quotePlain c

def quoted (s : String) : String :=
  String.ofList ('\x22' :: (s.toList.flatMap (quoteChar '\x22') ++ ['\x22']))

def quotedChar (c : Char) : String :=
  String.ofList ('\x27' :: (quoteChar '\x27' c ++ ['\x27']))

/-- A text of which nothing is shown. -/
def redacted : String := quoted "[REDACTED]"

end Lockbox.Text
