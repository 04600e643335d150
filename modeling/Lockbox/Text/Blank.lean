import Lockbox.Text.CharRanges

/-!
# Blank characters

Blank means the Unicode property `White_Space`. A text is trimmed by dropping the blank characters
at both of its ends; a text of nothing else is blank.
-/

namespace Lockbox.Text

/-- The code points of `White_Space`. -/
def blankRanges : CharRanges :=
  [(0x9, 0xd), (0x20, 0x20), (0x85, 0x85), (0xa0, 0xa0), (0x1680, 0x1680), (0x2000, 0x200a),
   (0x2028, 0x2029), (0x202f, 0x202f), (0x205f, 0x205f), (0x3000, 0x3000)]

def isBlankChar (c : Char) : Bool := blankRanges.contains c

def trimEnd (cs : List Char) : List Char := (cs.reverse.dropWhile isBlankChar).reverse

def trim (s : String) : String := String.ofList (trimEnd (s.toList.dropWhile isBlankChar))

def isBlank (s : String) : Bool := s.toList.all isBlankChar

end Lockbox.Text
