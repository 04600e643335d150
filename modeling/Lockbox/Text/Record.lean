import Lockbox.Text.Quoted

/-!
# Records shown to people

A record is shown as its type's name and its fields in braces, an optional text as `None` or `Some`,
a list in brackets. Values are given already in words.
-/

namespace Lockbox.Text

def listed (items : List String) : String := String.intercalate ", " items

def record (name : String) (fields : List (String × String)) : String :=
  name ++ " \x7b " ++ listed (fields.map fun f => f.1 ++ ": " ++ f.2) ++ " \x7d"

def bracketed (items : List String) : String := "[" ++ listed items ++ "]"

/-- An optional text, quoted. -/
def optional : Option String → String
  | none => "None"
  | some s => "Some(" ++ quoted s ++ ")"

def truth (b : Bool) : String := if b then "true" else "false"

end Lockbox.Text
