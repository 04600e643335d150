import Lockbox.Number.Binary64

/-!
# JSON values

A number is an integer when it is written as one and fits 64 bits, and a floating point number
otherwise. The members of an object that was read stand in the order of their names, each name
once; an object that is to be written keeps the order it was given.
-/

namespace Lockbox

inductive Json where
  | null
  | bool (value : Bool)
  | integer (value : Int)
  | real (value : Binary64)
  | string (value : String)
  | array (items : List Json)
  | object (members : List (String × Json))
  deriving Inhabited

namespace Json

/-- Put a member at its place among members sorted by name; a member of that name gives way. -/
def insertMember (name : String) (value : Json) :
    List (String × Json) → List (String × Json)
  | [] => [(name, value)]
  | (other, old) :: rest =>
    if name = other then (name, value) :: rest
    else if name < other then (name, value) :: (other, old) :: rest
    else (other, old) :: insertMember name value rest

/-- Sort members by name. Of several members of one name the last counts. -/
def sortMembers (members : List (String × Json)) : List (String × Json) :=
  members.foldl (fun sorted m => insertMember m.1 m.2 sorted) []

def member? (name : String) (members : List (String × Json)) : Option Json :=
  (members.find? (·.1 == name)).map (·.2)

end Json

end Lockbox
