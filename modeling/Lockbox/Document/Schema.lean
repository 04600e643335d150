import Lockbox.Json.Printer
import Lockbox.Secret
import Lockbox.Text.Quoted

/-!
# Reading records from JSON

A record of a secret is an object with known members, others being ignored, or an array of their
values in order. What is absent takes its default. Members are looked at in the order of their
names, and the first that does not fit is reported.
-/

namespace Lockbox

/-- What a value is, with the little of it that a message shows. -/
inductive Json.Shape where
  | null
  | bool (value : Bool)
  | integer (value : Int)
  | real (value : Binary64)
  | string (value : String)
  | sequence
  | map
  deriving DecidableEq

def Json.shape : Json → Json.Shape
  | .null => .null
  | .bool b => .bool b
  | .integer n => .integer n
  | .real x => .real x
  | .string s => .string s
  | .array _ => .sequence
  | .object _ => .map

def Json.Shape.message : Json.Shape → String
  | .null => "null"
  | .bool b => "boolean `" ++ Text.truth b ++ "`"
  | .integer n => "integer `" ++ toString n ++ "`"
  | .real x => "floating point `" ++ Json.printReal x ++ "`"
  | .string s => "string " ++ Text.quoted s
  | .sequence => "sequence"
  | .map => "map"

/-- What a place in a document calls for. -/
inductive Wanted where
  | text
  | truth
  | sequence
  | secret
  deriving DecidableEq

def Wanted.message : Wanted → String
  | .text => "a string"
  | .truth => "a boolean"
  | .sequence => "a sequence"
  | .secret => "struct Secret"

/-- How a document departs from its schema. -/
inductive SchemaFault where
  | wrongType (found : Json.Shape) (wanted : Wanted)
  | missing (field : String)
  | duplicate (field : String)
  | tooLong (length : Nat)
  deriving DecidableEq

def SchemaFault.message : SchemaFault → String
  | .wrongType found wanted =>
    "invalid type: " ++ found.message ++ ", expected " ++ wanted.message
  | .missing field => "missing field `" ++ field ++ "`"
  | .duplicate field => "duplicate field `" ++ field ++ "`"
  | .tooLong length =>
    "invalid length " ++ toString length ++ ", expected fewer elements in array"

namespace Schema

def readOptionalText : Json → Except SchemaFault (Option String)
  | .string s => .ok (some s)
  | .null => .ok none
  | j => .error (.wrongType j.shape .text)

/-- A text; null stands for the empty one. -/
def readText (j : Json) : Except SchemaFault String := do
  return (← readOptionalText j).getD ""

def readTruth : Json → Except SchemaFault Bool
  | .bool b => .ok b
  | j => .error (.wrongType j.shape .truth)

/-- What is read from a value that may be absent. -/
def readOr (absent : α) (read : Json → Except SchemaFault α) : Option Json → Except SchemaFault α
  | none => .ok absent
  | some j => read j

/-- The member that holds the id of a secret's key. -/
def keyIdField : String := "encryptionKeyId"

/-- An older name of that member. -/
def olderKeyIdField : String := "keyId"

/-- The id of a secret's key, under one of its two names. -/
def readKeyId (members : List (String × Json)) : Except SchemaFault (Option String) := do
  match Json.member? keyIdField members, Json.member? olderKeyIdField members with
  | some j, none => readOptionalText j
  | none, some j => readOptionalText j
  | none, none => return none
  | some j, some _ =>
    let _ ← readOptionalText j
    throw (.duplicate keyIdField)

/-- A record given by its members. -/
def readMembers (members : List (String × Json)) : Except SchemaFault Secret := do
  let isEncrypted ← readOr false readTruth (Json.member? "encrypted" members)
  let keyId ← readKeyId members
  let name ← readOr "" readText (Json.member? "name" members)
  let value ← readOr "" readText (Json.member? "value" members)
  return ⟨name, value, isEncrypted, keyId⟩

/-- A record given by its values in order. -/
def readItems (items : List Json) : Except SchemaFault Secret := do
  let name ← readOr "" readText items[0]?
  let value ← readOr "" readText items[1]?
  let isEncrypted ← readOr false readTruth items[2]?
  let keyId ← readOr none readOptionalText items[3]?
  if 4 < items.length then throw (.tooLong items.length)
  return ⟨name, value, isEncrypted, keyId⟩

def readSecret : Json → Except SchemaFault Secret
  | .object members => readMembers members
  | .array items => readItems items
  | j => .error (.wrongType j.shape .secret)

def readSecrets : Json → Except SchemaFault (List Secret)
  | .array items => items.mapM readSecret
  | j => .error (.wrongType j.shape .sequence)

end Schema

end Lockbox
