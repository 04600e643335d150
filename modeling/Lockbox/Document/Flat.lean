import Lockbox.Error
import Lockbox.Json.Printer

/-!
# Flat documents

The oldest form of a secrets document holds plain key values in members of its own: one key of a
function, or the master key and one function key of the host. The keys have no names, so that only a
nameless and plain key can be written.
-/

namespace Lockbox.Flat

def masterField : String := "masterKey"

def hostFunctionField : String := "functionKey"

def functionField : String := "key"

def textMember (members : List (String × Json)) (name : String) : Except FormatFault String :=
  match Json.member? name members with
  | some (.string s) => .ok s
  | _ => .error (.noText name)

def readHost (members : List (String × Json)) : Except FormatFault HostSecrets := do
  let master ← textMember members masterField
  let function ← textMember members hostFunctionField
  return ⟨.plaintext "" master, [.plaintext "" function]⟩

def readFunction (members : List (String × Json)) : Except FormatFault (List Secret) := do
  let key ← textMember members functionField
  return [.plaintext "" key]

/-- The value of a key that is not encrypted. -/
def plainValue (s : Secret) : Except FormatFault String :=
  if s.isEncrypted then .error .encryptedInFlat else .ok s.value

/-- The value of the first key without a name. -/
def unnamedValue (keys : List Secret) : Except FormatFault String :=
  match keys.find? (·.name == "") with
  | none => .error .noUnnamedKey
  | some s => plainValue s

def writeHost (host : HostSecrets) : Except FormatFault String := do
  let master ← plainValue host.masterKey
  let function ← unnamedValue host.functionKeys
  return (Json.object
    [(hostFunctionField, .string function), (masterField, .string master)]).pretty

def writeFunction (keys : List Secret) : Except FormatFault String := do
  let key ← unnamedValue keys
  return (Json.object [(functionField, .string key)]).pretty

end Lockbox.Flat
