import Lockbox.Document.Schema
import Lockbox.Error

/-!
# Structured documents

The current form of a secrets document holds records with names, a flag for encrypted values and
the id of their key. Every list of secrets can be written, and reads back as it was.
-/

namespace Lockbox.Structured

def masterField : String := "masterKey"

def hostFunctionsField : String := "functionKeys"

def keysField : String := "keys"

def required (field : String) (read : Json → Except SchemaFault α) :
    Option Json → Except SchemaFault α
  | none => .error (.missing field)
  | some j => read j

/-- The secrets of the host. Without function keys there are none. -/
def hostOfMembers (members : List (String × Json)) : Except SchemaFault HostSecrets := do
  let functionKeys ←
    Schema.readOr [] Schema.readSecrets (Json.member? hostFunctionsField members)
  let masterKey ← required masterField Schema.readSecret (Json.member? masterField members)
  return ⟨masterKey, functionKeys⟩

def keysOfMembers (members : List (String × Json)) : Except SchemaFault (List Secret) :=
  required keysField Schema.readSecrets (Json.member? keysField members)

def readHost (members : List (String × Json)) : Except FormatFault HostSecrets :=
  (hostOfMembers members).mapError .schema

def readFunction (members : List (String × Json)) : Except FormatFault (List Secret) :=
  (keysOfMembers members).mapError .schema

def versionMember : String × Json := ("version", .integer 1)

def hostDocument (host : HostSecrets) : Json :=
  .object [(masterField, host.masterKey.toJson),
    (hostFunctionsField, .array (host.functionKeys.map Secret.toJson)), versionMember]

def functionDocument (keys : List Secret) : Json :=
  .object [(keysField, .array (keys.map Secret.toJson)), versionMember]

def writeHost (host : HostSecrets) : String := (hostDocument host).pretty

def writeFunction (keys : List Secret) : String := (functionDocument keys).pretty

end Lockbox.Structured
