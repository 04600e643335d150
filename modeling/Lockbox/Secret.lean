import Lockbox.Json.Basic
import Lockbox.Json.Printer
import Lockbox.Text.Record

/-!
# Secrets

A secret is a named key value, plain or enciphered. The secrets of the host are a master key and the
function keys; what is served are the values themselves (`HostKeys`, `KeyTable`), never stored.
-/

namespace Lockbox

/-- A named key as it is stored. The value of an encrypted secret is a blob. -/
structure Secret where
  name : String
  value : String
  isEncrypted : Bool
  storedKeyId : Option String
  deriving DecidableEq

namespace Secret

def plaintext (name value : String) : Secret := ⟨name, value, false, none⟩

def encrypted (name blob keyId : String) : Secret := ⟨name, blob, true, some keyId⟩

def withKeyId (s : Secret) (keyId : String) : Secret := { s with storedKeyId := some keyId }

/-- The id of the key, if there is one; an empty id counts as none. -/
def keyId? (s : Secret) : Option String := s.storedKeyId.filter (· ≠ "")

def toJson (s : Secret) : Json :=
  .object [("name", .string s.name), ("value", .string s.value), ("encrypted", .bool s.isEncrypted),
    ("encryptionKeyId", (s.storedKeyId.map Json.string).getD .null)]

/-- The secret for a log: without its value. -/
def describe (s : Secret) : String :=
  Text.record "Secret" [("name", Text.quoted s.name), ("value", Text.redacted),
    ("is_encrypted", Text.truth s.isEncrypted), ("encryption_key_id", Text.optional s.storedKeyId)]

end Secret

def masterKeyName : String := "master"

/-- The name of the generated key for all functions of the host. -/
def hostFunctionKeyName : String := "function"

/-- The name of the generated key of a function. -/
def defaultKeyName : String := "default"

/-- The secrets of the host as they are stored. -/
structure HostSecrets where
  masterKey : Secret
  functionKeys : List Secret
  deriving DecidableEq

/-- Key values by name, each name once. -/
abbrev KeyTable := List (String × String)

structure HostKeys where
  masterKey : String
  functionKeys : KeyTable
  deriving DecidableEq

def KeyTable.sortedNames (table : KeyTable) : List String :=
  (table.map Prod.fst).mergeSort (fun a b => decide (a ≤ b))

/-- The keys for a log: names alone. -/
def HostKeys.describe (keys : HostKeys) : String :=
  Text.record "HostSecretsInfo" [("master_key", Text.redacted),
    ("function_keys", Text.bracketed (keys.functionKeys.sortedNames.map Text.quoted))]

end Lockbox
