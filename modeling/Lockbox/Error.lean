import Lockbox.Cipher.Blob
import Lockbox.Document.Schema
import Lockbox.Volume

/-!
# Errors

Each error is a cause. `Error.code` groups causes for machines, `Error.message` tells people what
went wrong.
-/

namespace Lockbox

/-- How a secrets document fails to be one. -/
inductive FormatFault where
  | notJson
  | notObject
  /-- The version member is not a version; its compact JSON text is kept. -/
  | badVersion (text : String)
  | unknownVersion (version : Nat)
  | noText (property : String)
  | schema (fault : SchemaFault)
  | encryptedInFlat
  | noUnnamedKey
  | duplicateName (name : String)
  | other (text : String)
  deriving DecidableEq

def FormatFault.message : FormatFault → String
  | .notJson => "JSON syntax error"
  | .notObject => "secrets document must be a JSON object"
  | .badVersion text => "invalid format version " ++ text
  | .unknownVersion version => "unsupported secrets format version " ++ toString version
  | .noText property => "missing or non-string property " ++ Text.quoted property
  | .schema fault => fault.message
  | .encryptedInFlat => "version 0 cannot represent encrypted keys"
  | .noUnnamedKey => "version 0 requires an unnamed key"
  | .duplicateName name => "duplicate key name " ++ Text.quoted name
  | .other text => text

/-- The two directions of a conversion. -/
inductive Direction where
  | reading
  | writing
  deriving DecidableEq

def Direction.message : Direction → String
  | .reading => "read"
  | .writing => "write"

/-- Why an operation of the store fails. -/
inductive Error where
  /-- No key material is configured for a key id. -/
  | keyMissing (id : String)
  /-- An encrypted secret does not say under which key. -/
  | keyIdMissing (name : String)
  | format (fault : FormatFault)
  | cipher (fault : CipherFault)
  /-- A converter was asked for the direction that it was not made for. -/
  | direction (wanted : Direction)
  /-- A function name that names no secrets file. -/
  | functionName (name : String)
  | file (path : Path) (fault : OsFault)
  | watch (text : String)
  | internal (text : String)
  deriving DecidableEq

namespace Error

def code : Error → String
  | .keyMissing _ => "key_resolution"
  | .keyIdMissing _ => "key_resolution"
  | .format _ => "format"
  | .cipher _ => "cipher"
  | .direction _ => "usage"
  | .functionName _ => "invalid_function_name"
  | .file _ _ => "io"
  | .watch _ => "watch"
  | .internal _ => "internal"

def message : Error → String
  | .keyMissing id => "missing key configuration (key id: " ++ id ++ ")"
  | .keyIdMissing name =>
    "encrypted secret " ++ Text.quoted name ++ " does not carry an encryption key id"
  | .format fault => "invalid secrets file format: " ++ fault.message
  | .cipher fault => "cryptographic failure: " ++ fault.message
  | .direction wanted =>
    "converter was not constructed for " ++ wanted.message ++ " access"
  | .functionName name => "invalid function name: " ++ Text.quoted name
  | .file path fault => "secrets file I/O failed for " ++ path.display ++ ": " ++ fault.message
  | .watch text => "secrets directory watch failed: " ++ text
  | .internal text => "internal error: " ++ text

end Error

end Lockbox
