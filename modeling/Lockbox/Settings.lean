import Lockbox.Environment
import Lockbox.Path
import Lockbox.Settings.Name
import Lockbox.Settings.Value
import Lockbox.Text.Blank
import Lockbox.Text.Quoted

/-!
# Settings

The settings of the program come from the environment, where the case of a variable's name does not
matter. Values that are wrong in kind are reported first, then a missing path, then values that make
no sense.
-/

namespace Lockbox

/-- What the program is told to do. -/
structure Settings where
  secretsPath : String
  scriptRoot : Option String
  hosted : Bool
  requireEncryption : Bool
  otlpEndpoint : Option String
  logLevel : String
  deriving DecidableEq

/-- The kinds of value that a setting can call for. -/
inductive SettingKind where
  | truth
  | text
  deriving DecidableEq

/-- Why the settings cannot be used. -/
inductive SettingsFault where
  | wrongKind (key : String) (found : Mismatch) (wanted : SettingKind)
  | missing (key : String)
  | noSecretsPath
  | emptyScriptRoot
  | sameDirectory
  | blank (variableName : String)
  deriving DecidableEq

def SettingKind.message : SettingKind → String
  | .truth => "a boolean"
  | .text => "a string"

/-- What a value is, in words, and where it comes from, if that can be said. -/
def Mismatch.message : Mismatch → String × String
  | .text value => ("string " ++ Text.quoted value, " in the environment")
  | .members => ("map", "")
  | .elements => ("sequence", "")

def SettingsFault.messages : SettingsFault → List String
  | .wrongKind key found wanted =>
    let (description, place) := found.message
    ["failed to deserialise configuration",
      "invalid type: " ++ description ++ ", expected " ++ wanted.message ++ " for key `" ++ key ++
        "`" ++ place]
  | .missing key => ["failed to deserialise configuration", "missing field `" ++ key ++ "`"]
  | .noSecretsPath => ["SECRETS_PATH is required and must not be empty"]
  | .emptyScriptRoot => ["SCRIPT_ROOT must not be empty when set"]
  | .sameDirectory => ["SCRIPT_ROOT must differ from SECRETS_PATH"]
  | .blank variableName => [variableName ++ " must not be empty"]

namespace Settings

def defaultLogLevel : String := "info"

/-- What a variable gives to the setting that its name leads into. -/
def given (inner : List Inward) (text : String) : SettingValue :=
  match inner with
  | [] => .ofText text
  | .member _ :: _ => .members
  | .element _ :: _ => .elements

/-- What the last variable gives whose name in lower case leads to `key`. -/
def value? (vars : Variables) (key : String) : Option SettingValue :=
  let named := vars.map fun v => (SettingName.parse (Text.lowerCase v.1), v.2)
  (named.reverse.find? fun v => v.1.setting == key).map fun v => given v.1.inner v.2

def text? (vars : Variables) (key : String) : Except SettingsFault (Option String) :=
  match value? vars key with
  | none => .ok none
  | some v => (v.toText.mapError (.wrongKind key · .text)).map some

def truth (vars : Variables) (key : String) : Except SettingsFault Bool :=
  match value? vars key with
  | none => .ok false
  | some v => v.toTruth.mapError (.wrongKind key · .truth)

/-- The settings as they are given. -/
def read (vars : Variables) : Except SettingsFault Settings := do
  let hosted ← truth vars "hosted"
  let requireEncryption ← truth vars "require_encryption"
  let scriptRoot ← text? vars "script_root"
  let otlpEndpoint ← text? vars "otel_exporter_otlp_endpoint"
  let logLevel ← text? vars "log_level"
  match ← text? vars "secrets_path" with
  | none => throw (.missing "secrets_path")
  | some secretsPath =>
    return {
      secretsPath
      scriptRoot
      hosted
      requireEncryption
      otlpEndpoint
      logLevel := logLevel.getD defaultLogLevel }

/-- Refuse a script root that is empty or the secrets directory itself. -/
def checkScriptRoot (s : Settings) : Except SettingsFault Unit :=
  match s.scriptRoot with
  | none => .ok ()
  | some root =>
    if root = "" then .error .emptyScriptRoot
    else if (Path.ofText root).same (Path.ofText s.secretsPath) then .error .sameDirectory
    else .ok ()

def checkNotBlank (variableName value : String) : Except SettingsFault Unit :=
  if Text.isBlank value then .error (.blank variableName) else .ok ()

/-- Refuse settings that make no sense. -/
def check (s : Settings) : Except SettingsFault Unit := do
  if s.secretsPath = "" then throw .noSecretsPath
  checkScriptRoot s
  if let some endpoint := s.otlpEndpoint then checkNotBlank "OTEL_EXPORTER_OTLP_ENDPOINT" endpoint
  checkNotBlank "LOG_LEVEL" s.logLevel

def ofVariables (vars : Variables) : Except SettingsFault Settings := do
  let s ← read vars
  check s
  return s

end Settings

end Lockbox
