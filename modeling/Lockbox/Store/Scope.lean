import Lockbox.Error
import Lockbox.Text.Case

/-!
# Scopes and their files

Secrets are kept by scope: one for the host and one for each function, known by its name in lower
case. Each scope has one file in the secrets directory. Not every name can name a file there: a name
must not be blank, lead elsewhere, or be that of the host's file.
-/

namespace Lockbox

/-- Whose secrets a file holds. -/
inductive Scope where
  | host
  | function (name : String)
  deriving DecidableEq

namespace Scope

/-- The name of the host's file without its extension. -/
def hostStem : String := "host"

def extension : String := "json"

def hostFile : String := hostStem ++ "." ++ extension

def fileText : Scope → String
  | .host => hostFile
  | .function name => name ++ "." ++ extension

def file (secrets : Path) (s : Scope) : Path := secrets.join (Utf8.encode s.fileText)

/-- Characters that no name of a file may hold on any system. -/
def isForbidden (c : Char) : Bool := c = '/' || c = '\\' || c = '\x00'

/-- Whether a name in lower case names the file of a function. -/
def isUsable (name : String) : Bool :=
  !Text.isBlank name && name != "." && name != ".." && name != hostStem &&
    !name.toList.any isForbidden

def ofFunction (name : String) : Except Error String :=
  let lowered := Text.lowerCase name
  if isUsable lowered then .ok lowered else .error (.functionName name)

/-- Whether a path has the extension of secrets files, in any case. -/
def isSecretsFile (p : Path) : Bool :=
  match p.extension?.bind Utf8.decode with
  | some e => Text.sameIgnoringCase e extension
  | none => false

/-- The scope whose file a path may be, going by its name alone. -/
def ofPath? (p : Path) : Option Scope :=
  if isSecretsFile p then do
    let name ← p.fileName?.bind Utf8.decode
    if Text.sameIgnoringCase name hostFile then some .host
    else
      let stem ← p.stem?.bind Utf8.decode
      some (.function (Text.lowerCase stem))
  else none

end Scope

end Lockbox
