import Lockbox.Document
import Lockbox.Store.Generation
import Lockbox.Store.Scope

/-!
# Loading

The keys of a scope come from its file. If there is none, keys are generated and written first; if
the file is of an older version, it is brought up to date, and failing that is reported but does no
harm. Then every secret is read: names must differ in more than case, and a secret that cannot be
read fails the whole load.
-/

namespace Lockbox

namespace Load

variable {σ : Type} [Volume σ]

/-- The text of a file, if there is a file. -/
def readIfThere (p : Path) : Action σ (Option String) := do
  match Volume.read (← get).volume p with
  | .ok bytes =>
    match Utf8.decode bytes with
    | some text => return some text
    | none => throw (.file p .notText)
  | .error .notFound => return none
  | .error fault => throw (.file p fault)

def writeText (p : Path) (text : String) : Action σ Unit := do
  let w ← get
  let (done, volume) := Volume.write p (Utf8.encode text) w.volume
  set { w with volume := volume }
  match done with
  | .ok () => return ()
  | .error fault => throw (.file p fault)

def liftFormat : Except FormatFault α → Action σ α
  | .ok a => pure a
  | .error fault => throw (.format fault)

def upgraded (p : Path) (version : Version) : Event :=
  ⟨.info, .store, "upgraded secrets file format",
    [("path", .text p.display), ("from_version", .count version.number),
      ("to_version", .count Version.current.number)]⟩

def notUpgraded (p : Path) (version : Version) (e : Error) : Event :=
  ⟨.warn, .store, "failed to upgrade secrets file format; keeping the old file",
    [("path", .text p.display), ("from_version", .count version.number),
      ("error", .text e.message)]⟩

/-- Bring a file up to date; this never fails. -/
def upgrade (p : Path) (version : Version) (text : Except FormatFault String) : Action σ Unit :=
  tryCatch
    (do
      writeText p (← liftFormat text)
      Action.report (upgraded p version))
    (fun e => Action.report (notUpgraded p version e))

/-- How a document of some kind is read, written and made. -/
structure Form (σ α : Type) where
  read : String → Except FormatFault (Document.Decoded α)
  write : α → Except FormatFault String
  generate : Action σ α
  /-- What is reported about generated secrets. -/
  generated : α → Event

/-- The secrets in a file, which afterwards is there and up to date if it can be written. -/
def document (form : Form σ α) (p : Path) : Action σ α := do
  match ← readIfThere p with
  | some text =>
    let decoded ← liftFormat (form.read text)
    if decoded.isOutdated then upgrade p decoded.version (form.write decoded.secrets)
    return decoded.secrets
  | none =>
    let secrets ← form.generate
    writeText p (← liftFormat (form.write secrets))
    Action.report (form.generated secrets)
    return secrets

def hostForm (vault : Vault) : Form σ HostSecrets where
  read := Document.readHost
  write := Document.writeHost
  generate := Generation.host vault
  generated host :=
    ⟨.info, .store, "generated host secrets", [("encrypted", .flag host.masterKey.isEncrypted)]⟩

def functionForm (vault : Vault) (name : String) : Form σ (List Secret) where
  read := Document.readFunction
  write := Document.writeFunction
  generate := Generation.function vault
  generated keys :=
    ⟨.info, .store, "generated function secrets",
      [("function", .text name), ("encrypted", .flag (keys.any (·.isEncrypted)))]⟩

/-- The plain values of secrets, given the names in lower case of those before them. -/
def resolveAfter (vault : Vault) : List String → List Secret → Action σ KeyTable
  | _, [] => return []
  | seen, s :: rest => do
    let lowered := Text.lowerCase s.name
    if lowered ∈ seen then throw (.format (.duplicateName s.name))
    let value ← vault.read s
    let others ← resolveAfter vault (lowered :: seen) rest
    return (s.name, value) :: others

/-- The plain values of secrets by name. -/
def resolveKeys (vault : Vault) (secrets : List Secret) : Action σ KeyTable :=
  resolveAfter vault [] secrets

def host (vault : Vault) (secretsPath : Path) : Action σ HostKeys := do
  let secrets ← document (hostForm vault) (Scope.host.file secretsPath)
  let masterKey ← vault.read secrets.masterKey
  let functionKeys ← resolveKeys vault secrets.functionKeys
  return ⟨masterKey, functionKeys⟩

def function (vault : Vault) (secretsPath : Path) (name : String) : Action σ KeyTable := do
  let secrets ← document (functionForm vault name) ((Scope.function name).file secretsPath)
  resolveKeys vault secrets

end Load

end Lockbox
