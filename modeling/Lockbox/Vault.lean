import Lockbox.World

/-!
# Secrets at rest

A converter turns a secret into its form at rest and back, in the one direction that it was made
for. A vault chooses it: reading follows the secret, so that an encrypted one always goes through
the cipher and no other does; writing enciphers where encryption is supported.
-/

namespace Lockbox

/-- A converter, made for one direction. -/
inductive Converter where
  | plain (made : Direction)
  | enciphering (made : Direction)
  deriving DecidableEq

namespace Converter

variable {σ : Type}

/-- The direction that a converter was made for. -/
def made : Converter → Direction
  | .plain d => d
  | .enciphering d => d

/-- Refuse the direction that the converter was not made for. -/
def check (c : Converter) (wanted : Direction) : Action σ Unit :=
  if c.made = wanted then pure () else throw (.direction wanted)

/-- The key for an id. There has to be one. -/
def keyFor (hosting : Hosting) (id : Option String) : Action σ Key := do
  match ← Action.resolveKey hosting id with
  | some key => return key
  | none => throw (.keyMissing (id.getD Key.defaultId))

def decipherValue (hosting : Hosting) (s : Secret) : Action σ String := do
  match s.keyId? with
  | none => throw (.keyIdMissing s.name)
  | some id =>
    let key ← keyFor hosting (some id)
    Action.decrypt key.bytes s.value

def encipherValue (hosting : Hosting) (s : Secret) : Action σ Secret := do
  let key ← keyFor hosting s.keyId?
  let blob ← Action.encrypt key.bytes s.value
  return .encrypted s.name blob key.id

/-- The plain value of a stored secret. -/
def readValue (c : Converter) (hosting : Hosting) (s : Secret) : Action σ String := do
  c.check .reading
  match c with
  | .plain _ => return s.value
  | .enciphering _ => decipherValue hosting s

/-- The form at rest of a secret. -/
def writeValue (c : Converter) (hosting : Hosting) (s : Secret) : Action σ Secret := do
  c.check .writing
  match c with
  | .plain _ => return .plaintext s.name s.value
  | .enciphering _ => encipherValue hosting s

end Converter

/-- Where the program runs, and whether what it writes is enciphered. -/
structure Vault where
  hosting : Hosting
  encrypts : Bool
  deriving DecidableEq

namespace Vault

variable {σ : Type}

/-- The vault that enciphers if there is a default key. A default key that cannot be used is an
error, never a reason to store plain values. -/
def probe (hosting : Hosting) : Action σ Vault := do
  let key ← Action.resolveKey hosting none
  Action.report ⟨.debug, .vault, "probed secret encryption support",
    [("encryption_supported", .flag key.isSome)]⟩
  return ⟨hosting, key.isSome⟩

def converter (v : Vault) (s : Secret) (d : Direction) : Converter :=
  let enciphers := match d with
    | .reading => s.isEncrypted
    | .writing => v.encrypts
  if enciphers then .enciphering d else .plain d

def read (v : Vault) (s : Secret) : Action σ String :=
  (v.converter s .reading).readValue v.hosting s

def write (v : Vault) (s : Secret) : Action σ Secret :=
  (v.converter s .writing).writeValue v.hosting s

end Vault

end Lockbox
