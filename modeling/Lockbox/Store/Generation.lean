import Lockbox.Vault

/-!
# Generated keys

A new key value is forty random bytes in Base64 with every `+` replaced, so that it can stand in the
path of a web address.
-/

namespace Lockbox

namespace Generation

/-- How many random bytes go into a key value. -/
def valueBytes : Nat := 40

/-- The digit of a key value in place of a Base64 digit. -/
def safeDigit (c : Char) : Char := if c = '+' then 'a' else c

def valueOf (bytes : List UInt8) : String :=
  String.ofList ((Base64.encodeChars bytes).map safeDigit)

variable {σ : Type}

def value : Action σ String := do
  return valueOf (← Action.draw valueBytes)

def secret (vault : Vault) (name : String) : Action σ Secret := do
  let value ← value
  vault.write (.plaintext name value)

def host (vault : Vault) : Action σ HostSecrets := do
  let master ← secret vault masterKeyName
  let function ← secret vault hostFunctionKeyName
  return ⟨master, [function]⟩

def function (vault : Vault) : Action σ (List Secret) := do
  return [← secret vault defaultKeyName]

end Generation

end Lockbox
