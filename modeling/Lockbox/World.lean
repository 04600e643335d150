import Lockbox.Entropy
import Lockbox.Key.Resolution

/-!
# What operations act on

The surroundings of the store: environment, random bytes, keys found so far, log and a volume. An
`Action` changes them and gives a value or an error; what was changed before an error stays changed.
-/

namespace Lockbox

/-- The surroundings of the store, over a volume in state `σ`. -/
structure World (σ : Type) where
  environment : Environment
  entropy : Entropy
  keys : KeyCache
  log : List Event
  volume : σ

/-- A change of the surroundings that gives a value or an error. -/
abbrev Action (σ : Type) := ExceptT Error (StateM (World σ))

namespace Action

variable {σ : Type}

def report (event : Event) : Action σ Unit :=
  modify fun w => { w with log := w.log ++ [event] }

def draw (n : Nat) : Action σ (List UInt8) :=
  modifyGet fun w => (w.entropy.peek n, { w with entropy := w.entropy.advance n })

def resolveKey (hosting : Hosting) (id : Option String) : Action σ (Option Key) := do
  let w ← get
  let (found, keys) := Key.resolve w.environment hosting w.keys id
  set { w with keys := keys }
  match found with
  | .ok key => return key
  | .error fault =>
    fault.events.forM report
    throw fault.error

/-- Encipher a text under an initial block that is drawn for it. -/
def encrypt (key : List UInt8) (text : String) : Action σ String := do
  let iv ← draw Cbc.blockLength
  match Blob.encrypt iv key text with
  | .ok blob => return blob
  | .error fault => throw (.cipher fault)

def decrypt (key : List UInt8) (blob : String) : Action σ String :=
  match Blob.decrypt blob key with
  | .ok text => return text
  | .error fault => throw (.cipher fault)

end Action

end Lockbox
