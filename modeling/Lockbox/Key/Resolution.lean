import Lockbox.Cipher.Blob
import Lockbox.Environment
import Lockbox.Error
import Lockbox.Key.Cache
import Lockbox.Log.Event
import Lockbox.Text.Case

/-!
# Finding keys

A key id leads to an environment variable that holds the key in hexadecimal digits (`sourceOf`). The
default key has several ids; its variable is the one that an override names, or depends on where the
program runs. Any other id names its variable itself. A variable that is absent or blank holds no
key, and one that holds anything but a usable key is an error. Keys once found are kept
(`resolve`).
-/

namespace Lockbox

/-- Where the program runs. -/
inductive Hosting where
  | onPremises
  | hosted
  deriving DecidableEq

def Hosting.ofFlag (hosted : Bool) : Hosting := if hosted then .hosted else .onPremises

def Hosting.message : Hosting → String
  | .onPremises => "Local"
  | .hosted => "Hosted"

namespace Key

/-- The id that the default key goes by. -/
def defaultId : String := "default"

/-- The variable that may name another variable for the default key. -/
def overrideVariable : String := "SECRET_STORE_ENCRYPTION_KEY_ID"

/-- The variable of the default key of a hosted program. -/
def hostedVariable : String := "SECRET_STORE_HOST_ENCRYPTION_KEY"

/-- The variable of the default key of any other program. -/
def localVariable : String := "SECRET_STORE_LOCAL_ENCRYPTION_KEY"

def defaultVariable : Hosting → String
  | .hosted => hostedVariable
  | .onPremises => localVariable

def isDefaultId : Option String → Bool
  | none => true
  | some id =>
    id == "" || Text.sameIgnoringCase id defaultId || Text.sameIgnoringCase id hostedVariable

/-- The value of a variable that holds more than blanks. -/
def setting? (env : Environment) (name : String) : Option String :=
  (env name).filter fun value => !Text.isBlank value

/-- What an id leads to: the id that the key is given, which is also its slot in the cache, its
variable, and whether there has to be a key. -/
structure Source where
  id : String
  varName : String
  isRequired : Bool
  deriving DecidableEq

def defaultSource (env : Environment) (hosting : Hosting) : Source :=
  match setting? env overrideVariable with
  | some id => ⟨id, id, true⟩
  | none => ⟨defaultId, defaultVariable hosting, false⟩

/-- The source that an id leads to. -/
def sourceOf (env : Environment) (hosting : Hosting) : Option String → Source
  | none => defaultSource env hosting
  | some id => if isDefaultId (some id) then defaultSource env hosting else ⟨id, id, false⟩

/-- Why a key that is asked for cannot be used. -/
inductive Fault where
  | notHex (id : String) (fault : Hex.Fault)
  | badLength (id : String) (length : Nat)
  | missing (id : String)
  deriving DecidableEq

def Fault.error : Fault → Error
  | .notHex id fault => .cipher (.keyNotHex id fault)
  | .badLength _ length => .cipher (.keyLength length)
  | .missing id => .keyMissing id

def Fault.events : Fault → List Event
  | .notHex id fault =>
    [⟨.warn, .keys, "key material is not valid hex",
      [("key_id", .text id), ("error", .text fault.message)]⟩]
  | .badLength id length =>
    [⟨.warn, .keys, "key material has an invalid length",
      [("key_id", .text id), ("len", .count length)]⟩]
  | .missing _ => []

/-- The key that a text of hexadecimal digits holds. -/
def ofSetting (id value : String) : Except Fault Key :=
  match ofHex id value with
  | .error fault => .error (.notHex id fault)
  | .ok key =>
    if key.bytes.length ∈ Aes.keyLengths then .ok key
    else .error (.badLength id key.bytes.length)

def load (env : Environment) (source : Source) : Except Fault (Option Key) :=
  match setting? env source.varName with
  | none => .ok none
  | some value => (ofSetting source.id value).map some

/-- A missing key is a fault where there has to be one. -/
def demand (source : Source) : Except Fault (Option Key) → Except Fault (Option Key)
  | .ok none => if source.isRequired then .error (.missing source.id) else .ok none
  | found => found

/-- The key that an id leads to, from the cache if it was found before, and the cache after. -/
def resolve (env : Environment) (hosting : Hosting) (cache : KeyCache) (id : Option String) :
    Except Fault (Option Key) × KeyCache :=
  let source := sourceOf env hosting id
  let (found, cache) := cache.getOrFind source.id (load env source)
  (demand source found, cache)

def describeResolver (hosting : Hosting) (cache : KeyCache) : String :=
  Text.record "EncryptionKeyResolver"
    [("hosting", hosting.message), ("cached_keys", toString cache.size)]

end Key

end Lockbox
