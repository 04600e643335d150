import Lockbox.Text.Record

/-!
# Log events

What the program reports about its work: a level, the part of the program that speaks, a fixed
message and named fields.
-/

namespace Lockbox

/-- The weight of an event, from heavy to light. -/
inductive Level where
  | error
  | warn
  | info
  | debug
  | trace
  deriving DecidableEq

namespace Level

/-- The rank of a level, rising with the detail that it adds. -/
def rank : Level → Nat
  | .error => 1
  | .warn => 2
  | .info => 3
  | .debug => 4
  | .trace => 5

def name : Level → String
  | .error => "ERROR"
  | .warn => "WARN"
  | .info => "INFO"
  | .debug => "DEBUG"
  | .trace => "TRACE"

end Level

/-- The parts of the program that report. -/
inductive Component where
  | service
  | vault
  | keys
  | store
  | watcher
  deriving DecidableEq

/-- The name by which a filter addresses a component. -/
def Component.target : Component → String
  | .service => "secret_store"
  | .vault => "secret_store::convert::factory"
  | .keys => "secret_store::crypto::resolver"
  | .store => "secret_store::store"
  | .watcher => "secret_store::store::watcher"

/-- The value of a field. -/
inductive Field where
  | text (value : String)
  | flag (value : Bool)
  | count (value : Nat)
  deriving DecidableEq

def Field.message : Field → String
  | .text value => value
  | .flag value => Text.truth value
  | .count value => toString value

structure Event where
  level : Level
  component : Component
  message : String
  fields : List (String × Field)
  deriving DecidableEq

/-- The names of the fields, of which the message is the first. -/
def Event.fieldNames (e : Event) : List String := "message" :: e.fields.map (·.1)

end Lockbox
