import Lockbox.Json.Printer
import Lockbox.Log.Event

/-!
# Log lines

An event is logged as one compact JSON object a line. Its fields keep their kinds and stand behind
the message, in the order in which they were given.
-/

namespace Lockbox

/-- The value of a field, truth values and numbers unquoted. -/
def Field.toJson : Field → Json
  | .text value => .string value
  | .flag value => .bool value
  | .count value => .integer value

namespace Event

def body (e : Event) : Json :=
  .object (("message", .string e.message) :: e.fields.map fun (name, value) => (name, value.toJson))

def line (e : Event) : String :=
  (Json.object [("level", .string e.level.name), ("fields", e.body),
    ("target", .string e.component.target)]).compact

end Event

end Lockbox
