import Lockbox.Text.Blank
import Lockbox.Text.Hex
import Lockbox.Text.Record

/-!
# Keys

A key is its bytes and the id it was found under. It shows its id and never its bytes.
-/

namespace Lockbox

/-- Key material and the id it was found under. -/
structure Key where
  id : String
  bytes : List UInt8
  deriving DecidableEq

namespace Key

/-- The key that a hexadecimal text holds, blanks around it aside. -/
def ofHex (id text : String) : Except Hex.Fault Key :=
  (Hex.decode (Text.trim text)).map fun bytes => ⟨id, bytes⟩

/-- The key for a log: without its bytes. -/
def describe (k : Key) : String :=
  Text.record "CryptographicKey" [("id", Text.quoted k.id), ("bytes", Text.redacted)]

end Key

end Lockbox
