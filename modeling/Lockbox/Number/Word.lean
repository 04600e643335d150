/-!
# Words

The bounds of whole numbers that are kept in 64 bits.
-/

namespace Lockbox.Word

/-- The first number too large for 64 bits without a sign. -/
def unsignedBound : Nat := 0x10000000000000000

/-- The first number too large for 64 bits with a sign; its negative still fits. -/
def signedBound : Nat := 0x8000000000000000

end Lockbox.Word
