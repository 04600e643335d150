/-!
# Random bytes

A source of randomness is an endless stream of which a part has been drawn. Draws are consecutive
and never overlap.
-/

namespace Lockbox

/-- A stream of random bytes and how many of them were drawn. -/
structure Entropy where
  stream : Nat → UInt8
  drawn : Nat

namespace Entropy

def peek (e : Entropy) (n : Nat) : List UInt8 := (List.range n).map fun i => e.stream (e.drawn + i)

def advance (e : Entropy) (n : Nat) : Entropy := { e with drawn := e.drawn + n }

/-- The stream that counts from 0 to 255 for ever. -/
def counting : Entropy := ⟨fun i => UInt8.ofNat i, 0⟩

/-- The stream that repeats the given bytes for ever; without any it counts. -/
def repeating (bytes : List UInt8) : Entropy :=
  if bytes = [] then counting else ⟨fun i => bytes.getD (i % bytes.length) 0, 0⟩

@[simp] theorem length_peek (e : Entropy) (n : Nat) : (e.peek n).length = n := by simp [peek]

@[simp] theorem drawn_advance (e : Entropy) (n : Nat) : (e.advance n).drawn = e.drawn + n := rfl

/-- A long draw is two short ones. -/
theorem peek_add (e : Entropy) (m n : Nat) :
    e.peek (m + n) = e.peek m ++ (e.advance m).peek n := by
  simp [peek, advance, List.range_add, Nat.add_assoc]

end Entropy

end Lockbox
