/-!
# Slots

A slot caches one value that is costly to load. `fetch` gives the cached value, or else loads one
and caches it; a load that fails leaves the slot empty. A value keeps the serial of the access that
loaded it, so that two accesses can be seen to share one load.
-/

namespace Lockbox

/-- A loaded value and the serial of the access that loaded it. -/
structure Loaded (α : Type) where
  serial : Nat
  value : α

/-- Nothing, or a loaded value. -/
abbrev Slot (α : Type) := Option (Loaded α)

namespace Slot

variable {α σ ε : Type}

def empty : Slot α := none

/-- The value of a slot, loaded by the access of the given serial if there is none. -/
def fetch (slot : Slot α) (serial : Nat) (load : σ → Except ε α × σ) (s : σ) :
    Except ε (Loaded α) × Slot α × σ :=
  match slot with
  | some held => (.ok held, some held, s)
  | none =>
    match load s with
    | (.ok value, s) => (.ok ⟨serial, value⟩, some ⟨serial, value⟩, s)
    | (.error e, s) => (.error e, none, s)

@[simp] theorem fetch_some (held : Loaded α) (serial : Nat) (load : σ → Except ε α × σ) (s : σ) :
    fetch (some held) serial load s = (.ok held, some held, s) := rfl

theorem fetch_none_of_ok {serial : Nat} {load : σ → Except ε α × σ} {s after : σ} {value : α}
    (h : load s = (.ok value, after)) :
    fetch none serial load s = (.ok ⟨serial, value⟩, some ⟨serial, value⟩, after) := by
  simp only [fetch, h]

theorem fetch_none_of_error {serial : Nat} {load : σ → Except ε α × σ} {s after : σ} {e : ε}
    (h : load s = (.error e, after)) :
    fetch none serial load s = (.error e, none, after) := by
  simp only [fetch, h]

end Slot

end Lockbox
