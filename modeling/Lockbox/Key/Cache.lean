import Lockbox.Key

/-!
# Remembered keys

A cache holds at most one key for a slot. The first key put into a slot stays there until the cache
is emptied; failures and absent keys are not remembered.
-/

namespace Lockbox

/-- Keys by slot, each slot once. -/
structure KeyCache where
  entries : List (String × Key)

namespace KeyCache

def empty : KeyCache := ⟨[]⟩

def get? (c : KeyCache) (slot : String) : Option Key :=
  (c.entries.find? (·.1 == slot)).map (·.2)

def size (c : KeyCache) : Nat := c.entries.length

/-- Put a key into a slot unless there is one; the key that is there afterwards. -/
def insertIfNew (c : KeyCache) (slot : String) (key : Key) : Key × KeyCache :=
  match c.get? slot with
  | some present => (present, c)
  | none => (key, ⟨(slot, key) :: c.entries⟩)

/-- The key in a slot, or else the one that is found, which is then remembered. -/
def getOrFind (c : KeyCache) (slot : String) (found : Except ε (Option Key)) :
    Except ε (Option Key) × KeyCache :=
  match c.get? slot with
  | some key => (.ok (some key), c)
  | none =>
    match found with
    | .error e => (.error e, c)
    | .ok none => (.ok none, c)
    | .ok (some key) =>
      let (key, c) := c.insertIfNew slot key
      (.ok (some key), c)

/-! ### What is in a slot -/

@[simp] theorem get?_empty (slot : String) : empty.get? slot = none := rfl

theorem insertIfNew_of_some {c : KeyCache} {slot : String} {present : Key}
    (h : c.get? slot = some present) (key : Key) : c.insertIfNew slot key = (present, c) := by
  simp only [insertIfNew, h]

theorem insertIfNew_of_none {c : KeyCache} {slot : String} (h : c.get? slot = none) (key : Key) :
    c.insertIfNew slot key = (key, ⟨(slot, key) :: c.entries⟩) := by
  simp only [insertIfNew, h]

/-- What is in the slot afterwards is what is answered. -/
theorem get?_insertIfNew_self (c : KeyCache) (slot : String) (key : Key) :
    (c.insertIfNew slot key).2.get? slot = some (c.insertIfNew slot key).1 := by
  cases h : c.get? slot with
  | some present => rw [insertIfNew_of_some h, h]
  | none => simp [insertIfNew_of_none h, get?]

theorem get?_insertIfNew_of_ne (c : KeyCache) {slot other : String} (h : slot ≠ other) (key : Key) :
    (c.insertIfNew slot key).2.get? other = c.get? other := by
  cases hs : c.get? slot with
  | some present => rw [insertIfNew_of_some hs]
  | none => simp [insertIfNew_of_none hs, get?, h]

theorem getOrFind_of_some {c : KeyCache} {slot : String} {present : Key}
    (h : c.get? slot = some present) (found : Except ε (Option Key)) :
    c.getOrFind slot found = (.ok (some present), c) := by
  simp only [getOrFind, h]

theorem getOrFind_of_none {c : KeyCache} {slot : String} (h : c.get? slot = none) (key : Key) :
    c.getOrFind slot (.ok (some key) : Except ε (Option Key)) =
      (.ok (some key), ⟨(slot, key) :: c.entries⟩) := by
  simp only [getOrFind, h, insertIfNew_of_none h]

/-- Nothing that is there is lost or changed. -/
theorem get?_getOrFind_of_some {c : KeyCache} {slot other : String} {present : Key}
    (h : c.get? other = some present) (found : Except ε (Option Key)) :
    (c.getOrFind slot found).2.get? other = some present := by
  cases hs : c.get? slot with
  | some key => rw [getOrFind_of_some hs, h]
  | none =>
    match found with
    | .error e => simpa only [getOrFind, hs] using h
    | .ok none => simpa only [getOrFind, hs] using h
    | .ok (some key) =>
      have ne : slot ≠ other := fun e => by rw [e, h] at hs; cases hs
      simpa [getOrFind_of_none hs, get?, ne] using h

end KeyCache

end Lockbox
