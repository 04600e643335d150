import Lockbox.Proofs.Volume.Tree.Steady

/-!
# Files that are written in two steps

What can be relied on of a file that can be read when it is replaced, whichever step fails: if it
cannot be opened it is as it was, and once it was opened it holds what was written of the new bytes
from the front (`Stepwise`). So it is in any tree, and also if the tree has room only for so many
bytes (`Limited`).
-/

namespace Lockbox

/-- The laws of replacing a file that can be read, for volumes that are fit. -/
structure Stepwise (σ : Type) [Volume σ] (p : Path) where
  Fit : σ → Prop
  refused : ∀ {v : σ} {old : List UInt8} {fault : OsFault}, Fit v → Volume.read v p = .ok old →
    (Volume.create p v).1 = .error fault → Volume.read (Volume.create p v).2 p = .ok old
  /-- How much was written is not told. -/
  torn : ∀ {v : σ} {old bytes : List UInt8} {file : FileNumber} {fault : OsFault}, Fit v →
    Volume.read v p = .ok old → (Volume.create p v).1 = .ok file →
    (Volume.fill file bytes (Volume.create p v).2).1 = .error fault →
    ∃ k, Volume.read (Volume.fill file bytes (Volume.create p v).2).2 p = .ok (bytes.take k)

namespace Volume

variable {σ : Type} [Volume σ] {p : Path} {v : σ} {bytes : List UInt8} {fault : OsFault}

theorem write_of_opened {file : FileNumber} (opened : (create p v).1 = .ok file) :
    write p bytes v = fill file bytes (create p v).2 := by
  rw [write]
  cases created : create p v with
  | mk answer u =>
    rw [created] at opened
    cases opened
    rfl

theorem write_of_refused (refused : (create p v).1 = .error fault) :
    write p bytes v = (.error fault, (create p v).2) := by
  rw [write]
  cases created : create p v with
  | mk answer u =>
    rw [created] at refused
    cases refused
    rfl

end Volume

namespace Tree

/-- In a tree, opening a file changes nothing if it fails, and filling one does not fail. -/
def stepwise (p : Path) : Stepwise Tree p where
  Fit _ := True
  refused := by
    intro t old fault _ stored fails
    cases created : t.create p with
    | error other =>
      simp only [Volume.create, created]
      exact stored
    | ok opened =>
      simp only [Volume.create, created] at fails
      cases fails
  torn := by
    intro t old bytes file fault _ _ _ fails
    cases fails

end Tree

/-! ## Trees with little room -/

/-- A tree in which a file can be filled with so many bytes at most. -/
structure Limited where
  tree : Tree
  room : Nat

namespace Limited

def noRoom : OsFault := .other "No space left on device (os error 28)"

/-- What comes of a call on the tree. -/
def lift {α : Type} (t : Limited) (r : α × Tree) : α × Limited := (r.1, { t with tree := r.2 })

instance : Volume Limited where
  read t p := Volume.read t.tree p
  list t p := Volume.list t.tree p
  isDirectory t p := Volume.isDirectory t.tree p
  create p t := t.lift (Volume.create p t.tree)
  fill file bytes t :=
    if bytes.length ≤ t.room then t.lift (Volume.fill file bytes t.tree)
    else (.error noRoom, { t with tree := t.tree.fill file (bytes.take t.room) })
  remove p t := t.lift (Volume.remove p t.tree)
  makeDirectory p t := t.lift (Volume.makeDirectory p t.tree)

theorem fill_of_le {t : Limited} {bytes : List UInt8} (file : FileNumber)
    (fits : bytes.length ≤ t.room) :
    Volume.fill file bytes t = t.lift (Volume.fill file bytes t.tree) := if_pos fits

theorem fill_of_lt {t : Limited} {bytes : List UInt8} (file : FileNumber)
    (full : t.room < bytes.length) : Volume.fill file bytes t =
      (.error noRoom, { t with tree := t.tree.fill file (bytes.take t.room) }) :=
  if_neg (Nat.not_le.2 full)

/-- A file of a plain directory is filled as far as there is room. -/
def stepwise (dir : Path) (d : FileNumber) {n : FileName} (proper : n.IsProper) :
    Stepwise Limited (dir.join n) where
  Fit t := (Tree.steady dir d).Fit t.tree
  refused := by
    intro t old fault _ stored fails
    exact (Tree.stepwise (dir.join n)).refused trivial stored fails
  torn := by
    intro t old bytes file fault fit stored opened fails
    have created : (Volume.create (dir.join n) t.tree).1 = .ok file := opened
    have full : t.room < bytes.length := by
      refine Nat.not_le.1 fun fits => ?_
      rw [fill_of_le (t := (Volume.create (dir.join n) t).2) file fits] at fails
      cases fails
    have left : (Volume.fill file bytes (Volume.create (dir.join n) t).2).2.tree =
        (Volume.write (dir.join n) (bytes.take t.room) t.tree).2 := by
      rw [Volume.write_of_opened created,
        fill_of_lt (t := (Volume.create (dir.join n) t).2) file full]
      rfl
    refine ⟨t.room, ?_⟩
    show Volume.read (Volume.fill file bytes (Volume.create (dir.join n) t).2).2.tree _ = _
    rw [left]
    refine (Tree.steady dir d).read_written fit proper (.inl ⟨old, stored⟩) ?_
    rw [Volume.write_of_opened created]
    rfl

end Limited

end Lockbox
