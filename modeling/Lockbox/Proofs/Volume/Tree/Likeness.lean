import Lockbox.Proofs.Volume.Likeness
import Lockbox.Proofs.Volume.Tree.Plain

/-!
# Trees that differ in contents

Two trees are alike if they have the same nodes but for the contents of files, which are alike in
some given way (`Alike`). Every lookup goes the same way in both, and so every call is answered
alike and leaves them alike:

    likeness : (∀ bytes, alike bytes bytes) → Likeness Tree alike
-/

namespace Lockbox.Tree

/-- Trees that are the same but for contents. -/
structure Alike (alike : List UInt8 → List UInt8 → Prop) (t u : Tree) : Prop where
  size : t.nodes.size = u.nodes.size
  nodes : ∀ n, t.node? n = u.node? n ∨ ∃ mode content other, alike content other ∧
    t.node? n = some (.file mode content) ∧ u.node? n = some (.file mode other)

namespace Alike

variable {alike : List UInt8 → List UInt8 → Prop} {t u : Tree}

theorem mono {alike' : List UInt8 → List UInt8 → Prop} (h : Alike alike t u)
    (contents : ∀ bytes other, alike bytes other → alike' bytes other) : Alike alike' t u := by
  refine ⟨h.size, fun n => ?_⟩
  rcases h.nodes n with eq | ⟨mode, content, other, given, nodes⟩
  · exact .inl eq
  · exact .inr ⟨mode, content, other, contents _ _ given, nodes⟩

/-! ## Looking -/

/-- Where the contents differ there is a file in both, which cannot be entered. -/
theorem enter (h : Alike alike t u) (n : FileNumber) : t.enter n = u.enter n := by
  rcases h.nodes n with eq | ⟨_, _, _, -, left, right⟩
  · rw [Tree.enter, Tree.enter, eq]
  · rw [Tree.enter, Tree.enter, left, right]

theorem isDirectoryNode (h : Alike alike t u) (n : FileNumber) :
    t.isDirectoryNode n = u.isDirectoryNode n := by
  rcases h.nodes n with eq | ⟨_, _, _, -, left, right⟩
  · rw [Tree.isDirectoryNode, Tree.isDirectoryNode, eq]
  · rw [Tree.isDirectoryNode, Tree.isDirectoryNode, left, right]

theorem kindOf (h : Alike alike t u) : t.kindOf = u.kindOf := by
  funext n
  rcases h.nodes n with eq | ⟨_, _, _, -, left, right⟩
  · rw [Tree.kindOf, Tree.kindOf, eq]
  · rw [Tree.kindOf, Tree.kindOf, left, right]

/-- A file has no entries in either tree. -/
theorem entriesOf (h : Alike alike t u) (n : FileNumber) : t.entriesOf n = u.entriesOf n := by
  rcases h.nodes n with eq | ⟨_, _, _, -, left, right⟩
  · rw [Tree.entriesOf, Tree.entriesOf, eq]
  · rw [Tree.entriesOf, Tree.entriesOf, left, right]

theorem checkWritable (h : Alike alike t u) (n : FileNumber) :
    t.checkWritable n = u.checkWritable n := by
  rcases h.nodes n with eq | ⟨_, _, _, -, left, right⟩
  · rw [Tree.checkWritable, Tree.checkWritable, eq]
  · rw [Tree.checkWritable, Tree.checkWritable, left, right]

theorem lookUp (h : Alike alike t u) (n : FileNumber) (name : FileName) :
    t.lookUp n name = u.lookUp n name := by
  rw [Tree.lookUp, Tree.lookUp, entry?, entry?, h.entriesOf]

/-- A walk meets the same directories and links in both trees, and ends at the same place. -/
theorem walk (h : Alike alike t u) (start : FileNumber) (names : List FileName) :
    t.walk start names = u.walk start names := by
  -- on the names that are left; each step enters the same directory
  induction names generalizing start with
  | nil => rfl
  | cons name rest ih =>
    rw [Tree.walk, Tree.walk, h.enter]
    refine bind_congr fun above => ?_
    obtain ⟨parent, entries⟩ := above
    simp only [ih]
    cases entries.find? (·.1 == name) with
    | none => rfl
    | some e =>
      -- a link is the same in both, and a file is none in either
      dsimp only
      rcases h.nodes e.2 with eq | ⟨_, _, _, -, left, right⟩
      · rw [eq]
      · rw [left, right]

/-- Links lead to the same places. -/
theorem follow (h : Alike alike t u) (start : FileNumber) (names : List FileName) (links : Nat) :
    t.follow start names links = u.follow start names links := by
  -- on the links that may still be followed
  induction links generalizing start names with
  | zero => rw [Tree.follow, Tree.follow, h.walk]
  | succ links ih => simp only [Tree.follow, h.walk, ih]

theorem locate (h : Alike alike t u) (p : Path) : t.locate p = u.locate p := by
  simp only [Tree.locate, h.follow]

theorem resolve (h : Alike alike t u) (p : Path) : t.resolve p = u.resolve p := by
  simp only [Tree.resolve, h.locate, h.isDirectoryNode]

theorem holder (h : Alike alike t u) (start : FileNumber) (names : List FileName) (links : Nat) :
    t.holder start names links = u.holder start names links := by
  simp only [Tree.holder, h.follow, h.enter]

theorem directoryOf (h : Alike alike t u) (p : Path) : t.directoryOf p = u.directoryOf p := by
  simp only [Tree.directoryOf, h.holder]

theorem followNew (h : Alike alike t u) (start : FileNumber) (names : List FileName)
    (links : Nat) : t.followNew start names links = u.followNew start names links := by
  induction links generalizing start names with
  | zero => rw [Tree.followNew, Tree.followNew, h.follow]
  | succ links ih => simp only [Tree.followNew, h.walk, h.holder, ih]

/-! ## Calls that look -/

theorem list (h : Alike alike t u) (p : Path) : t.list p = u.list p := by
  rw [Tree.list, Tree.list, h.resolve]
  refine bind_congr fun n => ?_
  -- a directory is the same in both, and its kinds are looked up in the tree
  rcases h.nodes n with eq | ⟨_, _, _, -, left, right⟩
  · rw [eq, h.kindOf]
  · rw [left, right]

theorem isDirectory (h : Alike alike t u) (p : Path) : t.isDirectory p = u.isDirectory p := by
  simp only [Tree.isDirectory, h.resolve, h.isDirectoryNode]

/-- Reading a file is the one call that tells the trees apart, by no more than what its contents may
differ in. -/
theorem read (h : Alike alike t u) (refl : ∀ bytes, alike bytes bytes) (p : Path) :
    Together Eq alike (t.read p) (u.read p) := by
  rw [Tree.read, Tree.read, h.resolve]
  cases u.resolve p with
  | error fault => exact .error rfl
  | ok n =>
    simp only [bind, Except.bind]
    -- the node is the same, or it is a file in both and its contents are alike
    rcases h.nodes n with eq | ⟨mode, content, other, contents, left, right⟩
    · rw [eq]
      exact .refl (fun _ => rfl) refl _
    · rw [left, right]
      dsimp only
      split
      · exact .ok contents
      · exact .error rfl

/-! ## Changes -/

theorem touch (h : Alike alike t u) (d n : FileNumber) (name : FileName) (what : Notification) :
    Alike alike (t.touch d name n what) (u.touch d name n what) :=
  ⟨h.size, h.nodes⟩

/-- Nodes that are put in the same place may themselves differ in contents. -/
theorem setNode {node other : Node} (h : Alike alike t u) (n : FileNumber)
    (nodes : node = other ∨ ∃ mode content content', alike content content' ∧
      node = .file mode content ∧ other = .file mode content') :
    Alike alike (t.setNode n node) (u.setNode n other) := by
  refine ⟨?_, ?_⟩
  · rw [Tree.setNode, Tree.setNode, Array.size_setIfInBounds, Array.size_setIfInBounds, h.size]
  · intro k
    rw [node?_setNode, node?_setNode, h.size]
    -- the node that is put there, or one that was alike before
    by_cases eq : n = k
    · rw [if_pos eq, if_pos eq]
      by_cases within : n < u.nodes.size
      · rw [if_pos within, if_pos within]
        rcases nodes with rfl | ⟨mode, content, content', contents, rfl, rfl⟩
        · exact .inl rfl
        · exact .inr ⟨mode, content, content', contents, rfl, rfl⟩
      · rw [if_neg within, if_neg within]
        exact .inl rfl
    · rw [if_neg eq, if_neg eq]
      exact h.nodes k

/-- A node that is added gets the same number in both. -/
theorem addNode (h : Alike alike t u) (node : Node) :
    Alike alike (t.addNode node).2 (u.addNode node).2 := by
  refine ⟨?_, ?_⟩
  · rw [Tree.addNode, Tree.addNode, Array.size_push, Array.size_push, h.size]
  · intro k
    rw [node?_addNode, node?_addNode, h.size]
    by_cases eq : k = u.nodes.size
    · rw [if_pos eq, if_pos eq]
      exact .inl rfl
    · rw [if_neg eq, if_neg eq]
      exact h.nodes k

theorem setEntries (h : Alike alike t u) (n : FileNumber)
    (entries : List (FileName × FileNumber)) :
    Alike alike (t.setEntries n entries) (u.setEntries n entries) := by
  rw [Tree.setEntries, Tree.setEntries]
  rcases h.nodes n with eq | ⟨_, _, _, -, left, right⟩
  · rw [eq]
    split
    · exact h.setNode n (.inl rfl)
    · exact h
  · rw [left, right]
    exact h

theorem attach (h : Alike alike t u) (d n : FileNumber) (name : FileName) :
    Alike alike (t.attach d name n) (u.attach d name n) := by
  rw [Tree.attach, Tree.attach, h.entriesOf]
  exact h.setEntries d _

theorem detach (h : Alike alike t u) (d : FileNumber) (name : FileName) :
    Alike alike (t.detach d name) (u.detach d name) := by
  rw [Tree.detach, Tree.detach, h.entriesOf]
  exact h.setEntries d _

theorem fill {bytes other : List UInt8} (h : Alike alike t u) (n : FileNumber)
    (contents : alike bytes other) : Alike alike (t.fill n bytes) (u.fill n other) := by
  rw [Tree.fill, Tree.fill]
  rcases h.nodes n with eq | ⟨mode, _, _, -, left, right⟩
  · rw [eq]
    split
    · exact h.setNode n (.inr ⟨_, _, _, contents, rfl, rfl⟩)
    · exact h
  · rw [left, right]
    exact h.setNode n (.inr ⟨mode, _, _, contents, rfl, rfl⟩)

theorem added (h : Alike alike t u) (d : FileNumber) (name : FileName) (node : Node) :
    Alike alike (((t.addNode node).2.attach d name t.nodes.size).touch d name t.nodes.size .created)
      (((u.addNode node).2.attach d name u.nodes.size).touch d name u.nodes.size .created) := by
  rw [h.size]
  exact ((h.addNode node).attach d _ name).touch d _ name .created

/-! ## Calls that change -/

/-- A file opened in both is opened under the same number. -/
theorem create (h : Alike alike t u) (p : Path) :
    Together Eq (fun a b => a.1 = b.1 ∧ Alike alike a.2 b.2) (t.create p) (u.create p) := by
  have agree : ∀ fault : OsFault, fault = fault := fun _ => rfl
  unfold Tree.create
  dsimp only
  rw [h.directoryOf]
  split
  · exact .bind_same agree _ fun _ => .error rfl
  · refine .bind_same agree _ fun _ => ?_
    rw [h.followNew]
    refine .bind_same agree _ fun place => ?_
    cases place.node with
    | some n =>
      dsimp only
      -- what was in the file does not matter once it is emptied
      rcases h.nodes n with node | ⟨mode, _, _, -, left, right⟩
      · rw [node]
        split
        · split
          · exact .ok ⟨rfl, (h.setNode n (.inl rfl)).touch _ _ _ _⟩
          · exact .error rfl
        · exact .error rfl
      · rw [left, right]
        dsimp only
        split
        · exact .ok ⟨rfl, (h.setNode n (.inl rfl)).touch _ _ _ _⟩
        · exact .error rfl
    | none =>
      cases place.name with
      | none => exact .error rfl
      | some name =>
        dsimp only
        rw [h.checkWritable]
        exact .bind_same agree _ fun _ => .ok ⟨h.size, h.added _ name _⟩

/-- A change that is made of both as a whole or of neither. -/
theorem attempt {x y : Except OsFault Tree} (h : Alike alike t u)
    (changed : Together Eq (Alike alike) x y) :
    (t.attempt x).1 = (u.attempt y).1 ∧ Alike alike (t.attempt x).2 (u.attempt y).2 := by
  cases changed with
  | error failed =>
    cases failed
    exact ⟨rfl, h⟩
  | ok given => exact ⟨rfl, given⟩

/-- A removal finds the same entry or fails in the same way. -/
theorem remove (h : Alike alike t u) (p : Path) :
    Together Eq (Alike alike) (t.remove p) (u.remove p) := by
  have agree : ∀ fault : OsFault, fault = fault := fun _ => rfl
  unfold Tree.remove
  rw [h.directoryOf]
  refine .bind_same agree _ fun holder => ?_
  obtain ⟨d, name⟩ := holder
  cases name with
  | none => exact .error rfl
  | some name =>
    dsimp only
    -- the name leads to the same node, which is no file in one and a directory in the other
    rw [h.lookUp]
    refine .bind_same agree _ fun found => ?_
    cases found with
    | none => exact .error rfl
    | some n =>
      dsimp only
      rw [h.isDirectoryNode, h.checkWritable]
      split
      · exact .error rfl
      · refine .bind_same agree _ fun _ => ?_
        split
        · exact .error rfl
        · exact .ok ((h.detach d name).touch _ _ _ _)

theorem makeDirectory (h : Alike alike t u) (p : Path) :
    Together Eq (Alike alike) (t.makeDirectory p) (u.makeDirectory p) := by
  have agree : ∀ fault : OsFault, fault = fault := fun _ => rfl
  unfold Tree.makeDirectory
  rw [h.directoryOf]
  refine .bind_same agree _ fun holder => ?_
  obtain ⟨d, name⟩ := holder
  cases name with
  | none => exact .error rfl
  | some name =>
    dsimp only
    rw [h.lookUp]
    refine .bind_same agree _ fun found => ?_
    cases found with
    | some n => exact .error rfl
    | none =>
      unfold Tree.addEntry
      dsimp only
      rw [h.checkWritable]
      exact .bind_same agree _ fun _ => .ok (h.added d name _)

end Alike

/-- Trees do not look into files. -/
def likeness {alike : List UInt8 → List UInt8 → Prop} (refl : ∀ bytes, alike bytes bytes) :
    Likeness Tree alike where
  Like := Alike alike
  read := fun p h => h.read refl p
  list := fun p h => h.list p
  isDirectory := fun p h => h.isDirectory p
  write := by
    intro t u bytes other p h contents
    have created := h.create p
    -- a write opens a file and fills it, and both trees open it alike
    generalize left : t.create p = opened at created
    generalize right : u.create p = opened' at created
    cases created with
    | error failed =>
      rw [write_of_error bytes left, write_of_error other right]
      exact ⟨congrArg Except.error failed, h⟩
    | @ok a b given =>
      obtain ⟨n, t'⟩ := a
      obtain ⟨n', u'⟩ := b
      obtain ⟨rfl, like⟩ := given
      rw [write_of_ok bytes left, write_of_ok other right]
      exact ⟨rfl, like.fill n contents⟩
  remove := fun p h => h.attempt (h.remove p)
  makeDirectory := fun p h => h.attempt (h.makeDirectory p)

end Lockbox.Tree
