import Lockbox.Proofs.Volume.Tree.Unlinking

/-!
# Files that are made in a tree

A write to any path of a tree, be there links on the way to it or not, fails and changes nothing,
writes anew a file that is there, or makes one (`write_cases_of_any`). The path of a file that was
made leads to it from then on, since a lookup that ended at a free name ends at the file that has
taken the name (`Gained`):

    read_of_written : Volume.read t p = .error .notFound →
      Volume.write p bytes t = (.ok (), u) → Volume.read u p = .ok bytes

All other calls make no file (`MakesNoFile`): they make directories and take names out, or write
anew what is there.
-/

namespace Lockbox.Tree

variable {t u v : Tree} {d k start parent : FileNumber} {names : List FileName} {n : FileName}
  {entries : List (FileName × FileNumber)} {progress : Progress} {place : Place} {links : Nat}
  {p : Path} {bytes : List UInt8}

def IsFile (t : Tree) (k : FileNumber) : Prop :=
  ∃ mode content, t.node? k = some (.file mode content)

/-! ## Where files are made -/

/-- Only links call for a directory. -/
theorem Walks.callsForDirectory (h : t.Walks start names (.arrived place)) :
    place.callsForDirectory = false := by
  -- the place is that of the end, which the induction has to keep in view
  generalize ends : Progress.arrived place = progress at h
  induction h with
  | nil =>
    obtain rfl := Progress.arrived.inj ends
    rfl
  | here _ _ _ ih => exact ih ends
  | up _ _ _ _ ih => exact ih ends
  | missing =>
    obtain rfl := Progress.arrived.inj ends
    rfl
  | link => cases ends
  | last =>
    obtain rfl := Progress.arrived.inj ends
    rfl
  | on _ _ _ _ _ _ ih => exact ih ends

/-- Where a file can be made or written is where the path leads, and no link calls for a directory
there. -/
theorem follows_of_followNew (h : t.followNew start names links = .ok place) :
    t.Follows start names links place ∧ place.callsForDirectory = false := by
  -- on the links that may still be followed
  induction links generalizing start names with
  | zero =>
    rw [followNew, follow] at h
    obtain ⟨progress, walked, h⟩ := exists_of_bind_eq_ok h
    cases progress with
    | arrived place =>
      obtain rfl := Except.ok.inj h
      have walks := walks_of_walk walked
      exact ⟨.arrived walks, walks.callsForDirectory⟩
    | detour => cases h
  | succ links ih =>
    rw [followNew] at h
    obtain ⟨progress, walked, h⟩ := exists_of_bind_eq_ok h
    have walks := walks_of_walk walked
    cases progress with
    | arrived place =>
      obtain rfl := Except.ok.inj h
      exact ⟨.arrived walks, walks.callsForDirectory⟩
    | detour here target rest =>
      dsimp only at h
      split at h
      · obtain ⟨_, -, h⟩ := exists_of_bind_eq_ok h
        cases h
      -- a link in a slash calls for a directory, and a file cannot be made there
      · next open' =>
        obtain ⟨follows, calls⟩ := ih h
        have more := Follows.detour walks follows
        rw [eq_false_of_ne_true open', Bool.or_false] at more
        exact ⟨more, calls⟩

/-- A path under which a file can be, and the place that it leads to. -/
structure Targets (t : Tree) (p : Path) (place : Place) : Prop where
  checked : checkPath p = .ok ()
  follows : t.Follows root p.segments maxLinks place
  ends : p.endsInSlash = false
  calls : place.callsForDirectory = false

/-- Such a path is resolved to the node of the place, if there is one. -/
theorem Targets.resolve (h : t.Targets p place) :
    t.resolve p = match place.node with
      | some k => .ok k
      | none => .error .notFound := by
  have located : t.locate p = .ok place := by
    rw [locate, h.checked]
    exact h.follows.follow
  rw [Tree.resolve, located, h.ends]
  simp only [bind, Except.bind, h.calls]
  cases place.node <;> rfl

theorem isDirectoryNode_of_checkWritable (h : t.checkWritable d = .ok ()) :
    t.isDirectoryNode d = true := by
  unfold checkWritable at h
  split at h
  · next node => exact isDirectoryNode_of_node? node
  · cases h

/-- A write to any path fails, or it writes the file that is there, or makes one. -/
theorem write_cases_of_any (t : Tree) (p : Path) (bytes : List UInt8) :
    (∃ fault, Volume.write p bytes t = (.error fault, t)) ∨ ∃ place, t.Targets p place ∧
      ((∃ k mode old, place.node = some k ∧ t.node? k = some (.file mode old) ∧
          Volume.write p bytes t =
            (.ok (), t.rewritten place.directory (place.name.getD []) k mode bytes)) ∨
        ∃ n, place.node = none ∧ place.name = some n ∧
          t.isDirectoryNode place.directory = true ∧
          Volume.write p bytes t = (.ok (), t.made place.directory n bytes)) := by
  cases created : t.create p with
  | error fault => exact .inl ⟨fault, write_of_error bytes created⟩
  | ok made =>
    obtain ⟨k, u⟩ := made
    have written := write_of_ok bytes created
    refine .inr ?_
    unfold create at created
    dsimp only at created
    by_cases ends : p.endsInSlash = true
    · rw [if_pos ends] at created
      obtain ⟨_, -, created⟩ := exists_of_bind_eq_ok created
      cases created
    · rw [if_neg ends] at created
      obtain ⟨_, checked, created⟩ := exists_of_bind_eq_ok created
      obtain ⟨place, followed, created⟩ := exists_of_bind_eq_ok created
      obtain ⟨follows, calls⟩ := follows_of_followNew followed
      refine ⟨place, ⟨checked, follows, eq_false_of_ne_true ends, calls⟩, ?_⟩
      -- the place has a node, which must be a file, or a name that is free
      cases node_eq : place.node with
      | some j =>
        rw [node_eq] at created
        dsimp only at created
        split at created
        · next mode old node =>
          split at created
          · cases created
            rw [fill_emptied node] at written
            exact .inl ⟨k, mode, old, rfl, node, written⟩
          · cases created
        · cases created
      | none =>
        cases named : place.name with
        | none =>
          rw [node_eq, named] at created
          cases created
        | some name =>
          rw [node_eq, named] at created
          obtain ⟨_, writable, created⟩ := exists_of_bind_eq_ok created
          have directory := isDirectoryNode_of_checkWritable writable
          cases created
          refine .inr ⟨name, rfl, rfl, directory, ?_⟩
          rw [← fill_added directory]
          exact written

/-! ## A name more -/

/-- One tree after another, in which a directory has got a name of a file that is new. -/
structure Gained (d : FileNumber) (n : FileName) (k : FileNumber) (t u : Tree) : Prop where
  free : t.entry? d n = none
  fresh : t.node? k = none
  file : u.IsFile k
  directory : ∃ mode parent entries, t.node? d = some (.directory mode parent entries) ∧
    u.node? d = some (.directory mode parent (entries.filter (·.1 ≠ n) ++ [(n, k)]))
  others : ∀ j, j ≠ d → j ≠ k → u.node? j = t.node? j

/-- Where a lookup ends once a name in a directory is that of a node. -/
def Place.gaining (d : FileNumber) (n : FileName) (k : FileNumber) (place : Place) : Place :=
  { place with
    node := if place.directory = d ∧ place.name = some n then some k else place.node }

/-- How far a walk gets once a name in a directory is that of a node. -/
def Progress.gaining (d : FileNumber) (n : FileName) (k : FileNumber) : Progress → Progress
  | .arrived place => .arrived (place.gaining d n k)
  | .detour here target rest => .detour here target rest

namespace Gained

/-- The new name is of no link, and makes none. -/
theorem link_iff (h : Gained d n k t u) (j : FileNumber) (target : Path) :
    u.node? j = some (.link target) ↔ t.node? j = some (.link target) := by
  obtain ⟨mode, parent, entries, before, after⟩ := h.directory
  obtain ⟨own, content, file⟩ := h.file
  by_cases eq : j = d
  · simp [eq, before, after]
  · by_cases new : j = k
    · simp [new, file, h.fresh]
    · rw [h.others j eq new]

/-- A directory holds what it held, but for the new name. -/
theorem enter (h : Gained d n k t u) (entered : t.enter start = .ok (parent, entries)) :
    ∃ more, u.enter start = .ok (parent, more) ∧
      (∀ name, ¬(start = d ∧ name = n) →
        more.find? (·.1 == name) = entries.find? (·.1 == name)) ∧
      (start = d → entries.find? (·.1 == n) = none ∧ more.find? (·.1 == n) = some (n, k)) := by
  by_cases eq : start = d
  · obtain ⟨mode, above, own, before, after⟩ := h.directory
    subst eq
    -- the name was not among the entries, and is put behind them
    have free : own.find? (·.1 == n) = none := by
      have absent := h.free
      rw [entry_of_node before] at absent
      exact Option.map_eq_none_iff.1 absent
    rw [Tree.enter, before] at entered
    dsimp only at entered
    split at entered
    · next enters =>
      obtain ⟨rfl, rfl⟩ := Prod.mk.inj (Except.ok.inj entered)
      refine ⟨own.filter (·.1 ≠ n) ++ [(n, k)], ?_, ?_, fun _ => ⟨free, ?_⟩⟩
      · rw [Tree.enter, after]
        exact if_pos enters
      · intro name ne
        exact find?_replace_of_ne own k fun equal => ne ⟨rfl, equal⟩
      · exact find?_replace_self own n k
    · cases entered
  -- no other directory changes, and the new node is none
  · have old : start ≠ k := by
      rintro rfl
      rw [Tree.enter, h.fresh] at entered
      cases entered
    refine ⟨entries, ?_, fun _ _ => rfl, fun equal => absurd equal eq⟩
    rw [← entered, Tree.enter, Tree.enter, h.others start eq old]

/-- Walks go as before, but those that end at the new name end at its node. -/
theorem walks (h : Gained d n k t u) (walks : t.Walks start names progress) :
    u.Walks start names (progress.gaining d n k) := by
  -- the new node is a file, and a walk never goes on from it
  have file : ∀ target, u.node? k ≠ some (.link target) := by
    obtain ⟨own, content, file⟩ := h.file
    rw [file]
    exact fun _ => nofun
  induction walks with
  | nil =>
    simp only [Progress.gaining, Place.gaining, reduceCtorEq, and_false, if_false]
    exact .nil
  | here entered named _ ih =>
    obtain ⟨more, entered', -⟩ := h.enter entered
    exact .here entered' named ih
  | up entered not_here named _ ih =>
    obtain ⟨more, entered', -⟩ := h.enter entered
    exact .up entered' not_here named ih
  | @missing start parent entries name entered down absent =>
    obtain ⟨more, entered', agree, new⟩ := h.enter entered
    -- the walk came to the free name, or it missed another one
    by_cases both : start = d ∧ name = n
    · obtain ⟨rfl, rfl⟩ := both
      simp only [Progress.gaining, Place.gaining, and_self, if_true]
      exact .last entered' down (new rfl).2 file
    · simp only [Progress.gaining, Place.gaining, Option.some.injEq, if_neg both]
      exact .missing entered' down ((agree name both).trans absent)
  | @link start parent entries name rest e target entered down found node =>
    obtain ⟨more, entered', agree, new⟩ := h.enter entered
    refine .link entered' down ?_ ((h.link_iff e.2 target).2 node)
    rw [agree name ?_, found]
    rintro ⟨rfl, rfl⟩
    cases (new rfl).1.symm.trans found
  | @last start parent entries name e entered down found unlinked =>
    obtain ⟨more, entered', agree, new⟩ := h.enter entered
    have ne : ¬(start = d ∧ name = n) := by
      rintro ⟨rfl, rfl⟩
      cases (new rfl).1.symm.trans found
    simp only [Progress.gaining, Place.gaining, Option.some.injEq, if_neg ne]
    exact .last entered' down ((agree name ne).trans found) fun target node =>
      unlinked target ((h.link_iff e.2 target).1 node)
  | @on start parent entries name rest e progress entered down found unlinked left _ ih =>
    obtain ⟨more, entered', agree, new⟩ := h.enter entered
    refine .on entered' down ?_
      (fun target node => unlinked target ((h.link_iff e.2 target).1 node)) left ih
    rw [agree name ?_, found]
    rintro ⟨rfl, rfl⟩
    cases (new rfl).1.symm.trans found

theorem follows (h : Gained d n k t u) (follows : t.Follows start names links place) :
    u.Follows start names links (place.gaining d n k) := by
  induction follows with
  | arrived walks => exact .arrived (h.walks walks)
  | detour walks _ ih => exact .detour (h.walks walks) ih

theorem targets (h : Gained d n k t u) (targets : t.Targets p place) :
    u.Targets p (place.gaining d n k) :=
  ⟨targets.checked, h.follows targets.follows, targets.ends, targets.calls⟩

end Gained

theorem gained_made (directory : t.isDirectoryNode d = true) (free : t.entry? d n = none)
    (bytes : List UInt8) : Gained d n t.nodes.size t (t.made d n bytes) := by
  obtain ⟨mode, parent, entries, node⟩ := node?_of_isDirectoryNode directory
  refine ⟨free, node?_size t, ⟨fileMode, bytes, ?_⟩,
    ⟨mode, parent, entries, node, node?_made_directory node bytes⟩, ?_⟩
  · rw [node?_made node, if_pos rfl]
  · intro j ne old
    rw [node?_made node, if_neg (Ne.symm old), if_neg (Ne.symm ne)]

/-- A path that is resolved to a file is read by the mode of that file. -/
theorem read_of_resolve (resolved : t.resolve p = .ok k) {mode : Nat}
    (node : t.node? k = some (.file mode bytes)) :
    t.read p = if mayRead mode then .ok bytes else .error .denied := by
  rw [read, resolved]
  simp only [bind, Except.bind, node]
  rfl

theorem read_of_targets (targets : t.Targets p place) (lands : place.node = some k) {mode : Nat}
    (node : t.node? k = some (.file mode bytes)) :
    t.read p = if mayRead mode then .ok bytes else .error .denied := by
  apply read_of_resolve _ node
  rw [targets.resolve, lands]

/-- A file that was made is read as it was written, whatever the way to it. -/
theorem read_of_written (missing : Volume.read t p = .error .notFound)
    (written : Volume.write p bytes t = (.ok (), u)) : Volume.read u p = .ok bytes := by
  rcases write_cases_of_any t p bytes with ⟨fault, fails⟩ | ⟨place, targets, cases⟩
  · rw [fails] at written
    cases written
  · rcases cases with ⟨k, mode, old, lands, node, done⟩ | ⟨n, absent, named, directory, done⟩
    · -- there is no file
      have read : t.read p = _ := read_of_targets targets lands node
      rw [show t.read p = .error .notFound from missing] at read
      split at read
      · cases read
      · cases read
    · rw [done] at written
      cases written
      -- the lookup ended at a name that the directory does not have
      have free : t.entry? place.directory n = none :=
        (targets.follows.node_eq named).symm.trans absent
      have gained := gained_made directory free bytes
      have lands : (place.gaining place.directory n t.nodes.size).node = some t.nodes.size := by
        simp [Place.gaining, named]
      have made : (t.made place.directory n bytes).node? t.nodes.size =
          some (.file fileMode bytes) := by
        obtain ⟨mode, parent, own, node⟩ := node?_of_isDirectoryNode directory
        rw [node?_made node, if_pos rfl]
      exact read_of_targets (gained.targets targets) lands made

/-! ## Calls that make no file -/

/-- Every file of the second tree is one of the first. -/
def MakesNoFile (t u : Tree) : Prop := ∀ k, u.IsFile k → t.IsFile k

theorem MakesNoFile.refl (t : Tree) : t.MakesNoFile t := fun _ file => file

theorem MakesNoFile.trans (h : t.MakesNoFile u) (h' : u.MakesNoFile v) : t.MakesNoFile v :=
  fun k file => h k (h' k file)

theorem makesNoFile_setNode {node : Node} (unfiled : ∀ mode content, node ≠ .file mode content) :
    t.MakesNoFile (t.setNode d node) := by
  rintro j ⟨mode, content, file⟩
  rw [node?_setNode] at file
  split at file
  · split at file
    · exact absurd (Option.some.inj file) (unfiled mode content)
    · cases file
  · exact ⟨mode, content, file⟩

theorem makesNoFile_setEntries (t : Tree) (d : FileNumber)
    (entries : List (FileName × FileNumber)) :
    t.MakesNoFile (t.setEntries d entries) := by
  unfold setEntries
  split
  · exact makesNoFile_setNode fun _ _ => nofun
  · exact .refl t

theorem makesNoFile_addNode {node : Node} (unfiled : ∀ mode content, node ≠ .file mode content) :
    t.MakesNoFile (t.addNode node).2 := by
  rintro j ⟨mode, content, file⟩
  rw [node?_addNode] at file
  split at file
  · exact absurd (Option.some.inj file) (unfiled mode content)
  · exact ⟨mode, content, file⟩

theorem makesNoFile_remove (p : Path) (t : Tree) : t.MakesNoFile (Volume.remove p t).2 := by
  show t.MakesNoFile (t.attempt (t.remove p)).2
  cases removed : t.remove p with
  | error fault => exact .refl t
  | ok u =>
    obtain ⟨d, n, k, -, rfl⟩ := exists_detach_of_remove removed
    exact makesNoFile_setEntries t d _

/-- A new directory is a node and an entry. -/
theorem makesNoFile_makeDirectory (p : Path) (t : Tree) :
    t.MakesNoFile (Volume.makeDirectory p t).2 := by
  show t.MakesNoFile (t.attempt (t.makeDirectory p)).2
  cases made : t.makeDirectory p with
  | error fault => exact .refl t
  | ok u =>
    obtain ⟨⟨d, name⟩, -, made⟩ := exists_of_bind_eq_ok made
    cases name with
    | none => cases made
    | some n =>
      obtain ⟨entry, -, made⟩ := exists_of_bind_eq_ok made
      cases entry with
      | some k => cases made
      | none =>
        obtain ⟨_, -, made⟩ := exists_of_bind_eq_ok made
        cases made
        have added : t.MakesNoFile (t.addNode (.directory directoryMode d [])).2 :=
          makesNoFile_addNode fun _ _ => nofun
        exact added.trans (makesNoFile_setEntries _ d _)

/-- A missing directory is made with those above it, and no file is. -/
theorem makesNoFile_makeDirectoriesTo (p : Path) (height : Nat) (t : Tree) :
    t.MakesNoFile (Volume.makeDirectoriesTo p height t).2 := by
  -- on the height, which bounds the way up to a directory that is there
  induction height generalizing p t with
  | zero => exact .refl t
  | succ height ih =>
    have first := makesNoFile_makeDirectory p t
    rw [Volume.makeDirectoriesTo]
    split
    · next u missing =>
      rw [missing] at first
      split
      · exact first
      · next above _ =>
        have higher := first.trans (ih above u)
        split
        · next made =>
          rw [made] at higher
          exact higher
        · next v made =>
          rw [made] at higher
          have last := higher.trans (makesNoFile_makeDirectory p v)
          rw [Volume.makeLast]
          split
          · next done =>
            rw [done] at last
            exact last
          · next fails =>
            rw [fails] at last
            split
            · exact last
            · exact last
    · next done =>
      rw [done] at first
      exact first
    · next _ fails =>
      rw [fails] at first
      split
      · exact first
      · exact first

theorem makesNoFile_makeDirectories (p : Path) (t : Tree) :
    t.MakesNoFile (Volume.makeDirectories p t).2 :=
  makesNoFile_makeDirectoriesTo p p.components.length t

/-- A write makes no file where there is one. -/
theorem makesNoFile_write (present : Volume.read t p ≠ .error .notFound) (bytes : List UInt8) :
    t.MakesNoFile (Volume.write p bytes t).2 := by
  rcases write_cases_of_any t p bytes with ⟨fault, fails⟩ | ⟨place, targets, cases⟩
  · rw [fails]
    exact .refl t
  · rcases cases with ⟨k, mode, old, -, node, done⟩ | ⟨n, absent, -, -, -⟩
    · rw [done]
      rintro j ⟨own, content, file⟩
      rw [node?_rewritten node] at file
      split at file
      -- the node that was written was a file before
      · next eq => exact ⟨mode, old, eq ▸ node⟩
      · exact ⟨own, content, file⟩
    · refine absurd ?_ present
      show t.read p = _
      rw [read, targets.resolve, absent]
      rfl

end Lockbox.Tree
