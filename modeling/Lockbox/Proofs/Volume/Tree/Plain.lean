import Lockbox.Proofs.Path
import Lockbox.Proofs.Volume.Tree.Walk

/-!
# Plain directories of a tree

A directory of a tree is plain if no link leads to it or lies in it and no two names in it are of
one node (`Plain`). What calls on a file in it do depends on the mode of the directory and on the
node of the file alone: reading is `read_file`, and writing goes one of the ways of `write_cases`.
-/

namespace Lockbox.Tree

variable {t u : Tree} {d : FileNumber} {names : List FileName} {m n : FileName}

/-! ## Ways -/

/-- A way from one directory down to another, on which there are no links. -/
inductive Leads (t : Tree) (d : FileNumber) : FileNumber → List FileName → Prop
  | here : Leads t d d []
  | down {start next parent mode : Nat} {name : FileName} {rest : List FileName}
    {entries : List (FileName × FileNumber)} (apart : start ≠ d)
    (node : t.node? start = some (.directory mode parent entries)) (enters : mayEnter mode = true)
    (proper : name.IsProper) (short : name.length ≤ maxName)
    (found : entries.find? (·.1 == name) = some (name, next))
    (directory : t.isDirectoryNode next = true) (more : Leads t d next rest) :
    Leads t d start (name :: rest)

theorem isHere_of_isProper (h : n.IsProper) : isHere n = false := beq_eq_false_iff_ne.2 h.ne_dot

theorem isUp_of_isProper (h : n.IsProper) : isUp n = false := beq_eq_false_iff_ne.2 h.ne_dots

theorem node?_of_isDirectoryNode {k : FileNumber} (h : t.isDirectoryNode k = true) :
    ∃ mode parent entries, t.node? k = some (.directory mode parent entries) := by
  unfold isDirectoryNode at h
  split at h
  · next mode parent entries node => exact ⟨mode, parent, entries, node⟩
  · cases h

theorem ne_link_of_isDirectoryNode {k : FileNumber} {target : Path}
    (h : t.isDirectoryNode k = true) : t.node? k ≠ some (.link target) := by
  obtain ⟨_, _, _, node⟩ := node?_of_isDirectoryNode h
  rw [node]
  exact nofun

/-- Proper names that are not too long lead down. -/
theorem isDown_of_isProper (h : n.IsProper) (short : n.length ≤ maxName) : IsDown n :=
  ⟨isHere_of_isProper h, isUp_of_isProper h, Nat.not_lt.2 short⟩

theorem walk_down {start next mode parent : Nat} {name : FileName}
    {entries : List (FileName × FileNumber)} (rest : List FileName)
    (node : t.node? start = some (.directory mode parent entries)) (enters : mayEnter mode = true)
    (proper : name.IsProper) (short : name.length ≤ maxName)
    (found : entries.find? (·.1 == name) = some (name, next))
    (directory : t.isDirectoryNode next = true) :
    t.walk start (name :: rest) =
      if rest.isEmpty then .ok (.arrived ⟨start, some name, some next, false⟩)
      else t.walk next rest := by
  have entered : t.enter start = .ok (parent, entries) := by
    rw [enter, node]
    exact if_pos enters
  exact walk_on entered (isDown_of_isProper proper short) found fun _ =>
    ne_link_of_isDirectoryNode directory

/-- A way is walked to its end, and on from there. -/
theorem walk_append {start : FileNumber} (leads : Leads t d start names) (n : FileName) :
    t.walk start (names ++ [n]) = t.walk d [n] := by
  induction leads with
  | here => rfl
  | @down start next parent mode name rest entries _ node enters proper short found directory _
      ih =>
    -- the step does not end the walk, as the last name is left
    have open' : (rest ++ [n]).isEmpty = false := by simp
    rw [List.cons_append, walk_down (rest ++ [n]) node enters proper short found directory, open']
    exact ih

/-- A way is walked to its end. -/
theorem walk_to {start : FileNumber} (leads : Leads t d start names) :
    ∃ place, t.walk start names = .ok (.arrived place) ∧ place.node = some d := by
  induction leads with
  | here => exact ⟨_, rfl, rfl⟩
  | @down start next parent mode name rest entries _ node enters proper short found directory more
      ih =>
    rw [walk_down rest node enters proper short found directory]
    -- the step ends the walk if nothing is left of the way
    cases more with
    | here => exact ⟨_, rfl, rfl⟩
    | down => exact ih

/-! ## Plain directories -/

/-- A directory to which no link leads and in which there is none. Its nodes are not the directory
itself, and each has one name. -/
structure Plain (names : List FileName) (d : FileNumber) (t : Tree) : Prop where
  leads : t.Leads d root names
  directory : t.isDirectoryNode d = true
  proper : ∀ e ∈ t.entriesOf d, e.1.IsProper
  apart : ∀ e ∈ t.entriesOf d, e.2 ≠ d
  unlinked : ∀ e ∈ t.entriesOf d, ∃ node, t.node? e.2 = some node ∧ ∀ target, node ≠ .link target
  distinct : ∀ e ∈ t.entriesOf d, ∀ f ∈ t.entriesOf d, e.2 = f.2 → e.1 = f.1

def modeOf (t : Tree) (d : FileNumber) : Nat :=
  match t.node? d with
  | some (.directory mode _ _) => mode
  | _ => 0

def held (t : Tree) (d : FileNumber) (n : FileName) : Option Node := (t.entry? d n).bind t.node?

/-- Whether a walk gets past a directory to a name in it. -/
def passes (mode : Nat) (n : FileName) : Except OsFault Unit :=
  if mayEnter mode then if maxName < n.length then .error .nameTooLong else .ok ()
  else .error .denied

/-- Whether a lookup gets as far as a name in a directory. -/
def admits (p : Path) (mode : Nat) (n : FileName) : Except OsFault Unit := do
  checkPath p
  if mayEnter mode then
    if maxName < n.length then throw .nameTooLong else return ()
  else throw .denied

theorem admits_eq (p : Path) (mode : Nat) (n : FileName) :
    admits p mode n = (checkPath p >>= fun _ => passes mode n) := rfl

theorem entry_of_node {mode parent : Nat} {entries : List (FileName × FileNumber)}
    (h : t.node? d = some (.directory mode parent entries)) :
    t.entry? d n = (entries.find? (·.1 == n)).map (·.2) := by
  unfold entry?
  rw [entriesOf, h]

theorem mem_of_entry {k : FileNumber} (h : t.entry? d n = some k) : (n, k) ∈ t.entriesOf d := by
  unfold entry? at h
  obtain ⟨e, found, rfl⟩ := Option.map_eq_some_iff.1 h
  have name : e.1 = n := by simpa using List.find?_some found
  rw [← name]
  exact List.mem_of_find?_eq_some found

/-- In a plain directory an entry has a node, and what is held under its name is that node. -/
theorem node?_of_entry? (plain : Plain names d t) {k : FileNumber} (h : t.entry? d n = some k) :
    ∃ node, t.node? k = some node ∧ t.held d n = some node ∧ ∀ target, node ≠ .link target := by
  obtain ⟨node, holds, unlinked⟩ := plain.unlinked _ (mem_of_entry h)
  refine ⟨node, holds, ?_, unlinked⟩
  rw [held, h]
  exact holds

theorem held_of_entry?_eq_none (h : t.entry? d n = none) : t.held d n = none := by
  rw [held, h]
  rfl

/-- A plain directory holds no links. -/
theorem Plain.held_ne_link (plain : Plain names d t) (target : Path) :
    t.held d n ≠ some (.link target) := by
  cases entry_eq : t.entry? d n with
  | none =>
    rw [held_of_entry?_eq_none entry_eq]
    exact nofun
  | some k =>
    obtain ⟨node, -, holds, unlinked⟩ := node?_of_entry? plain entry_eq
    rw [holds]
    exact fun eq => unlinked target (Option.some.inj eq)

/-- A name of no link ends a walk. -/
theorem walk_name (directory : t.isDirectoryNode d = true) (proper : n.IsProper)
    (unlinked : ∀ target, t.held d n ≠ some (.link target)) :
    t.walk d [n] =
      (passes (t.modeOf d) n).map fun _ => .arrived ⟨d, some n, t.entry? d n, false⟩ := by
  obtain ⟨mode, parent, entries, node⟩ := node?_of_isDirectoryNode directory
  rw [modeOf, node, passes, entry_of_node node]
  dsimp only
  -- the mode of the directory decides, and then the length of the name
  split
  · next enters =>
    have entered : t.enter d = .ok (parent, entries) := by
      rw [enter, node]
      exact if_pos enters
    split
    · next long =>
        exact walk_long entered (isHere_of_isProper proper) (isUp_of_isProper proper) long
    · next short =>
      have down := isDown_of_isProper proper (Nat.not_lt.1 short)
      cases found : entries.find? (·.1 == n) with
      | none => exact walk_missing entered down found
      | some e =>
        refine walk_on entered down found fun target holds => unlinked target ?_
        rw [held, entry_of_node node, found]
        exact holds
  · next closed =>
    rw [walk, enter, node]
    dsimp only
    rw [if_neg closed]
    rfl

/-- The names lead to a node, links followed. -/
def Reaches (t : Tree) (names : List FileName) (d : FileNumber) : Prop :=
  ∃ place, t.Follows root names maxLinks place ∧ place.node = some d

theorem reaches_of_plain (plain : Plain names d t) : t.Reaches names d := by
  obtain ⟨place, walked, lands⟩ := walk_to plain.leads
  exact ⟨place, .arrived (walks_of_walk walked), lands⟩

/-- A lookup of a name in a directory ends there, if the name is of no link. -/
theorem locate_name {p : Path} (reaches : t.Reaches names d)
    (directory : t.isDirectoryNode d = true)
    (proper : n.IsProper) (unlinked : ∀ target, t.held d n ≠ some (.link target))
    (segments : p.segments = names ++ [n]) :
    t.locate p = (admits p (t.modeOf d) n).map fun _ => ⟨d, some n, t.entry? d n, false⟩ := by
  obtain ⟨place, follows, lands⟩ := reaches
  have step := walk_name directory proper unlinked
  rw [locate, admits_eq, segments]
  cases checkPath p with
  | error fault => rfl
  | ok _ =>
    -- the walk goes on from where the names have led
    refine follows.follow_append lands directory ?_
    rw [step]
    cases passes (t.modeOf d) n with
    | error fault => rfl
    | ok _ => rfl

/-! ## Reading -/

/-- The bytes of what is held under a name. -/
def readHeld : Option Node → Except OsFault (List UInt8)
  | some (.file mode content) => if mayRead mode then .ok content else .error .denied
  | some (.directory mode _ _) => .error (if mayRead mode then .isDirectory else .denied)
  | _ => .error .notFound

section Located

variable {p : Path}
  (located : t.locate p = (admits p (t.modeOf d) n).map fun _ => ⟨d, some n, t.entry? d n, false⟩)
  (ends : p.endsInSlash = false)

include located ends

/-- Where a lookup ends, the node is that of the entry, if there is one. -/
theorem resolve_of_locate :
    t.resolve p = (admits p (t.modeOf d) n >>= fun _ =>
      match t.entry? d n with
      | some k => .ok k
      | none => .error .notFound) := by
  rw [resolve, located, ends]
  cases admits p (t.modeOf d) n with
  | error fault => rfl
  | ok _ =>
    cases t.entry? d n with
    | none => rfl
    | some k => rfl

/-- Reading goes by the node that is held, and by its mode. -/
theorem read_of_locate :
    t.read p = (admits p (t.modeOf d) n >>= fun _ => readHeld (t.held d n)) := by
  rw [read, resolve_of_locate located ends]
  cases admits p (t.modeOf d) n with
  | error fault => rfl
  | ok _ =>
    cases entry_eq : t.entry? d n with
    | none =>
      rw [held_of_entry?_eq_none entry_eq]
      rfl
    | some k =>
      have holds : t.held d n = t.node? k := by
        rw [held, entry_eq]
        rfl
      rw [holds]
      simp only [bind, Except.bind]
      cases t.node? k with
      | none => rfl
      | some node => cases node <;> rfl

end Located

/-- So a read is told by the mode of the directory and by what it holds under the name. -/
theorem read_file {p : Path} (plain : Plain names d t) (proper : n.IsProper)
    (segments : p.segments = names ++ [n]) (ends : p.endsInSlash = false) :
    t.read p = (admits p (t.modeOf d) n >>= fun _ => readHeld (t.held d n)) :=
  read_of_locate (locate_name (reaches_of_plain plain) plain.directory proper plain.held_ne_link
    segments) ends

/-! ## Writing -/

/-- Whether what is held under a name can be written. -/
def writeHeld (mode : Nat) : Option Node → Except OsFault Unit
  | some (.file own _) => if mayWrite own then .ok () else .error .denied
  | some _ => .error .isDirectory
  | none => if mayWrite mode && mayEnter mode then .ok () else .error .denied

def rewritten (t : Tree) (d : FileNumber) (n : FileName) (k : FileNumber) (mode : Nat)
    (bytes : List UInt8) : Tree :=
  ((t.setNode k (.file mode [])).touch d n k .modified).setNode k (.file mode bytes)

def made (t : Tree) (d : FileNumber) (n : FileName) (bytes : List UInt8) : Tree :=
  (((t.addNode (.file fileMode [])).2.attach d n t.nodes.size).touch d n t.nodes.size
    .created).setNode t.nodes.size (.file fileMode bytes)

/-- A lookup of a name that may be new ends where any lookup of it does. -/
theorem followNew_file {p : Path} (plain : Plain names d t) (proper : n.IsProper)
    (segments : p.segments = names ++ [n]) :
    (checkPath p >>= fun _ => t.followNew root p.segments maxLinks) =
      (admits p (t.modeOf d) n).map fun _ => ⟨d, some n, t.entry? d n, false⟩ := by
  have walked := walk_append plain.leads n
  rw [walk_name plain.directory proper plain.held_ne_link] at walked
  rw [admits_eq, segments]
  cases checkPath p with
  | error fault => rfl
  | ok _ =>
    show t.followNew root (names ++ [n]) 40 = _
    rw [followNew, walked]
    show _ = (passes (t.modeOf d) n).map _
    cases passes (t.modeOf d) n with
    | error fault => rfl
    | ok _ => rfl

/-- A file that is there is emptied, if its mode allows it; otherwise one is added, if that of the
directory does. -/
theorem create_file {p : Path} (plain : Plain names d t) (proper : n.IsProper)
    (segments : p.segments = names ++ [n]) (ends : p.endsInSlash = false) :
    t.create p = (admits p (t.modeOf d) n >>= fun _ =>
      match t.entry? d n with
      | some k =>
        match t.node? k with
        | some (.file mode _) =>
          if mayWrite mode then
            .ok (k, (t.setNode k (.file mode [])).touch d n k .modified)
          else .error .denied
        | _ => .error .isDirectory
      | none => t.checkWritable d >>= fun _ =>
        .ok (t.nodes.size, ((t.addNode (.file fileMode [])).2.attach d n t.nodes.size).touch d n
          t.nodes.size .created)) := by
  have place := followNew_file plain proper segments
  rw [create, ends]
  cases checked : checkPath p with
  | error fault =>
    -- an unusable path is refused before anything is looked up
    have refused : admits p (t.modeOf d) n = .error fault := by rw [admits, checked]; rfl
    rw [refused]
    rfl
  | ok _ =>
    rw [checked] at place
    change t.followNew root p.segments maxLinks = _ at place
    simp only [bind, Except.bind, Bool.false_eq_true, if_false, place, pure, Except.pure]
    cases admits p (t.modeOf d) n with
    | error fault => rfl
    | ok _ =>
      cases entry_eq : t.entry? d n with
      | none => rfl
      | some k =>
        simp only [Except.map]
        cases t.node? k with
        | none => rfl
        | some node =>
          cases node with
          | file mode content => rfl
          | directory => rfl
          | link => rfl

theorem checkWritable_eq (h : t.isDirectoryNode d = true) :
    t.checkWritable d =
      if mayWrite (t.modeOf d) && mayEnter (t.modeOf d) then .ok () else .error .denied := by
  obtain ⟨mode, parent, entries, node⟩ := node?_of_isDirectoryNode h
  rw [checkWritable, modeOf, node]

theorem node?_setNode (t : Tree) (k j : FileNumber) (node : Node) :
    (t.setNode k node).node? j =
      if k = j then if k < t.nodes.size then some node else none else t.node? j := by
  rw [setNode, node?, node?, Array.getElem?_setIfInBounds]

theorem node?_addNode (t : Tree) (j : FileNumber) (node : Node) :
    (t.addNode node).2.node? j = if j = t.nodes.size then some node else t.node? j := by
  rw [addNode, node?, node?, Array.getElem?_push]

@[simp] theorem node?_touch (t : Tree) (d k j : FileNumber) (n : FileName) (change : Notification) :
    (t.touch d n k change).node? j = t.node? j := rfl

theorem lt_size_of_node? {k : FileNumber} {node : Node} (h : t.node? k = some node) :
    k < t.nodes.size := by
  rw [node?, Array.getElem?_eq_some_iff] at h
  exact h.1

theorem node?_addNode_of_some {j : FileNumber} {old : Node} (h : t.node? j = some old)
    (node : Node) : (t.addNode node).2.node? j = some old := by
  rw [node?_addNode, if_neg (Nat.ne_of_lt (lt_size_of_node? h)), h]

/-- Filling a file replaces its content and keeps its mode. -/
theorem fill_of_file {k : FileNumber} {mode : Nat} {content : List UInt8} (bytes : List UInt8)
    (h : t.node? k = some (.file mode content)) :
    t.fill k bytes = t.setNode k (.file mode bytes) := by
  rw [fill, h]

theorem write_of_error {p : Path} {fault : OsFault} (bytes : List UInt8)
    (h : t.create p = .error fault) : Volume.write p bytes t = (.error fault, t) := by
  simp only [Volume.write, Volume.create, h]

theorem write_of_ok {p : Path} {k : FileNumber} (bytes : List UInt8)
    (h : t.create p = .ok (k, u)) : Volume.write p bytes t = (.ok (), u.fill k bytes) := by
  simp only [Volume.write, Volume.create, h]
  rfl

@[simp] theorem node?_size (t : Tree) : t.node? t.nodes.size = none := by
  apply Array.getElem?_eq_none
  exact Nat.le_refl _

@[simp] theorem size_setEntries (t : Tree) (d : FileNumber)
    (entries : List (FileName × FileNumber)) :
    (t.setEntries d entries).nodes.size = t.nodes.size := by
  unfold setEntries
  split
  · exact Array.size_setIfInBounds
  · rfl

/-- A directory gets other entries, and no other node changes. -/
theorem node?_setEntries {mode parent : Nat} {old : List (FileName × FileNumber)}
    (h : t.node? d = some (.directory mode parent old)) (entries : List (FileName × FileNumber))
    (j : FileNumber) :
    (t.setEntries d entries).node? j =
      if d = j then some (.directory mode parent entries) else t.node? j := by
  rw [setEntries, h]
  dsimp only
  rw [node?_setNode, if_pos (lt_size_of_node? h)]

/-- Writing a file anew changes its node and no other. -/
theorem node?_rewritten {k : FileNumber} {node : Node} (holds : t.node? k = some node) (mode : Nat)
    (bytes : List UInt8) (j : FileNumber) :
    (t.rewritten d n k mode bytes).node? j =
      if k = j then some (.file mode bytes) else t.node? j := by
  have within := lt_size_of_node? holds
  -- a touch and a change leave as many nodes as there were
  have size : ((t.setNode k (.file mode [])).touch d n k .modified).nodes.size = t.nodes.size :=
    Array.size_setIfInBounds
  rw [rewritten, node?_setNode, node?_touch, node?_setNode, size, if_pos within, if_pos within]
  by_cases eq : k = j
  · rw [if_pos eq, if_pos eq]
  · rw [if_neg eq, if_neg eq, if_neg eq]

/-- Making a file adds a node, and its name to the directory. -/
theorem node?_made {mode parent : Nat} {entries : List (FileName × FileNumber)}
    (holds : t.node? d = some (.directory mode parent entries)) (bytes : List UInt8)
    (j : FileNumber) :
    (t.made d n bytes).node? j =
      if t.nodes.size = j then some (.file fileMode bytes)
      else if d = j then
        some (.directory mode parent (entries.filter (·.1 ≠ n) ++ [(n, t.nodes.size)]))
      else t.node? j := by
  -- the directory has its number already, and the new node the next one
  have still := node?_addNode_of_some holds (.file fileMode [])
  have own : (t.addNode (.file fileMode [])).2.entriesOf d = entries := by rw [entriesOf, still]
  have size : (((t.addNode (.file fileMode [])).2.attach d n t.nodes.size).touch d n t.nodes.size
      .created).nodes.size = t.nodes.size + 1 := by
    show ((t.addNode (.file fileMode [])).2.attach d n t.nodes.size).nodes.size = _
    rw [attach, size_setEntries]
    exact Array.size_push _
  rw [made, node?_setNode, size, if_pos (Nat.lt_succ_self _), node?_touch, attach, own,
    node?_setEntries still, node?_addNode]
  by_cases eq : t.nodes.size = j
  · rw [if_pos eq, if_pos eq]
  · rw [if_neg eq, if_neg eq, if_neg (Ne.symm eq)]

theorem node?_made_directory {mode parent : Nat} {entries : List (FileName × FileNumber)}
    (holds : t.node? d = some (.directory mode parent entries)) (bytes : List UInt8) :
    (t.made d n bytes).node? d =
      some (.directory mode parent (entries.filter (·.1 ≠ n) ++ [(n, t.nodes.size)])) := by
  have apart : t.nodes.size ≠ d := Nat.ne_of_gt (lt_size_of_node? holds)
  rw [node?_made holds, if_neg apart, if_pos rfl]

/-- Taking a name out of a directory changes no other node. -/
theorem node?_detach {mode parent : Nat} {entries : List (FileName × FileNumber)}
    (holds : t.node? d = some (.directory mode parent entries)) (j : FileNumber) :
    (t.detach d n).node? j =
      if d = j then some (.directory mode parent (entries.filter (·.1 ≠ n))) else t.node? j := by
  have own : t.entriesOf d = entries := by rw [entriesOf, holds]
  rw [detach, own, node?_setEntries holds]

/-- What is filled after it was emptied is written anew. -/
theorem fill_emptied {k mode : Nat} {old : List UInt8} (holds : t.node? k = some (.file mode old))
    (bytes : List UInt8) :
    ((t.setNode k (.file mode [])).touch d n k .modified).fill k bytes =
      t.rewritten d n k mode bytes := by
  have emptied : ((t.setNode k (.file mode [])).touch d n k .modified).node? k =
      some (.file mode []) := by
    rw [node?_touch, node?_setNode, if_pos rfl, if_pos (lt_size_of_node? holds)]
  rw [fill_of_file bytes emptied, rewritten]

/-- What is filled after it was added is made. -/
theorem fill_added (directory : t.isDirectoryNode d = true) (bytes : List UInt8) :
    (((t.addNode (.file fileMode [])).2.attach d n t.nodes.size).touch d n t.nodes.size
      .created).fill t.nodes.size bytes = t.made d n bytes := by
  obtain ⟨mode, parent, entries, node⟩ := node?_of_isDirectoryNode directory
  have apart : d ≠ t.nodes.size := Nat.ne_of_lt (lt_size_of_node? node)
  have still := node?_addNode_of_some node (.file fileMode [])
  -- the file that is filled is the one just added, and empty
  have fresh : (((t.addNode (.file fileMode [])).2.attach d n t.nodes.size).touch d n
      t.nodes.size .created).node? t.nodes.size = some (.file fileMode []) := by
    rw [node?_touch, attach, node?_setEntries still, if_neg apart, node?_addNode, if_pos rfl]
  rw [fill_of_file bytes fresh, made]

/-- A new file is made if the directory allows it. -/
theorem write_of_absent {p : Path} (plain : Plain names d t)
    (created : t.create p = (t.checkWritable d >>= fun _ =>
      .ok (t.nodes.size, ((t.addNode (.file fileMode [])).2.attach d n t.nodes.size).touch d n
        t.nodes.size .created))) (bytes : List UInt8) :
    (∃ fault, writeHeld (t.modeOf d) none = .error fault ∧
      Volume.write p bytes t = (.error fault, t)) ∨
    (writeHeld (t.modeOf d) none = .ok () ∧
      Volume.write p bytes t = (.ok (), t.made d n bytes)) := by
  rw [checkWritable_eq plain.directory] at created
  by_cases allowed : (mayWrite (t.modeOf d) && mayEnter (t.modeOf d)) = true
  · rw [if_pos allowed] at created
    refine .inr ⟨if_pos allowed, ?_⟩
    rw [write_of_ok bytes created, fill_added plain.directory]
  · rw [if_neg allowed] at created
    exact .inl ⟨.denied, if_neg allowed, write_of_error bytes created⟩

/-- A file that is there is written anew if its mode allows it, and a directory is not written. -/
theorem write_of_present {p : Path} {k : FileNumber} {node : Node} (holds : t.node? k = some node)
    (unlinked : ∀ target, node ≠ .link target)
    (created : t.create p =
      match t.node? k with
      | some (.file mode _) =>
        if mayWrite mode then .ok (k, (t.setNode k (.file mode [])).touch d n k .modified)
        else .error .denied
      | _ => .error .isDirectory) (mode : Nat) (bytes : List UInt8) :
    (∃ fault, writeHeld mode (some node) = .error fault ∧
      Volume.write p bytes t = (.error fault, t)) ∨
    (writeHeld mode (some node) = .ok () ∧ ∃ own old, node = .file own old ∧
      Volume.write p bytes t = (.ok (), t.rewritten d n k own bytes)) := by
  rw [holds] at created
  cases node with
  | file own old =>
    by_cases allowed : mayWrite own = true
    · dsimp only at created
      rw [if_pos allowed] at created
      refine .inr ⟨if_pos allowed, own, old, rfl, ?_⟩
      rw [write_of_ok bytes created, fill_emptied holds]
    · dsimp only at created
      rw [if_neg allowed] at created
      exact .inl ⟨.denied, if_neg allowed, write_of_error bytes created⟩
  | directory => exact .inl ⟨.isDirectory, rfl, write_of_error bytes created⟩
  | link target => exact absurd rfl (unlinked target)

/-- A write is refused for a reason that the directory and the file give, or else the file is made
or written anew. -/
theorem write_cases {p : Path} (plain : Plain names d t) (proper : n.IsProper)
    (segments : p.segments = names ++ [n]) (ends : p.endsInSlash = false) (bytes : List UInt8) :
    (∃ fault, (admits p (t.modeOf d) n >>= fun _ => writeHeld (t.modeOf d) (t.held d n)) =
        .error fault ∧ Volume.write p bytes t = (.error fault, t)) ∨
    (admits p (t.modeOf d) n = .ok () ∧ writeHeld (t.modeOf d) (t.held d n) = .ok () ∧
      ((t.entry? d n = none ∧ Volume.write p bytes t = (.ok (), t.made d n bytes)) ∨
        ∃ k mode old, t.entry? d n = some k ∧ t.node? k = some (.file mode old) ∧
          Volume.write p bytes t = (.ok (), t.rewritten d n k mode bytes))) := by
  have created := create_file plain proper segments ends
  cases admitted : admits p (t.modeOf d) n with
  | error fault =>
    rw [admitted] at created
    exact .inl ⟨fault, rfl, write_of_error bytes created⟩
  | ok _ =>
    rw [admitted] at created
    cases entry_eq : t.entry? d n with
    | none =>
      rw [entry_eq] at created
      rw [held_of_entry?_eq_none entry_eq]
      rcases write_of_absent plain created bytes with ⟨fault, refused, eq⟩ | ⟨granted, done⟩
      · exact .inl ⟨fault, refused, eq⟩
      · exact .inr ⟨rfl, granted, .inl ⟨rfl, done⟩⟩
    | some k =>
      rw [entry_eq] at created
      obtain ⟨node, below, holds, unlinked⟩ := node?_of_entry? plain entry_eq
      rw [holds]
      rcases write_of_present below unlinked created (t.modeOf d) bytes with
        ⟨fault, refused, eq⟩ | ⟨granted, mode, old, rfl, done⟩
      · exact .inl ⟨fault, refused, eq⟩
      · exact .inr ⟨rfl, granted, .inr ⟨k, mode, old, rfl, below, done⟩⟩

end Lockbox.Tree
