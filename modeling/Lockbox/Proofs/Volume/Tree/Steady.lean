import Lockbox.Proofs.Basic
import Lockbox.Proofs.Volume.Steady
import Lockbox.Proofs.Volume.Tree.Plain

/-!
# Plain directories are steady

Writing and removing a file patch the tree: they change the directory's entry of that name and one
node that no other name is of (`Patch`). A patch leaves a plain directory plain and all other files
in their state, so that the directory is steady:

    steady : Steady Tree dir
-/

namespace Lockbox.Tree

variable {t u : Tree} {d k : FileNumber} {names : List FileName} {m n : FileName}

/-! ## Patches -/

/-- One tree after another, of which only the file of a name in a directory may differ: the entry of
that name and the node `k`, which is no directory and of no other name. -/
structure Patch (t u : Tree) (d k : FileNumber) (n : FileName) : Prop where
  others : ∀ j, j ≠ d → j ≠ k → u.node? j = t.node? j
  apart : k ≠ d
  undirected : t.isDirectoryNode k = false
  named : ∀ e ∈ t.entriesOf d, e.2 = k → e.1 = n
  directory : ∃ mode parent entries entries',
    t.node? d = some (.directory mode parent entries) ∧
    u.node? d = some (.directory mode parent entries') ∧
    (∀ m, m ≠ n → entries'.find? (·.1 == m) = entries.find? (·.1 == m)) ∧
    ∀ e ∈ entries', e ∈ entries ∨ e = (n, k)
  file : ∀ e ∈ u.entriesOf d, e.2 = k → ∃ mode content, u.node? k = some (.file mode content)

theorem isDirectoryNode_of_node? {j mode parent : Nat} {entries : List (FileName × FileNumber)}
    (h : t.node? j = some (.directory mode parent entries)) : t.isDirectoryNode j = true := by
  rw [isDirectoryNode, h]

namespace Patch

theorem isDirectoryNode (patch : Patch t u d k n) {j : FileNumber}
    (h : t.isDirectoryNode j = true) : u.isDirectoryNode j = true := by
  by_cases eq : j = d
  · obtain ⟨mode, parent, _, entries, -, node, -⟩ := patch.directory
    rw [eq]
    exact isDirectoryNode_of_node? node
  · -- a directory is not the node that changed
    have ne : j ≠ k := by
      rintro rfl
      exact absurd (h.symm.trans patch.undirected) (by decide)
    obtain ⟨mode, parent, entries, node⟩ := node?_of_isDirectoryNode h
    rw [← patch.others j eq ne] at node
    exact isDirectoryNode_of_node? node

/-- The way to the directory does not lead through it, and so it stays as it is. -/
theorem leads (patch : Patch t u d k n) {start : FileNumber} (h : t.Leads d start names) :
    u.Leads d start names := by
  induction h with
  | here => exact .here
  | @down start next parent mode name rest entries apart node enters proper short found directory
      more ih =>
    have ne : start ≠ k := by
      rintro rfl
      exact absurd ((isDirectoryNode_of_node? node).symm.trans patch.undirected) (by decide)
    rw [← patch.others start apart ne] at node
    exact .down apart node enters proper short found (patch.isDirectoryNode directory) ih

/-- All entries but that of the name were there before. -/
theorem mem_entriesOf (patch : Patch t u d k n) {e : FileName × FileNumber}
    (h : e ∈ u.entriesOf d) : e ∈ t.entriesOf d ∨ e = (n, k) := by
  obtain ⟨mode, parent, entries, entries', before, after, -, within⟩ := patch.directory
  have old : t.entriesOf d = entries := by rw [entriesOf, before]
  have new : u.entriesOf d = entries' := by rw [entriesOf, after]
  rw [new] at h
  rw [old]
  exact within e h

/-- Plain directories stay plain. -/
theorem plain (patch : Patch t u d k n) (proper : n.IsProper) (plain : Plain names d t) :
    Plain names d u := by
  -- an entry is an old one or that of the name, and each property is told for both
  refine ⟨patch.leads plain.leads, patch.isDirectoryNode plain.directory, ?_, ?_, ?_, ?_⟩
  · intro e he
    rcases patch.mem_entriesOf he with old | rfl
    · exact plain.proper e old
    · exact proper
  · intro e he
    rcases patch.mem_entriesOf he with old | rfl
    · exact plain.apart e old
    · exact patch.apart
  · intro e he
    by_cases eq : e.2 = k
    · -- the node that changed is a file now
      obtain ⟨mode, content, node⟩ := patch.file e he eq
      rw [eq]
      exact ⟨_, node, fun target => nofun⟩
    · rcases patch.mem_entriesOf he with old | rfl
      · rw [patch.others e.2 (plain.apart e old) eq]
        exact plain.unlinked e old
      · exact absurd rfl eq
  · intro e he f hf equal
    rcases patch.mem_entriesOf he with old | rfl
    · rcases patch.mem_entriesOf hf with old' | rfl
      · exact plain.distinct e old f old' equal
      · -- the node that changed has no other name
        exact patch.named e old equal
    · rcases patch.mem_entriesOf hf with old' | rfl
      · exact (patch.named f old' equal.symm).symm
      · rfl

theorem modeOf (patch : Patch t u d k n) : u.modeOf d = t.modeOf d := by
  obtain ⟨mode, parent, entries, entries', before, after, -, -⟩ := patch.directory
  rw [Tree.modeOf, Tree.modeOf, before, after]

/-- All other files stay as they are. -/
theorem held (patch : Patch t u d k n) (plain : Plain names d t) (ne : m ≠ n) :
    u.held d m = t.held d m := by
  obtain ⟨mode, parent, entries, entries', before, after, find, -⟩ := patch.directory
  have eq : u.entry? d m = t.entry? d m := by
    rw [entry_of_node before, entry_of_node after, find m ne]
  rw [Tree.held, Tree.held, eq]
  cases entry_eq : t.entry? d m with
  | none => rfl
  | some j =>
    have entry := mem_of_entry entry_eq
    -- the other file has a node of its own
    apply patch.others j (plain.apart _ entry)
    intro equal
    exact ne (patch.named _ entry equal)

end Patch

/-- What comes of a call on a file: a fault and the tree as it was, or a patch. -/
inductive Outcome (t : Tree) (d : FileNumber) (n : FileName) : Except OsFault Unit × Tree → Prop
  | failed (fault : OsFault) : Outcome t d n (.error fault, t)
  | patched {u : Tree} {k : FileNumber} (patch : Patch t u d k n) : Outcome t d n (.ok (), u)

namespace Outcome

variable {r : Except OsFault Unit × Tree}

theorem plain (outcome : Outcome t d n r) (proper : n.IsProper) (plain : Plain names d t) :
    Plain names d r.2 := by
  cases outcome with
  | failed => exact plain
  | patched patch => exact patch.plain proper plain

theorem modeOf (outcome : Outcome t d n r) : r.2.modeOf d = t.modeOf d := by
  cases outcome with
  | failed => rfl
  | patched patch => exact patch.modeOf

theorem held (outcome : Outcome t d n r) (plain : Plain names d t) (ne : m ≠ n) :
    r.2.held d m = t.held d m := by
  cases outcome with
  | failed => rfl
  | patched patch => exact patch.held plain ne

/-- A call that failed has changed nothing. -/
theorem eq_of_error (outcome : Outcome t d n r) {fault : OsFault} (failed : r.1 = .error fault) :
    r.2 = t := by
  cases outcome with
  | failed => rfl
  | patched => cases failed

end Outcome

/-! ## Calls that patch -/

/-- Writing a file anew is a patch of its node. -/
theorem patch_rewritten {mode : Nat} {old : List UInt8} (plain : Plain names d t)
    (entry : t.entry? d n = some k) (holds : t.node? k = some (.file mode old))
    (bytes : List UInt8) : Patch t (t.rewritten d n k mode bytes) d k n := by
  have listed := mem_of_entry entry
  have apart := plain.apart _ listed
  obtain ⟨own, parent, entries, node⟩ := node?_of_isDirectoryNode plain.directory
  -- the entries stay, and the node was that of the name before
  refine ⟨?_, apart, ?_, ?_, ⟨own, parent, entries, entries, node, ?_, ?_, ?_⟩, ?_⟩
  · intro j _ ne
    rw [node?_rewritten holds, if_neg (Ne.symm ne)]
  · rw [isDirectoryNode, holds]
  · intro e he eq
    exact plain.distinct e he _ listed eq
  · rw [node?_rewritten holds, if_neg apart]
    exact node
  · intro m _
    rfl
  · intro e he
    exact .inl he
  · intro e _ _
    exact ⟨mode, bytes, by rw [node?_rewritten holds, if_pos rfl]⟩

theorem ne_size_of_mem (plain : Plain names d t) {e : FileName × FileNumber}
    (h : e ∈ t.entriesOf d) : e.2 ≠ t.nodes.size := by
  intro eq
  obtain ⟨node, holds, -⟩ := plain.unlinked e h
  rw [eq, node?_size] at holds
  cases holds

/-- Making a file is a patch of a node that is new. -/
theorem patch_made (plain : Plain names d t) (n : FileName) (bytes : List UInt8) :
    Patch t (t.made d n bytes) d t.nodes.size n := by
  obtain ⟨mode, parent, entries, node⟩ := node?_of_isDirectoryNode plain.directory
  have apart : t.nodes.size ≠ d := Nat.ne_of_gt (lt_size_of_node? node)
  have after := node?_made_directory (n := n) node bytes
  -- the new node has a number that no entry had
  refine ⟨?_, apart, ?_, ?_, ⟨mode, parent, entries, _, node, after, ?_, ?_⟩, ?_⟩
  · intro j ne older
    rw [node?_made node, if_neg (Ne.symm older), if_neg (Ne.symm ne)]
  · rw [isDirectoryNode, node?_size]
  · intro e he eq
    exact absurd eq (ne_size_of_mem plain he)
  · intro m ne
    exact find?_replace_of_ne entries _ ne
  · intro e he
    rcases List.mem_append.1 he with old | new
    · exact .inl (List.mem_filter.1 old).1
    · exact .inr (List.mem_singleton.1 new)
  · intro e _ _
    exact ⟨fileMode, bytes, by rw [node?_made node, if_pos rfl]⟩

/-- Removing a file is a patch without a node: a number that is not in use will do. -/
theorem patch_detach (plain : Plain names d t) (n : FileName) (k : FileNumber) :
    Patch t ((t.detach d n).touch d n k .removed) d t.nodes.size n := by
  obtain ⟨mode, parent, entries, node⟩ := node?_of_isDirectoryNode plain.directory
  have apart : t.nodes.size ≠ d := Nat.ne_of_gt (lt_size_of_node? node)
  have own : t.entriesOf d = entries := by rw [entriesOf, node]
  have left : ((t.detach d n).touch d n k .removed).node? d =
      some (.directory mode parent (entries.filter (·.1 ≠ n))) := by
    rw [node?_touch, node?_detach node, if_pos rfl]
  refine ⟨?_, apart, ?_, ?_, ⟨mode, parent, entries, _, node, left, ?_, ?_⟩, ?_⟩
  · intro j ne _
    rw [node?_touch, node?_detach node, if_neg (Ne.symm ne)]
  · rw [isDirectoryNode, node?_size]
  · intro e he eq
    exact absurd eq (ne_size_of_mem plain he)
  · intro m ne
    exact find?_filter_ne entries ne
  · intro e he
    exact .inl (List.mem_filter.1 he).1
  · intro e he eq
    rw [entriesOf, left] at he
    have old : e ∈ t.entriesOf d := own ▸ (List.mem_filter.1 he).1
    exact absurd eq (ne_size_of_mem plain old)

/-! ## Writing and reading -/

section Files

variable {p : Path} (plain : Plain names d t) (proper : n.IsProper)
  (segments : p.segments = names ++ [n]) (ends : p.endsInSlash = false)

include plain proper segments ends

/-- Whether a write succeeds is told by the mode of the directory and by what is held. -/
theorem write_answer (bytes : List UInt8) :
    (Volume.write p bytes t).1 =
      (admits p (t.modeOf d) n >>= fun _ => writeHeld (t.modeOf d) (t.held d n)) := by
  rcases write_cases plain proper segments ends bytes with
    ⟨fault, refused, wrote⟩ | ⟨admitted, granted, ⟨-, wrote⟩ | ⟨k, mode, old, -, -, wrote⟩⟩
  · rw [refused, wrote]
  · rw [admitted, wrote]
    exact granted.symm
  · rw [admitted, wrote]
    exact granted.symm

/-- A write comes to a patch or to nothing. -/
theorem outcome_write (bytes : List UInt8) : Outcome t d n (Volume.write p bytes t) := by
  rcases write_cases plain proper segments ends bytes with
    ⟨fault, -, wrote⟩ | ⟨-, -, ⟨-, wrote⟩ | ⟨k, mode, old, entry, holds, wrote⟩⟩
  · rw [wrote]
    exact .failed fault
  · rw [wrote]
    exact .patched (patch_made plain n bytes)
  · rw [wrote]
    exact .patched (patch_rewritten plain entry holds bytes)

end Files

/-- A file that was written anew is held with the mode that it had. -/
theorem held_rewritten {mode : Nat} {old : List UInt8} (plain : Plain names d t)
    (entry : t.entry? d n = some k) (holds : t.node? k = some (.file mode old))
    (bytes : List UInt8) :
    (t.rewritten d n k mode bytes).held d n = some (.file mode bytes) := by
  have apart : k ≠ d := plain.apart _ (mem_of_entry entry)
  obtain ⟨own, parent, entries, node⟩ := node?_of_isDirectoryNode plain.directory
  have after : (t.rewritten d n k mode bytes).node? d = some (.directory own parent entries) := by
    rw [node?_rewritten holds, if_neg apart, node]
  have eq : entry? (t.rewritten d n k mode bytes) d n = t.entry? d n := by
    rw [entry_of_node after, entry_of_node node]
  rw [held, eq, entry]
  show (t.rewritten d n k mode bytes).node? k = _
  rw [node?_rewritten holds, if_pos rfl]

theorem held_made (plain : Plain names d t) (n : FileName) (bytes : List UInt8) :
    (t.made d n bytes).held d n = some (.file fileMode bytes) := by
  obtain ⟨mode, parent, entries, node⟩ := node?_of_isDirectoryNode plain.directory
  have entry : entry? (t.made d n bytes) d n = some t.nodes.size := by
    rw [entry_of_node (node?_made_directory node bytes), find?_replace_self entries n t.nodes.size,
      Option.map_some]
  rw [held, entry]
  show (t.made d n bytes).node? t.nodes.size = _
  rw [node?_made node, if_pos rfl]

/-- A file that could be read is written with a mode that lets it be read. -/
theorem read_written {p : Path} (plain : Plain names d t) (proper : n.IsProper)
    (segments : p.segments = names ++ [n]) (ends : p.endsInSlash = false) {bytes : List UInt8}
    (before : (∃ old, t.read p = .ok old) ∨ t.read p = .error .notFound)
    (written : (Volume.write p bytes t).1 = .ok ()) :
    Tree.read (Volume.write p bytes t).2 p = .ok bytes := by
  rcases write_cases plain proper segments ends bytes with
    ⟨fault, -, wrote⟩ | ⟨admitted, -, ⟨-, wrote⟩ | ⟨k, mode, old, entry, node, wrote⟩⟩
  · rw [wrote] at written
    cases written
  -- a new file can be read by everybody who can get there
  · have patch := patch_made plain n bytes
    rw [wrote, read_file (patch.plain proper plain) proper segments ends, patch.modeOf, admitted,
      held_made plain n bytes]
    rfl
  · have patch := patch_rewritten plain entry node bytes
    -- the mode stays, and so the file can still be read
    have readable : mayRead mode = true := by
      have holds : t.held d n = some (.file mode old) := by
        rw [held, entry]
        exact node
      rw [read_file plain proper segments ends, admitted, holds] at before
      by_cases readable : mayRead mode = true
      · exact readable
      · have denied : readHeld (some (.file mode old)) = .error .denied := if_neg readable
        change (∃ old', readHeld (some (.file mode old)) = .ok old') ∨
          readHeld (some (.file mode old)) = .error .notFound at before
        rw [denied] at before
        rcases before with ⟨_, read⟩ | read
        · cases read
        · cases read
    rw [wrote, read_file (patch.plain proper plain) proper segments ends, patch.modeOf, admitted,
      held_rewritten plain entry node bytes]
    exact if_pos readable

/-! ## Removing and listing -/

/-- The directory of a file is looked up without its last name, and must be entered. -/
theorem directoryOf_file {p : Path} (reaches : t.Reaches names d) (proper : n.IsProper)
    (segments : p.segments = names ++ [n]) :
    t.directoryOf p =
      (checkPath p >>= fun _ => t.enter d >>= fun _ => .ok (d, some n)) := by
  obtain ⟨place, follows, lands⟩ := reaches
  have last : (names ++ [n]).getLast? = some n := List.getLast?_concat
  have before : (names ++ [n]).dropLast = names := List.dropLast_concat
  rw [directoryOf, segments, holder, last, before, follows.follow]
  simp only [bind, Except.bind, lands, isHere_of_isProper proper, isUp_of_isProper proper,
    Bool.or_self, Bool.false_eq_true, if_false]
  rfl

/-- What is removed is taken out of the directory that holds its name. -/
theorem exists_detach_of_remove {p : Path} (removed : t.remove p = .ok u) :
    ∃ d n k, t.directoryOf p = .ok (d, some n) ∧ u = (t.detach d n).touch d n k .removed := by
  obtain ⟨⟨d, name⟩, holds, removed⟩ := exists_of_bind_eq_ok removed
  cases name with
  | none => cases removed
  | some n =>
    obtain ⟨entry, -, removed⟩ := exists_of_bind_eq_ok removed
    cases entry with
    | none => cases removed
    | some k =>
      refine ⟨d, n, k, holds, ?_⟩
      dsimp only at removed
      -- a path in a slash asks for a directory, which is not removed
      by_cases ends : p.endsInSlash = true
      · rw [if_pos ends] at removed
        cases removed
      · rw [if_neg ends] at removed
        obtain ⟨_, -, removed⟩ := exists_of_bind_eq_ok removed
        split at removed
        · cases removed
        · exact (Except.ok.inj removed).symm

/-- A file that was removed is gone from its directory. -/
theorem eq_detach_of_remove {p : Path} (reaches : t.Reaches names d) (proper : n.IsProper)
    (segments : p.segments = names ++ [n]) (removed : t.remove p = .ok u) :
    ∃ k, u = (t.detach d n).touch d n k .removed := by
  obtain ⟨d', n', k, holds, rfl⟩ := exists_detach_of_remove removed
  rw [directoryOf_file reaches proper segments] at holds
  obtain ⟨_, -, holds⟩ := exists_of_bind_eq_ok holds
  obtain ⟨_, -, holds⟩ := exists_of_bind_eq_ok holds
  cases holds
  exact ⟨k, rfl⟩

/-- A removal comes to a patch or to nothing. -/
theorem outcome_remove {p : Path} (plain : Plain names d t) (proper : n.IsProper)
    (segments : p.segments = names ++ [n]) :
    Outcome t d n (Volume.remove p t) := by
  show Outcome t d n (t.attempt (t.remove p))
  cases removed : t.remove p with
  | error fault => exact .failed fault
  | ok u =>
    obtain ⟨k, rfl⟩ :=
      eq_detach_of_remove (reaches_of_plain plain) proper segments removed
    exact .patched (patch_detach plain n k)

/-- A path of a plain directory leads to its node. -/
theorem resolve_directory {dir : Path} (reaches : t.Reaches dir.segments d)
    (directory : t.isDirectoryNode d = true) :
    t.resolve dir = (checkPath dir >>= fun _ => .ok d) := by
  obtain ⟨place, follows, lands⟩ := reaches
  rw [resolve, locate, follows.follow]
  cases checkPath dir with
  | error fault => rfl
  | ok _ =>
    simp only [bind, Except.bind, lands, directory, Bool.not_true, Bool.and_false,
      Bool.false_eq_true, if_false]
    rfl

/-- What is listed of a name in a directory. -/
def entryOf (t : Tree) (e : FileName × FileNumber) : Entry := ⟨e.1, .ok (t.kindOf e.2)⟩

/-- A directory that can be read is listed entry by entry. -/
theorem list_directory {dir : Path} (resolved : t.resolve dir = .ok d)
    (directory : t.isDirectoryNode d = true) :
    t.list dir =
      if mayRead (t.modeOf d) then .ok (((t.entriesOf d).map t.entryOf).map .ok)
      else .error .denied := by
  obtain ⟨mode, parent, own, node⟩ := node?_of_isDirectoryNode directory
  rw [list, resolved]
  simp only [bind, Except.bind, modeOf, entriesOf, node, List.map_map]
  rfl

theorem mem_of_list {dir : Path} {entries : List (Except OsFault Entry)} {entry : Entry}
    (plain : Plain dir.segments d t) (listed : t.list dir = .ok entries)
    (h : .ok entry ∈ entries) : ∃ k, (entry.name, k) ∈ t.entriesOf d := by
  -- what was listed was resolved, so that the path is usable
  have resolved : t.resolve dir = .ok d := by
    rw [resolve_directory (reaches_of_plain plain) plain.directory]
    rw [list, resolve_directory (reaches_of_plain plain) plain.directory] at listed
    obtain ⟨_, eq, -⟩ := exists_of_bind_eq_ok listed
    obtain ⟨_, allowed, -⟩ := exists_of_bind_eq_ok eq
    rw [allowed]
    rfl
  rw [list_directory resolved plain.directory] at listed
  split at listed
  · obtain rfl := Except.ok.inj listed
    obtain ⟨_, inside, equal⟩ := List.mem_map.1 h
    obtain rfl := Except.ok.inj equal
    obtain ⟨e, held, rfl⟩ := List.mem_map.1 inside
    exact ⟨e.2, held⟩
  · cases listed

/-! ## Steadiness -/

/-- Plain directories are steady: the state of a file is what is held under its name, with the mode
of the directory. -/
def steady (dir : Path) (d : FileNumber) : Steady Tree dir where
  State := Nat × Option Node
  state t n := (t.modeOf d, t.held d n)
  Fit t := Plain dir.segments d t
  read_congr := by
    intro v u n fit fit' proper eq
    obtain ⟨mode, held⟩ := Prod.mk.inj eq
    have segments := dir.segments_join proper
    have ends := dir.endsInSlash_join proper
    show v.read (dir.join n) = u.read (dir.join n)
    rw [read_file fit proper segments ends, read_file fit' proper segments ends, mode, held]
  write_congr := by
    intro v u n bytes fit fit' proper eq
    obtain ⟨mode, held⟩ := Prod.mk.inj eq
    have segments := dir.segments_join proper
    have ends := dir.endsInSlash_join proper
    rw [write_answer fit proper segments ends, write_answer fit' proper segments ends, mode, held]
  write_failed := by
    intro v n bytes fault fit proper failed
    have segments := dir.segments_join proper
    have ends := dir.endsInSlash_join proper
    exact (outcome_write fit proper segments ends bytes).eq_of_error failed
  read_written := by
    intro v n bytes fit proper before written
    exact read_written fit proper (dir.segments_join proper) (dir.endsInSlash_join proper) before
      written
  fit_write := by
    intro v n bytes fit proper
    have segments := dir.segments_join proper
    have ends := dir.endsInSlash_join proper
    exact (outcome_write fit proper segments ends bytes).plain proper fit
  state_write := by
    intro v m n bytes fit _ proper ne
    have outcome :=
      outcome_write fit proper (dir.segments_join proper) (dir.endsInSlash_join proper) bytes
    rw [outcome.modeOf, outcome.held fit ne]
  fit_remove := by
    intro v n fit proper
    exact (outcome_remove fit proper (dir.segments_join proper)).plain proper fit
  state_remove := by
    intro v m n fit _ proper ne
    have outcome := outcome_remove fit proper (dir.segments_join proper)
    rw [outcome.modeOf, outcome.held fit ne]
  remove_failed := by
    intro v n fault fit proper failed
    rw [(outcome_remove fit proper (dir.segments_join proper)).eq_of_error failed]
  isProper_of_list := by
    intro v entries entry fit listed h
    obtain ⟨k, inside⟩ := mem_of_list fit listed h
    exact fit.proper _ inside

end Lockbox.Tree
