import Lockbox.Proofs.Volume.Tree.Steady
import Lockbox.Proofs.Volume.Tree.Walk
import Lockbox.Proofs.Volume.Unlinking

/-!
# Removals in a tree

A directory of a tree to which a path leads keeps the laws of removals if its names are proper and
differ (`Tidy`), be there links on the way to it, links and directories in it, or files in it that
have other names elsewhere. Removing a file takes its name out of the directory (`Detached`), and no
lookup notices but those that end at that name:

    unlinking : Unlinking Tree dir
-/

namespace Lockbox.Tree

variable {t u : Tree} {d start parent : FileNumber} {names : List FileName} {m n : FileName}
  {entries : List (FileName × FileNumber)} {progress : Progress} {place : Place} {links : Nat}

/-! ## Names that are taken out -/

/-- A walk through a file fails. -/
theorem not_walks_of_file {k : FileNumber} (file : t.kindOf k = .file) (left : names ≠ []) :
    ¬t.Walks k names progress := by
  have closed : ∀ above, t.enter k ≠ .ok above := by
    intro above entered
    unfold enter at entered
    split at entered
    · next node =>
      rw [kindOf, node] at file
      cases file
    · cases entered
    · cases entered
  intro walks
  cases walks with
  | nil => exact left rfl
  | here entered => exact closed _ entered
  | up entered => exact closed _ entered
  | missing entered => exact closed _ entered
  | link entered => exact closed _ entered
  | last entered => exact closed _ entered
  | on entered => exact closed _ entered

/-- One tree after another, in which a directory has lost a name that was of no directory and no
link. -/
structure Detached (d : FileNumber) (n : FileName) (t u : Tree) : Prop where
  unfiled : ∀ k, t.entry? d n = some k → t.kindOf k = .file
  directory : ∃ mode parent entries, t.node? d = some (.directory mode parent entries) ∧
    u.node? d = some (.directory mode parent (entries.filter (·.1 ≠ n)))
  others : ∀ j, j ≠ d → u.node? j = t.node? j

/-- Whether a lookup ends at a name in a directory. -/
def Place.IsAt (place : Place) (d : FileNumber) (n : FileName) : Prop :=
  place.directory = d ∧ place.name = some n

namespace Detached

theorem link_iff (h : Detached d n t u) (j : FileNumber) (target : Path) :
    u.node? j = some (.link target) ↔ t.node? j = some (.link target) := by
  by_cases eq : j = d
  · obtain ⟨mode, parent, entries, before, after⟩ := h.directory
    rw [eq, before, after]
    exact ⟨nofun, nofun⟩
  · rw [h.others j eq]

theorem kindOf (h : Detached d n t u) (j : FileNumber) : u.kindOf j = t.kindOf j := by
  by_cases eq : j = d
  · obtain ⟨mode, parent, entries, before, after⟩ := h.directory
    rw [Tree.kindOf, Tree.kindOf, eq, before, after]
  · rw [Tree.kindOf, Tree.kindOf, h.others j eq]

/-- A directory holds what it held, but for the name. -/
theorem enter (h : Detached d n t u) (entered : t.enter start = .ok (parent, entries)) :
    ∃ left, u.enter start = .ok (parent, left) ∧
      ∀ name, ¬(start = d ∧ name = n) →
        left.find? (·.1 == name) = entries.find? (·.1 == name) := by
  by_cases eq : start = d
  · obtain ⟨mode, above, own, before, after⟩ := h.directory
    subst eq
    -- entering depends on the mode, which stays
    rw [Tree.enter, before] at entered
    dsimp only at entered
    split at entered
    · next enters =>
      obtain ⟨rfl, rfl⟩ := Prod.mk.inj (Except.ok.inj entered)
      refine ⟨own.filter (·.1 ≠ n), ?_, ?_⟩
      · rw [Tree.enter, after]
        exact if_pos enters
      · intro name ne
        exact find?_filter_ne own fun equal => ne ⟨rfl, equal⟩
    · cases entered
  · refine ⟨entries, ?_, fun _ _ => rfl⟩
    rw [← entered, Tree.enter, Tree.enter, h.others start eq]

/-- Walks that do not end at the name are as before. -/
theorem walks (h : Detached d n t u) (walks : t.Walks start names progress)
    (apart : ∀ place, progress = .arrived place → ¬place.IsAt d n) :
    u.Walks start names progress := by
  -- on the walk, which comes past the name only if that was of a directory or a link
  induction walks with
  | nil => exact .nil
  | here entered named _ ih =>
    obtain ⟨left, entered', -⟩ := h.enter entered
    exact .here entered' named (ih apart)
  | up entered not_here named _ ih =>
    obtain ⟨left, entered', -⟩ := h.enter entered
    exact .up entered' not_here named (ih apart)
  | missing entered down absent =>
    obtain ⟨left, entered', agree⟩ := h.enter entered
    refine .missing entered' down ?_
    rw [agree _ fun at' => apart _ rfl ⟨at'.1, congrArg some at'.2⟩, absent]
  | @link start parent entries name rest e target entered down found node =>
    obtain ⟨left, entered', agree⟩ := h.enter entered
    refine .link entered' down ?_ ((h.link_iff e.2 target).2 node)
    rw [agree name ?_, found]
    rintro ⟨rfl, rfl⟩
    -- the name is of no link
    have file := h.unfiled e.2 (by rw [entry?_of_enter entered, found, Option.map_some])
    rw [Tree.kindOf, node] at file
    cases file
  | @last start parent entries name e entered down found unlinked =>
    obtain ⟨left, entered', agree⟩ := h.enter entered
    refine .last entered' down ?_ fun target node =>
      unlinked target ((h.link_iff e.2 target).1 node)
    rw [agree _ fun at' => apart _ rfl ⟨at'.1, congrArg some at'.2⟩, found]
  | @on start parent entries name rest e progress entered down found unlinked left more ih =>
    obtain ⟨own, entered', agree⟩ := h.enter entered
    refine .on entered' down ?_
      (fun target node => unlinked target ((h.link_iff e.2 target).1 node)) left (ih apart)
    rw [agree name ?_, found]
    rintro ⟨rfl, rfl⟩
    -- nothing is below a file
    have file := h.unfiled e.2 (by rw [entry?_of_enter entered, found, Option.map_some])
    exact not_walks_of_file file left more

theorem follows (h : Detached d n t u) (follows : t.Follows start names links place)
    (apart : ¬place.IsAt d n) : u.Follows start names links place := by
  -- on the links that are followed
  induction follows with
  | arrived walks =>
    refine .arrived (h.walks walks ?_)
    intro place eq
    obtain rfl := Progress.arrived.inj eq
    exact apart
  | detour walks _ ih => exact .detour (h.walks walks nofun) (ih apart)

theorem entriesOf (h : Detached d n t u) :
    u.entriesOf d = (t.entriesOf d).filter (·.1 ≠ n) := by
  obtain ⟨mode, parent, entries, before, after⟩ := h.directory
  rw [Tree.entriesOf, Tree.entriesOf, before, after]

theorem modeOf (h : Detached d n t u) : u.modeOf d = t.modeOf d := by
  obtain ⟨mode, parent, entries, before, after⟩ := h.directory
  rw [Tree.modeOf, Tree.modeOf, before, after]

theorem entryOf (h : Detached d n t u) : u.entryOf = t.entryOf := by
  funext e
  rw [Tree.entryOf, Tree.entryOf, h.kindOf]

theorem isDirectoryNode (h : Detached d n t u) : u.isDirectoryNode d = true := by
  obtain ⟨mode, parent, entries, -, after⟩ := h.directory
  exact isDirectoryNode_of_node? after

/-- Other names that are of no directory hold what they held. -/
theorem held (h : Detached d n t u) (ne : m ≠ n) (apart : t.entry? d m ≠ some d) :
    u.held d m = t.held d m := by
  have eq : u.entry? d m = t.entry? d m := by
    unfold entry?
    rw [h.entriesOf, find?_filter_ne _ ne]
  rw [Tree.held, Tree.held, eq]
  cases entry_eq : t.entry? d m with
  | none => rfl
  | some k =>
    refine h.others k ?_
    rintro rfl
    exact apart entry_eq

end Detached

/-! ## Tidy directories -/

/-- A directory to which a path leads and whose names are proper and differ. -/
structure Tidy (dir : Path) (d : FileNumber) (t : Tree) : Prop where
  resolves : t.resolve dir = .ok d
  directory : t.isDirectoryNode d = true
  proper : ∀ e ∈ t.entriesOf d, e.1.IsProper
  nodup : ((t.entriesOf d).map (·.1)).Nodup

variable {dir : Path} {k : FileNumber}

theorem checkPath_of_resolve (h : t.resolve dir = .ok d) : checkPath dir = .ok () := by
  rw [resolve, locate] at h
  obtain ⟨_, located, -⟩ := exists_of_bind_eq_ok h
  obtain ⟨_, checked, -⟩ := exists_of_bind_eq_ok located
  exact checked

/-- A path that is resolved leads to its node, however many links are on the way. -/
theorem reaches_of_resolve (h : t.resolve dir = .ok d) : t.Reaches dir.segments d := by
  rw [resolve, locate] at h
  obtain ⟨place, located, h⟩ := exists_of_bind_eq_ok h
  obtain ⟨_, -, followed⟩ := exists_of_bind_eq_ok located
  refine ⟨place, follows_of_follow followed, ?_⟩
  -- a lookup may end at a free name, but then nothing is resolved
  cases node_eq : place.node with
  | none =>
    rw [node_eq] at h
    cases h
  | some k =>
    rw [node_eq] at h
    dsimp only at h
    split at h
    · cases h
    · exact congrArg some (Except.ok.inj h)

theorem kindOf_of_directory (h : t.isDirectoryNode d = true) : t.kindOf d = .directory := by
  obtain ⟨mode, parent, entries, node⟩ := node?_of_isDirectoryNode h
  rw [kindOf, node]

namespace Tidy

/-- As names differ, each entry is the one that its name leads to. -/
theorem entry?_of_mem (tidy : Tidy dir d t) {e : FileName × FileNumber} (h : e ∈ t.entriesOf d) :
    t.entry? d e.1 = some e.2 := by
  unfold entry?
  rw [find?_of_mem tidy.nodup h, Option.map_some]

/-- A name less leaves a directory tidy. -/
theorem of_detached (h : Detached d n t u) (tidy : Tidy dir d t) : Tidy dir d u := by
  obtain ⟨place, follows, lands⟩ := reaches_of_resolve tidy.resolves
  -- the directory is not the file that is gone
  have apart : ¬place.IsAt d n := by
    rintro ⟨eq, named⟩
    have held := follows.node_eq named
    rw [eq, lands] at held
    have file := h.unfiled d held.symm
    rw [kindOf_of_directory tidy.directory] at file
    cases file
  refine ⟨?_, h.isDirectoryNode, ?_, ?_⟩
  · rw [resolve_directory ⟨place, h.follows follows apart, lands⟩ h.isDirectoryNode,
      checkPath_of_resolve tidy.resolves]
    rfl
  · intro e he
    rw [h.entriesOf] at he
    exact tidy.proper e (List.mem_filter.1 he).1
  · rw [h.entriesOf]
    exact tidy.nodup.sublist (List.filter_sublist.map _)

/-- A directory that may be read is listed as it is. -/
theorem lists_iff (tidy : Tidy dir d t) {entries : List Entry} :
    Volume.Lists t dir entries ↔
      mayRead (t.modeOf d) = true ∧ entries = (t.entriesOf d).map t.entryOf := by
  show t.list dir = _ ↔ _
  rw [list_directory tidy.resolves tidy.directory]
  split
  · next readable =>
    refine ⟨fun eq => ⟨readable, ?_⟩, fun both => by rw [both.2]⟩
    exact ((List.map_inj_right fun _ _ => Except.ok.inj).1 (Except.ok.inj eq)).symm
  · next closed => exact ⟨nofun, fun both => absurd both.1 closed⟩

/-- What is under a name of no link is read as the mode of the directory and its node say. -/
theorem read_eq (tidy : Tidy dir d t) (proper : n.IsProper)
    (unlinked : ∀ target, t.held d n ≠ some (.link target)) :
    t.read (dir.join n) =
      (admits (dir.join n) (t.modeOf d) n >>= fun _ => readHeld (t.held d n)) :=
  read_of_locate (locate_name (reaches_of_resolve tidy.resolves) tidy.directory proper unlinked
    (dir.segments_join proper)) (dir.endsInSlash_join proper)

section Files

variable {entries : List Entry} {e : Entry} (tidy : Tidy dir d t)
  (listed : Volume.Lists t dir entries) (he : e ∈ entries)

include tidy listed he

theorem exists_of_mem : ∃ k, (e.name, k) ∈ t.entriesOf d ∧ e.kind = .ok (t.kindOf k) := by
  obtain ⟨-, rfl⟩ := tidy.lists_iff.1 listed
  obtain ⟨held, inside, rfl⟩ := List.mem_map.1 he
  exact ⟨held.2, inside, rfl⟩

theorem entry?_of_isFile (file : e.IsFile) :
    ∃ k, t.entry? d e.name = some k ∧ t.kindOf k = .file := by
  obtain ⟨k, inside, kind⟩ := tidy.exists_of_mem listed he
  exact ⟨k, tidy.entry?_of_mem inside, Except.ok.inj (kind.symm.trans file)⟩

theorem held_ne_link (file : e.IsFile) (target : Path) :
    t.held d e.name ≠ some (.link target) := by
  obtain ⟨k, entered, kind⟩ := tidy.entry?_of_isFile listed he file
  rw [held, entered, Option.bind_some]
  intro node
  rw [kindOf, node] at kind
  cases kind

theorem entry?_ne_self (file : e.IsFile) : t.entry? d e.name ≠ some d := by
  obtain ⟨k, entered, kind⟩ := tidy.entry?_of_isFile listed he file
  rw [entered]
  intro eq
  rw [Option.some.inj eq, kindOf_of_directory tidy.directory] at kind
  cases kind

/-- A removal of a file fails and changes nothing, or takes the name of the file out. -/
theorem remove_cases (file : e.IsFile) :
    (∃ fault, Volume.remove (dir.join e.name) t = (.error fault, t)) ∨
      ∃ u, Volume.remove (dir.join e.name) t = (.ok (), u) ∧ Detached d e.name t u := by
  obtain ⟨k, entered, kind⟩ := tidy.entry?_of_isFile listed he file
  have proper := tidy.proper _ (mem_of_entry entered)
  show (∃ fault, t.attempt (t.remove (dir.join e.name)) = _) ∨ ∃ u, t.attempt _ = _ ∧ _
  cases removed : t.remove (dir.join e.name) with
  | error fault => exact .inl ⟨fault, rfl⟩
  | ok u =>
    -- what is removed is the name, in the directory that the path leads to
    obtain ⟨j, rfl⟩ := eq_detach_of_remove (reaches_of_resolve tidy.resolves) proper
      (dir.segments_join proper) removed
    obtain ⟨mode, parent, own, node⟩ := node?_of_isDirectoryNode tidy.directory
    refine .inr ⟨_, rfl, ?_, ⟨mode, parent, own, node, ?_⟩, ?_⟩
    · intro j again
      rw [entered] at again
      rw [← Option.some.inj again]
      exact kind
    · rw [node?_touch, node?_detach node, if_pos rfl]
    · intro j ne
      rw [node?_touch, node?_detach node, if_neg (Ne.symm ne)]

end Files

end Tidy

/-! ## The laws -/

def besides (t : Tree) (d j : FileNumber) : Option Node := (t.setEntries d []).node? j

/-- A name less changes nothing besides. -/
theorem Detached.besides (h : Detached d n t u) : u.besides d = t.besides d := by
  obtain ⟨mode, parent, entries, before, after⟩ := h.directory
  funext j
  rw [Tree.besides, Tree.besides, node?_setEntries before, node?_setEntries after]
  split
  · rfl
  · next ne => exact h.others j (Ne.symm ne)

/-- Tidy directories keep the laws of removals: all that there is besides the names in them stays
as it is. -/
def unlinking (dir : Path) (d : FileNumber) : Unlinking Tree dir where
  Rest := FileNumber → Option Node
  rest t := t.besides d
  Fit := Tidy dir d
  proper := by
    intro t entries tidy listed e he
    obtain ⟨k, inside, -⟩ := tidy.exists_of_mem listed he
    exact tidy.proper _ inside
  nodup := by
    intro t entries tidy listed
    obtain ⟨-, rfl⟩ := tidy.lists_iff.1 listed
    rw [List.map_map]
    exact tidy.nodup
  fit_remove := by
    intro t entries e tidy listed he file
    rcases tidy.remove_cases listed he file with ⟨fault, fails⟩ | ⟨u, done, detached⟩
    · exact fails ▸ tidy
    · exact done ▸ tidy.of_detached detached
  rest_remove := by
    intro t entries e tidy listed he file
    rcases tidy.remove_cases listed he file with ⟨fault, fails⟩ | ⟨u, done, detached⟩
    · exact fails ▸ rfl
    · exact done ▸ detached.besides
  read_remove := by
    intro t entries e f tidy listed he file hf file' ne
    rcases tidy.remove_cases listed he file with ⟨fault, fails⟩ | ⟨u, done, detached⟩
    · exact fails ▸ rfl
    · have eq := detached.held ne (tidy.entry?_ne_self listed hf file')
      have unlinked := tidy.held_ne_link listed hf file'
      obtain ⟨k, inside, -⟩ := tidy.exists_of_mem listed hf
      have proper := tidy.proper _ inside
      rw [done]
      show u.read (dir.join f.name) = t.read (dir.join f.name)
      rw [tidy.read_eq proper unlinked,
        (tidy.of_detached detached).read_eq proper (eq ▸ unlinked), detached.modeOf, eq]
  list_removed := by
    intro t entries e tidy listed he file succeeds
    rcases tidy.remove_cases listed he file with ⟨fault, fails⟩ | ⟨u, done, detached⟩
    · cases (congrArg Prod.fst fails).symm.trans succeeds
    · obtain ⟨readable, rfl⟩ := tidy.lists_iff.1 listed
      rw [done]
      refine ⟨_, (tidy.of_detached detached).lists_iff.2 ⟨detached.modeOf ▸ readable, rfl⟩, ?_⟩
      intro f
      rw [detached.entriesOf, detached.entryOf]
      simp only [List.mem_map, List.mem_filter, decide_eq_true_iff]
      constructor
      · rintro ⟨held, ⟨inside, ne⟩, rfl⟩
        exact ⟨⟨held, inside, rfl⟩, ne⟩
      · rintro ⟨⟨held, inside, rfl⟩, ne⟩
        exact ⟨held, ⟨inside, ne⟩, rfl⟩
  remove_failed := by
    intro t entries e fault tidy listed he file fails
    rcases tidy.remove_cases listed he file with ⟨fault, eq⟩ | ⟨u, done, detached⟩
    · rw [eq]
      exact ⟨⟨entries, listed, fun _ => .rfl⟩, rfl⟩
    · cases (congrArg Prod.fst done).symm.trans fails

end Lockbox.Tree
