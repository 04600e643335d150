import Lockbox.Proofs.Store.Faithful

/-!
# What a purge does

A purge goes through the entries of the secrets directory up to the first that cannot be read
(`readable`), picks the orphans among them (`orphans`) and tries to remove each (`removeEach`). The
files that are gone are all that it tells apart afterwards: their functions lose their slots, and
nothing else of the store changes but the volume and the log (`pruned`):

    removeOrphans_eq : ∃ log, s.removeOrphans functions entries =
      (answerOf s.path gone (unreadable? entries), s.pruned gone volume log)
-/

namespace Lockbox.Store

variable {σ : Type} [Volume σ] {s : Store σ} {dir : Path}

/-! ## Orphans -/

def readable : List (Except OsFault Entry) → List Entry
  | .ok entry :: rest => entry :: readable rest
  | _ => []

def unreadable? : List (Except OsFault Entry) → Option OsFault
  | [] => none
  | .ok _ :: rest => unreadable? rest
  | .error fault :: _ => some fault

/-- What can be read was listed. -/
theorem mem_of_mem_readable {entries : List (Except OsFault Entry)} {entry : Entry}
    (h : entry ∈ readable entries) : .ok entry ∈ entries := by
  induction entries with
  | nil => cases h
  | cons first rest ih =>
    cases first with
    | error fault => cases h
    | ok other =>
      rcases List.mem_cons.1 h with rfl | later
      · exact List.mem_cons_self
      · exact List.mem_cons_of_mem _ (ih later)

theorem readable_map_ok (entries : List Entry) : readable (entries.map .ok) = entries := by
  induction entries with
  | nil => rfl
  | cons entry rest ih => rw [List.map_cons, readable, ih]

theorem unreadable?_map_ok (entries : List Entry) : unreadable? (entries.map .ok) = none := by
  induction entries with
  | nil => rfl
  | cons entry rest ih => rw [List.map_cons, unreadable?, ih]

/-- A file of the secrets directory and the name of the function whose keys it holds. -/
structure Orphan where
  file : FileName
  function : String

/-- The orphan that an entry is, if it is one. -/
def orphan? (functions : List String) (dir : Path) (entry : Entry) : Option Orphan :=
  match ownerName? dir entry with
  | none => none
  | some name => if name ∈ functions then none else some ⟨entry.name, name⟩

/-- The orphans among entries, in their order. -/
def orphans (functions : List String) (dir : Path) (entries : List Entry) : List Orphan :=
  entries.filterMap (orphan? functions dir)

/-- Files are tried to be removed one after another: those that are gone, and what is left. -/
def removeEach (dir : Path) : List Orphan → σ → List Orphan × σ
  | [], volume => ([], volume)
  | orphan :: rest, volume =>
    match Volume.remove (dir.join orphan.file) volume with
    | (.ok (), volume) =>
      match removeEach dir rest volume with
      | (gone, volume) => (orphan :: gone, volume)
    | (.error _, volume) => removeEach dir rest volume

/-- A file that is removed is gone, and the removal goes on. -/
theorem removeEach_of_ok {orphan : Orphan} {volume : σ}
    (done : (Volume.remove (dir.join orphan.file) volume).1 = .ok ()) (rest : List Orphan) :
    removeEach dir (orphan :: rest) volume =
      (orphan :: (removeEach dir rest (Volume.remove (dir.join orphan.file) volume).2).1,
        (removeEach dir rest (Volume.remove (dir.join orphan.file) volume).2).2) := by
  rw [removeEach]
  cases removed : Volume.remove (dir.join orphan.file) volume with
  | mk result after =>
    rw [removed] at done
    obtain rfl : result = .ok () := done
    rfl

theorem removeEach_of_error {orphan : Orphan} {volume : σ} {fault : OsFault}
    (fails : (Volume.remove (dir.join orphan.file) volume).1 = .error fault)
    (rest : List Orphan) :
    removeEach dir (orphan :: rest) volume =
      removeEach dir rest (Volume.remove (dir.join orphan.file) volume).2 := by
  rw [removeEach]
  cases removed : Volume.remove (dir.join orphan.file) volume with
  | mk result after =>
    rw [removed] at fails
    obtain rfl : result = .error fault := fails
    rfl

/-- What is gone was to be removed. -/
theorem gone_sublist (dir : Path) (orphans : List Orphan) (volume : σ) :
    (removeEach dir orphans volume).1.Sublist orphans := by
  -- on the orphans, as the volume changes
  induction orphans generalizing volume with
  | nil => exact .refl []
  | cons orphan rest ih =>
    cases done : (Volume.remove (dir.join orphan.file) volume).1 with
    | ok _ =>
      rw [removeEach_of_ok done]
      exact (ih _).cons_cons orphan
    | error fault =>
      rw [removeEach_of_error done]
      exact (ih _).cons orphan

/-! ## The store afterwards -/

/-- A store after files of functions are gone. -/
def pruned (s : Store σ) (gone : List Orphan) (volume : σ) (log : List Event) : Store σ :=
  { s with
    world := { s.world with volume := volume, log := log }
    functions := s.functions.filter (·.1 ∉ gone.map Orphan.function) }

omit [Volume σ] in
theorem pruned_nil (s : Store σ) : s.pruned [] s.world.volume s.world.log = s := by
  have all : s.functions.filter (·.1 ∉ ([] : List Orphan).map Orphan.function) = s.functions :=
    List.filter_eq_self.2 fun _ _ => rfl
  rw [pruned, all]

omit [Volume σ] in
/-- The slots of the functions whose files are gone are dropped, and no others. -/
theorem slot?_pruned (s : Store σ) (gone : List Orphan) (volume : σ) (log : List Event)
    (n : String) :
    (s.pruned gone volume log).slot? n =
      if n ∈ gone.map Orphan.function then none else s.slot? n := by
  rw [slot?, pruned]
  dsimp only
  rw [List.find?_filter]
  -- the function lost its file, or its slot is found as before
  split
  · next mem =>
    rw [Option.map_eq_none_iff, List.find?_eq_none]
    intro e _ found
    obtain ⟨kept, named⟩ := of_decide_eq_true found
    rw [beq_iff_eq] at named
    rw [decide_eq_true_iff, named] at kept
    exact kept mem
  · next apart =>
    rw [slot?]
    congr 2
    funext e
    by_cases eq : e.1 = n
    · simpa [eq] using apart
    · simp [eq]

/-- A store whose orphan is gone, and then others are. -/
theorem pruned_of_forget (s : Store σ) (p : Path) (orphan : Orphan) (gone : List Orphan)
    (volume : σ) (log later : List Event) :
    ({ s with world := removed p log s.world }.forget orphan.function).pruned gone volume later =
      s.pruned (orphan :: gone) volume later := by
  have slots : (s.functions.filter (·.1 ≠ orphan.function)).filter
      (·.1 ∉ gone.map Orphan.function) =
        s.functions.filter (·.1 ∉ (orphan :: gone).map Orphan.function) := by
    rw [List.filter_filter]
    congr 1
    funext e
    by_cases eq : e.1 = orphan.function
    · simp [eq]
    · simp [eq]
  rw [pruned, pruned, ← slots]
  rfl

/-! ## Purges -/

/-- What is answered when files of a directory are gone and its listing ended well or not. -/
def answerOf (dir : Path) (gone : List Orphan) : Option OsFault → Except Error Nat
  | none => .ok gone.length
  | some fault => .error (.file dir fault)

theorem map_answerOf (dir : Path) (gone : List Orphan) (fault : Option OsFault) :
    (answerOf dir gone fault).map (· + 0) = answerOf dir gone fault := by
  cases fault <;> rfl

theorem map_answerOf_cons (dir : Path) (orphan : Orphan) (gone : List Orphan)
    (fault : Option OsFault) :
    (answerOf dir gone fault).map (· + 1) = answerOf dir (orphan :: gone) fault := by
  cases fault <;> rfl

/-- A purge of entries removes the orphans that can be removed. -/
theorem removeOrphans_eq (functions : List String) (entries : List (Except OsFault Entry))
    (s : Store σ) :
    let left := removeEach s.path (orphans functions s.path (readable entries)) s.world.volume
    ∃ log, s.removeOrphans functions entries =
      (answerOf s.path left.1 (unreadable? entries), s.pruned left.1 left.2 log) := by
  dsimp only
  -- on the entries, with the store that the removals before have left
  induction entries generalizing s with
  | nil => exact ⟨s.world.log, Prod.ext rfl (pruned_nil s).symm⟩
  | cons first rest ih =>
    cases first with
    | error fault => exact ⟨s.world.log, Prod.ext rfl (pruned_nil s).symm⟩
    | ok entry =>
      rw [removeOrphans, readable, unreadable?, orphans, List.filterMap_cons, orphan?]
      cases owned : ownerName? s.path entry with
      | none => exact ih s
      | some name =>
        dsimp only
        -- a function that is there keeps its file, and else it is tried to be removed
        by_cases known : name ∈ functions
        · simp only [if_pos known]
          exact ih s
        · simp only [if_neg known]
          cases done : (Volume.remove (s.path.join entry.name) s.world.volume).1 with
          | ok _ =>
            obtain ⟨log, runs⟩ := removeOrphan_of_ok done
            obtain ⟨later, after⟩ := ih ({ s with
              world := removed (s.path.join entry.name) log s.world }.forget name)
            refine ⟨later, ?_⟩
            rw [runs, removeEach_of_ok done]
            dsimp only
            rw [after]
            refine Prod.ext ?_ ?_
            · exact map_answerOf_cons _ _ _ _
            · exact pruned_of_forget s _ ⟨entry.name, name⟩ _ _ log later
          | error fault =>
            obtain ⟨log, runs⟩ := removeOrphan_of_error done
            obtain ⟨later, after⟩ := ih { s with
              world := removed (s.path.join entry.name) log s.world }
            refine ⟨later, ?_⟩
            rw [runs, removeEach_of_error done]
            dsimp only
            rw [after]
            refine Prod.ext ?_ rfl
            exact map_answerOf _ _ _

theorem purge_eq (s : Store σ) (root : Path) :
    s.purge root = (s.tryPurge root).2.report (purged (s.tryPurge root).1) := rfl

/-- What any purge leaves: some files are tried to be removed, and nothing else is touched. -/
theorem exists_pruned_of_purge (s : Store σ) (root : Path) :
    ∃ (orphans : List Orphan) (log : List Event),
      s.purge root = s.pruned (removeEach s.path orphans s.world.volume).1
        (removeEach s.path orphans s.world.volume).2 log := by
  have tried : ∃ (orphans : List Orphan) (log : List Event), (s.tryPurge root).2 =
      s.pruned (removeEach s.path orphans s.world.volume).1
        (removeEach s.path orphans s.world.volume).2 log := by
    have nothing : ∃ (orphans : List Orphan) (log : List Event), s =
        s.pruned (removeEach s.path orphans s.world.volume).1
          (removeEach s.path orphans s.world.volume).2 log :=
      ⟨[], s.world.log, (pruned_nil s).symm⟩
    rw [tryPurge]
    cases functionNames? s.world.volume root with
    | error e => exact nothing
    | ok names =>
      cases names with
      | none => exact nothing
      | some functions =>
        cases Volume.list s.world.volume s.path with
        | error fault => cases fault <;> exact nothing
        | ok entries =>
          obtain ⟨log, runs⟩ := removeOrphans_eq functions entries s
          exact ⟨_, log, congrArg Prod.snd runs⟩
  obtain ⟨orphans, log, left⟩ := tried
  refine ⟨orphans, log ++ [purged (s.tryPurge root).1], ?_⟩
  rw [purge_eq, left]
  rfl

/-- A purge only drops slots. -/
theorem shrinks_purge (s : Store σ) (root : Path) : s.Shrinks (s.purge root) := by
  obtain ⟨orphans, log, left⟩ := exists_pruned_of_purge s root
  rw [left]
  refine ⟨rfl, fun _ cached => cached, ?_⟩
  intro n loaded cached
  rw [slot?_pruned] at cached
  split at cached
  · cases cached
  · exact cached

end Lockbox.Store
