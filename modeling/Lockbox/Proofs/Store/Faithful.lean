import Lockbox.Proofs.Store.Access
import Lockbox.Proofs.Store.Settled

/-!
# Slots that can be trusted

What a slot holds is settled, unless its file was changed by others since (`Faithful`). Every step
of a store preserves this: a slot that was just loaded is settled, a load or removal leaves the
files of other scopes as they were, and a removed file and an invalidated path both lead back to the
slot that has to be emptied.
-/

namespace Lockbox.Store

variable {σ : Type} [Volume σ] {dir : Path}

/-! ## What slots hold -/

/-- What the slot of a scope holds, if anything, is settled. -/
def SettledAt (dir : Path) (s : Store σ) (w : World σ) : Scope → Prop
  | .host => ∀ held, s.host = some held →
    Load.Settled s.vault.hosting (Load.hostForm s.vault) Load.hostValues (Scope.host.file dir) w
      held.value
  | .function n => ∀ held, s.slot? n = some (some held) →
    Load.Settled s.vault.hosting (Load.functionForm s.vault n) (fun find => Load.tableAfter find [])
      ((Scope.function n).file dir) w held.value

/-- What slots hold is settled, unless the file was changed by others and not invalidated. -/
structure Faithful (steady : Steady σ dir) (pending : List FileName) (s : Store σ) : Prop where
  path : s.path = dir
  sound : s.world.keys.Sound
  fit : steady.Fit s.world.volume
  settled : ∀ scope : Scope, scope.IsNamed → scope.fileName ∉ pending →
    SettledAt dir s s.world scope

variable {steady : Steady σ dir} {pending : List FileName} {s t : Store σ} {w v : World σ}
  {scope : Scope}

theorem settledAt_iff : SettledAt dir s w scope ↔
    ∀ held, s.slotAt? scope = some (some held) →
      Load.Settled s.vault.hosting (scope.form s.vault) (fun find => Scope.values find scope)
        (scope.file dir) w held.value := by
  cases scope with
  | host =>
    exact ⟨fun h held cached => h held (Option.some.inj cached),
      fun h held cached => h held (congrArg some cached)⟩
  | function n => exact Iff.rfl

theorem SettledAt.of_shrinks (h : SettledAt dir s w scope) (shrinks : s.Shrinks t) :
    SettledAt dir t w scope := by
  refine settledAt_iff.2 fun held cached => ?_
  rw [shrinks.vault]
  exact settledAt_iff.1 h held (shrinks.slotAt? cached)

theorem SettledAt.of_state_eq (h : SettledAt dir s w scope) (named : scope.IsNamed)
    (fit : steady.Fit w.volume) (fit' : steady.Fit v.volume)
    (unchanged : steady.state v.volume scope.fileName = steady.state w.volume scope.fileName)
    (find : w.find s.vault.hosting = v.find s.vault.hosting) : SettledAt dir s v scope := by
  refine settledAt_iff.2 fun held cached => ?_
  have settled := settledAt_iff.1 h held cached
  exact settled.of_state_eq fit fit' (Scope.isProper_fileName named) unchanged find

/-- What spares the file of a scope leaves what is settled of it. -/
theorem SettledAt.of_spares {n : FileName} (h : SettledAt dir s w scope) (named : scope.IsNamed)
    (fit : steady.Fit w.volume) (spares : steady.Spares n w.volume v.volume)
    (apart : scope.fileName ≠ n) (find : w.find s.vault.hosting = v.find s.vault.hosting) :
    SettledAt dir s v scope :=
  h.of_state_eq named fit spares.fit
    (spares.state scope.fileName (Scope.isProper_fileName named) apart) find

/-! ## Changes by others and invalidations -/

/-- A change by others concerns one file, which is pending from then on. -/
theorem faithful_change {n : FileName} {f : σ → σ} (faithful : Faithful steady pending s)
    (spares : ∀ v, steady.Fit v → steady.Spares n v (f v)) :
    Faithful steady (n :: pending)
      { s with world := { s.world with volume := f s.world.volume } } := by
  have spared := spares s.world.volume faithful.fit
  refine ⟨faithful.path, faithful.sound, spared.fit, ?_⟩
  intro scope named absent
  rw [List.mem_cons, not_or] at absent
  have settled := faithful.settled scope named absent.2
  have after : SettledAt dir s { s.world with volume := f s.world.volume } scope :=
    settled.of_spares named faithful.fit spared absent.1 rfl
  exact after.of_shrinks (.of_slots rfl rfl rfl)

/-- The slot of a scope is empty after the path of its file was invalidated. -/
theorem settledAt_invalidate_self (s : Store σ) (w : World σ) (named : scope.IsNamed) :
    SettledAt dir (s.invalidate (scope.file dir)) w scope := by
  unfold invalidate
  -- the path of the file leads back to the scope
  rw [Scope.ofPath?_file named]
  cases scope with
  | host =>
    intro held cached
    cases cached
  | function n =>
    dsimp only
    cases slot : s.slot? n with
    | none =>
      intro held cached
      rw [slot] at cached
      cases cached
    | some _ =>
      intro held cached
      have emptied : (s.setSlot n none).slot? n = some (some held) := cached
      rw [slot?_setSlot_self] at emptied
      cases emptied

/-- After a notice the file that it is about is no longer pending. -/
theorem faithful_invalidate (faithful : Faithful steady pending s) (p : Path) :
    Faithful steady (pending.filter fun n => dir.join n ≠ p) (s.invalidate p) := by
  obtain ⟨path, vault, keys, alike⟩ := world_invalidate s p
  have worlds := alike s.vault.hosting
  refine ⟨path.trans faithful.path, ?_, ?_, ?_⟩
  · rw [keys]
    exact faithful.sound
  · rw [← worlds.volume]
    exact faithful.fit
  · intro scope named absent
    -- either the slot was emptied, or the file was not changed before
    by_cases eq : dir.join scope.fileName = p
    · rw [← eq]
      exact settledAt_invalidate_self s _ named
    · have unchanged : scope.fileName ∉ pending := by
        intro mem
        exact absent (List.mem_filter.2 ⟨mem, decide_eq_true eq⟩)
      have settled := faithful.settled scope named unchanged
      have fit : steady.Fit (s.invalidate p).world.volume := by
        rw [← worlds.volume]
        exact faithful.fit
      have after : SettledAt dir s (s.invalidate p).world scope :=
        settled.of_state_eq named faithful.fit fit (by rw [worlds.volume]) worlds.find
      exact after.of_shrinks (shrinks_invalidate s p)

/-! ## Purges -/

theorem run_removeFile (s : Store σ) (p : Path) :
    s.removeFile p = ((Volume.remove p s.world.volume).1,
      { s with world := { s.world with volume := (Volume.remove p s.world.volume).2 } }) := rfl

/-- The surroundings after a file was tried to be removed and something was reported. -/
def removed (p : Path) (log : List Event) (w : World σ) : World σ :=
  { w with volume := (Volume.remove p w.volume).2, log := log }

theorem removeOrphan_of_ok {p : Path} {name : String}
    (done : (Volume.remove p s.world.volume).1 = .ok ()) :
    ∃ log, s.removeOrphan p name =
      (true, { s with world := removed p log s.world }.forget name) := by
  rw [removeOrphan, run_removeFile, done]
  exact ⟨_, rfl⟩

theorem removeOrphan_of_error {p : Path} {name : String} {fault : OsFault}
    (fails : (Volume.remove p s.world.volume).1 = .error fault) :
    ∃ log, s.removeOrphan p name = (false, { s with world := removed p log s.world }) := by
  rw [removeOrphan, run_removeFile, fails]
  exact ⟨_, rfl⟩

/-- The file of a scope belongs to the function that the scope is of. -/
theorem eq_function_of_ownerName? {entry : Entry} {name : String} (named : scope.IsNamed)
    (owns : scope.fileName = entry.name) (owned : ownerName? dir entry = some name) :
    scope = .function name := by
  have kind := kind_of_ownerName? owned
  have whole : entry = ⟨scope.fileName, .ok .file⟩ := by
    rw [owns, ← kind]
  rw [whole] at owned
  cases scope with
  | host =>
    rw [ownerName?_host] at owned
    cases owned
  | function n =>
    rw [ownerName?_function named] at owned
    cases owned
    rfl

theorem SettledAt.of_removed {n : FileName} (h : SettledAt dir s s.world scope)
    (named : scope.IsNamed) (fit : steady.Fit s.world.volume) (proper : n.IsProper)
    (apart : scope.fileName ≠ n) (log : List Event) :
    SettledAt dir s (removed (dir.join n) log s.world) scope :=
  h.of_spares named fit (Steady.spares_remove fit proper) apart rfl

/-- A removal concerns the file of one function, whose slot goes with it. -/
theorem faithful_removeOrphan (faithful : Faithful steady pending s) {entry : Entry}
    (proper : entry.name.IsProper) {name : String} (owned : ownerName? dir entry = some name) :
    Faithful steady pending (s.removeOrphan (dir.join entry.name) name).2 := by
  have fit := steady.fit_remove faithful.fit proper
  cases done : (Volume.remove (dir.join entry.name) s.world.volume).1 with
  | ok _ =>
    obtain ⟨log, runs⟩ := removeOrphan_of_ok (s := s) (p := dir.join entry.name) done
    rw [runs]
    refine ⟨faithful.path, faithful.sound, fit, ?_⟩
    intro scope named absent
    by_cases eq : scope.fileName = entry.name
    · -- the slot of the scope is forgotten with its file
      rw [eq_function_of_ownerName? named eq owned]
      intro held cached
      rw [slot?_forget_self] at cached
      cases cached
    · have settled := faithful.settled scope named absent
      have shrinks := shrinks_forget s name
      exact (settled.of_removed named faithful.fit proper eq log).of_shrinks
        ⟨rfl, shrinks.host, shrinks.function⟩
  | error fault =>
    obtain ⟨log, runs⟩ := removeOrphan_of_error (s := s) (p := dir.join entry.name) done
    rw [runs]
    refine ⟨faithful.path, faithful.sound, fit, ?_⟩
    intro scope named absent
    have settled := faithful.settled scope named absent
    -- a removal that fails leaves the file in its state, whatever the scope
    have unmoved : steady.state (removed (dir.join entry.name) log s.world).volume scope.fileName =
        steady.state s.world.volume scope.fileName := by
      by_cases eq : scope.fileName = entry.name
      · rw [eq]
        exact steady.remove_failed faithful.fit proper done
      · exact steady.state_remove faithful.fit (Scope.isProper_fileName named) proper eq
    exact (settled.of_state_eq named faithful.fit fit unmoved rfl).of_shrinks
      (.of_slots rfl rfl rfl)

theorem faithful_removeOrphans (functions : List String)
    {entries : List (Except OsFault Entry)}
    (proper : ∀ entry : Entry, .ok entry ∈ entries → entry.name.IsProper)
    (faithful : Faithful steady pending s) :
    Faithful steady pending (s.removeOrphans functions entries).2 := by
  -- on the entries, as the store loses one file after another
  induction entries generalizing s with
  | nil => exact faithful
  | cons first rest ih =>
    have others : ∀ entry : Entry, .ok entry ∈ rest → entry.name.IsProper :=
      fun entry mem => proper entry (List.mem_cons_of_mem first mem)
    cases first with
    | error fault => exact faithful
    | ok entry =>
      rw [removeOrphans, faithful.path]
      cases owned : ownerName? dir entry with
      | none => exact ih others faithful
      | some name =>
        dsimp only
        split
        · exact ih others faithful
        · have left := faithful_removeOrphan faithful (proper entry List.mem_cons_self) owned
          exact ih others left

theorem Faithful.report (faithful : Faithful steady pending s) (event : Event) :
    Faithful steady pending (s.report event) := by
  refine ⟨faithful.path, faithful.sound, faithful.fit, ?_⟩
  intro scope named absent
  have settled := faithful.settled scope named absent
  have after : SettledAt dir s (s.report event).world scope :=
    settled.of_state_eq named faithful.fit faithful.fit rfl rfl
  exact after.of_shrinks (.of_slots rfl rfl rfl)

/-- A purge removes files one by one, or none at all. -/
theorem faithful_purge (faithful : Faithful steady pending s) (root : Path) :
    Faithful steady pending (s.purge root) := by
  have tried : Faithful steady pending (s.tryPurge root).2 := by
    rw [tryPurge, faithful.path]
    cases functionNames? s.world.volume root with
    | error e => exact faithful
    | ok names =>
      cases names with
      | none => exact faithful
      | some functions =>
        cases listed : Volume.list s.world.volume dir with
        | error fault => cases fault <;> exact faithful
        | ok entries =>
          refine faithful_removeOrphans functions ?_ faithful
          intro entry mem
          exact steady.isProper_of_list faithful.fit listed mem
  exact tried.report _

/-! ## Accesses -/

theorem Faithful.of_shrinks (faithful : Faithful steady pending s) (shrinks : s.Shrinks t)
    (path : t.path = s.path) (world : t.world = s.world) : Faithful steady pending t := by
  refine ⟨path.trans faithful.path, ?_, ?_, ?_⟩
  · rw [world]
    exact faithful.sound
  · rw [world]
    exact faithful.fit
  · intro scope named absent
    rw [world]
    exact (faithful.settled scope named absent).of_shrinks shrinks

/-- An access leaves slots faithful: that of its scope holds what was just loaded, and the files of
two scopes are two. -/
theorem faithful_access (faithful : Faithful steady pending s) (named : scope.IsNamed)
    {answer : Answer} (h : s.Access scope answer t) : Faithful steady pending t := by
  cases h with
  | held cached beside world slot =>
    exact faithful.of_shrinks (beside.shrinks (slot.trans cached.symm)) beside.path world
  | loads _ runs beside left filled =>
    have reliable := scope.reliable (σ := σ) s.vault
    have proper := Scope.isProper_fileName named
    rw [faithful.path] at runs
    obtain ⟨onward, -⟩ := Load.onward_of_load reliable runs
    have spares := Load.spares_of_load reliable faithful.fit proper runs
    refine ⟨beside.path.trans faithful.path, onward.sound faithful.sound, spares.fit, ?_⟩
    intro other otherNamed absent
    -- the scope that was loaded, or one whose file the load has spared
    by_cases eq : other = scope
    · subst eq
      refine settledAt_iff.2 fun found cached => ?_
      obtain rfl := filled found (Option.some.inj (left.symm.trans cached))
      rw [beside.vault]
      exact Load.settled_of_load reliable faithful.fit proper runs
    · have apart : other.fileName ≠ scope.fileName := fun equal =>
        eq (Scope.fileName_injective otherNamed named equal)
      have settled := (faithful.settled other otherNamed absent).of_spares otherNamed faithful.fit
        spares apart onward.find
      refine settledAt_iff.2 fun found cached => ?_
      rw [beside.vault]
      exact settledAt_iff.1 settled found ((beside.slots other eq).symm.trans cached)

end Lockbox.Store
