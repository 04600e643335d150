import Lockbox.Proofs.Store.Faithful
import Lockbox.Proofs.Volume.Tree.Steady

/-!
# The cache is invisible

A store and one without slots are taken through the same steps: accesses, purges, invalidations, and
changes of files by others, of which each has to be followed by an invalidation before the next
access (`Disciplined`). They answer alike and keep the same files after every step:

    trace_eq_direct : (ofWorld dir vault w).trace steps = (Direct.mk dir vault w).trace steps

By each step both stay in alike surroundings, and the slots of the first stay faithful
(`step_alike`); where a slot answers for a file, the other store's load gives the same and leaves no
trace.
-/

namespace Lockbox

namespace Direct

variable {σ : Type} [Volume σ]

/-- An access to a scope, which is a load. -/
def access (r : Direct σ) (c : Scope) : Except Error c.Keys × Direct σ :=
  let load := (Load.opened (c.form r.vault) (c.file r.path) (c.resolve r.vault)).run.run r.world
  (load.1, { r with world := load.2 })

theorem step_of_accesses {r : Direct σ} {c : Scope} {next : Store.Step σ}
    (accesses : next.Accesses c) : r.step next = (c.answer (r.access c).1, (r.access c).2) := by
  cases c with
  | host =>
    cases next with
    | host => rfl
    | _ => exact accesses.elim
  | function n =>
    cases next with
    | function name =>
      rw [step, functionKeys_of_usable accesses, Load.function_eq_opened]
      rfl
    | _ => exact accesses.elim

end Direct

namespace Store

variable {σ : Type} [Volume σ] {dir : Path}

/-! ## Discipline -/

/-- Whether a step may be taken while the files of some names were changed and not invalidated. -/
def Step.Allowed (steady : Steady σ dir) (pending : List FileName) : Step σ → Prop
  | .host => pending = []
  | .function _ => pending = []
  | .purge _ => True
  | .invalidate _ => True
  | .change n f => n.IsProper ∧ ∀ v, steady.Fit v → steady.Spares n v (f v)

/-- The names whose files were changed and not invalidated after a step. -/
def Step.pendingAfter (dir : Path) (pending : List FileName) : Step σ → List FileName
  | .invalidate p => pending.filter fun n => dir.join n ≠ p
  | .change n _ => n :: pending
  | _ => pending

/-- Every change by others is followed by an invalidation before the next access. -/
def Disciplined (steady : Steady σ dir) : List FileName → List (Step σ) → Prop
  | _, [] => True
  | pending, next :: rest =>
    next.Allowed steady pending ∧ Disciplined steady (next.pendingAfter dir pending) rest

/-- A change that is invalidated at once. -/
theorem disciplined_change {steady : Steady σ dir} {n : FileName} {f : σ → σ}
    {rest : List (Step σ)} (proper : n.IsProper)
    (spares : ∀ v, steady.Fit v → steady.Spares n v (f v)) (later : Disciplined steady [] rest) :
    Disciplined steady [] (.change n f :: .invalidate (dir.join n) :: rest) := by
  have settled : [n].filter (fun m => dir.join m ≠ dir.join n) = [] := by simp
  refine ⟨⟨proper, spares⟩, trivial, ?_⟩
  show Disciplined steady ([n].filter fun m => dir.join m ≠ dir.join n) rest
  rw [settled]
  exact later

/-! ## Accesses -/

variable {steady : Steady σ dir} {pending : List FileName} {s : Store σ} {r : Direct σ}
  {α β : Type} {form : Load.Form σ α} {finish : α → Action σ β}
  {values : Key.Lookup → α → Except Error β} {hosting : Hosting} {p : Path} {t : Store σ}
  {c : Scope}

/-- A load in surroundings alike to those in which a value is settled gives that value, and the
surroundings stay alike. -/
theorem load_alike_of_settled (reliable : Load.Reliable hosting form finish values)
    {w u : World σ} (alike : w.Alike hosting u) {b : β}
    (settled : Load.Settled hosting form values p w b) :
    ((Load.opened form p finish).run.run u).1 = .ok b ∧
      w.Alike hosting ((Load.opened form p finish).run.run u).2 := by
  obtain ⟨v, hushed, runs⟩ := Load.run_of_settled reliable settled
  obtain ⟨answers, worlds⟩ := Load.respects_opened reliable p w u alike
  rw [runs] at answers worlds
  exact ⟨answers.symm, hushed.alike.trans worlds⟩

theorem access_alike (faithful : Faithful steady [] s) (alike : s.erased.Alike r)
    (named : c.IsNamed) {answer : Answer} (h : s.Access c answer t) :
    answer = c.answer (r.access c).1 ∧ t.erased.Alike (r.access c).2 := by
  have vault : s.vault = r.vault := alike.vault
  have path : s.path = r.path := alike.path
  have worlds : s.world.Alike s.vault.hosting r.world := alike.world
  have beside := h.beside
  have erased : ∀ u : World σ, t.world.Alike s.vault.hosting u →
      t.erased.Alike ⟨s.path, s.vault, u⟩ :=
    fun u after => ⟨beside.path, beside.vault, beside.vault ▸ after⟩
  rw [Direct.access, ← vault, ← path]
  cases h with
  | held cached _ world =>
    -- the slot answers, and a load would give the same
    have settled := settledAt_iff.1 (faithful.settled c named List.not_mem_nil) _ cached
    rw [← faithful.path] at settled
    obtain ⟨given, after⟩ := load_alike_of_settled (c.reliable s.vault) worlds settled
    exact ⟨congrArg c.answer given.symm, erased _ (world ▸ after)⟩
  | loads _ runs =>
    -- both load, in alike surroundings
    have respects := Load.respects_opened (c.reliable s.vault) (c.file s.path)
      s.world r.world worlds
    rw [runs] at respects
    obtain ⟨given, after⟩ := respects
    exact ⟨congrArg c.answer given, erased _ after⟩

theorem step_alike_of_accesses (faithful : Faithful steady [] s) (alike : s.erased.Alike r)
    {next : Step σ} (accesses : next.Accesses c) :
    (s.step next).1 = (r.step next).1 ∧ (s.step next).2.erased.Alike (r.step next).2 ∧
      Faithful steady [] (s.step next).2 := by
  have access := access_step (s := s) accesses
  obtain ⟨answer, after⟩ := access_alike faithful alike accesses.isNamed access
  rw [Direct.step_of_accesses accesses]
  exact ⟨answer, after, faithful_access faithful accesses.isNamed access⟩

/-! ## Runs -/

/-- One step: both answer alike and stay alike, and slots stay faithful. -/
theorem step_alike (faithful : Faithful steady pending s) (alike : s.erased.Alike r)
    {next : Step σ} (allowed : next.Allowed steady pending) :
    (s.step next).1 = (r.step next).1 ∧ (s.step next).2.erased.Alike (r.step next).2 ∧
      Faithful steady (next.pendingAfter dir pending) (s.step next).2 := by
  cases next with
  | host =>
    -- no file was changed since its slot was filled
    obtain rfl : pending = [] := allowed
    exact step_alike_of_accesses (c := .host) faithful alike trivial
  | function name =>
    obtain rfl : pending = [] := allowed
    cases usable : Scope.ofFunction name with
    | error e =>
      rw [step, Direct.step, Direct.functionKeys_of_refused usable, functionKeys_of_refused usable]
      exact ⟨rfl, alike, faithful⟩
    | ok n => exact step_alike_of_accesses (c := .function n) faithful alike usable
  | purge root =>
    have erased_alike : s.erased.Alike (ofWorld r.path r.vault r.world).erased := alike
    exact ⟨rfl, alike_purge erased_alike root, faithful_purge faithful root⟩
  | invalidate p =>
    obtain ⟨path, vault, -, worlds⟩ := world_invalidate s p
    have kept := faithful_invalidate faithful p
    refine ⟨rfl, ⟨path.trans alike.path, vault.trans alike.vault, ?_⟩, kept⟩
    -- the other store has no slot to empty, and only the log grows
    show (s.invalidate p).world.Alike (s.invalidate p).vault.hosting r.world
    rw [vault]
    exact (worlds s.vault.hosting).symm.trans alike.world
  | change n f =>
    obtain ⟨-, spares⟩ := allowed
    have volume : s.world.volume = r.world.volume := alike.world.volume
    refine ⟨rfl, ⟨alike.path, alike.vault, ?_⟩, faithful_change faithful spares⟩
    refine ⟨alike.world.environment, alike.world.entropy, ?_, alike.world.find⟩
    show f s.world.volume = f r.world.volume
    rw [volume]

/-- Whole runs: the answers and the files are those of a store without slots. -/
theorem trace_eq (faithful : Faithful steady pending s) (alike : s.erased.Alike r)
    {steps : List (Step σ)} (disciplined : Disciplined steady pending steps) :
    s.trace steps = r.trace steps := by
  induction steps generalizing s r pending with
  | nil => rfl
  | cons next rest ih =>
    obtain ⟨allowed, later⟩ := disciplined
    obtain ⟨answer, after, kept⟩ := step_alike faithful alike allowed
    have volume : (s.step next).2.world.volume = (r.step next).2.world.volume :=
      after.world.volume
    rw [trace, Direct.trace, answer, volume, ih kept after later]

/-- The slots of a store that was just opened hold nothing. -/
theorem faithful_ofWorld {vault : Vault} {w : World σ} (fit : steady.Fit w.volume)
    (sound : w.keys.Sound) : Faithful steady [] (ofWorld dir vault w) := by
  refine ⟨rfl, sound, fit, fun scope _ _ => settledAt_iff.2 fun held cached => ?_⟩
  exact absurd cached (slotAt?_ofWorld_ne dir vault w scope held)

/-- The cache is invisible: in a steady directory, whatever is asked of a store in whatever order,
answers and files are those of a store that loads on every access. -/
theorem trace_eq_direct (steady : Steady σ dir) (vault : Vault) {w : World σ}
    (fit : steady.Fit w.volume) {history : List (Environment × Option String)}
    (remembered : w.keys = Key.remembered vault.hosting history) {steps : List (Step σ)}
    (disciplined : Disciplined steady [] steps) :
    (ofWorld dir vault w).trace steps = (Direct.mk dir vault w).trace steps := by
  have sound : w.keys.Sound := by
    rw [remembered]
    exact Key.sound_remembered vault.hosting history
  have alike : (ofWorld dir vault w).erased.Alike ⟨dir, vault, w⟩ :=
    ⟨rfl, rfl, .refl vault.hosting w⟩
  exact trace_eq (faithful_ofWorld fit sound) alike disciplined

/-- The keys that a store makes for the host are in their slot. -/
theorem exists_held_of_made {path : Path} {vault : Vault} {w : World σ} (sound : w.keys.Sound)
    (missing : Load.textAt w.volume (Scope.host.file path) = .ok none)
    (made : ((Load.document (Load.hostForm vault) (Scope.host.file path)).run.run w).1.isOk
      = true) :
    ∃ held, ((ofWorld path vault w).step .host).2.host = some held := by
  cases opens : (Load.document (Load.hostForm vault) (Scope.host.file path)).run.run w with
  | mk answer u =>
    rw [opens] at made
    cases answer with
    | error e => cases made
    | ok secrets =>
      obtain ⟨keys, v, loads⟩ :=
        Load.ok_of_missing (Load.reliable_host vault) sound missing opens
      rw [← Load.host_eq_opened] at loads
      have fetched : Slot.fetch none 0 (fun w => (Load.host vault path).run.run w) w =
          (.ok ⟨0, keys⟩, some ⟨0, keys⟩, v) := Slot.fetch_none_of_ok loads
      refine ⟨⟨0, keys⟩, ?_⟩
      rw [step, hostKeys, ofWorld]
      dsimp only [Slot.empty]
      rw [fetched]

/-- A process without a default key, over a tree with an empty secrets directory. -/
def unkeyed : World Tree where
  environment := Variables.table [("Default", "000102030405060708090a0b0c0d0e0f")]
  entropy := .counting
  keys := .empty
  log := []
  volume := ⟨#[.directory Tree.directoryMode Tree.root [(Utf8.encode "secrets", 1)],
    .directory Tree.directoryMode Tree.root []], []⟩

def keyed : Environment :=
  Variables.table [(Key.localVariable, "000102030405060708090a0b0c0d0e0f")]

/-- The same process with a default key, so that it enciphers. -/
def enciphering : World Tree := { unkeyed with environment := keyed }

theorem plain_unkeyed :
    Tree.Plain (Path.ofText "secrets").segments 1 unkeyed.volume := by
  have proper : FileName.IsProper (Utf8.encode "secrets") :=
    ⟨by decide, by decide, by decide, by decide⟩
  have leads : unkeyed.volume.Leads 1 Tree.root [Utf8.encode "secrets"] :=
    .down (by decide) rfl (by decide) proper (by decide) rfl rfl .here
  refine ⟨leads, rfl, ?_, ?_, ?_, ?_⟩
  · exact nofun
  · exact nofun
  · exact nofun
  · exact nofun

theorem isNamed_alpha : (Scope.function "alpha").IsNamed :=
  Scope.isNamed_of_ofFunction (rfl : Scope.ofFunction "Alpha" = .ok "alpha")

/-- Keys are made for the host, which is asked again, and for a function, whose file is then
rewritten by others, and at last removed. -/
def edited (dir : Path) : List (Step Tree) :=
  let file := (Scope.function "alpha").fileName
  [.host, .host, .function "Alpha",
    .change file fun t => (Volume.write (dir.join file) (Utf8.encode Document.flatExample) t).2,
    .invalidate (dir.join file), .function "alpha", .purge (.ofText "functions"),
    .change file fun t => (Volume.remove (dir.join file) t).2,
    .invalidate (dir.join file), .function "ALPHA", .host]

theorem disciplined_edited (dir : Path) (d : FileNumber) :
    Disciplined (Tree.steady dir d) [] (edited dir) := by
  have proper := Scope.isProper_fileName isNamed_alpha
  refine ⟨rfl, rfl, rfl,
    disciplined_change proper ?_ ⟨rfl, trivial, disciplined_change proper ?_ ?_⟩⟩
  · intro t fit
    exact Steady.spares_write fit proper _
  · intro t fit
    exact Steady.spares_remove fit proper
  · exact ⟨rfl, rfl, trivial⟩

/-- The cache does not show while a file is rewritten and removed by others, though the host is
answered from it. -/
theorem trace_eq_direct_of_edited :
    (ofWorld (.ofText "secrets") ⟨.onPremises, true⟩ enciphering).trace
        (edited (.ofText "secrets")) =
      (Direct.mk (.ofText "secrets") ⟨.onPremises, true⟩ enciphering).trace
        (edited (.ofText "secrets")) ∧
    ∃ held, ((ofWorld (.ofText "secrets") ⟨.onPremises, true⟩ enciphering).step .host).2.host =
      some held := by
  have unused : enciphering.keys = Key.remembered .onPremises [] := rfl
  have fit : (Tree.steady (.ofText "secrets") 1).Fit enciphering.volume := plain_unkeyed
  have transparent := trace_eq_direct (Tree.steady (.ofText "secrets") 1) ⟨.onPremises, true⟩ fit
    unused (disciplined_edited _ 1)
  -- the second step of `edited` is answered from the slot that the first has filled
  exact ⟨transparent, exists_held_of_made KeyCache.sound_empty rfl (by decide +kernel)⟩

end Store

end Lockbox
