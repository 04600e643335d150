import Lockbox.Proofs.Store.Errands
import Lockbox.Proofs.Store.Transparency

/-!
# Coherence

However calls, invalidations, purges and changes by others interleave: what the slot of a scope in
the map holds is what its file gives now, or a change that names the file is in the channel or being
applied (`coherent`). The invariant (`Covered`) speaks of a slot and of the loads that are under way
in it: as long as no change of the file is known they have in hand what the file holds. Each move
preserves it (`Coherent.next`). A file is not replaced without a change in the channel, which covers
all slots of its scope; a change goes from the channel to the loop and from there to the slot; and
where it ends the slot is empty.
-/

namespace Lockbox.Store.Shared

variable {σ : Type} [Volume σ] {dir : Path} {atomic : Atomic σ dir} {s t : Shared σ} {c : Scope}
  {k : Nat} {q : Clearer} {slot : ScopeSlot c}
  {m : Slot.Move (Load.Stage c.Records) Clearer c.Keys}

/-! ## What slots hold -/

/-- What a slot holds or is about to hold is what the file of its scope gives. -/
def Keeps (atomic : Atomic σ dir) (s : Shared σ) (c : Scope) (slot : ScopeSlot c) : Prop :=
  slot.Upholds (Load.Shows atomic (c.form s.vault) (c.resolve s.vault) c.fileName s.world)
    (Load.Stage.Knows atomic (c.form s.vault) c.fileName s.world.volume)

/-- A slot is about to be cleared for a change of its file. -/
def Pending (s : Shared σ) (c : Scope) (k : Nat) (slot : ScopeSlot c) : Prop :=
  (∃ kind, (c.file s.path, kind) ∈ s.channel) ∨ s.errand .loop = .looking (c.file s.path) ∨
    s.errand .loop = .clearing c k ∧ slot.clearing .loop ≠ .cleared

/-- A slot can be trusted, or is about to be cleared. -/
def Covered (atomic : Atomic σ dir) (s : Shared σ) (c : Scope) (k : Nat) (slot : ScopeSlot c) :
    Prop :=
  s.Keeps atomic c slot ∨ s.Pending c k slot

/-- The slots in the map are covered. -/
structure Coherent (atomic : Atomic σ dir) (s : Shared σ) : Prop extends Sound atomic s where
  covered : ∀ c k, s.current c = some k → s.Covered atomic c k (s.slots c k)

/-- What is so while the file has its content, ids lead where they led and no change is lost. -/
theorem Covered.congr (h : s.Covered atomic c k slot) (path : t.path = s.path)
    (vault : t.vault = s.vault)
    (content : atomic.content t.world.volume c.fileName = atomic.content s.world.volume c.fileName)
    (find : s.world.find s.vault.hosting = t.world.find s.vault.hosting)
    (channel : ∀ change ∈ s.channel, change ∈ t.channel)
    (errand : t.errand .loop = s.errand .loop) : t.Covered atomic c k slot := by
  -- trusted slots depend on the file and on ids, all others on what is underway
  rcases h with keeps | ⟨kind, mem⟩ | looking | about
  · refine .inl ?_
    rw [Keeps, vault]
    refine keeps.mono ?_ ?_
    · intro value shows
      exact shows.of_content_eq (c.reliable s.vault) content find
    · intro stage knows
      exact knows.of_content_eq content
  · exact .inr (.inl ⟨kind, by rw [path]; exact channel _ mem⟩)
  · exact .inr (.inr (.inl (by rw [path, errand, looking])))
  · exact .inr (.inr (.inr (by rw [errand]; exact about)))

/-- A slot whose file has a change in the channel is covered, whatever it holds. -/
theorem covered_of_mem {kind : ChangeKind} (queued : (c.file s.path, kind) ∈ s.channel) :
    s.Covered atomic c k slot := .inr (.inl ⟨kind, queued⟩)

/-- A slot stays covered by all that happens to it, if only its loaders keep to what they know. -/
theorem Covered.next (h : s.Covered atomic c k slot) (guarded : slot.Guarded)
    (enabled : m.Enabled slot)
    (upholds : s.Keeps atomic c slot → m.Upholds
      (Load.Shows atomic (c.form s.vault) (c.resolve s.vault) c.fileName s.world)
      (Load.Stage.Knows atomic (c.form s.vault) c.fileName s.world.volume)) :
    s.Covered atomic c k (m.next slot) := by
  -- only the clearing itself can end the last way of being covered
  rcases h with keeps | queued | looking | ⟨about, pending⟩
  · exact .inl (Slot.Shared.Upholds.next keeps enabled (upholds keeps))
  · exact .inr (.inl queued)
  · exact .inr (.inr (.inl looking))
  · cases m with
    | clear q =>
      -- the slot is empty now, and can be trusted
      exact .inl (Slot.Shared.upholds_of_clear guarded enabled)
    | _ =>
      refine .inr (.inr (.inr ⟨about, ?_⟩))
      simp only [Slot.Move.Enabled, Slot.Move.next, Function.update_apply] at enabled ⊢
      grind

/-! ## What moves preserve -/

/-- What changes no slot and loses no change. -/
theorem Coherent.congr (h : s.Coherent atomic) (path : t.path = s.path) (vault : t.vault = s.vault)
    (slots : t.slots = s.slots) (errand : t.errand = s.errand) (current : t.current = s.current)
    (retains : atomic.Retains s.world.volume t.world.volume)
    (find : s.world.find s.vault.hosting = t.world.find s.vault.hosting)
    (channel : ∀ change ∈ s.channel, change ∈ t.channel) : t.Coherent atomic := by
  refine ⟨h.toSound.congr path slots errand current retains.fit, ?_⟩
  intro c k mapped
  rw [current] at mapped
  rw [slots]
  have content := retains.content c.fileName (Scope.isProper_fileName (h.named c k mapped))
  exact (h.covered c k mapped).congr path vault content find channel (congrFun errand .loop)

theorem Coherent.report (h : s.Coherent atomic) (event : Event) :
    (s.report event).Coherent atomic :=
  h.congr rfl rfl rfl rfl rfl (.refl h.fit) rfl fun _ mem => mem

theorem Coherent.reports (h : s.Coherent atomic) (events : List Event) :
    (events.foldl Shared.report s).Coherent atomic := by
  rw [foldl_report]
  exact h.congr rfl rfl rfl rfl rfl (.refl h.fit) rfl fun _ mem => mem

/-- One change more in the channel covers no less. -/
theorem Coherent.notify (h : s.Coherent atomic) (p : Path) (kind : ChangeKind) :
    (s.notify p kind).Coherent atomic :=
  h.congr rfl rfl rfl rfl rfl (.refl h.fit) rfl fun _ mem => List.mem_append_left _ mem

/-- A file is touched and a change that names it put into the channel. -/
theorem Coherent.touch (h : s.Coherent atomic) {n : FileName} {volume : σ} (kind : ChangeKind)
    (spares : atomic.Spares n s.world.volume volume) :
    Coherent atomic
      ({ s with world := { s.world with volume := volume } }.notify (s.path.join n) kind) := by
  refine ⟨h.toSound.congr rfl rfl rfl rfl spares.fit, ?_⟩
  intro c k mapped
  -- the touched file has its change in the channel, and all others are as they were
  by_cases eq : c.fileName = n
  · have queued : (c.file s.path, kind) ∈ s.channel ++ [(s.path.join n, kind)] := by
      rw [← eq]
      exact List.mem_append_right _ (List.mem_singleton_self _)
    exact covered_of_mem queued
  · have content := spares.content c.fileName (Scope.isProper_fileName (h.named c k mapped)) eq
    exact (h.covered c k mapped).congr rfl rfl content rfl
      (fun _ earlier => List.mem_append_left _ earlier) rfl

/-- Something happens to a slot; clearings neither begin nor end, and loaders keep to what they
know. -/
theorem Coherent.use (h : s.Coherent atomic) (named : c.IsNamed) (enabled : m.Enabled (s.slots c k))
    (clearing : ∀ q, (m.next (s.slots c k)).clearing q ≠ .absent ↔
      (s.slots c k).clearing q ≠ .absent)
    (upholds : s.Keeps atomic c (s.slots c k) → m.Upholds
      (Load.Shows atomic (c.form s.vault) (c.resolve s.vault) c.fileName s.world)
      (Load.Stage.Knows atomic (c.form s.vault) c.fileName s.world.volume)) :
    (s.use c k m).Coherent atomic := by
  refine ⟨h.toSound.use named enabled clearing, ?_⟩
  -- one slot moves, and all others are covered as before
  refine forall_put (P := fun c' k' slot => s.current c' = some k' → s.Covered atomic c' k' slot)
    ?_ fun c' k' _ => h.covered c' k'
  intro mapped
  exact (h.covered c k mapped).next (h.guarded c k) enabled upholds

/-- A call looks up its slot or puts a fresh one into the map, which holds nothing yet. -/
theorem Coherent.call (h : s.Coherent atomic) (named : c.IsNamed) (offers : s.Offers c k) {i : Nat}
    (absent : (s.slots c k).caller i = .absent) : (s.call c k i).Coherent atomic := by
  refine ⟨h.toSound.call named absent, ?_⟩
  -- a slot that is new is trusted, since it holds nothing
  have mine : s.Covered atomic c k (s.slots c k) := by
    rcases offers with mapped | ⟨-, fresh⟩
    · exact h.covered c k mapped
    · rw [fresh]
      exact .inl Slot.Shared.upholds_fresh
  refine forall_put (P := fun c' k' slot =>
    Function.update s.current c (some k) c' = some k' → s.Covered atomic c' k' slot) ?_ ?_
  · intro _
    exact mine.next (h.guarded c k) absent fun _ => trivial
  -- another slot of the same scope is not the current one
  · intro c' k' apart mapped
    by_cases eq : c' = c
    · subst eq
      rw [Function.update_self] at mapped
      injection mapped with number
      exact absurd number.symm (apart rfl)
    · rw [Function.update_of_ne eq] at mapped
      exact h.covered c' k' mapped

/-- Turning to or from an errand that is not about a slot, if the loop does not drop a change. -/
theorem Coherent.turn (h : s.Coherent atomic) {errand : Errand}
    (before : (s.errand q).IsFree) (after : errand.IsFree)
    (dropped : q = .loop → ∀ c k, s.current c = some k →
      s.errand .loop ≠ .looking (c.file s.path)) :
    (s.turn q errand).Coherent atomic := by
  refine ⟨h.toSound.turn before after, ?_⟩
  intro c k mapped
  -- only what the loop is about counts as cover
  by_cases mine : q = .loop
  · subst mine
    rcases h.covered c k mapped with keeps | queued | looking | ⟨about, -⟩
    · exact .inl keeps
    · exact .inr (.inl queued)
    · exact absurd looking (dropped rfl c k mapped)
    · exact absurd about (before c k)
  · have ne : Clearer.loop ≠ q := fun eq => mine eq.symm
    exact (h.covered c k mapped).congr rfl rfl rfl rfl (fun _ earlier => earlier)
      (errand_turn_of_ne s ne errand)

/-- Whoever seeks a slot clears the current one, and the loop so answers for the change that it took
from the channel. -/
theorem Coherent.seek (h : s.Coherent atomic) (before : (s.errand q).IsFree)
    (aim : q = .loop → ∀ c', c'.IsNamed → s.errand .loop = .looking (c'.file s.path) → c' = c) :
    (s.seek q c).Coherent atomic := by
  refine ⟨h.toSound.seek before c, ?_⟩
  unfold Shared.seek
  cases current_eq : s.current c with
  | none =>
    -- there is no slot to clear, and none that the change was to cover
    have turned : (s.turn q .idle).Coherent atomic := by
      refine h.turn before Errand.isFree_idle ?_
      intro loop c' k' current looking
      rw [aim loop c' (h.named c' k' current) looking, current_eq] at current
      cases current
    exact turned.covered
  | some k =>
    intro c' k' current
    have free := h.absent before c k
    -- in the slots nothing changes but that a clearing waits
    have waits : s.Covered atomic c' k' ((s.use c k (.wantClear q)).slots c' k') := by
      refine forall_put
        (P := fun c' k' slot => s.current c' = some k' → s.Covered atomic c' k' slot)
        ?_ (fun c' k' _ => h.covered c' k') c' k' current
      exact fun _ => (h.covered c k current_eq).next (h.guarded c k) free fun _ => trivial
    -- the loop now answers by its clearing for what it answered for by looking
    by_cases mine : q = .loop
    · subst mine
      rcases waits with keeps | queued | looking | ⟨about, -⟩
      · exact .inl keeps
      · exact .inr (.inl queued)
      · obtain rfl := aim rfl c' (h.named c' k' current) looking
        obtain rfl := Option.some.inj (current.symm.trans current_eq)
        refine .inr (.inr (.inr ⟨errand_turn_self _ _ _, ?_⟩))
        simp [Shared.turn, Shared.use, Slot.Move.next]
      · exact absurd about (before c' k')
    · have ne : Clearer.loop ≠ q := fun eq => mine eq.symm
      exact waits.congr rfl rfl rfl rfl (fun _ earlier => earlier) (errand_turn_of_ne _ ne _)

/-- The loop looks up the scope of a path. If a slot was covered by this very change, the path leads
to its scope; otherwise nothing hangs on the look-up. -/
theorem Coherent.find (h : s.Coherent atomic) {p : Path} (errand : s.errand q = .looking p) :
    (s.find q p).Coherent atomic := by
  have before : (s.errand q).IsFree := by
    rw [errand]
    exact Errand.isFree_looking p
  -- a change that names the file of a scope leads to that scope
  have leads : q = .loop → ∀ c', c'.IsNamed → s.errand .loop = .looking (c'.file s.path) →
      Scope.ofPath? p = some c' := by
    rintro rfl c' named looking
    rw [errand] at looking
    injection looking with same
    rw [same]
    exact Scope.ofPath?_file named
  unfold Shared.find
  cases aimed : Scope.ofPath? p with
  | none =>
    refine h.turn before Errand.isFree_idle ?_
    intro loop c k current looking
    have led := leads loop c (h.named c k current) looking
    rw [aimed] at led
    cases led
  | some c =>
    refine h.seek before ?_
    intro loop c' named looking
    have led := leads loop c' named looking
    rw [aimed] at led
    exact (Option.some.inj led).symm

/-- What is so of a slot that the loop is not about to clear. -/
theorem Covered.idle (h : s.Covered atomic c k slot) (looking : ∀ p, s.errand .loop ≠ .looking p)
    (about : s.errand .loop = .clearing c k → slot.clearing .loop = .cleared) :
    (s.turn .loop .idle).Covered atomic c k slot := by
  rcases h with keeps | queued | look | ⟨eq, pending⟩
  · exact .inl keeps
  · exact .inr (.inl queued)
  · exact absurd look (looking _)
  · exact absurd (about eq) pending

/-- A clearing ends. The slot is empty by then, and needs no errand to be covered any longer. -/
theorem Coherent.settle (h : s.Coherent atomic) (errand : s.errand q = .clearing c k)
    (cleared : (s.slots c k).clearing q = .cleared) : (s.settle q c k).Coherent atomic := by
  refine Coherent.reports ⟨h.toSound.leave errand cleared, ?_⟩ _
  -- first the errand ends, then the lock of the slot is left
  have turned : ∀ c' k', s.current c' = some k' →
      (s.turn q .idle).Covered atomic c' k' (s.slots c' k') := by
    intro c' k' current
    have covered := h.covered c' k' current
    by_cases mine : q = .loop
    · subst mine
      refine covered.idle (fun p looking => ?_) ?_
      · rw [errand] at looking
        cases looking
      · intro about
        rw [errand] at about
        injection about with scope number
        subst scope number
        exact cleared
    · have ne : Clearer.loop ≠ q := fun eq => mine eq.symm
      exact covered.congr rfl rfl rfl rfl (fun _ earlier => earlier) (errand_turn_of_ne s ne _)
  refine forall_put (P := fun c' k' slot =>
    s.current c' = some k' → (s.turn q .idle).Covered atomic c' k' slot) ?_
    fun c' k' _ => turned c' k'
  intro mapped
  exact (turned c k mapped).next (h.guarded c k) cleared fun _ => trivial

/-- A change that is taken from the channel is being applied, if it names a file of secrets. -/
theorem Coherent.take (h : s.Coherent atomic) (idle : s.errand .loop = .idle) :
    s.take.Coherent atomic := by
  have unused : (s.errand .loop).IsFree := by
    rw [idle]
    exact Errand.isFree_idle
  unfold Shared.take
  cases queue : s.channel with
  | nil => exact h
  | cons change rest =>
    obtain ⟨p, kind⟩ := change
    have sound : Sound atomic { s with channel := rest } := h.toSound.congr rfl rfl rfl rfl h.fit
    -- what a slot is covered by, now that the first change is out of the channel
    have left : ∀ c k, s.current c = some k →
        s.Keeps atomic c (s.slots c k) ∨ c.file s.path = p ∨
          ∃ kind, (c.file s.path, kind) ∈ rest := by
      intro c k mapped
      rcases h.covered c k mapped with keeps | ⟨kind', queued⟩ | looking | ⟨about, -⟩
      · exact .inl keeps
      · rw [queue, List.mem_cons] at queued
        rcases queued with first | later
        · exact .inr (.inl (congrArg Prod.fst first))
        · exact .inr (.inr ⟨kind', later⟩)
      · rw [idle] at looking
        cases looking
      · exact absurd about (unused c k)
    dsimp only
    split
    · refine Coherent.report (s := Shared.turn { s with channel := rest } .loop (.looking p))
        ⟨sound.turn unused (Errand.isFree_looking p), ?_⟩ _
      intro c k mapped
      rcases left c k mapped with keeps | eq | queued
      · exact .inl keeps
      -- the change is on its way to the slot
      · refine .inr (.inr (.inl ?_))
        rw [errand_turn_self, ← eq]
        rfl
      · exact .inr (.inl queued)
    · next ne =>
      refine ⟨sound, ?_⟩
      intro c k mapped
      rcases left c k mapped with keeps | eq | queued
      · exact .inl keeps
      -- a path that names no file of secrets is none of a scope in the map
      · rw [← eq, Scope.isSecretsFile_file (h.named c k mapped)] at ne
        exact absurd rfl ne
      · exact .inr (.inl queued)

theorem Coherent.forget (h : s.Coherent atomic) {i : Nat} {name : String}
    (errand : s.errand (.purge i) = .forgetting name) : (s.forget i name).Coherent atomic := by
  have before : (s.errand (.purge i)).IsFree := by
    rw [errand]
    exact Errand.isFree_forgetting name
  have sought := h.seek (c := .function name) before nofun
  -- one slot less is in the map
  have fewer : ∀ c k, Function.update (s.seek (.purge i) (.function name)).current
      (.function name) none c = some k →
      (s.seek (.purge i) (.function name)).current c = some k := by
    intro c k mapped
    by_cases eq : c = .function name
    · subst eq
      rw [Function.update_self] at mapped
      cases mapped
    · rwa [Function.update_of_ne eq] at mapped
  rw [Shared.forget, ← current_seek s (.purge i) (.function name)]
  exact ⟨sought.toSound.with_current fun c k mapped => sought.named c k (fewer c k mapped),
    fun c k mapped => sought.covered c k (fewer c k mapped)⟩

/-- A purge removes a file, of which a change is in the channel from then on. -/
theorem Coherent.remove (h : s.Coherent atomic) {i : Nat} {n : FileName} (proper : n.IsProper)
    (idle : s.errand (.purge i) = .idle) (name : String) (kind : ChangeKind) :
    (s.remove i (s.path.join n) name kind).Coherent atomic := by
  have unused : (s.errand (.purge i)).IsFree := by
    rw [idle]
    exact Errand.isFree_idle
  obtain rfl := h.path
  have spares := Atomic.spares_remove h.fit proper
  have retains := @Atomic.retains_of_remove_failed _ _ _ atomic _ _ h.fit proper
  unfold Shared.remove
  cases removes : Volume.remove (s.path.join n) s.world.volume with
  | mk done volume =>
    rw [removes] at spares retains
    cases done with
    | ok _ =>
      exact ((h.touch kind spares).report _).turn unused (Errand.isFree_forgetting name) nofun
    | error fault =>
      have still : Coherent atomic { s with world := { s.world with volume := volume } } :=
        h.congr rfl rfl rfl rfl rfl (retains rfl) rfl fun _ mem => mem
      exact still.report _

theorem enabled_outcome {α β : Type} {slot : Slot.Shared (Load.Stage α) Clearer β} {i : Nat}
    (loading : (slot.task i).IsLoading) (answer : Except Error (Load.Stage α ⊕ β)) :
    (outcome i answer).Enabled slot := by
  rcases answer with e | next | keys <;> exact loading

theorem clearing_outcome {α β : Type} (slot : Slot.Shared (Load.Stage α) Clearer β) (i : Nat)
    (answer : Except Error (Load.Stage α ⊕ β)) :
    ((outcome i answer).next slot).clearing = slot.clearing := by
  rcases answer with e | next | keys <;> rfl

/-- What a stage of a load does to its slot keeps to what is known, if the stage does. -/
theorem upholds_outcome {α β : Type} {form : Load.Form σ α} {finish : α → Action σ β}
    {n : FileName} {w : World σ} (i : Nat) {answer : Except Error (Load.Stage α ⊕ β)}
    (leads : Load.Stage.Leads atomic form finish n w answer) :
    (outcome i answer).Upholds (Load.Shows atomic form finish n w)
      (Load.Stage.Knows atomic form n w.volume) := by
  cases answer with
  | error e => trivial
  | ok next =>
    cases next with
    | inl stage => exact leads
    | inr keys => exact leads

section

variable {i : Nat} {stage : Load.Stage c.Records} {world : World σ}
  {answer : Except Error (Load.Stage c.Records ⊕ c.Keys)}

theorem Coherent.work_kept (h : s.Coherent atomic) (loading : (s.slots c k).task i = .loading stage)
    (step : Load.Stage.Step atomic c.fileName s.vault.hosting (c.form s.vault) (c.resolve s.vault)
      stage s.world answer world)
    (kept : stage.writes (c.form s.vault) (c.file s.path) s.world.volume = false) :
    Coherent atomic { s.use c k (outcome i answer) with world := world } := by
  obtain rfl := h.path
  have named := h.isNamed_of_loading loading
  have retains := step.retains kept
  have moved : Coherent atomic { s with world := world } :=
    h.congr rfl rfl rfl rfl rfl retains step.onward.find fun _ mem => mem
  refine moved.use named (enabled_outcome ⟨stage, loading⟩ answer)
    (fun q => by rw [clearing_outcome]) ?_
  -- a slot that is trusted has a loader that knows the file
  intro keeps
  have knows := keeps.loading i stage loading
  exact upholds_outcome i (step.leads kept (knows.of_content_eq
    (retains.content c.fileName (Scope.isProper_fileName named)).symm))

/-- A stage that may replace the file puts a change in the channel. -/
theorem Coherent.work_replaced (h : s.Coherent atomic)
    (loading : (s.slots c k).task i = .loading stage)
    (step : Load.Stage.Step atomic c.fileName s.vault.hosting (c.form s.vault) (c.resolve s.vault)
      stage s.world answer world) (kind : ChangeKind) :
    ({ s.use c k (outcome i answer) with world := world }.notify (c.file s.path) kind).Coherent
      atomic := by
  have named := h.isNamed_of_loading loading
  have used : (s.use c k (outcome i answer)).Sound atomic :=
    h.toSound.use named (enabled_outcome ⟨stage, loading⟩ answer)
      fun q => by rw [clearing_outcome]
  refine ⟨used.congr rfl rfl rfl rfl step.spares.fit, ?_⟩
  intro c' k' mapped
  -- for the scope itself the change stands in, whatever its slots hold
  by_cases eq : c' = c
  · subst eq
    exact covered_of_mem (List.mem_append_right _ (List.mem_singleton_self _))
  · have named' := h.named c' k' mapped
    have apart : c'.fileName ≠ c.fileName := fun equal =>
      eq (Scope.fileName_injective named' named equal)
    have content := step.spares.content c'.fileName (Scope.isProper_fileName named') apart
    have equal : (s.use c k (outcome i answer)).slots c' = s.slots c' :=
      slots_put_of_ne s eq _
    show Covered atomic _ c' k' ((s.use c k (outcome i answer)).slots c' k')
    rw [equal]
    exact (h.covered c' k' mapped).congr rfl rfl content step.onward.find
      (fun _ earlier => List.mem_append_left _ earlier) rfl

end

/-- A stage of a load, whether it replaces the file or not. -/
theorem Coherent.work (h : s.Coherent atomic) {i : Nat} {stage : Load.Stage c.Records}
    (loading : (s.slots c k).task i = .loading stage) (kind : ChangeKind) :
    (s.work c k i stage kind).Coherent atomic := by
  obtain rfl := h.path
  unfold Shared.work
  dsimp only
  cases runs : (stage.advance (c.form s.vault) (c.file s.path) (c.resolve s.vault)).run.run
      s.world with
  | mk answer world =>
    have step := Load.Stage.step_of_goes (c.reliable s.vault) h.fit
      (Scope.isProper_fileName (h.isNamed_of_loading loading))
      (Load.Stage.goes_advance (c.reliable s.vault).exists_text runs)
    cases writes : stage.writes (c.form s.vault) (c.file s.path) s.world.volume with
    | false => exact h.work_kept loading step writes
    | true => exact h.work_replaced loading step kind

/-! ## Runs -/

/-- **The step.** Every enabled move preserves coherence. -/
theorem Coherent.next (h : s.Coherent atomic) {m : Move σ} (enabled : m.Enabled atomic s) :
    (m.next s).Coherent atomic := by
  cases m with
  | host k i =>
    have named : Scope.host.IsNamed := trivial
    exact h.call named enabled.1 enabled.2
  | function name k i =>
    obtain ⟨n, usable, offers, absent⟩ := enabled
    rw [Move.next, usable]
    exact h.call (Scope.isNamed_of_ofFunction usable) offers absent
  | use c k m =>
    obtain ⟨inward, enabled⟩ := enabled
    have named : c.IsNamed := by
      refine h.isNamed_of_used fun fresh : s.slots c k = .fresh => ?_
      rw [fresh] at enabled
      exact inward.not_enabled_fresh enabled
    exact h.use named enabled (inward.clearing enabled) fun _ => inward.upholds trivial
  | work c k i stage kind => exact h.work enabled kind
  | take => exact h.take enabled
  | invalidate i p =>
    have before : (s.errand (.invalidation i)).IsFree := by
      rw [enabled]
      exact Errand.isFree_idle
    refine h.turn before (Errand.isFree_looking p) ?_
    intro loop
    cases loop
  | find q p => exact h.find enabled
  | settle q c k => exact h.settle enabled.1 enabled.2
  | remove i functions entry name kind => exact h.remove enabled.2.1 enabled.1 name kind
  | forget i name => exact h.forget enabled
  | change n f kind => exact h.touch kind (enabled.2 _ h.fit)
  | rumour p kind => exact h.notify p kind
  | report event => exact h.report event

/-- **The run.** So does every run of moves. -/
theorem coherent_after (h : s.Coherent atomic) {moves : List (Move σ)}
    (allowed : s.Allowed atomic moves) : (s.after moves).Coherent atomic := by
  -- on the moves
  induction moves generalizing s with
  | nil => exact h
  | cons m rest ih => exact ih (h.next allowed.1) allowed.2

/-- A store that was just opened holds nothing. -/
theorem coherent_opened {vault : Vault} {w : World σ} (fit : atomic.Fit w.volume) :
    (opened dir vault w).Coherent atomic := by
  refine ⟨⟨rfl, fit, fun _ _ => Slot.Shared.guarded_fresh, ?_, ?_, fun _ _ _ => rfl⟩, ?_⟩
  · intro q c k
    exact ⟨fun used => absurd rfl used, fun about => absurd about (Errand.isFree_idle c k)⟩
  · intro c k mapped
    cases c with
    | host => trivial
    | function name => cases mapped
  · exact fun c k _ => .inl Slot.Shared.upholds_fresh

/-- What the slot of a scope in the map holds is what its file gives, or a change that names the
file is in the channel or being applied to that slot. -/
theorem coherent (atomic : Atomic σ dir) (vault : Vault) {w : World σ} (fit : atomic.Fit w.volume)
    {moves : List (Move σ)} (allowed : (opened dir vault w).Allowed atomic moves) (c : Scope)
    (k : Nat) (held : Loaded c.Keys)
    (current : ((opened dir vault w).after moves).current c = some k)
    (cached : (((opened dir vault w).after moves).slots c k).slot = some held) :
    Load.Shows atomic (c.form vault) (c.resolve vault) c.fileName
        ((opened dir vault w).after moves).world held.value ∨
      (∃ kind, (c.file dir, kind) ∈ ((opened dir vault w).after moves).channel) ∨
      ((opened dir vault w).after moves).errand .loop = .looking (c.file dir) ∨
      ((opened dir vault w).after moves).errand .loop = .clearing c k ∧
        (((opened dir vault w).after moves).slots c k).clearing .loop ≠ .cleared := by
  have start : (opened dir vault w).Coherent atomic := coherent_opened fit
  have coherent := coherent_after start allowed
  have eq : ((opened dir vault w).after moves).vault = vault := vault_after _ moves
  rcases coherent.covered c k current with keeps | queued | looking | about
  · have shows := keeps.held held cached
    rw [eq] at shows
    exact .inl shows
  · rw [coherent.path] at queued
    exact .inr (.inl queued)
  · rw [coherent.path] at looking
    exact .inr (.inr (.inl looking))
  · exact .inr (.inr (.inr about))

/-- The first secrets that a plain store makes for the host, where random bytes are counted. -/
def firstSecrets : HostSecrets :=
  let value := fun e : Entropy => Generation.valueOf (e.peek Generation.valueBytes)
  ⟨.plaintext masterKeyName (value .counting),
    [.plaintext hostFunctionKeyName (value (Entropy.counting.advance Generation.valueBytes))]⟩

def firstKeys : HostKeys :=
  ⟨firstSecrets.masterKey.value, firstSecrets.functionKeys.map fun s => (s.name, s.value)⟩

/-- The keys of the host are made, and the loop has taken the change of the file that this is. -/
def firstLoad : List (Move Tree) :=
  let inside := Move.use .host 0
  let work := fun stage => Move.work .host 0 0 stage .created
  [.host 0 0, inside (.miss 0), inside (.spawn 0), inside (.enter 0), inside (.confirm 0),
    inside (.start 0 .reading), work .reading, work .making, work (.writing firstSecrets),
    work (.resolving firstSecrets), inside (.store 0 firstKeys),
    inside (.leave 0 (.ok ⟨0, firstKeys⟩)), .take]

theorem allowed_firstLoad :
    (opened (.ofText "secrets") ⟨.onPremises, false⟩ unkeyed).Allowed
      (Tree.steady (.ofText "secrets") 1).atomic firstLoad :=
  ⟨⟨.inl rfl, rfl⟩, ⟨trivial, rfl, rfl⟩, ⟨trivial, rfl⟩, ⟨trivial, rfl, rfl⟩, ⟨trivial, rfl, rfl⟩,
    ⟨rfl, rfl⟩, rfl, rfl, rfl, rfl, ⟨trivial, rfl⟩, ⟨trivial, rfl⟩, rfl, trivial⟩

/-- The keys that were just made are those in the file, which has a change of its own to be
applied. -/
theorem coherent_firstLoad :
    let s := (opened (.ofText "secrets") ⟨.onPremises, false⟩ unkeyed).after firstLoad
    s.current .host = some 0 ∧ (s.slots .host 0).slot = some ⟨0, firstKeys⟩ ∧
      (Load.Shows (Tree.steady (.ofText "secrets") 1).atomic (Scope.host.form ⟨.onPremises, false⟩)
          (Scope.host.resolve ⟨.onPremises, false⟩) Scope.host.fileName s.world firstKeys ∨
        (∃ kind, (Scope.host.file (.ofText "secrets"), kind) ∈ s.channel) ∨
        s.errand .loop = .looking (Scope.host.file (.ofText "secrets")) ∨
        s.errand .loop = .clearing .host 0 ∧ (s.slots .host 0).clearing .loop ≠ .cleared) :=
  ⟨rfl, rfl, coherent (Tree.steady (.ofText "secrets") 1).atomic ⟨.onPremises, false⟩
    plain_unkeyed allowed_firstLoad .host 0 ⟨0, firstKeys⟩ rfl rfl⟩

end Lockbox.Store.Shared
