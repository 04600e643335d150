import Lockbox.Proofs.Slot.Progress
import Lockbox.Proofs.Store.Coherence

/-!
# Calls and clearings without interference

A state of a store leads to another by moves (`Leads`). A call that nobody interferes with goes
through the moves of its slot, in between which its load goes from stage to stage, and does what the
call does to the slot alone and the load at one go (`exists_call`). So does one who clears a slot
(`leads_wiped`).
-/

namespace Lockbox.Store.Shared

variable {σ : Type} {s t u : Shared σ} {c : Scope} {k i : Nat} {q : Clearer}
  {slot slot' : ScopeSlot c} {current : Scope → Option Nat} {world : World σ}
  {channel : List (Path × ChangeKind)}

/-! ## One slot and the surroundings -/

def revised (s : Shared σ) (c : Scope) (k : Nat) (slot : ScopeSlot c) (current : Scope → Option Nat)
    (world : World σ) (channel : List (Path × ChangeKind)) : Shared σ :=
  { s.put c k slot with current := current, world := world, channel := channel }

@[simp] theorem slots_revised_self :
    (s.revised c k slot current world channel).slots c k = slot :=
  slots_put_self s c k slot

@[simp] theorem put_revised :
    (s.revised c k slot current world channel).put c k slot' =
      s.revised c k slot' current world channel := by
  simp [revised, put]

theorem turn_idle (idle : t.errand q = .idle) (errand : Errand) :
    (t.turn q errand).turn q .idle = t := by
  simp [turn, ← idle]

theorem seek_with_current (t : Shared σ) (q : Clearer) (errand : Errand) (c : Scope) :
    { (t.turn q errand).seek q c with current := t.current } = (t.turn q errand).seek q c := by
  unfold seek
  split <;> rfl

variable [Volume σ] {dir : Path} {atomic : Atomic σ dir}

/-! ## Runs of moves -/

variable (atomic) in
def Leads (s t : Shared σ) : Prop := ∃ moves, s.Allowed atomic moves ∧ s.after moves = t

theorem Leads.refl (s : Shared σ) : s.Leads atomic s := ⟨[], trivial, rfl⟩

theorem Leads.trans (h : s.Leads atomic t) (k : t.Leads atomic u) : s.Leads atomic u := by
  obtain ⟨moves, allowed, rfl⟩ := h
  obtain ⟨more, further, rfl⟩ := k
  exact ⟨moves ++ more, allowed_append.2 ⟨allowed, further⟩, after_append s moves more⟩

theorem Leads.of_move {m : Move σ} (enabled : m.Enabled atomic s) : s.Leads atomic (m.next s) :=
  ⟨[m], ⟨enabled, trivial⟩, rfl⟩

theorem Coherent.of_leads (coherent : s.Coherent atomic) (h : s.Leads atomic t) :
    t.Coherent atomic := by
  obtain ⟨moves, allowed, rfl⟩ := h
  exact coherent_after coherent allowed

/-! ## Calls -/

/-- What happens inside a slot happens in the store. -/
theorem leads_inward {moves : List (Slot.Move (Load.Stage c.Records) Clearer c.Keys)}
    (inward : ∀ m ∈ moves, IsInward m) (allowed : slot.Allowed moves) :
    (s.revised c k slot current world channel).Leads atomic
      (s.revised c k (slot.after moves) current world channel) := by
  -- on the moves, each of which is made in the slot that the ones before have left
  induction moves generalizing slot with
  | nil => exact .refl _
  | cons m rest ih =>
    have enabled : (Move.use c k m).Enabled atomic
        (s.revised c k slot current world channel) := by
      refine ⟨inward m List.mem_cons_self, ?_⟩
      rw [slots_revised_self]
      exact allowed.1
    have first := Leads.of_move enabled
    rw [Move.next, use, slots_revised_self, put_revised] at first
    exact first.trans (ih (fun m' mem => inward m' (List.mem_cons_of_mem m mem)) allowed.2)

/-- What a stage does to a store. -/
theorem exists_work_eq (i : Nat) {stage : Load.Stage c.Records} (kind : ChangeKind)
    {answer : Except Error (Load.Stage c.Records ⊕ c.Keys)} {w : World σ}
    (runs : (stage.advance (c.form s.vault) (c.file s.path) (c.resolve s.vault)).run.run world =
      (answer, w)) :
    ∃ channel', (s.revised c k slot current world channel).work c k i stage kind =
      s.revised c k ((outcome i answer).next slot) current w channel' := by
  have eq : ((s.revised c k slot current world channel).use c k (outcome i answer)) =
      s.revised c k ((outcome i answer).next slot) current world channel := by
    rw [use, slots_revised_self, put_revised]
  have equal : ((stage.advance (c.form s.vault) (c.file s.path) (c.resolve s.vault)).run.run
      (s.revised c k slot current world channel).world) = (answer, w) := runs
  unfold work
  dsimp only
  rw [show (s.revised c k slot current world channel).vault = s.vault from rfl,
    show (s.revised c k slot current world channel).path = s.path from rfl, equal]
  dsimp only
  rw [eq]
  split
  · exact ⟨_, rfl⟩
  · exact ⟨_, rfl⟩

/-- A load goes from stage to stage as it goes at one go. -/
theorem leads_rest {stage : Load.Stage c.Records} (loading : slot.task i = .loading stage)
    {answer : Except Error c.Keys} {w : World σ}
    (runs : (stage.rest (c.form s.vault) (c.file s.path) (c.resolve s.vault)).run.run world =
      (answer, w)) :
    ∃ channel', (s.revised c k slot current world channel).Leads atomic
      (s.revised c k ((Slot.Move.finish i (.ofResult answer)).next slot) current w channel') := by
  -- on the height of the stage, which sinks from one stage to the next
  induction bound : stage.height using Nat.strongRecOn generalizing slot stage world channel with
  | _ height ih =>
    have enabled : (Move.work c k i stage .changed).Enabled atomic
        (s.revised c k slot current world channel) := by
      rw [Move.Enabled, slots_revised_self]
      exact loading
    have moved := Leads.of_move enabled
    cases first : (stage.advance (c.form s.vault) (c.file s.path) (c.resolve s.vault)).run.run
        world with
    | mk reached v =>
      obtain ⟨channel', work⟩ := exists_work_eq i .changed first
      rw [Move.next, work] at moved
      rw [Load.Stage.rest_eq] at runs
      -- the stage failed, or gave the value, or led to another stage
      cases reached with
      | error e =>
        rw [Action.run_bind_of_error first] at runs
        cases runs
        exact ⟨channel', moved⟩
      | ok reached =>
        rw [Action.run_bind_of_ok first] at runs
        cases reached with
        | inr b =>
          cases runs
          exact ⟨channel', moved⟩
        | inl next =>
          have later :=
            (Load.Stage.goes_advance (c.reliable s.vault).exists_text first).height_lt
          have goes : ((Slot.Move.work i next).next slot).task i = .loading next :=
            Function.update_self i _ _
          obtain ⟨channel'', others⟩ := ih next.height (bound ▸ later) goes runs rfl
          rw [Slot.Move.finish_work] at others
          exact ⟨channel'', moved.trans others⟩

/-- All on the way to the loader happens inside the slot. -/
theorem isInward_approach {m : Slot.Move (Load.Stage c.Records) Clearer c.Keys}
    (h : m ∈ Slot.Shared.approach i .reading) : IsInward m := by
  simp only [Slot.Shared.approach, List.mem_cons, List.not_mem_nil, or_false] at h
  rcases h with rfl | rfl | rfl | rfl | rfl <;> trivial

theorem isInward_closing {m : Slot.Move (Load.Stage c.Records) Clearer c.Keys}
    {answer : Except Error c.Keys} (h : m ∈ Slot.Shared.closing i answer) : IsInward m := by
  cases answer with
  | ok value =>
    simp only [Slot.Shared.closing, List.mem_cons, List.not_mem_nil, or_false] at h
    rcases h with rfl | rfl | rfl <;> trivial
  | error e =>
    simp only [Slot.Shared.closing, List.mem_cons, List.not_mem_nil, or_false] at h
    rcases h with rfl | rfl <;> trivial

/-- A call that has its slot loads as it loads at one go. -/
theorem exists_loaded {answer : Except Error c.Keys} {w : World σ}
    (allowed : slot.Allowed (Slot.Shared.approach i .reading ++
      .finish i (.ofResult answer) :: Slot.Shared.closing i answer))
    (runs : (Load.opened (c.form s.vault) (c.file s.path) (c.resolve s.vault)).run.run world =
      (answer, w)) :
    ∃ channel', (s.revised c k slot current world channel).Leads atomic
      (s.revised c k (slot.after (Slot.Shared.approach i .reading ++
        .finish i (.ofResult answer) :: Slot.Shared.closing i answer)) current w channel') := by
  obtain ⟨approaches, -, closes⟩ := Slot.Shared.allowed_append.1 allowed
  have loading : (slot.after (Slot.Shared.approach i .reading)).task i = .loading .reading :=
    Function.update_self i _ _
  have first : (s.revised c k slot current world channel).Leads atomic
      (s.revised c k (slot.after (Slot.Shared.approach i .reading)) current world channel) :=
    leads_inward (fun m => isInward_approach) approaches
  obtain ⟨channel', second⟩ := leads_rest loading runs
  rw [Slot.Shared.after_append, Slot.Shared.after_cons]
  exact ⟨channel', first.trans (second.trans (leads_inward (fun m => isInward_closing) closes))⟩

/-- A call by a slot that rests does in the store what it does to the slot, and loads at one go. -/
theorem exists_call {slot : ScopeSlot c} (slot_eq : s.slots c k = slot) (rests : slot.Rests i)
    {load : World σ → Except Error c.Keys × World σ}
    (loads : load = fun w =>
      (Load.opened (c.form s.vault) (c.file s.path) (c.resolve s.vault)).run.run w) :
    ∃ channel, (s.call c k i).Leads atomic
      (s.revised c k (slot.after (Slot.Shared.course i .reading slot.slot (load s.world).1))
        (Function.update s.current c (some k)) (Slot.fetch slot.slot i load s.world).2.2
        channel) := by
  generalize renewed : Function.update s.current c (some k) = current
  obtain ⟨allowed, -, -⟩ := Slot.Shared.course_eq_fetch (rests.caller i (Nat.le_refl i)) rests.lock
    (Load.Stage.reading : Load.Stage c.Records) load s.world
  have start : s.call c k i =
      s.revised c k ((Slot.Move.call i).next slot) current s.world s.channel := by
    rw [← slot_eq, ← renewed]
    rfl
  rw [start]
  -- a filled slot is hit, and otherwise the call approaches its loader
  cases held : slot.slot with
  | some held' =>
    rw [held] at allowed
    have hits : ∀ m ∈ [(Slot.Move.hit i held' : Slot.Move (Load.Stage c.Records) Clearer c.Keys)],
        IsInward m := by
      intro m mem
      rw [List.mem_singleton.1 mem]
      trivial
    exact ⟨s.channel, leads_inward hits allowed.2⟩
  | none =>
    rw [held] at allowed
    cases runs : load s.world with
    | mk answer w =>
      rw [runs] at allowed
      have world : (Slot.fetch none i load s.world).2.2 = w := by
        cases answer with
        | ok value => rw [Slot.fetch_none_of_ok runs]
        | error e => rw [Slot.fetch_none_of_error runs]
      rw [world]
      rw [loads] at runs
      exact exists_loaded allowed.2 runs

/-! ## Clearings -/

/-- Who wants to clear a slot that rests clears it. -/
theorem leads_wiped {n : Nat} (rests : (t.slots c k).Rests n) (idle : t.errand q = .idle)
    (current : Scope → Option Nat) (errand : Errand) :
    Leads atomic
      { ((t.turn q errand).use c k (.wantClear q)).turn q (.clearing c k) with current := current }
      ((cleared q c).foldl report (t.revised c k ((t.slots c k).after (Slot.Shared.wiping q))
        current t.world t.channel)) := by
  let s : Shared σ := t.turn q (.clearing c k)
  have start : { ((t.turn q errand).use c k (.wantClear q)).turn q (.clearing c k) with
      current := current } =
      s.revised c k ((Slot.Move.wantClear q).next (t.slots c k)) current t.world t.channel := by
    simp [s, turn, use, put, revised]
  have finish : (s.revised c k ((t.slots c k).after (Slot.Shared.wiping q)) current t.world
      t.channel).turn q .idle =
      t.revised c k ((t.slots c k).after (Slot.Shared.wiping q)) current t.world t.channel := by
    simp [s, turn, revised, put, ← idle]
  have inward : ∀ m ∈ [(.enterClear q : Slot.Move (Load.Stage c.Records) Clearer c.Keys),
      .clear q], IsInward m := by
    intro m mem
    simp only [List.mem_cons, List.not_mem_nil, or_false] at mem
    rcases mem with rfl | rfl <;> trivial
  obtain ⟨-, enters, clears, leaves, -⟩ := (rests.wiping q).1
  -- two of the four moves happen inside the slot
  generalize within : ((Slot.Move.wantClear q).next (t.slots c k)).after
    [.enterClear q, .clear q] = slot
  have first : (s.revised c k ((Slot.Move.wantClear q).next (t.slots c k)) current t.world
      t.channel).Leads atomic (s.revised c k slot current t.world t.channel) := by
    rw [← within]
    exact leads_inward inward ⟨enters, clears, trivial⟩
  have enabled : (Move.settle q c k).Enabled atomic
      (s.revised c k slot current t.world t.channel) := by
    refine ⟨errand_turn_self _ _ _, ?_⟩
    rw [slots_revised_self, ← within]
    exact leaves
  have last := Leads.of_move enabled
  rw [Move.next, settle, use, slots_revised_self, put_revised] at last
  rw [start, ← finish]
  have wiped : (t.slots c k).after (Slot.Shared.wiping q) = (Slot.Move.leaveClear q).next slot := by
    rw [← within]
    rfl
  rw [wiped]
  exact first.trans last

end Lockbox.Store.Shared
