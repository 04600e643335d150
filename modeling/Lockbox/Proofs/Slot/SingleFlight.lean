import Lockbox.Proofs.Slot.Progress

/-!
# Single flight

However calls and clearings of a slot interleave, one loader runs at a time, and what it gives is
kept and shared until the slot is emptied (`single_flight`). Three invariants lead there, each
preserved by one move and so by every run: what the past tells of the state and the state of the
past (`Traced`), how often loaders have succeeded (`Counted`), and that a run goes on just so if
callers who gave up are made to stay (`Persists`).
-/

namespace Lockbox.Slot

variable {ρ κ α : Type}

namespace Move

def isSuccess : Move ρ κ α → Bool
  | .finish _ (.value _) => true
  | _ => false

def isClear : Move ρ κ α → Bool
  | .clear _ => true
  | _ => false

def isAbandon : Move ρ κ α → Bool
  | .abandon _ => true
  | _ => false

end Move

namespace Shared

/-! ## Where answers come from -/

/-- A loader has given the value, and its task has stored it. -/
def Stored (past : List (Move ρ κ α)) (held : Loaded α) : Prop :=
  .finish held.serial (.value held.value) ∈ past ∧ .store held.serial held.value ∈ past

/-- A value was stored by some task; an error comes from the loader of the call itself. -/
def Justified (past : List (Move ρ κ α)) (i : Nat) : Except Error (Loaded α) → Prop
  | .ok held => Stored past held
  | .error e => ∃ outcome : Outcome α, outcome.error? = some e ∧ .finish i outcome ∈ past

/-- What past moves tell of a state, and a state of past moves. -/
structure Traced (past : List (Move ρ κ α)) (s : Shared ρ κ α) : Prop where
  slot : ∀ held, s.slot = some held → Stored past held
  loaded : ∀ i value, s.task i = .loaded value → .finish i (.value value) ∈ past
  task : ∀ i given, (s.task i).answer? = some given → Justified past i given
  caller : ∀ i given, s.caller i = .answered given → Justified past i given
  given : ∀ i value, .finish i (.value value) ∈ past →
    s.task i = .loaded value ∨ .store i value ∈ past
  stored : ∀ i value, .store i value ∈ past → (s.task i).answer? = some (.ok ⟨i, value⟩)
  failed : ∀ i (outcome : Outcome α) e, .finish i outcome ∈ past → outcome.error? = some e →
    (s.task i).answer? = some (.error e)

variable {s t : Shared ρ κ α} {m : Move ρ κ α} {past moves : List (Move ρ κ α)}

/-- Nothing has happened to a fresh slot. -/
theorem traced_fresh : Traced [] (fresh : Shared ρ κ α) := by
  constructor <;> simp [fresh, Task.answer?, Slot.empty]

theorem Stored.append {held : Loaded α} (h : Stored past held) : Stored (past ++ moves) held :=
  ⟨List.mem_append_left _ h.1, List.mem_append_left _ h.2⟩

/-- What justifies an answer remains part of the past. -/
theorem Justified.append {i : Nat} {given : Except Error (Loaded α)} (h : Justified past i given) :
    Justified (past ++ moves) i given := by
  cases given with
  | ok held => exact Stored.append h
  | error e =>
    obtain ⟨outcome, told, ended⟩ := h
    exact ⟨outcome, told, List.mem_append_left _ ended⟩

/-- A task whose loader failed stores nothing, and its answer is that error. -/
theorem Traced.failed_elim (h : s.Traced past) {i : Nat} {outcome : Outcome α} {e : Error}
    (ended : .finish i outcome ∈ past) (told : outcome.error? = some e) :
    (∀ value, .store i value ∉ past) ∧
      (s.task i = .leaving (.error e) ∨ s.task i = .ended (.error e)) := by
  have answer := h.failed i outcome e ended told
  constructor
  · intro value stored
    rw [h.stored i value stored] at answer
    cases answer
  · cases absent : s.task i <;> rw [absent] at answer <;> cases answer
    · exact .inl rfl
    · exact .inr rfl

/-! ## How often a loader succeeds -/

/-- Loaders have succeeded once more than the slot was emptied, at most; and no more often while
there is no value. -/
structure Counted (past : List (Move ρ κ α)) (s : Shared ρ κ α) : Prop where
  most : past.countP Move.isSuccess ≤ past.countP Move.isClear + 1
  vacant : s.slot = none → (∀ i value, s.task i ≠ .loaded value) →
    past.countP Move.isSuccess ≤ past.countP Move.isClear

theorem counted_fresh : Counted [] (fresh : Shared ρ κ α) :=
  ⟨Nat.zero_le 1, fun _ _ => Nat.le_refl 0⟩

/-- A move that is neither counts for nothing. -/
theorem Counted.of_neither (h : s.Counted past) (success : m.isSuccess = false)
    (clear : m.isClear = false) (vacant : t.slot = none → (∀ i value, t.task i ≠ .loaded value) →
      s.slot = none ∧ ∀ i value, s.task i ≠ .loaded value) : t.Counted (past ++ [m]) := by
  constructor
  · simpa [List.countP_append, success, clear] using h.most
  · intro empty unloaded
    obtain ⟨empty, unloaded⟩ := vacant empty unloaded
    simpa [List.countP_append, success, clear] using h.vacant empty unloaded

/-! ## Giving up -/

/-- The same slot, in which some calls were not given up. -/
structure Persists (s t : Shared ρ κ α) : Prop where
  slot : t.slot = s.slot
  lock : t.lock = s.lock
  task : t.task = s.task
  clearing : t.clearing = s.clearing
  caller : ∀ i, s.caller i ≠ .gone → t.caller i = s.caller i

theorem Persists.refl (s : Shared ρ κ α) : s.Persists s := ⟨rfl, rfl, rfl, rfl, fun _ _ => rfl⟩

/-- A move can be made there as well, unless it is a caller giving up. -/
theorem Persists.enabled (h : s.Persists t) (enabled : m.Enabled s) (kept : m.isAbandon = false) :
    m.Enabled t := by
  obtain ⟨slot, lock, task, clearing, caller⟩ := h
  cases m <;> simp only [Move.Enabled, slot, lock, task, clearing] at enabled ⊢ <;>
    grind [Move.isAbandon]

/-- A run without the moves by which callers give up. -/
def persistent (moves : List (Move ρ κ α)) : List (Move ρ κ α) :=
  moves.filter fun m => !m.isAbandon

/-! ## One move and then many -/

variable [DecidableEq κ]

/-- Each of the fields needs few of the others, and of a move only what it changes. -/
theorem Traced.next (guarded : s.Guarded) (h : s.Traced past) (enabled : m.Enabled s) :
    (m.next s).Traced (past ++ [m]) := by
  constructor
  · -- the slot is filled by a store, of what a loader gave
    have filled := h.slot
    have loaded := h.loaded
    intro held cached
    cases m <;> simp only [Move.Enabled, Move.next] at enabled cached <;>
      grind [Stored, Stored.append]
  · -- a task has a value in hand since its loader ended
    have loaded := h.loaded
    intro i value ready
    cases m <;> simp only [Move.Enabled, Move.next, Function.update_apply] at enabled ready <;>
      grind [Task.ofOutcome_eq_loaded]
  · -- a task tells what it found in the slot, what it stored, or why its loader failed
    have told := h.task
    have filled := h.slot
    have loaded := h.loaded
    intro i given replied
    cases m <;> simp only [Move.Enabled, Move.next, Function.update_apply] at enabled replied <;>
      grind [Task.answer?, Task.answer?_ofOutcome, Justified, Justified.append, Stored,
        Stored.append]
  · -- a call tells what it found in the slot, or what its task tells
    have told := h.task
    have filled := h.slot
    have answered := h.caller
    intro i given replied
    cases m <;> simp only [Move.Enabled, Move.next, Function.update_apply] at enabled replied <;>
      grind [Task.answer?, Justified, Justified.append, Stored.append]
  · -- the remaining three: a task does not go back, and none is started twice
    have given := h.given
    intro i value mem
    cases m <;> simp only [Move.Enabled, Move.next, Function.update_apply] at enabled ⊢ <;>
      grind [Task.ofOutcome_eq_loaded, Task.IsLoading, guarded.unspawned, Caller.IsEarly]
  · have stored := h.stored
    intro i value mem
    cases m <;> simp only [Move.Enabled, Move.next, Function.update_apply] at enabled ⊢ <;>
      grind [Task.answer?, Task.IsLoading, guarded.unspawned, Caller.IsEarly]
  · have failed := h.failed
    intro i outcome e mem told
    cases m <;> simp only [Move.Enabled, Move.next, Function.update_apply] at enabled ⊢ <;>
      grind [Task.answer?, Task.answer?_ofOutcome, Task.IsLoading, guarded.unspawned,
        Caller.IsEarly]

/-- A value that was loaded stays with its task until it is stored. -/
theorem loaded_next (guarded : s.Guarded) (enabled : m.Enabled s) {i : Nat} {value : α}
    (h : s.task i = .loaded value) (foreign : ∀ v, m ≠ .store i v) :
    (m.next s).task i = .loaded value := by
  have unspawned := guarded.unspawned
  cases m <;> simp only [Move.Enabled, Move.next, Function.update_apply] at enabled ⊢ <;>
    grind [Task.IsLoading, Caller.IsEarly]

/-- Success needs an empty slot, and storing makes it full. -/
theorem Counted.next (guarded : s.Guarded) (h : s.Counted past) (enabled : m.Enabled s) :
    (m.next s).Counted (past ++ [m]) := by
  -- a clearing and a success count, a store ends what a success began, and no other move counts
  cases m with
  | clear q =>
    -- a clearing makes good for the value that it takes away
    have most := h.most
    constructor <;> simp [List.countP_append, Move.isSuccess, Move.isClear] <;> omega
  | finish i outcome =>
    cases outcome with
    | value a =>
      -- while a loader runs there is no other value
      have missed : (s.task i).HasMissed := enabled.hasMissed
      have few := h.vacant (guarded.empty i missed) ?_
      · constructor
        · simp only [List.countP_append, List.countP_singleton, Move.isSuccess, Move.isClear,
            if_true]
          omega
        · intro _ unloaded
          exact absurd (Function.update_self i _ s.task) (unloaded i a)
      · intro j value loaded
        obtain ⟨r, loading⟩ := enabled
        have inside : (s.task j).IsInside := by rw [loaded]; trivial
        obtain rfl := guarded.eq_of_isInside missed.isInside inside
        rw [loading] at loaded
        cases loaded
    | fault e =>
      refine h.of_neither rfl rfl fun empty unloaded => ⟨empty, ?_⟩
      exact fun j value loaded => unloaded j value (loaded_next guarded enabled loaded nofun)
    | panic text =>
      refine h.of_neither rfl rfl fun empty unloaded => ⟨empty, ?_⟩
      exact fun j value loaded => unloaded j value (loaded_next guarded enabled loaded nofun)
  | store i value =>
    refine h.of_neither rfl rfl ?_
    intro empty
    cases empty
  | _ =>
    refine h.of_neither rfl rfl fun empty unloaded => ⟨empty, ?_⟩
    exact fun j value loaded => unloaded j value (loaded_next guarded enabled loaded nofun)

/-- A move does the same in both. -/
theorem Persists.next (h : s.Persists t) (kept : m.isAbandon = false) :
    (m.next s).Persists (m.next t) := by
  obtain ⟨slot, lock, task, clearing, caller⟩ := h
  cases m <;> constructor <;> simp only [Move.next, slot, lock, task, clearing] <;>
    grind [Function.update_apply, Move.isAbandon]

/-- Who gives up stays in the other run. -/
theorem Persists.abandon (h : s.Persists t) (i : Nat) :
    ((Move.abandon i).next s).Persists t := by
  refine ⟨h.slot, h.lock, h.task, h.clearing, ?_⟩
  intro j present
  by_cases eq : j = i
  · rw [eq] at present
    exact absurd (Function.update_self i _ s.caller) present
  · have equal : ((Move.abandon i).next s).caller j = s.caller j :=
      Function.update_of_ne eq _ s.caller
    rw [equal] at present ⊢
    exact h.caller j present

/-- Giving up changes nothing for anyone else. -/
theorem persists_after (h : s.Persists t) (allowed : s.Allowed moves) :
    t.Allowed (persistent moves) ∧ (s.after moves).Persists (t.after (persistent moves)) := by
  -- on the moves: one by which a caller gives up is left out in the other run
  induction moves generalizing s t with
  | nil => exact ⟨trivial, h⟩
  | cons m rest ih =>
    cases kept : m.isAbandon with
    | false =>
      have eq : persistent (m :: rest) = m :: persistent rest :=
        List.filter_cons_of_pos (by simp [kept])
      obtain ⟨further, later⟩ := ih (h.next kept) allowed.2
      rw [eq]
      exact ⟨⟨h.enabled allowed.1 kept, further⟩, later⟩
    | true =>
      have eq : persistent (m :: rest) = persistent rest :=
        List.filter_cons_of_neg (by simp [kept])
      have still : (m.next s).Persists t := by
        cases m with
        | abandon i => exact h.abandon i
        | _ => cases kept
      rw [eq]
      exact ih still allowed.2

/-! ## The whole -/

/-- What is so of a slot after moves. -/
structure SingleFlight (moves : List (Move ρ κ α)) (s : Shared ρ κ α) : Prop where
  /-- There is one loader at most. -/
  alone : ∀ i j, (s.task i).IsLoading → (s.task j).IsLoading → i = j
  /-- Loaders succeed once more than the slot is emptied, at most. -/
  few : moves.countP Move.isSuccess ≤ moves.countP Move.isClear + 1
  /-- A value that is answered was given by a loader, and stored. -/
  answered : ∀ i held, s.caller i = .answered (.ok held) → Stored moves held
  /-- An error that is answered comes from the loader of the call itself. -/
  refused : ∀ i e, s.caller i = .answered (.error e) →
    ∃ outcome : Outcome α, outcome.error? = some e ∧ .finish i outcome ∈ moves
  /-- A loader that fails stores nothing, and its task gives the lock back, or has done so. -/
  failed : ∀ i (outcome : Outcome α) e, .finish i outcome ∈ moves → outcome.error? = some e →
    (∀ value, .store i value ∉ moves) ∧
      ((∃ t, Ends s t i (.error e) ∧ t.slot = s.slot) ∨
        s.task i = .ended (.error e) ∧ s.lock ≠ some (.task i))
  /-- A loader that succeeds has its value stored, or has it ready and nobody in the way. -/
  given : ∀ i value, .finish i (.value value) ∈ moves → .store i value ∈ moves ∨
    s.task i = .loaded value ∧ s.lock = some (.task i) ∧ s.slot = none
  /-- Giving up changes nothing for anyone else. -/
  persists : fresh.Allowed (persistent moves) ∧ s.Persists (fresh.after (persistent moves))
  /-- A task that was started can fill the slot unless its loader has failed, and callers have no
  part in that. -/
  fills : ∀ i, s.task i ≠ .absent → (s.task i).answer? = none → ∀ (_ : ρ) (_ : α),
    ∃ t held, s.Leads t ∧ t.task i = .ended (.ok held) ∧ t.slot = some held
  /-- A call that nobody interferes with does what `fetch` does. -/
  fetches : ∀ i, s.caller i = .absent → s.lock = none → ∀ (_ : ρ) {σ : Type}
    (load : σ → Except Error α × σ) (w : σ), ∃ more, s.Allowed more ∧
      (s.after more).caller i = .answered (fetch s.slot i load w).1 ∧
      (s.after more).slot = (fetch s.slot i load w).2.1

/-- However calls and clearings interleave: one loader runs at a time, and what it gives is kept and
shared until the slot is emptied. -/
theorem single_flight {moves : List (Move ρ κ α)} (allowed : fresh.Allowed moves) :
    SingleFlight moves (fresh.after moves) := by
  have guarded := guarded_after guarded_fresh allowed
  have traced : (fresh.after moves).Traced moves :=
    kept_after (fun _ _ _ guarded h enabled => h.next guarded enabled) guarded_fresh traced_fresh
      allowed
  have counted : (fresh.after moves).Counted moves :=
    kept_after (fun _ _ _ guarded h enabled => h.next guarded enabled) guarded_fresh counted_fresh
      allowed
  constructor
  · intro i j hi hj
    exact guarded.eq_of_isInside hi.hasMissed.isInside hj.hasMissed.isInside
  · exact counted.most
  · exact fun i held answered => traced.caller i _ answered
  · exact fun i e answered => traced.caller i _ answered
  -- the error is on its way to the caller, or the task has ended
  · intro i outcome e ended told
    obtain ⟨unstored, leaving | gone⟩ := traced.failed_elim ended told
    · exact ⟨unstored, .inl (exists_ended_of_leaving leaving)⟩
    · refine ⟨unstored, .inr ⟨gone, ?_⟩⟩
      rw [Ne, ← guarded.task i, gone]
      exact id
  · intro i value ended
    -- the value is in hand, or it was stored
    rcases traced.given i value ended with loaded | stored
    · have missed : ((fresh.after moves).task i).HasMissed := by rw [loaded]; trivial
      exact .inr ⟨loaded, (guarded.task i).1 missed.isInside, guarded.empty i missed⟩
    · exact .inl stored
  · exact persists_after (.refl fresh) allowed
  · exact fun i started pending r value => exists_filled guarded started pending r value
  · intro i idle free r σ load w
    exact ⟨_, course_eq_fetch idle free r load w⟩

/-- Two calls find nothing and the first is given up, but its value is shared. After a clearing a
loader panics. -/
def crowded : List (Move Unit Unit Nat) :=
  let panicked : Error := .internal "secrets load task failed: gone"
  [.call 0, .call 1, .miss 0, .miss 1, .spawn 0, .spawn 1, .enter 0, .abandon 0, .confirm 0,
    .start 0 (), .wantClear (), .work 0 (), .finish 0 (.value 7), .store 0 7,
    .leave 0 (.ok ⟨0, 7⟩), .enter 1, .find 1 ⟨0, 7⟩, .leave 1 (.ok ⟨0, 7⟩), .call 2, .hit 2 ⟨0, 7⟩,
    .answer 1 (.ok ⟨0, 7⟩), .enterClear (), .clear (), .leaveClear (), .call 3, .miss 3, .spawn 3,
    .enter 3, .confirm 3, .start 3 (), .finish 3 (.panic "gone"), .leave 3 (.error panicked),
    .answer 3 (.error panicked)]

theorem allowed_crowded : fresh.Allowed crowded := by
  simp [crowded, Allowed, Move.Enabled, Move.next, fresh, Slot.empty, Caller.IsPresent,
    Task.IsLoading, Task.ofOutcome]

/-- The value of the call that was given up answers the others, and an error its own call. -/
theorem single_flight_crowded :
    fresh.Allowed crowded ∧ SingleFlight crowded (fresh.after crowded) ∧
      (fresh.after crowded).caller 0 = .gone ∧
      (fresh.after crowded).caller 1 = .answered (.ok ⟨0, 7⟩) ∧
      (fresh.after crowded).caller 2 = .answered (.ok ⟨0, 7⟩) ∧
      (fresh.after crowded).caller 3 =
        .answered (.error (.internal "secrets load task failed: gone")) :=
  ⟨allowed_crowded, single_flight allowed_crowded, rfl, rfl, rfl, rfl⟩

end Shared

end Lockbox.Slot
