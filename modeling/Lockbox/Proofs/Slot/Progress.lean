import Lockbox.Proofs.Slot.Shared

/-!
# No task is stuck

From wherever a task is, tasks and clearings alone can go on until it ends: whoever holds the lock
can give it back (`exists_free`), and a task that has it can go through (`exists_ended`). If its
loader has not failed, then it can fill the slot, be its caller there or not (`exists_filled`). A
call that nobody interferes with does what `Slot.fetch` does (`course_eq_fetch`).
-/

namespace Lockbox.Slot

variable {ρ κ α : Type}

def Move.isCallers : Move ρ κ α → Bool
  | .call _ => true
  | .hit _ _ => true
  | .miss _ => true
  | .spawn _ => true
  | .answer _ _ => true
  | .abandon _ => true
  | _ => false

/-- The end of a loader is all that is left of it. -/
theorem Move.finish_work [DecidableEq κ] (i : Nat) (r : ρ) (outcome : Outcome α)
    (s : Shared ρ κ α) :
    (Move.finish i outcome).next ((Move.work i r).next s) = (Move.finish i outcome).next s := by
  simp [next]

namespace Shared

variable [DecidableEq κ] {s t : Shared ρ κ α} {i j : Nat} {q : κ}

/-- A state can be reached from another by moves of tasks and clearings. -/
def Leads (s t : Shared ρ κ α) : Prop :=
  ∃ moves : List (Move ρ κ α), (∀ m ∈ moves, m.isCallers = false) ∧ s.Allowed moves ∧
    s.after moves = t

theorem Leads.refl (s : Shared ρ κ α) : s.Leads s := ⟨[], by simp, trivial, rfl⟩

theorem Leads.trans {u : Shared ρ κ α} (h : s.Leads t) (k : t.Leads u) : s.Leads u := by
  obtain ⟨moves, theirs, allowed, rfl⟩ := h
  obtain ⟨more, others, further, rfl⟩ := k
  refine ⟨moves ++ more, ?_, allowed_append.2 ⟨allowed, further⟩, after_append s moves more⟩
  intro m mem
  rcases List.mem_append.1 mem with first | second
  · exact theirs m first
  · exact others m second

/-- One move is a way. -/
theorem Leads.of_move {m : Move ρ κ α} (theirs : m.isCallers = false) (enabled : m.Enabled s) :
    s.Leads (m.next s) := by
  refine ⟨[m], ?_, ⟨enabled, trivial⟩, rfl⟩
  intro m' mem
  rw [List.mem_singleton.1 mem]
  exact theirs

/-- Callers stay where they are on such a way. -/
theorem Leads.caller (h : s.Leads t) : t.caller = s.caller := by
  obtain ⟨moves, theirs, -, rfl⟩ := h
  -- on the moves, none of which is a caller's
  induction moves generalizing s with
  | nil => rfl
  | cons m rest ih =>
    have eq : (m.next s).caller = s.caller := by
      have mine := theirs m List.mem_cons_self
      cases m <;> first | rfl | cases mine
    rw [after_cons, ih fun m' mem => theirs m' (List.mem_cons_of_mem m mem), eq]

/-! ## Going through -/

/-- A state in which a task has ended, and no other has moved. -/
structure Ends (s t : Shared ρ κ α) (i : Nat) (given : Except Error (Loaded α)) : Prop where
  leads : s.Leads t
  lock : t.lock = none
  task : t.task = Function.update s.task i (.ended given)
  clearing : t.clearing = s.clearing

/-- A move of a task inside goes before what follows. -/
theorem Ends.of_move {m : Move ρ κ α} {given : Except Error (Loaded α)} {step : Task ρ α}
    (h : Ends (m.next s) t i given) (theirs : m.isCallers = false) (enabled : m.Enabled s)
    (task : (m.next s).task = Function.update s.task i step)
    (clearing : (m.next s).clearing = s.clearing) : Ends s t i given := by
  refine ⟨(Leads.of_move theirs enabled).trans h.leads, h.lock, ?_, h.clearing.trans clearing⟩
  rw [h.task, task, Function.update_idem]

/-- A task that has its answer gives the lock back. -/
theorem exists_ended_of_leaving {given : Except Error (Loaded α)}
    (h : s.task i = .leaving given) : ∃ t, Ends s t i given ∧ t.slot = s.slot := by
  refine ⟨(Move.leave i given).next s, ⟨.of_move rfl h, rfl, rfl, rfl⟩, rfl⟩

/-- A task that has a value stores it. -/
theorem exists_ended_of_loaded {value : α} (h : s.task i = .loaded value) :
    ∃ t, Ends s t i (.ok ⟨i, value⟩) ∧ t.slot = some ⟨i, value⟩ := by
  have leaving : ((Move.store i value).next s).task i = .leaving (.ok ⟨i, value⟩) :=
    Function.update_self i _ s.task
  obtain ⟨t, ends, slot⟩ := exists_ended_of_leaving leaving
  exact ⟨t, ends.of_move rfl h rfl rfl, slot⟩

/-- A loader that runs can give any value. -/
theorem exists_ended_of_loading (h : (s.task i).IsLoading) (value : α) :
    ∃ t, Ends s t i (.ok ⟨i, value⟩) ∧ t.slot = some ⟨i, value⟩ := by
  have loaded : ((Move.finish i (.value value)).next s).task i = .loaded value :=
    Function.update_self i _ s.task
  obtain ⟨t, ends, slot⟩ := exists_ended_of_loaded loaded
  exact ⟨t, ends.of_move rfl h rfl rfl, slot⟩

/-- A task that has found the slot empty can run its loader. -/
theorem exists_ended_of_missed (h : s.task i = .missed) (r : ρ) (value : α) :
    ∃ t, Ends s t i (.ok ⟨i, value⟩) ∧ t.slot = some ⟨i, value⟩ := by
  have loading : (((Move.start i r).next s).task i).IsLoading :=
    ⟨r, Function.update_self i _ s.task⟩
  obtain ⟨t, ends, slot⟩ := exists_ended_of_loading loading value
  exact ⟨t, ends.of_move rfl h rfl rfl, slot⟩

/-- A task that has the lock finds something in the slot, or loads it. -/
theorem exists_ended_of_entered (h : s.task i = .entered) (r : ρ) (value : α) :
    ∃ t held, Ends s t i (.ok held) ∧ t.slot = some held := by
  cases slot_eq : s.slot with
  | some held =>
    have leaving : ((Move.find i held).next s).task i = .leaving (.ok held) :=
      Function.update_self i _ s.task
    obtain ⟨t, ends, slot⟩ := exists_ended_of_leaving leaving
    exact ⟨t, held, ends.of_move rfl ⟨h, slot_eq⟩ rfl rfl, slot.trans slot_eq⟩
  | none =>
    have missed : ((Move.confirm i).next s).task i = .missed := Function.update_self i _ s.task
    obtain ⟨t, ends, slot⟩ := exists_ended_of_missed missed r value
    exact ⟨t, _, ends.of_move rfl ⟨h, slot_eq⟩ rfl rfl, slot⟩

/-- A task inside can go through. If it has no answer yet, then it can fill the slot. -/
theorem exists_ended (inside : (s.task i).IsInside) (r : ρ) (value : α) :
    ∃ t given, Ends s t i given ∧
      ((s.task i).answer? = none → ∃ held, given = .ok held ∧ t.slot = some held) := by
  cases h : s.task i with
  | absent => rw [h] at inside; exact inside.elim
  | waiting => rw [h] at inside; exact inside.elim
  | ended given => rw [h] at inside; exact inside.elim
  | entered =>
    obtain ⟨t, held, ends, slot⟩ := exists_ended_of_entered h r value
    exact ⟨t, _, ends, fun _ => ⟨held, rfl, slot⟩⟩
  | missed =>
    obtain ⟨t, ends, slot⟩ := exists_ended_of_missed h r value
    exact ⟨t, _, ends, fun _ => ⟨_, rfl, slot⟩⟩
  | loading state =>
    obtain ⟨t, ends, slot⟩ := exists_ended_of_loading ⟨state, h⟩ value
    exact ⟨t, _, ends, fun _ => ⟨_, rfl, slot⟩⟩
  | loaded given =>
    obtain ⟨t, ends, slot⟩ := exists_ended_of_loaded h
    exact ⟨t, _, ends, fun _ => ⟨_, rfl, slot⟩⟩
  | leaving given =>
    obtain ⟨t, ends, -⟩ := exists_ended_of_leaving h
    exact ⟨t, given, ends, nofun⟩

/-! ## Getting in -/

/-- A clearing that has the lock empties the slot and gives the lock back. -/
theorem exists_free_of_clearing (inside : (s.clearing q).IsInside) :
    ∃ t, s.Leads t ∧ t.lock = none ∧ t.task = s.task := by
  cases h : s.clearing q with
  | absent => rw [h] at inside; exact inside.elim
  | waiting => rw [h] at inside; exact inside.elim
  | cleared => exact ⟨_, .of_move (m := .leaveClear q) rfl h, rfl, rfl⟩
  | entered =>
    have cleared : ((Move.clear q).next s).clearing q = .cleared :=
      Function.update_self q _ s.clearing
    have first : s.Leads ((Move.clear q).next s) := .of_move rfl h
    have second : ((Move.clear q).next s).Leads
        ((Move.leaveClear q).next ((Move.clear q).next s)) := .of_move rfl cleared
    exact ⟨_, first.trans second, rfl, rfl⟩

/-- Whoever holds the lock can give it back, while a task that waits keeps waiting. -/
theorem exists_free (guarded : s.Guarded) (waits : s.task i = .waiting) (r : ρ) (value : α) :
    ∃ t, s.Leads t ∧ t.lock = none ∧ t.task i = .waiting := by
  -- nobody holds the lock, or another task does, or a clearing
  cases held : s.lock with
  | none => exact ⟨s, .refl s, held, waits⟩
  | some holder =>
    cases holder with
    | task j =>
      have inside := (guarded.task j).2 held
      obtain ⟨t, given, ends, -⟩ := exists_ended inside r value
      have apart : i ≠ j := by
        rintro rfl
        rw [waits] at inside
        exact inside
      refine ⟨t, ends.leads, ends.lock, ?_⟩
      rw [ends.task, Function.update_of_ne apart, waits]
    | clearing q =>
      obtain ⟨t, leads, free, task⟩ := exists_free_of_clearing ((guarded.clearing q).2 held)
      exact ⟨t, leads, free, by rw [task, waits]⟩

/-- A task that was started and has no answer yet can fill the slot, whatever its caller does. -/
theorem exists_filled (guarded : s.Guarded) (started : s.task i ≠ .absent)
    (pending : (s.task i).answer? = none) (r : ρ) (value : α) :
    ∃ t held, s.Leads t ∧ t.task i = .ended (.ok held) ∧ t.slot = some held := by
  -- a task that is not inside waits for the lock
  by_cases inside : (s.task i).IsInside
  · obtain ⟨t, given, ends, fills⟩ := exists_ended inside r value
    obtain ⟨held, rfl, slot⟩ := fills pending
    refine ⟨t, held, ends.leads, ?_, slot⟩
    rw [ends.task, Function.update_self]
  · have waits : s.task i = .waiting := by
      cases h : s.task i with
      | absent => exact absurd h started
      | waiting => rfl
      | ended given => rw [h] at pending; cases pending
      | _ => rw [h] at inside; exact absurd trivial inside
    -- the lock comes free, and then the task goes through
    obtain ⟨u, leads, free, waiting⟩ := exists_free guarded waits r value
    have enters : u.Leads ((Move.enter i).next u) := .of_move rfl ⟨waiting, free⟩
    have entered : ((Move.enter i).next u).task i = .entered := Function.update_self i _ u.task
    obtain ⟨t, held, ends, slot⟩ := exists_ended_of_entered entered r value
    refine ⟨t, held, (leads.trans enters).trans ends.leads, ?_, slot⟩
    rw [ends.task, Function.update_self]

/-! ## Without interference -/

/-- How a call comes to run its loader. -/
def approach (i : Nat) (r : ρ) : List (Move ρ κ α) :=
  [.miss i, .spawn i, .enter i, .confirm i, .start i r]

/-- How a call ends after its loader has ended. -/
def closing (i : Nat) : Except Error α → List (Move ρ κ α)
  | .ok value => [.store i value, .leave i (.ok ⟨i, value⟩), .answer i (.ok ⟨i, value⟩)]
  | .error e => [.leave i (.error e), .answer i (.error e)]

/-- What a call does if nobody interferes, given what its loader gives. -/
def course (i : Nat) (r : ρ) : Slot α → Except Error α → List (Move ρ κ α)
  | some held, _ => [.call i, .hit i held]
  | none, result => .call i :: (approach i r ++ .finish i (Outcome.ofResult result) ::
      closing i result)

/-- A call that nobody interferes with does what `fetch` does. -/
theorem course_eq_fetch {σ : Type} (idle : s.caller i = .absent) (free : s.lock = none) (r : ρ)
    (load : σ → Except Error α × σ) (w : σ) :
    s.Allowed (course i r s.slot (load w).1) ∧
      (s.after (course i r s.slot (load w).1)).caller i = .answered (fetch s.slot i load w).1 ∧
      (s.after (course i r s.slot (load w).1)).slot = (fetch s.slot i load w).2.1 := by
  -- a filled slot answers at once, and an empty one when its loader has ended
  cases slot : s.slot with
  | some held =>
    refine ⟨?_, ?_, slot⟩
    · simp [course, Allowed, Move.Enabled, Move.next, idle, slot]
    · simp [course, Move.next]
  | none =>
    cases loads : load w with
    | mk result v =>
      cases result with
      | ok value =>
        rw [fetch_none_of_ok loads]
        refine ⟨?_, ?_, rfl⟩
        · simp [course, approach, closing, Outcome.ofResult, Allowed, Move.Enabled, Move.next, idle,
            free, slot, Task.IsLoading, Task.ofOutcome]
        · simp [course, approach, closing, Move.next]
      | error e =>
        rw [fetch_none_of_error loads]
        refine ⟨?_, ?_, slot⟩
        · simp [course, approach, closing, Outcome.ofResult, Allowed, Move.Enabled, Move.next, idle,
            free, slot, Task.IsLoading, Task.ofOutcome]
        · simp [course, approach, closing, Move.next]

/-- A slot that nobody uses at present, and that no call of a number from some one on has used. -/
structure Rests (n : Nat) (s : Shared ρ κ α) : Prop where
  lock : s.lock = none
  clearing : ∀ q, s.clearing q = .absent
  caller : ∀ i, n ≤ i → s.caller i = .absent

omit [DecidableEq κ] in
/-- A fresh slot was never used. -/
theorem rests_fresh (n : Nat) : (fresh : Shared ρ κ α).Rests n :=
  ⟨rfl, fun _ => rfl, fun _ _ => rfl⟩

omit [DecidableEq κ] in
theorem Rests.mono {n m : Nat} (h : s.Rests n) (le : n ≤ m) : s.Rests m :=
  ⟨h.lock, h.clearing, fun i above => h.caller i (Nat.le_trans le above)⟩

/-- A slot rests again after a call that nobody interferes with. -/
theorem Rests.course (h : s.Rests i) (r : ρ) (result : Except Error α) :
    (s.after (course i r s.slot result)).Rests (i + 1) := by
  have others : ∀ j, i + 1 ≤ j → j ≠ i ∧ s.caller j = .absent := by
    intro j above
    exact ⟨by omega, h.caller j (by omega)⟩
  cases slot : s.slot with
  | some held =>
    refine ⟨h.lock, h.clearing, fun j above => ?_⟩
    simp [Shared.course, Move.next, others j above]
  | none =>
    cases result with
    | ok value =>
      refine ⟨rfl, h.clearing, fun j above => ?_⟩
      simp [Shared.course, approach, closing, Move.next, others j above]
    | error e =>
      refine ⟨rfl, h.clearing, fun j above => ?_⟩
      simp [Shared.course, approach, closing, Move.next, others j above]

/-- What one does who clears a slot. -/
def wiping (q : κ) : List (Move ρ κ α) :=
  [.wantClear q, .enterClear q, .clear q, .leaveClear q]

/-- A slot that rests can be cleared, and rests again. -/
theorem Rests.wiping {n : Nat} (h : s.Rests n) (q : κ) :
    s.Allowed (wiping q) ∧ (s.after (wiping q)).slot = none ∧ (s.after (wiping q)).Rests n := by
  refine ⟨?_, rfl, rfl, ?_, h.caller⟩
  · simp [Shared.wiping, Allowed, Move.Enabled, Move.next, h.lock, h.clearing]
  · intro q'
    by_cases eq : q' = q
    · simp [Shared.wiping, Move.next, eq]
    · simp [Shared.wiping, Move.next, eq, h.clearing]

end Shared

end Lockbox.Slot
