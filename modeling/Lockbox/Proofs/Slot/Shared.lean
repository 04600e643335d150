import Mathlib.Logic.Function.Basic
import Lockbox.Error
import Lockbox.Slot

/-!
# Slots in many hands

Any number of calls and clearings use one slot, in moves that interleave in any order. A call looks
at the slot without a lock. If it finds nothing it starts a task, which takes the load lock, looks
again, runs the loader, stores what was loaded and gives the lock back; the call waits for its task,
or gives up, whereupon the task goes on without it. Clearing takes the same lock.

Those inside hold the lock, and while a task that has found the slot empty is inside, it stays
empty. One move preserves this (`Guarded.next`), and so it is so after every run:

    guarded_after : s.Guarded → s.Allowed moves → (s.after moves).Guarded

What else one move preserves, of the moves before it and the state, every run preserves
(`kept_after`).
-/

namespace Lockbox.Slot

variable {ρ κ α : Type}

/-! ## States -/

/-- How a loader ends. -/
inductive Outcome (α : Type) where
  | value (a : α)
  | fault (e : Error)
  | panic (text : String)

/-- The error that is told of a loader that gave no value. -/
def Outcome.error? : Outcome α → Option Error
  | .value _ => none
  | .fault e => some e
  | .panic text => some (.internal ("secrets load task failed: " ++ text))

def Outcome.ofResult : Except Error α → Outcome α
  | .ok a => .value a
  | .error e => .fault e

/-- How far a task is. A loader that runs has a state `ρ` of its own. -/
inductive Task (ρ α : Type) where
  | absent
  /-- Wants the lock. -/
  | waiting
  /-- Has the lock and has not looked at the slot. -/
  | entered
  /-- Has found the slot empty. -/
  | missed
  | loading (r : ρ)
  /-- The loader has given a value, which is not stored yet. -/
  | loaded (value : α)
  /-- Has its answer and gives the lock back. -/
  | leaving (answer : Except Error (Loaded α))
  | ended (answer : Except Error (Loaded α))

namespace Task

/-- Whether a task is between taking the lock and giving it back. -/
def IsInside : Task ρ α → Prop
  | .absent => False
  | .waiting => False
  | .ended _ => False
  | _ => True

def IsLoading (t : Task ρ α) : Prop := ∃ r, t = .loading r

/-- Whether a task has found the slot empty and stored nothing yet. -/
def HasMissed : Task ρ α → Prop
  | .missed => True
  | .loading _ => True
  | .loaded _ => True
  | _ => False

def answer? : Task ρ α → Option (Except Error (Loaded α))
  | .leaving answer => some answer
  | .ended answer => some answer
  | _ => none

/-- A task whose loader has ended. -/
def ofOutcome : Outcome α → Task ρ α
  | .value a => .loaded a
  | .fault e => .leaving (.error e)
  | .panic text => .leaving (.error (.internal ("secrets load task failed: " ++ text)))

variable {t : Task ρ α}

theorem IsLoading.hasMissed (h : t.IsLoading) : t.HasMissed := by
  obtain ⟨r, rfl⟩ := h
  trivial

/-- What was found empty is still to be stored, so that the lock is not given back yet. -/
theorem HasMissed.isInside (h : t.HasMissed) : t.IsInside := by
  cases t with
  | missed => trivial
  | loading r => trivial
  | loaded value => trivial
  | _ => exact h.elim

/-- A loader that ends keeps its task inside. -/
theorem isInside_ofOutcome (outcome : Outcome α) : (ofOutcome outcome : Task ρ α).IsInside := by
  cases outcome <;> trivial

/-- A task has a value to store if its loader gave it. -/
theorem ofOutcome_eq_loaded {outcome : Outcome α} {value : α} :
    (ofOutcome outcome : Task ρ α) = .loaded value ↔ outcome = .value value := by
  cases outcome <;> simp [ofOutcome]

theorem ofOutcome_ne_loading (outcome : Outcome α) (r : ρ) :
    (ofOutcome outcome : Task ρ α) ≠ .loading r := by
  cases outcome <;> nofun

/-- After a loader that gave no value there is its error to tell, and else nothing yet. -/
theorem answer?_ofOutcome {outcome : Outcome α} {given : Except Error (Loaded α)} :
    (ofOutcome outcome : Task ρ α).answer? = some given ↔
      ∃ e, outcome.error? = some e ∧ given = .error e := by
  cases outcome <;> simp [ofOutcome, answer?, Outcome.error?, eq_comm]

end Task

/-- How far a call is. -/
inductive Caller (α : Type) where
  | absent
  | calling
  /-- Has found the slot empty. -/
  | missed
  /-- Waits for its task. -/
  | awaiting
  /-- Has given up. -/
  | gone
  | answered (answer : Except Error (Loaded α))

/-- Whether a call has not come to start a task. -/
def Caller.IsEarly : Caller α → Prop
  | .absent => True
  | .calling => True
  | .missed => True
  | _ => False

def Caller.IsPresent : Caller α → Prop
  | .calling => True
  | .missed => True
  | .awaiting => True
  | _ => False

/-- How far a clearing is. -/
inductive Clearing where
  | absent
  /-- Wants the lock. -/
  | waiting
  /-- Has the lock and has not emptied the slot. -/
  | entered
  | cleared

/-- Whether a clearing is between taking the lock and giving it back. -/
def Clearing.IsInside : Clearing → Prop
  | .entered => True
  | .cleared => True
  | _ => False

inductive Holder (κ : Type) where
  | task (i : Nat)
  | clearing (q : κ)

/-- A slot and all that use it: calls and their tasks by number, clearings by who makes them. -/
structure Shared (ρ κ α : Type) where
  slot : Slot α
  lock : Option (Holder κ)
  caller : Nat → Caller α
  task : Nat → Task ρ α
  clearing : κ → Clearing

namespace Shared

def fresh : Shared ρ κ α :=
  ⟨.empty, none, fun _ => .absent, fun _ => .absent, fun _ => .absent⟩

/-- Those inside hold the lock; a call that has not started a task has none; and what a task found
empty is empty. -/
structure Guarded (s : Shared ρ κ α) : Prop where
  task : ∀ i, (s.task i).IsInside ↔ s.lock = some (.task i)
  clearing : ∀ q, (s.clearing q).IsInside ↔ s.lock = some (.clearing q)
  unspawned : ∀ i, (s.caller i).IsEarly → s.task i = .absent
  empty : ∀ i, (s.task i).HasMissed → s.slot = none

/-- Where nobody is, nobody is inside and the lock is free. -/
theorem guarded_fresh : (fresh : Shared ρ κ α).Guarded := by
  constructor
  · intro i
    simp [fresh, Task.IsInside]
  · intro q
    simp [fresh, Clearing.IsInside]
  · intro i _
    rfl
  · intro i missed
    exact missed.elim

variable {s : Shared ρ κ α} {i j : Nat} {q : κ}

/-- There is one task inside at most. -/
theorem Guarded.eq_of_isInside (h : s.Guarded) (hi : (s.task i).IsInside)
    (hj : (s.task j).IsInside) : i = j := by
  have eq := ((h.task i).1 hi).symm.trans ((h.task j).1 hj)
  injection eq with eq
  injection eq

/-- No task is inside while a clearing is. -/
theorem Guarded.not_isInside (h : s.Guarded) (hq : (s.clearing q).IsInside) (i : Nat) :
    ¬ (s.task i).IsInside := by
  intro hi
  have eq := ((h.task i).1 hi).symm.trans ((h.clearing q).1 hq)
  injection eq with eq
  cases eq

end Shared

/-! ## Moves -/

/-- What can happen to a slot. -/
inductive Move (ρ κ α : Type) where
  | call (i : Nat)
  /-- A call finds a value without taking the lock. -/
  | hit (i : Nat) (held : Loaded α)
  | miss (i : Nat)
  | spawn (i : Nat)
  | enter (i : Nat)
  /-- A task finds what was stored while it waited. -/
  | find (i : Nat) (held : Loaded α)
  | confirm (i : Nat)
  | start (i : Nat) (r : ρ)
  /-- A loader does one of its steps. -/
  | work (i : Nat) (r : ρ)
  | finish (i : Nat) (outcome : Outcome α)
  | store (i : Nat) (value : α)
  | leave (i : Nat) (given : Except Error (Loaded α))
  | answer (i : Nat) (given : Except Error (Loaded α))
  /-- A caller gives up. -/
  | abandon (i : Nat)
  | wantClear (q : κ)
  | enterClear (q : κ)
  | clear (q : κ)
  | leaveClear (q : κ)

namespace Move

def Enabled (s : Shared ρ κ α) : Move ρ κ α → Prop
  | .call i => s.caller i = .absent
  | .hit i held => s.caller i = .calling ∧ s.slot = some held
  | .miss i => s.caller i = .calling ∧ s.slot = none
  | .spawn i => s.caller i = .missed
  | .enter i => s.task i = .waiting ∧ s.lock = none
  | .find i held => s.task i = .entered ∧ s.slot = some held
  | .confirm i => s.task i = .entered ∧ s.slot = none
  | .start i _ => s.task i = .missed
  | .work i _ => (s.task i).IsLoading
  | .finish i _ => (s.task i).IsLoading
  | .store i value => s.task i = .loaded value
  | .leave i given => s.task i = .leaving given
  | .answer i given => s.caller i = .awaiting ∧ s.task i = .ended given
  | .abandon i => (s.caller i).IsPresent
  | .wantClear q => s.clearing q = .absent
  | .enterClear q => s.clearing q = .waiting ∧ s.lock = none
  | .clear q => s.clearing q = .entered
  | .leaveClear q => s.clearing q = .cleared

variable [DecidableEq κ]

def next (s : Shared ρ κ α) : Move ρ κ α → Shared ρ κ α
  | .call i => { s with caller := Function.update s.caller i .calling }
  | .hit i held => { s with caller := Function.update s.caller i (.answered (.ok held)) }
  | .miss i => { s with caller := Function.update s.caller i .missed }
  | .spawn i =>
    { s with
      caller := Function.update s.caller i .awaiting
      task := Function.update s.task i .waiting }
  | .enter i => { s with lock := some (.task i), task := Function.update s.task i .entered }
  | .find i held => { s with task := Function.update s.task i (.leaving (.ok held)) }
  | .confirm i => { s with task := Function.update s.task i .missed }
  | .start i r => { s with task := Function.update s.task i (.loading r) }
  | .work i r => { s with task := Function.update s.task i (.loading r) }
  | .finish i outcome => { s with task := Function.update s.task i (.ofOutcome outcome) }
  | .store i value =>
    { s with
      slot := some ⟨i, value⟩
      task := Function.update s.task i (.leaving (.ok ⟨i, value⟩)) }
  | .leave i given => { s with lock := none, task := Function.update s.task i (.ended given) }
  | .answer i given => { s with caller := Function.update s.caller i (.answered given) }
  | .abandon i => { s with caller := Function.update s.caller i .gone }
  | .wantClear q => { s with clearing := Function.update s.clearing q .waiting }
  | .enterClear q =>
    { s with lock := some (.clearing q), clearing := Function.update s.clearing q .entered }
  | .clear q =>
    { s with slot := none, clearing := Function.update s.clearing q .cleared }
  | .leaveClear q =>
    { s with lock := none, clearing := Function.update s.clearing q .absent }

end Move

namespace Shared

variable [DecidableEq κ]

def after (s : Shared ρ κ α) (moves : List (Move ρ κ α)) : Shared ρ κ α :=
  moves.foldl Move.next s

def Allowed (s : Shared ρ κ α) : List (Move ρ κ α) → Prop
  | [] => True
  | m :: rest => m.Enabled s ∧ (m.next s).Allowed rest

variable {s : Shared ρ κ α} {m : Move ρ κ α} {moves more : List (Move ρ κ α)}

@[simp] theorem after_nil (s : Shared ρ κ α) : s.after [] = s := rfl

@[simp] theorem after_cons (s : Shared ρ κ α) (m : Move ρ κ α) (rest : List (Move ρ κ α)) :
    s.after (m :: rest) = (m.next s).after rest := rfl

theorem after_append (s : Shared ρ κ α) (moves more : List (Move ρ κ α)) :
    s.after (moves ++ more) = (s.after moves).after more := List.foldl_append

/-- A run can be cut in two anywhere. -/
theorem allowed_append :
    s.Allowed (moves ++ more) ↔ s.Allowed moves ∧ (s.after moves).Allowed more := by
  induction moves generalizing s with
  | nil => simp [Allowed]
  | cons m rest ih => simp [Allowed, ih, and_assoc]

/-- What each move preserves while the lock is guarded. -/
theorem Guarded.next (h : s.Guarded) (enabled : m.Enabled s) : (m.next s).Guarded := by
  have loading := fun i => @Task.IsLoading.hasMissed ρ α (s.task i)
  have missed := fun i => @Task.HasMissed.isInside ρ α (s.task i)
  obtain ⟨task, clearing, unspawned, empty⟩ := h
  -- each of the moves against each of the four fields, in which one entry of one map is new
  cases m <;> simp only [Move.Enabled] at enabled <;> constructor <;> intro j <;>
    simp only [Move.next, Function.update_apply] <;>
    grind [Task.IsInside, Task.HasMissed, Clearing.IsInside, Caller.IsEarly,
      Task.isInside_ofOutcome]

/-- The lock is guarded throughout a run. -/
theorem guarded_after (h : s.Guarded) (allowed : s.Allowed moves) : (s.after moves).Guarded := by
  -- on the moves, by what each of them preserves
  induction moves generalizing s with
  | nil => exact h
  | cons m rest ih => exact ih (h.next allowed.1) allowed.2

/-- What each move preserves, of what was done before and of the state, a run preserves. -/
theorem kept_after {P : List (Move ρ κ α) → Shared ρ κ α → Prop}
    (step : ∀ past s m, s.Guarded → P past s → m.Enabled s → P (past ++ [m]) (m.next s))
    {past : List (Move ρ κ α)} (guarded : s.Guarded) (h : P past s) (allowed : s.Allowed moves) :
    P (past ++ moves) (s.after moves) := by
  -- on the moves to come, while those made pile up in the past
  induction moves generalizing s past with
  | nil =>
    rw [List.append_nil]
    exact h
  | cons m rest ih =>
    have run := ih (guarded.next allowed.1) (step past s m guarded h allowed.1) allowed.2
    rwa [List.append_assoc] at run

/-- The same of a run from the start. -/
theorem kept_from {P : List (Move ρ κ α) → Shared ρ κ α → Prop}
    (step : ∀ past s m, s.Guarded → P past s → m.Enabled s → P (past ++ [m]) (m.next s))
    (guarded : s.Guarded) (h : P [] s) (allowed : s.Allowed moves) : P moves (s.after moves) :=
  kept_after step guarded h allowed

end Shared

/-! ## What is known of values -/

variable {P : α → Prop} {L : ρ → Prop} {s : Shared ρ κ α} {m : Move ρ κ α}

namespace Shared

/-- A property holds of values on their way to a slot, if another one does of the states of
loaders. -/
structure Informed (P : α → Prop) (L : ρ → Prop) (s : Shared ρ κ α) : Prop where
  loaded : ∀ i value, s.task i = .loaded value → P value
  loading : ∀ i r, s.task i = .loading r → L r

/-- The property holds of the value in the slot as well. -/
structure Upholds (P : α → Prop) (L : ρ → Prop) (s : Shared ρ κ α) : Prop extends
    Informed P L s where
  held : ∀ held, s.slot = some held → P held.value

theorem Informed.mono {Q : α → Prop} {M : ρ → Prop} (h : s.Informed P L)
    (values : ∀ value, P value → Q value) (loaders : ∀ r, L r → M r) : s.Informed Q M :=
  ⟨fun i value loaded => values _ (h.loaded i value loaded),
    fun i r loading => loaders _ (h.loading i r loading)⟩

/-- What is known of values can be weakened. -/
theorem Upholds.mono {Q : α → Prop} {M : ρ → Prop} (h : s.Upholds P L)
    (values : ∀ value, P value → Q value) (loaders : ∀ r, L r → M r) : s.Upholds Q M :=
  ⟨h.toInformed.mono values loaders, fun held filled => values _ (h.held held filled)⟩

/-- Nothing is known where no task has found the slot empty. -/
theorem informed_of_vacant (missed : ∀ i, ¬ (s.task i).HasMissed) : s.Informed P L := by
  refine ⟨?_, ?_⟩
  · intro i value loaded
    have has := missed i
    rw [loaded] at has
    exact absurd trivial has
  · intro i r loading
    have has := missed i
    rw [loading] at has
    exact absurd trivial has

/-- There are no values in a fresh slot, and none on their way. -/
theorem upholds_fresh : (fresh : Shared ρ κ α).Upholds P L := ⟨⟨nofun, nofun⟩, nofun⟩

end Shared

/-- What a loader must keep to. -/
def Move.Upholds (P : α → Prop) (L : ρ → Prop) : Move ρ κ α → Prop
  | .start _ r => L r
  | .work _ r => L r
  | .finish _ (.value value) => P value
  | _ => True

namespace Shared

variable [DecidableEq κ]

/-- No move but those of a loader makes a value. -/
theorem Informed.next (h : s.Informed P L) (enabled : m.Enabled s) (upholds : m.Upholds P L) :
    (m.next s).Informed P L := by
  obtain ⟨loaded, loading⟩ := h
  cases m <;> simp only [Move.Enabled] at enabled <;> constructor <;>
    simp only [Move.next, Function.update_apply] <;>
    grind [Move.Upholds, Task.ofOutcome_eq_loaded, Task.ofOutcome_ne_loading]

/-- A value gets into the slot by being stored, and the task that stores it has it from its
loader. -/
theorem Upholds.next (h : s.Upholds P L) (enabled : m.Enabled s) (upholds : m.Upholds P L) :
    (m.next s).Upholds P L := by
  refine ⟨h.toInformed.next enabled upholds, ?_⟩
  -- only two moves change the slot: one fills it and one empties it
  cases m with
  | store i value =>
    intro held filled
    cases filled
    exact h.loaded i value enabled
  | clear q => exact nofun
  | _ => exact h.held

/-- What a clearing leaves is nothing. -/
theorem upholds_of_clear {q : κ} (guarded : s.Guarded) (entered : s.clearing q = .entered) :
    ((Move.clear q).next s).Upholds P L := by
  have inside : (s.clearing q).IsInside := by rw [entered]; trivial
  -- whoever has a value on its way would be inside as well, and there is one lock
  refine ⟨informed_of_vacant fun i missed => ?_, nofun⟩
  exact guarded.not_isInside inside i missed.isInside

end Shared

/-! ## Slots without calls under way -/

/-- Whether a call may yet start a task. -/
def Caller.IsAhead : Caller α → Prop
  | .calling => True
  | .missed => True
  | _ => False

/-- Whether there is nothing left for a task to do. -/
def Task.IsOver : Task ρ α → Prop
  | .absent => True
  | .ended _ => True
  | _ => False

/-- A task that is over has nothing left to store. -/
theorem Task.IsOver.not_hasMissed {t : Task ρ α} (h : t.IsOver) : ¬ t.HasMissed := by
  intro missed
  cases t with
  | absent => exact missed
  | ended answer => exact missed
  | _ => exact h

/-- Nobody is about to load, or to answer, by a slot. -/
structure Shared.IsQuiet (s : Shared ρ κ α) : Prop where
  caller : ∀ i, ¬ (s.caller i).IsAhead
  task : ∀ i, (s.task i).IsOver

theorem Shared.isQuiet_fresh : (fresh : Shared ρ κ α).IsQuiet :=
  ⟨fun _ ahead => ahead, fun _ => trivial⟩

/-- Where nobody loads there are no values on their way. -/
theorem Shared.IsQuiet.informed (h : s.IsQuiet) : s.Informed P L :=
  informed_of_vacant fun i => (h.task i).not_hasMissed

/-- Calls alone end the quiet. -/
theorem Shared.IsQuiet.next [DecidableEq κ] (h : s.IsQuiet) (enabled : m.Enabled s)
    (foreign : ∀ i, m ≠ .call i) : (m.next s).IsQuiet := by
  obtain ⟨caller, task⟩ := h
  cases m <;> simp only [Move.Enabled] at enabled <;> constructor <;> intro j <;>
    simp only [Move.next, Function.update_apply] <;>
    grind [Caller.IsAhead, Task.IsOver, Task.IsLoading]

end Lockbox.Slot
