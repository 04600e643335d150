import Lockbox.Proofs.Slot.SingleFlight

/-!
# No stale values

Who asks after a slot was cleared gets what was loaded since, and between two clearings all who ask
get the same (`never_stale`). Once a slot is emptied, whatever comes into it was loaded from then
on, and so is what calls are told that begin from then on (`Renewed`). While it is not emptied, they
are told what it holds (`Shares`). One move preserves either, and so every run does, from the moment
at which it begins to hold.
-/

namespace Lockbox.Slot

variable {ρ κ α : Type}

/-- Whether the loader of a task may yet be started. -/
def Task.MayStart : Task ρ α → Prop
  | .absent => True
  | .waiting => True
  | .entered => True
  | .missed => True
  | _ => False

theorem Task.not_mayStart_ofOutcome (outcome : Outcome α) :
    ¬ (Task.ofOutcome outcome : Task ρ α).MayStart := by
  cases outcome <;> exact id

namespace Shared

variable {s : Shared ρ κ α} {m : Move ρ κ α} {q : κ}
  {past recent moves before during later : List (Move ρ κ α)} {held : Loaded α}

/-- The value was loaded and stored in these moves, by a loader that was started in them. -/
structure Produced (moves : List (Move ρ κ α)) (held : Loaded α) : Prop where
  started : ∃ r, .start held.serial r ∈ moves
  stored : Stored moves held

/-- A loader that was started is not started again. -/
def Once (past : List (Move ρ κ α)) (s : Shared ρ κ α) : Prop :=
  ∀ i r, .start i r ∈ past → ¬ (s.task i).MayStart

/-- What is in the slot or on its way there was loaded in recent moves, and so was what calls are
told that began in them. -/
structure Renewed (recent : List (Move ρ κ α)) (s : Shared ρ κ α) : Prop where
  loading : ∀ i, (s.task i).IsLoading → ∃ r, .start i r ∈ recent
  loaded : ∀ i value, s.task i = .loaded value →
    (∃ r, .start i r ∈ recent) ∧ .finish i (.value value) ∈ recent
  slot : ∀ held, s.slot = some held → Produced recent held
  task : ∀ i held, .call i ∈ recent → (s.task i).answer? = some (.ok held) → Produced recent held
  caller : ∀ i held, .call i ∈ recent → s.caller i = .answered (.ok held) → Produced recent held

/-- Calls that began in recent moves are told what is in the slot. -/
structure Shares (recent : List (Move ρ κ α)) (s : Shared ρ κ α) : Prop where
  task : ∀ i held, .call i ∈ recent → (s.task i).answer? = some (.ok held) → s.slot = some held
  caller : ∀ i held, .call i ∈ recent → s.caller i = .answered (.ok held) → s.slot = some held

theorem Produced.mono (h : Produced moves held) (within : ∀ m ∈ moves, m ∈ past) :
    Produced past held := by
  obtain ⟨⟨r, started⟩, given, kept⟩ := h
  exact ⟨⟨r, within _ started⟩, within _ given, within _ kept⟩

theorem Produced.append (h : Produced moves held) : Produced (moves ++ past) held :=
  h.mono fun _ => List.mem_append_left past

theorem once_fresh : Once [] (fresh : Shared ρ κ α) := nofun

theorem shares_nil (s : Shared ρ κ α) : s.Shares [] := ⟨nofun, nofun⟩

variable [DecidableEq κ]

/-! ## One move -/

theorem Once.next (guarded : s.Guarded) (h : s.Once past) (enabled : m.Enabled s) :
    (m.next s).Once (past ++ [m]) := by
  intro i r mem
  have before := h i r
  cases m <;> simp only [Move.Enabled, Move.next, Function.update_apply] at enabled ⊢ <;>
    grind [Task.MayStart, Task.IsLoading, Task.not_mayStart_ofOutcome, guarded.unspawned,
      Caller.IsEarly]

theorem Renewed.next (guarded : s.Guarded) (h : s.Renewed recent) (enabled : m.Enabled s) :
    (m.next s).Renewed (recent ++ [m]) := by
  obtain ⟨loading, loaded, slot, task, caller⟩ := h
  constructor
  · intro i running
    cases m <;> simp only [Move.Enabled, Move.next, Function.update_apply] at enabled running <;>
      grind [Task.IsLoading, Task.ofOutcome_ne_loading]
  · intro i value ready
    cases m <;> simp only [Move.Enabled, Move.next, Function.update_apply] at enabled ready <;>
      grind [Task.IsLoading, Task.ofOutcome_eq_loaded]
  · -- the slot is filled by a store, of what was loaded
    intro held filled
    cases m <;> simp only [Move.Enabled, Move.next] at enabled filled <;>
      grind [Produced, Stored, Produced.append]
  · -- a call that begins now has no task yet
    intro i held began answered
    cases m <;> simp only [Move.Enabled, Move.next, Function.update_apply] at enabled answered <;>
      grind [Task.answer?, Task.answer?_ofOutcome, Produced, Stored, Produced.append,
        guarded.unspawned, Caller.IsEarly]
  · intro i held began answered
    cases m <;> simp only [Move.Enabled, Move.next, Function.update_apply] at enabled answered <;>
      grind [Task.answer?, Produced.append]

theorem Shares.next (guarded : s.Guarded) (h : s.Shares recent) (enabled : m.Enabled s)
    (kept : ∀ q, m ≠ .clear q) : (m.next s).Shares (recent ++ [m]) := by
  obtain ⟨task, caller⟩ := h
  constructor
  · -- what is stored is stored into an empty slot, when nobody was told anything
    intro i held began answered
    have empty := guarded.empty
    cases m <;> simp only [Move.Enabled, Move.next, Function.update_apply] at enabled answered ⊢ <;>
      grind [Task.answer?, Task.answer?_ofOutcome, Task.HasMissed, guarded.unspawned,
        Caller.IsEarly]
  · intro i held began answered
    have empty := guarded.empty
    cases m <;> simp only [Move.Enabled, Move.next, Function.update_apply] at enabled answered ⊢ <;>
      grind [Task.answer?, Task.HasMissed]

/-! ## From some moment on -/

/-- Whoever clears a slot does not leave before it is emptied. -/
theorem clear_mem_of_leave (guarded : s.Guarded) (entered : s.clearing q = .entered)
    (allowed : s.Allowed (during ++ .leaveClear q :: later)) : .clear q ∈ during := by
  by_contra kept
  obtain ⟨before, leaves, -⟩ := allowed_append.1 allowed
  have step : ∀ past (s : Shared ρ κ α) (m : Move ρ κ α), s.Guarded →
      (.clear q ∉ past → s.clearing q = .entered) → m.Enabled s →
      .clear q ∉ past ++ [m] → (m.next s).clearing q = .entered := by
    intro past s m _ entered enabled absent
    rw [List.mem_append, not_or, List.mem_singleton] at absent
    have still := entered absent.1
    cases m <;> simp only [Move.Enabled, Move.next, Function.update_apply] at enabled ⊢ <;>
      grind
  have still := kept_from step guarded (fun _ => entered) before kept
  have cleared : (s.after during).clearing q = .cleared := leaves
  rw [still] at cleared
  cases cleared

/-- After a slot was emptied, everything is of recent moves. -/
theorem renewed_after_clear (guarded : s.Guarded) (entered : s.clearing q = .entered)
    (allowed : ((Move.clear q).next s).Allowed recent) :
    (((Move.clear q).next s).after recent).Renewed recent := by
  have inside : (s.clearing q).IsInside := by rw [entered]; trivial
  -- nobody else is inside, and so nothing is on its way
  have vacant : ∀ i, ¬ (s.task i).IsInside := guarded.not_isInside inside
  have start : ((Move.clear q).next s).Renewed [] := by
    constructor
    · exact fun i loading => absurd loading.hasMissed.isInside (vacant i)
    · intro i value loaded
      have within : (s.task i).IsInside := by
        rw [show s.task i = .loaded value from loaded]
        trivial
      exact absurd within (vacant i)
    · exact nofun
    · exact nofun
    · exact nofun
  exact kept_from (fun _ _ _ guarded h enabled => h.next guarded enabled) (guarded.next entered)
    start allowed

/-- Before a clearing is over, there comes a moment from which everything is of recent moves. -/
theorem exists_renewed (guarded : s.Guarded) (entered : s.clearing q = .entered)
    (allowed : s.Allowed (during ++ .leaveClear q :: later)) :
    ∃ recent, (∀ m ∈ recent, m ∈ during) ∧
      (s.after (during ++ .leaveClear q :: later)).Renewed (recent ++ .leaveClear q :: later) := by
  obtain ⟨first, second, rfl⟩ := List.append_of_mem (clear_mem_of_leave guarded entered allowed)
  rw [List.append_assoc, List.cons_append] at allowed ⊢
  obtain ⟨opening, clears, rest⟩ := allowed_append.1 allowed
  refine ⟨second, ?_, ?_⟩
  · intro m mem
    exact List.mem_append_right first (List.mem_cons_of_mem _ mem)
  · rw [after_append, after_cons]
    exact renewed_after_clear (guarded_after guarded opening) clears rest

/-- While a slot is not emptied, all who ask are told the same. -/
theorem shares_after (guarded : s.Guarded) (allowed : s.Allowed recent)
    (kept : ∀ q, .clear q ∉ recent) : (s.after recent).Shares recent := by
  have step : ∀ past (s : Shared ρ κ α) m, s.Guarded →
      ((∀ q, .clear q ∉ past) → s.Shares past) → m.Enabled s →
      (∀ q, .clear q ∉ past ++ [m]) → (m.next s).Shares (past ++ [m]) := by
    intro past s m guarded shares enabled absent
    refine (shares fun q mem => ?_).next guarded enabled fun q eq => ?_
    · exact absent q (List.mem_append_left _ mem)
    · exact absent q (List.mem_append_right _ (List.mem_singleton.2 eq.symm))
  exact kept_from step guarded (fun _ => shares_nil s) allowed kept

/-- A loader that is started now was not started before. -/
theorem not_mem_of_start (allowed : fresh.Allowed (before ++ recent)) {i : Nat} {r : ρ}
    (started : .start i r ∈ recent) (r' : ρ) : .start i r' ∉ before := by
  obtain ⟨first, rest, rfl⟩ := List.append_of_mem started
  rw [← List.append_assoc] at allowed
  obtain ⟨past, now, -⟩ := allowed_append.1 allowed
  have once : (fresh.after (before ++ first)).Once (before ++ first) :=
    kept_from (fun _ _ _ guarded h enabled => h.next guarded enabled) guarded_fresh once_fresh
      past
  intro mem
  apply once i r' (List.mem_append_left _ mem)
  rw [show (fresh.after (before ++ first)).task i = .missed from now]
  trivial

/-! ## The whole -/

/-- What calls of a slot are told, after moves. -/
structure NeverStale (moves : List (Move ρ κ α)) : Prop where
  /-- Who asks after a clearing is over gets what a loader gave that started after the clearing had
  taken the lock. -/
  renewed : ∀ before during between later q i held,
    moves = before ++ .enterClear q :: (during ++ .leaveClear q :: (between ++ .call i :: later)) →
    (fresh.after moves).caller i = .answered (.ok held) →
      Produced (during ++ .leaveClear q :: (between ++ .call i :: later)) held ∧
        ∀ r, .start held.serial r ∉ before
  /-- All get the same value of the same load who ask and are answered with no emptying in
  between. -/
  shared : ∀ before recent rest i j held held', moves = before ++ recent ++ rest →
    (∀ q, .clear q ∉ recent) → .call i ∈ recent → .call j ∈ recent →
    (fresh.after (before ++ recent)).caller i = .answered (.ok held) →
    (fresh.after (before ++ recent)).caller j = .answered (.ok held') → held = held'

/-- However calls and clearings interleave, no call is told what was loaded before a clearing that
was over when the call began, and calls between which the slot is not emptied are told the same. -/
theorem never_stale {moves : List (Move ρ κ α)} (allowed : fresh.Allowed moves) :
    NeverStale moves := by
  constructor
  · rintro before during between later q i held rfl answered
    obtain ⟨past, enters, allowedAfter⟩ := allowed_append.1 allowed
    have guarded := (guarded_after guarded_fresh past).next enters
    have entered : ((Move.enterClear q).next (fresh.after before)).clearing q = .entered :=
      Function.update_self q _ _
    obtain ⟨recent, within, renewed⟩ := exists_renewed guarded entered allowedAfter
    have began : .call i ∈ recent ++ .leaveClear q :: (between ++ .call i :: later) := by simp
    rw [after_append, after_cons] at answered
    have produced : Produced (during ++ .leaveClear q :: (between ++ .call i :: later)) held := by
      refine (renewed.caller i held began answered).mono fun m mem => ?_
      rcases List.mem_append.1 mem with early | late
      · exact List.mem_append_left _ (within m early)
      · exact List.mem_append_right during late
    refine ⟨produced, fun r => ?_⟩
    obtain ⟨r', started⟩ := produced.started
    exact not_mem_of_start allowed (List.mem_cons_of_mem _ started) r
  · rintro before recent rest i j held held' rfl kept beganFirst beganSecond first second
    obtain ⟨past, now⟩ := allowed_append.1 (allowed_append.1 allowed).1
    have shares := shares_after (guarded_after guarded_fresh past) now kept
    rw [after_append] at first second
    have eq := (shares.caller i held beganFirst first).symm.trans
      (shares.caller j held' beganSecond second)
    exact Option.some.inj eq

/-- A call loads while a clearing and another call want the lock. The clearing comes first, and then
the second call loads anew, what a third one finds without the lock. -/
def overtaken : List (Move Unit Unit Nat) :=
  [.call 0, .miss 0, .spawn 0, .enter 0, .confirm 0, .start 0 (), .wantClear (), .call 1, .miss 1,
    .spawn 1, .finish 0 (.value 7), .store 0 7, .leave 0 (.ok ⟨0, 7⟩), .enterClear (), .clear (),
    .leaveClear (), .call 2, .answer 0 (.ok ⟨0, 7⟩), .enter 1, .confirm 1, .start 1 (),
    .finish 1 (.value 8), .store 1 8, .leave 1 (.ok ⟨1, 8⟩), .hit 2 ⟨1, 8⟩, .answer 1 (.ok ⟨1, 8⟩)]

/-- The first call is told what was loaded before the clearing, the other two what was loaded
after it. -/
theorem never_stale_overtaken :
    fresh.Allowed overtaken ∧ NeverStale overtaken ∧
      (fresh.after overtaken).caller 0 = .answered (.ok ⟨0, 7⟩) ∧
      (fresh.after overtaken).caller 1 = .answered (.ok ⟨1, 8⟩) ∧
      (fresh.after overtaken).caller 2 = .answered (.ok ⟨1, 8⟩) := by
  have allowed : fresh.Allowed overtaken := by
    simp [overtaken, Allowed, Move.Enabled, Move.next, fresh, Slot.empty, Task.IsLoading,
      Task.ofOutcome]
  exact ⟨allowed, never_stale allowed, rfl, rfl, rfl⟩

end Shared

end Lockbox.Slot
