import Lockbox.Proofs.Store.Course
import Lockbox.Proofs.Store.Direct

/-!
# One step after another

What a store does one step after another can be done in many hands as well, if nobody interferes:
each step is a run of moves, after which the surroundings, the slots and the answer are the same
(`exists_moves_of_step`), and so is every run of steps (`exists_moves_of_steps`). What holds after
every run of moves thus holds after every run of steps.
-/

namespace Lockbox.Store

variable {σ : Type}

namespace Shared

/-- A state in which nobody is at work, and which has the surroundings and slots of a store in one
hand. -/
structure Mirrors (t : Shared σ) (s : Store σ) : Prop where
  path : t.path = s.path
  vault : t.vault = s.vault
  world : t.world = s.world
  slot : ∀ c, (t.current c).map (fun k => (t.slots c k).slot) = s.slotAt? c
  rests : ∀ c k, (t.slots c k).Rests s.accesses
  errand : ∀ q, t.errand q = .idle
  spare : ∀ c, ∃ bound, ∀ k, bound ≤ k → t.slots c k = .fresh

/-- A store that was just opened in one hand and in many is the same store. -/
theorem mirrors_opened (path : Path) (vault : Vault) (w : World σ) :
    (opened path vault w).Mirrors (ofWorld path vault w) := by
  refine ⟨rfl, rfl, rfl, ?_, fun _ _ => Slot.Shared.rests_fresh 0, fun _ => rfl,
    fun _ => ⟨0, fun _ _ => rfl⟩⟩
  intro c
  cases c with
  | host => rfl
  | function name => rfl

variable {s s' : Store σ} {t : Shared σ} {c : Scope} {k : Nat} {slot : ScopeSlot c}
  {world : World σ} {channel : List (Path × ChangeKind)}

theorem Mirrors.of_world (h : t.Mirrors s) (path : s'.path = s.path) (vault : s'.vault = s.vault)
    (moved : s'.world = world) (slots : ∀ c, s'.slotAt? c = s.slotAt? c)
    (accesses : s'.accesses = s.accesses) :
    Mirrors { t with world := world, channel := channel } s' := by
  refine ⟨h.path.trans path.symm, h.vault.trans vault.symm, moved.symm, ?_, ?_, h.errand, h.spare⟩
  · intro c
    rw [slots]
    exact h.slot c
  · intro c k
    rw [accesses]
    exact h.rests c k

/-- The slot of one scope and the surroundings have changed. -/
theorem Mirrors.revised (h : t.Mirrors s) (number : Option Nat) (path : s'.path = s.path)
    (vault : s'.vault = s.vault) (moved : s'.world = world)
    (mapped : s'.slotAt? c = number.map fun _ => slot.slot)
    (numbered : ∀ k', number = some k' → k' = k)
    (others : ∀ c', c' ≠ c → s'.slotAt? c' = s.slotAt? c') (accesses : s.accesses ≤ s'.accesses)
    (rests : slot.Rests s'.accesses) :
    (t.revised c k slot (Function.update t.current c number) world channel).Mirrors s' := by
  refine ⟨h.path.trans path.symm, h.vault.trans vault.symm, moved.symm, ?_, ?_, h.errand, ?_⟩
  · intro c'
    -- the revised scope reads its own slot, and any other one the slot it had
    by_cases eq : c' = c
    · subst eq
      rw [mapped]
      cases number with
      | none => simp [Shared.revised]
      | some k' =>
        rw [numbered k' rfl]
        simp [Shared.revised]
    · rw [others c' eq, ← h.slot c']
      simp [Shared.revised, slots_put_of_ne, eq]
  · refine forall_put (P := fun _ _ slot => slot.Rests s'.accesses) rests ?_
    exact fun c' k' _ => (h.rests c' k').mono accesses
  · intro c'
    obtain ⟨bound, fresh⟩ := h.spare c'
    -- numbers above `k` are as spare as they were
    refine ⟨max bound (k + 1), fun k' above => ?_⟩
    exact (slots_put_other t (fun _ => by omega) slot).trans (fresh k' (by omega))

variable [Volume σ] {dir : Path} {atomic : Atomic σ dir} {q : Clearer}

/-! ### Calls -/

omit [Volume σ] in
/-- There is a slot to call, which holds what the slot in one hand holds. -/
theorem Mirrors.exists_offer (h : t.Mirrors s) (c : Scope) :
    ∃ k, t.Offers c k ∧ (t.slots c k).slot = (s.slotAt? c).getD .empty := by
  have slot := h.slot c
  cases current : t.current c with
  | none =>
    -- nobody has called the scope yet, and the first spare number will do
    obtain ⟨bound, fresh⟩ := h.spare c
    have spare := fresh bound (Nat.le_refl bound)
    rw [current] at slot
    refine ⟨bound, .inr ⟨current, spare⟩, ?_⟩
    rw [spare, ← slot]
    rfl
  | some k =>
    rw [current] at slot
    refine ⟨k, .inl current, ?_⟩
    rw [← slot]
    rfl

/-- A call of a scope, given what it leaves in one hand. -/
theorem Mirrors.exists_call (h : t.Mirrors s) (s' : Store σ) (c : Scope)
    {load : World σ → Except Error c.Keys × World σ}
    (loads : load = fun w =>
      (Load.opened (c.form s.vault) (c.file s.path) (c.resolve s.vault)).run.run w)
    {result : Except Error (Loaded c.Keys)} {left : Slot c.Keys}
    (fetches : Slot.fetch ((s.slotAt? c).getD .empty) s.accesses load s.world =
      (result, left, world))
    (path : s'.path = s.path) (vault : s'.vault = s.vault) (moved : s'.world = world)
    (leaves : s'.slotAt? c = some left) (others : ∀ c', c' ≠ c → s'.slotAt? c' = s.slotAt? c')
    (accesses : s'.accesses = s.accesses + 1) :
    ∃ k u, t.Offers c k ∧ (t.slots c k).caller s.accesses = .absent ∧
      (t.call c k s.accesses).Leads atomic u ∧ u.Mirrors s' ∧
      (u.slots c k).caller s.accesses = .answered result := by
  obtain ⟨k, offers, slot⟩ := h.exists_offer c
  have rests := h.rests c k
  have absent := rests.caller s.accesses (Nat.le_refl s.accesses)
  rw [← h.vault, ← h.path] at loads
  obtain ⟨channel, leads⟩ : ∃ channel, (t.call c k s.accesses).Leads atomic _ :=
    Shared.exists_call rfl rests loads
  -- undisturbed, the course of a call is the fetch that is made in one hand
  obtain ⟨-, answered, filled⟩ := Slot.Shared.course_eq_fetch absent rests.lock
    (Load.Stage.reading : Load.Stage c.Records) load t.world
  rw [← slot, ← h.world] at fetches
  rw [fetches] at leads answered filled
  refine ⟨k, _, offers, absent, leads, ?_, ?_⟩
  · refine h.revised (some k) path vault moved ?_ ?_ others (by omega) ?_
    · rw [leaves, Option.map_some, filled]
    · exact fun k' eq => (Option.some.inj eq).symm
    · rw [accesses]
      exact rests.course _ _
  · rw [slots_revised_self]
    exact answered

/-! ### Clearings -/

omit [Volume σ] in
theorem Mirrors.seek_of_absent (h : t.Mirrors s) (absent : s.slotAt? c = none) (q : Clearer)
    (errand : Errand) : t.current c = none ∧ (t.turn q errand).seek q c = t := by
  have slot := h.slot c
  rw [absent, Option.map_eq_none_iff] at slot
  have missing : (t.turn q errand).current c = none := slot
  refine ⟨slot, ?_⟩
  rw [seek, missing]
  exact turn_idle (h.errand q) errand

/-- A slot that is there is sought and cleared, and stays or is gone. -/
theorem Mirrors.exists_sought (h : t.Mirrors s) (s' : Store σ) {held : Slot c.Keys}
    (mapped : s.slotAt? c = some held) (q : Clearer) (errand : Errand) (stays : Bool)
    (path : s'.path = s.path) (vault : s'.vault = s.vault)
    (world : s'.world = { s.world with log := s.world.log ++ cleared q c })
    (emptied : s'.slotAt? c = if stays then some none else none)
    (others : ∀ c', c' ≠ c → s'.slotAt? c' = s.slotAt? c') (accesses : s'.accesses = s.accesses) :
    ∃ u, Leads atomic { (t.turn q errand).seek q c with
      current := if stays then t.current else Function.update t.current c none } u ∧
        u.Mirrors s' := by
  have slot := h.slot c
  rw [mapped, Option.map_eq_some_iff] at slot
  obtain ⟨k, current, -⟩ := slot
  have sought : (t.turn q errand).seek q c =
      ((t.turn q errand).use c k (.wantClear q)).turn q (.clearing c k) := by
    have current' : (t.turn q errand).current c = some k := current
    rw [seek, current']
  -- the slot is at rest, so the clearing runs through at once
  obtain ⟨-, empty, again⟩ := (h.rests c k).wiping q
  rw [sought]
  refine ⟨_, leads_wiped (h.rests c k) (h.errand q) _ errand, ?_⟩
  rw [foldl_report]
  have world' : s'.world = { t.world with log := t.world.log ++ cleared q c } := by
    rw [world, h.world]
  have rests : ((t.slots c k).after (Slot.Shared.wiping q)).Rests s'.accesses := by
    rw [accesses]
    exact again
  cases stays with
  | false => exact h.revised none path vault world' emptied nofun others (by omega) rests
  | true =>
    have kept : t.current = Function.update t.current c (some k) := by
      rw [← current, Function.update_eq_self]
    have left : s'.slotAt? c = (some k).map
        fun _ => ((t.slots c k).after (Slot.Shared.wiping q)).slot := by
      rw [emptied, empty]
      rfl
    rw [if_pos rfl, kept]
    exact h.revised (some k) path vault world' left (fun k' eq => (Option.some.inj eq).symm)
      others (by omega) rests

/-! ### Steps -/

/-- The host's secrets can be had in many hands: the call of `hostKeys` is answered as in one
hand. -/
theorem Mirrors.exists_host (h : t.Mirrors s) (atomic : Atomic σ dir) :
    ∃ u, t.Leads atomic u ∧ u.Mirrors s.hostKeys.2 ∧
      ∃ k, (u.slots .host k).caller s.accesses = .answered s.hostKeys.1 := by
  obtain ⟨result, left, world, fetches⟩ : ∃ result left world,
      s.host.fetch s.accesses (fun w => (Load.host s.vault s.path).run.run w) s.world =
        (result, left, world) := ⟨_, _, _, rfl⟩
  have keys : s.hostKeys = (result, { s with
      host := left, world := world, accesses := s.accesses + 1 }) := by
    rw [hostKeys, fetches]
  rw [keys]
  have others : ∀ c : Scope, c ≠ .host → ({ s with
      host := left, world := world, accesses := s.accesses + 1 } : Store σ).slotAt? c =
      s.slotAt? c := by
    intro c ne
    cases c with
    | host => exact absurd rfl ne
    | function name => rfl
  obtain ⟨k, u, offers, absent, leads, mirrors, answered⟩ :=
    h.exists_call { s with host := left, world := world, accesses := s.accesses + 1 } .host rfl
      fetches rfl rfl rfl rfl others rfl
  have call : t.Leads atomic (t.call .host k s.accesses) :=
    .of_move (m := .host k s.accesses) ⟨offers, absent⟩
  exact ⟨u, call.trans leads, mirrors, k, answered⟩

/-- So can those of a function, if its name is usable. A name that is not is refused before any slot
is looked for, so that nobody has to move. -/
theorem Mirrors.exists_function (h : t.Mirrors s) (atomic : Atomic σ dir) (name : String) :
    ∃ u, t.Leads atomic u ∧ u.Mirrors (s.functionKeys name).2 ∧
      ∀ n, Scope.ofFunction name = .ok n →
        ∃ k, (u.slots (.function n) k).caller s.accesses = .answered (s.functionKeys name).1 := by
  cases usable : Scope.ofFunction name with
  | error e =>
    rw [functionKeys_of_refused usable]
    exact ⟨t, .refl t, h, nofun⟩
  | ok n =>
    obtain ⟨result, left, world, fetches⟩ : ∃ result left world,
        Slot.fetch ((s.slot? n).getD .empty) s.accesses
          (fun w => (Load.function s.vault s.path n).run.run w) s.world =
          (result, left, world) := ⟨_, _, _, rfl⟩
    have keys : s.functionKeys name = (result, ({ s with
        world := world, accesses := s.accesses + 1 }).setSlot n left) := by
      unfold functionKeys
      rw [usable]
      dsimp only
      rw [fetches]
    rw [keys]
    have others : ∀ c : Scope, c ≠ .function n → (({ s with
        world := world, accesses := s.accesses + 1 }).setSlot n left).slotAt? c = s.slotAt? c :=
      fun c ne => (slotAt?_setSlot_of_ne _ ne left).trans (by cases c <;> rfl)
    obtain ⟨k, u, offers, absent, leads, mirrors, answered⟩ :=
      h.exists_call (({ s with world := world, accesses := s.accesses + 1 }).setSlot n left)
        (.function n) rfl fetches rfl rfl rfl (slotAt?_setSlot_self _ n left) others rfl
    have enabled : (Move.function name k s.accesses).Enabled atomic t :=
      ⟨n, usable, offers, absent⟩
    have call := Leads.of_move enabled
    rw [Move.next, usable] at call
    refine ⟨u, call.trans leads, mirrors, ?_⟩
    intro n' eq
    cases eq
    exact ⟨k, answered⟩

/-- The loop that hears of a change is taken on, finds the slot that the path belongs to, and clears
it. -/
theorem Mirrors.exists_invalidate (h : t.Mirrors s) (atomic : Atomic σ dir) (p : Path) :
    ∃ u, t.Leads atomic u ∧ u.Mirrors (s.invalidate p) := by
  have idle := h.errand (.invalidation 0)
  have first : t.Leads atomic (t.turn (.invalidation 0) (.looking p)) :=
    .of_move (m := .invalidate 0 p) idle
  have second : (t.turn (.invalidation 0) (.looking p)).Leads atomic
      ((t.turn (.invalidation 0) (.looking p)).find (.invalidation 0) p) :=
    .of_move (m := .find (.invalidation 0) p) (errand_turn_self _ _ _)
  -- what is left depends on the scope that the path names, if it names any
  suffices later : ∃ u, ((t.turn (.invalidation 0) (.looking p)).find (.invalidation 0) p).Leads
      atomic u ∧ u.Mirrors (s.invalidate p) by
    obtain ⟨u, leads, mirrors⟩ := later
    exact ⟨u, (first.trans second).trans leads, mirrors⟩
  unfold Shared.find Store.invalidate
  cases Scope.ofPath? p with
  | none => exact ⟨_, .refl _, by rw [turn_idle idle]; exact h⟩
  | some c =>
    dsimp only
    rw [← seek_with_current]
    cases c with
    | host =>
      have others : ∀ c : Scope, c ≠ .host → (({ s with host := .empty } : Store σ).report
          ⟨.debug, .store, "host secrets cache invalidated", []⟩).slotAt? c = s.slotAt? c := by
        intro c ne
        cases c with
        | host => exact absurd rfl ne
        | function name => rfl
      exact h.exists_sought _ rfl (.invalidation 0) (.looking p) true rfl rfl rfl rfl others rfl
    | function name =>
      dsimp only
      cases slot_eq : s.slot? name with
      | none =>
        -- the function was never called, and there is nothing to clear
        obtain ⟨-, sought⟩ := h.seek_of_absent (c := .function name) slot_eq (.invalidation 0)
          (.looking p)
        rw [seek_with_current, sought]
        exact ⟨t, .refl t, h⟩
      | some held =>
        have held' : s.slotAt? (.function name) = some held := slot_eq
        exact h.exists_sought ((s.setSlot name .empty).report _) held' (.invalidation 0)
          (.looking p) true rfl rfl rfl (slotAt?_setSlot_self s name .empty)
          (fun c ne => slotAt?_setSlot_of_ne s ne .empty) rfl

theorem Mirrors.exists_forgotten (h : t.Mirrors s) (atomic : Atomic σ dir) (name : String) :
    ∃ u, ((t.turn (.purge 0) (.forgetting name)).forget 0 name).Leads atomic u ∧
      u.Mirrors (s.forget name) := by
  cases slot_eq : s.slot? name with
  | none =>
    have absent : s.slotAt? (.function name) = none := slot_eq
    obtain ⟨missing, sought⟩ := h.seek_of_absent absent (.purge 0) (.forgetting name)
    -- with no slot to forget, neither map changes
    have kept : t.current = Function.update t.current (.function name) none := by
      rw [← missing, Function.update_eq_self]
    have stays : (t.turn (.purge 0) (.forgetting name)).forget 0 name = t := by
      rw [forget, sought]
      exact congrArg (fun current => { t with current := current }) kept.symm
    rw [stays]
    refine ⟨t, .refl t, ?_⟩
    refine h.of_world rfl rfl h.world.symm ?_ rfl
    intro c
    by_cases eq : c = .function name
    · subst eq
      exact (slot?_forget_self s name).trans slot_eq.symm
    · exact slotAt?_forget_of_ne s eq
  | some held =>
    have held' : s.slotAt? (.function name) = some held := slot_eq
    refine h.exists_sought (s.forget name) held' (.purge 0) (.forgetting name) false rfl rfl ?_
      (slot?_forget_self s name) (fun c ne => slotAt?_forget_of_ne s ne) rfl
    simp [cleared, Store.forget]

/-- A purge that is at its leisure removes one orphan: the file first, and its slot only if the
removal was not refused. -/
theorem Mirrors.exists_removeOrphan (h : t.Mirrors s) (atomic : Atomic σ dir)
    {functions : List String} {entry : Entry} {name : String} (proper : entry.name.IsProper)
    (owner : ownerName? s.path entry = some name)
    (orphan : name ∉ functions) :
    ∃ u, t.Leads atomic u ∧ u.Mirrors (s.removeOrphan (s.path.join entry.name) name).2 := by
  have idle := h.errand (.purge 0)
  have first : t.Leads atomic (t.remove 0 (t.path.join entry.name) name .deleted) := by
    have enabled : (Move.remove 0 functions entry name .deleted).Enabled atomic t :=
      ⟨idle, proper, by rw [h.path]; exact owner, orphan⟩
    exact .of_move enabled
  rw [h.path] at first
  unfold Shared.remove at first
  unfold Store.removeOrphan Store.removeFile
  rw [h.world] at first
  cases removes : Volume.remove (s.path.join entry.name) s.world.volume with
  | mk done volume =>
    rw [removes] at first
    cases done with
    | error fault =>
      -- the removal is refused: both log it and leave the slot alone
      refine ⟨_, first, ?_⟩
      exact h.of_world rfl rfl rfl (fun c => by cases c <;> rfl) rfl
    | ok _ =>
      -- the file is gone, and the purge turns to its slot
      dsimp only at first
      generalize gone : ({ t with world := { s.world with volume := volume } }.report
        ⟨.debug, .store, "deleted orphaned secret file",
          [("path", .text (s.path.join entry.name).display)]⟩).notify
        (s.path.join entry.name) .deleted = u at first
      have mirrors' : u.Mirrors (({ s with world := { s.world with volume := volume } }).report
          ⟨.debug, .store, "deleted orphaned secret file",
            [("path", .text (s.path.join entry.name).display)]⟩) := by
        rw [← gone]
        exact h.of_world rfl rfl rfl (fun c => by cases c <;> rfl) rfl
      have second : (u.turn (.purge 0) (.forgetting name)).Leads atomic
          ((u.turn (.purge 0) (.forgetting name)).forget 0 name) :=
        .of_move (m := .forget 0 name) (errand_turn_self u _ _)
      obtain ⟨v, leads, mirrors⟩ := mirrors'.exists_forgotten atomic name
      exact ⟨v, (first.trans second).trans leads, mirrors⟩

theorem Mirrors.exists_removeOrphans (h : t.Mirrors s) (functions : List String)
    {entries : List (Except OsFault Entry)}
    (proper : ∀ entry, .ok entry ∈ entries → entry.name.IsProper) :
    ∃ u, t.Leads atomic u ∧ u.Mirrors (s.removeOrphans functions entries).2 := by
  -- the purge walks down the listing, and the store it has by then mirrors the one in one hand
  induction entries generalizing s t with
  | nil => exact ⟨t, .refl t, h⟩
  | cons first rest ih =>
    have later : ∀ entry, .ok entry ∈ rest → entry.name.IsProper :=
      fun entry mem => proper entry (List.mem_cons_of_mem first mem)
    cases first with
    | error fault => exact ⟨t, .refl t, h⟩
    | ok entry =>
      rw [removeOrphans]
      cases owner : ownerName? s.path entry with
      | none => exact ih h later
      | some name =>
        dsimp only
        split
        · exact ih h later
        · next orphan =>
          obtain ⟨u, leads, mirrors⟩ :=
            h.exists_removeOrphan atomic (proper entry List.mem_cons_self) owner orphan
          obtain ⟨v, others, left⟩ := ih mirrors later
          exact ⟨v, leads.trans others, left⟩

theorem Mirrors.exists_purge (h : t.Mirrors s) (root : Path)
    (proper : ∀ entries entry, Volume.list s.world.volume s.path = .ok entries →
      .ok entry ∈ entries → entry.name.IsProper) :
    ∃ u, t.Leads atomic u ∧ u.Mirrors (s.purge root) := by
  -- whether it succeeds or not, the purge ends with a report
  suffices tried : ∃ u, t.Leads atomic u ∧ u.Mirrors (s.tryPurge root).2 by
    obtain ⟨u, leads, mirrors⟩ := tried
    have told : u.Leads atomic (u.report (purged (s.tryPurge root).1)) :=
      .of_move (m := .report _) trivial
    refine ⟨_, leads.trans told, ?_⟩
    refine mirrors.of_world rfl rfl ?_ (fun c => by cases c <;> rfl) rfl
    rw [mirrors.world]
    rfl
  rw [tryPurge]
  cases functionNames? s.world.volume root with
  | error e => exact ⟨t, .refl t, h⟩
  | ok names =>
    cases names with
    | none => exact ⟨t, .refl t, h⟩
    | some functions =>
      dsimp only
      cases listed : Volume.list s.world.volume s.path with
      | error fault => cases fault <;> exact ⟨t, .refl t, h⟩
      | ok entries =>
        exact h.exists_removeOrphans functions fun entry => proper entries entry listed

/-! ## Runs -/

/-- Others change one file at a time. -/
def IsFair (atomic : Atomic σ dir) : Step σ → Prop
  | .change n f => n.IsProper ∧ ∀ v, atomic.Fit v → atomic.Spares n v (f v)
  | _ => True

/-- Who was told what in one hand was told it in many. -/
def Answers (u : Shared σ) (s : Store σ) : Step σ → Prop
  | .host => ∃ k, (u.slots .host k).caller s.accesses = .answered s.hostKeys.1
  | .function name => ∀ n, Scope.ofFunction name = .ok n →
    ∃ k, (u.slots (.function n) k).caller s.accesses = .answered (s.functionKeys name).1
  | _ => True

/-- What can be done in one hand can be done in many, with the same answer. -/
theorem exists_moves_of_step {steady : Steady σ dir} (h : t.Mirrors s) (path : s.path = dir)
    (fit : steady.Fit s.world.volume) {next : Step σ} (fair : IsFair steady.atomic next) :
    ∃ u, t.Leads steady.atomic u ∧ u.Mirrors (s.step next).2 ∧ u.Answers s next := by
  cases next with
  | host =>
    rw [Store.step]
    exact h.exists_host steady.atomic
  | function name =>
    rw [Store.step]
    exact h.exists_function steady.atomic name
  | purge root =>
    obtain ⟨u, leads, mirrors⟩ := h.exists_purge root fun entries entry listed mem =>
      steady.isProper_of_list fit (path ▸ listed) mem
    exact ⟨u, leads, mirrors, trivial⟩
  | invalidate p =>
    obtain ⟨u, leads, mirrors⟩ := h.exists_invalidate steady.atomic p
    exact ⟨u, leads, mirrors, trivial⟩
  | change n f =>
    have first : t.Leads steady.atomic ((Move.change n f .changed).next t) := .of_move fair
    refine ⟨_, first, ?_, trivial⟩
    refine h.of_world rfl rfl ?_ (fun c => by cases c <;> rfl) rfl
    rw [h.world]
    rfl

/-- Step by step, any run of steps can be had in many hands. Each step needs a volume that fits,
which is what coherence carries along. -/
theorem exists_moves_of_mirrors {steady : Steady σ dir} {steps : List (Step σ)}
    (fair : ∀ next ∈ steps, IsFair steady.atomic next) (h : t.Mirrors s)
    (coherent : t.Coherent steady.atomic) :
    ∃ u, t.Leads steady.atomic u ∧
      u.Mirrors (steps.foldl (fun s next => (s.step next).2) s) := by
  -- both stores move on, so that the induction is on the steps that are left
  induction steps generalizing s t with
  | nil => exact ⟨t, .refl t, h⟩
  | cons next rest ih =>
    have fit := coherent.fit
    rw [h.world] at fit
    obtain ⟨u, leads, mirrors, -⟩ := exists_moves_of_step h (h.path.symm.trans coherent.path) fit
      (fair next List.mem_cons_self)
    obtain ⟨v, others, left⟩ := ih (fun step mem => fair step (List.mem_cons_of_mem next mem))
      mirrors (coherent.of_leads leads)
    exact ⟨v, leads.trans others, left⟩

/-- Any run of steps in one hand can be had in many, from the opening of the store. -/
theorem exists_moves_of_steps (steady : Steady σ dir) (vault : Vault) {w : World σ}
    (fit : steady.Fit w.volume) {steps : List (Step σ)}
    (fair : ∀ next ∈ steps, IsFair steady.atomic next) :
    ∃ u, (opened dir vault w).Leads steady.atomic u ∧
      u.Mirrors (steps.foldl (fun s next => (s.step next).2) (ofWorld dir vault w)) :=
  exists_moves_of_mirrors fair (mirrors_opened dir vault w) (coherent_opened fit)

end Shared

end Lockbox.Store
