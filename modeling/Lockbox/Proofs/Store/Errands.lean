import Lockbox.Proofs.Store.Shared

/-!
# Errands and locks

However the moves of a store interleave, a clearer uses the slot that its errand is about and no
other, the lock of every slot is guarded, and nobody uses the slots of scopes that cannot be asked
for (`Sound`). What happens inside a slot preserves this (`Sound.use`), and so does a clearer who
begins or ends with a slot (`Sound.seek`, `Sound.leave`).
-/

namespace Lockbox.Store

variable {σ : Type} {s t : Shared σ} {c : Scope} {k : Nat} {q : Clearer}
  {m : Slot.Move (Load.Stage c.Records) Clearer c.Keys}

namespace Errand

/-- An errand that is about no slot. -/
def IsFree (errand : Errand) : Prop := ∀ c k, errand ≠ .clearing c k

theorem isFree_idle : idle.IsFree := by
  intro c k eq
  cases eq

theorem isFree_looking (p : Path) : (looking p).IsFree := by
  intro c k eq
  cases eq

theorem isFree_forgetting (name : String) : (forgetting name).IsFree := by
  intro c k eq
  cases eq

theorem clearing_ne {c c' : Scope} {k k' : Nat} (apart : c' = c → k' ≠ k) :
    clearing c k ≠ .clearing c' k' := by
  intro eq
  injection eq with scope number
  exact apart scope.symm number.symm

end Errand

namespace Shared

/-! ## Slots in their places -/

@[simp] theorem slots_put_self (s : Shared σ) (c : Scope) (k : Nat) (slot : ScopeSlot c) :
    (s.put c k slot).slots c k = slot := by
  simp [put]

theorem slots_put_of_ne (s : Shared σ) {c' : Scope} (h : c' ≠ c) (slot : ScopeSlot c) :
    (s.put c k slot).slots c' = s.slots c' := by
  simp [put, h]

theorem slots_put_other (s : Shared σ) {c' : Scope} {k' : Nat} (apart : c' = c → k' ≠ k)
    (slot : ScopeSlot c) : (s.put c k slot).slots c' k' = s.slots c' k' := by
  -- in the same scope it has another number
  by_cases scope : c' = c
  · subst scope
    simp [put, apart rfl]
  · rw [slots_put_of_ne s scope]

/-- What holds of a slot that was put in its place, and of all others, holds of all. -/
theorem forall_put {P : (c : Scope) → Nat → ScopeSlot c → Prop} {slot : ScopeSlot c}
    (self : P c k slot) (others : ∀ c' k', (c' = c → k' ≠ k) → P c' k' (s.slots c' k')) :
    ∀ c' k', P c' k' ((s.put c k slot).slots c' k') := by
  intro c' k'
  -- the slot that was put there, or another one
  by_cases both : c' = c ∧ k' = k
  · obtain ⟨rfl, rfl⟩ := both
    rw [slots_put_self]
    exact self
  · have apart : c' = c → k' ≠ k := fun scope number => both ⟨scope, number⟩
    rw [slots_put_other s apart]
    exact others c' k' apart

@[simp] theorem errand_turn_self (s : Shared σ) (q : Clearer) (errand : Errand) :
    (s.turn q errand).errand q = errand := by
  simp [turn]

theorem errand_turn_of_ne (s : Shared σ) {q' : Clearer} (h : q' ≠ q) (errand : Errand) :
    (s.turn q errand).errand q' = s.errand q' := by
  simp [turn, h]

/-! ## Errands and locks -/

/-- A clearer uses the slot that its errand is about, and no other. -/
def Tidy (s : Shared σ) : Prop :=
  ∀ q c k, (s.slots c k).clearing q ≠ .absent ↔ s.errand q = .clearing c k

variable [Volume σ] {dir : Path} {atomic : Atomic σ dir}

/-- The store is where it should be, and every lock is guarded. -/
structure Sound (atomic : Atomic σ dir) (s : Shared σ) : Prop where
  path : s.path = dir
  fit : atomic.Fit s.world.volume
  guarded : ∀ c k, (s.slots c k).Guarded
  tidy : s.Tidy
  named : ∀ c k, s.current c = some k → c.IsNamed
  unnamed : ∀ c k, ¬ c.IsNamed → s.slots c k = .fresh

/-- Whether a store is sound does not depend on what its calls have been answered. -/
theorem Sound.congr (h : s.Sound atomic) (path : t.path = s.path) (slots : t.slots = s.slots)
    (errand : t.errand = s.errand) (current : t.current = s.current)
    (fit : atomic.Fit t.world.volume) : t.Sound atomic := by
  refine ⟨path.trans h.path, fit, ?_, ?_, ?_, ?_⟩
  · rw [slots]
    exact h.guarded
  · rw [Tidy, slots, errand]
    exact h.tidy
  · rw [current]
    exact h.named
  · rw [slots]
    exact h.unnamed

theorem Sound.isNamed_of_used (h : s.Sound atomic) (used : s.slots c k ≠ .fresh) : c.IsNamed := by
  by_contra unnamed
  exact used (h.unnamed c k unnamed)

theorem Sound.isNamed_of_loading (h : s.Sound atomic) {i : Nat} {stage : Load.Stage c.Records}
    (loading : (s.slots c k).task i = .loading stage) : c.IsNamed := by
  refine h.isNamed_of_used fun fresh : s.slots c k = .fresh => ?_
  rw [fresh] at loading
  cases loading

/-- Turning from an errand that was not about a slot to another such. -/
theorem Sound.turn (h : s.Sound atomic) {errand : Errand} (before : (s.errand q).IsFree)
    (after : errand.IsFree) : (s.turn q errand).Sound atomic := by
  refine ⟨h.path, h.fit, h.guarded, ?_, h.named, h.unnamed⟩
  intro q' c k
  by_cases eq : q' = q
  · subst eq
    have idle := h.tidy q' c k
    simp only [Shared.turn, Function.update_self]
    exact ⟨fun ne => absurd (idle.1 ne) (before c k), fun equal => absurd equal (after c k)⟩
  · simp only [Shared.turn, Function.update_of_ne eq]
    exact h.tidy q' c k

/-- A move in a slot by which no clearing begins or ends. -/
theorem Sound.use (h : s.Sound atomic) (named : c.IsNamed) (enabled : m.Enabled (s.slots c k))
    (clearing : ∀ q, (m.next (s.slots c k)).clearing q ≠ .absent ↔
      (s.slots c k).clearing q ≠ .absent) : (s.use c k m).Sound atomic := by
  refine ⟨h.path, h.fit, ?_, ?_, h.named, ?_⟩
  · exact forall_put ((h.guarded c k).next enabled) fun c' k' _ => h.guarded c' k'
  · intro q
    refine forall_put (P := fun c k slot => slot.clearing q ≠ .absent ↔ s.errand q = .clearing c k)
      ?_ fun c' k' _ => h.tidy q c' k'
    exact (clearing q).trans (h.tidy q c k)
  · exact forall_put (P := fun c _ slot => ¬ c.IsNamed → slot = .fresh)
      (fun unnamed => absurd named unnamed) fun c' k' _ => h.unnamed c' k'

theorem Sound.with_current (h : s.Sound atomic) {current : Scope → Option Nat}
    (named : ∀ c k, current c = some k → c.IsNamed) : Sound atomic { s with current := current } :=
  ⟨h.path, h.fit, h.guarded, h.tidy, named, h.unnamed⟩

/-- A move by which a clearer begins or ends with a slot, and turns to what that is. -/
theorem Sound.turn_use (h : s.Sound atomic) {errand : Errand} (named : c.IsNamed)
    (enabled : m.Enabled (s.slots c k))
    (clears : (m.next (s.slots c k)).clearing q ≠ .absent ↔ errand = .clearing c k)
    (elsewhere : ∀ c' k', (c' = c → k' ≠ k) →
      s.errand q ≠ .clearing c' k' ∧ errand ≠ .clearing c' k')
    (others : ∀ q', q' ≠ q →
      (m.next (s.slots c k)).clearing q' = (s.slots c k).clearing q') :
    ((s.use c k m).turn q errand).Sound atomic := by
  have guarded := (h.guarded c k).next enabled
  refine ⟨h.path, h.fit, forall_put guarded fun c' k' _ => h.guarded c' k', ?_, h.named, ?_⟩
  case refine_2 =>
    exact forall_put (P := fun c _ slot => ¬ c.IsNamed → slot = .fresh)
      (fun unnamed => absurd named unnamed) fun c' k' _ => h.unnamed c' k'
  intro q'
  -- the clearer's own errand is the new one, which is where the clearer now is
  by_cases mine : q' = q
  · subst mine
    simp only [Shared.turn, Function.update_self]
    refine forall_put
      (P := fun c' k' slot => slot.clearing q' ≠ .absent ↔ errand = .clearing c' k') clears ?_
    intro c' k' apart
    obtain ⟨before, after⟩ := elsewhere c' k' apart
    rw [h.tidy q' c' k']
    exact ⟨fun eq => absurd eq before, fun eq => absurd eq after⟩
  · simp only [Shared.turn, Function.update_of_ne mine]
    refine forall_put
      (P := fun c' k' slot => slot.clearing q' ≠ .absent ↔ s.errand q' = .clearing c' k') ?_ ?_
    · rw [others q' mine]
      exact h.tidy q' c k
    · exact fun c' k' _ => h.tidy q' c' k'

theorem Sound.absent (h : s.Sound atomic) (before : (s.errand q).IsFree) (c : Scope) (k : Nat) :
    (s.slots c k).clearing q = .absent := by
  by_contra used
  exact before c k ((h.tidy q c k).1 used)

/-- A clearer who looks for the slot of a scope finds one and turns to it, or has nothing to do. -/
theorem Sound.seek (h : s.Sound atomic) (before : (s.errand q).IsFree) (c : Scope) :
    (s.seek q c).Sound atomic := by
  unfold Shared.seek
  -- without a current slot there is nothing to clear
  cases current_eq : s.current c with
  | none => exact h.turn before Errand.isFree_idle
  | some k =>
    refine h.turn_use (h.named c k current_eq) (h.absent before c k) ?_ ?_ ?_
    · simp [Slot.Move.next]
    · exact fun c' k' apart => ⟨before c' k', Errand.clearing_ne apart⟩
    · exact fun q' ne => Function.update_of_ne ne _ _

/-- A clearer who has cleared a slot leaves it and is free. -/
theorem Sound.leave (h : s.Sound atomic) (errand : s.errand q = .clearing c k)
    (cleared : (s.slots c k).clearing q = .cleared) :
    ((s.use c k (.leaveClear q)).turn q .idle).Sound atomic := by
  have named : c.IsNamed := by
    refine h.isNamed_of_used fun fresh : s.slots c k = .fresh => ?_
    rw [fresh] at cleared
    cases cleared
  refine h.turn_use named cleared ?_ ?_ ?_
  · simp [Slot.Move.next]
  · exact fun c' k' apart => ⟨errand ▸ Errand.clearing_ne apart, Errand.isFree_idle c' k'⟩
  · exact fun q' ne => Function.update_of_ne ne _ _

/-- A call is made of a scope with a name, whose current slot it uses. -/
theorem Sound.call (h : s.Sound atomic) (named : c.IsNamed) {i : Nat}
    (absent : (s.slots c k).caller i = .absent) : (s.call c k i).Sound atomic := by
  have use : (s.use c k (.call i)).Sound atomic := h.use named absent fun _ => Iff.rfl
  refine use.with_current ?_
  intro c' k' mapped
  by_cases eq : c' = c
  · exact eq ▸ named
  · rw [Function.update_of_ne eq] at mapped
    exact h.named c' k' mapped

end Shared

/-! ## What happens inside a slot -/

variable {slot : ScopeSlot c}

theorem IsInward.not_enabled_fresh (h : IsInward m) : ¬ m.Enabled .fresh := by
  cases m <;> simp_all [IsInward, Slot.Move.Enabled, Slot.Shared.fresh, Slot.Task.IsLoading,
    Slot.Caller.IsPresent]

/-- No move inside a slot makes a clearing begin or end. -/
theorem IsInward.clearing (h : IsInward m) (enabled : m.Enabled slot) (q : Clearer) :
    (m.next slot).clearing q ≠ .absent ↔ slot.clearing q ≠ .absent := by
  cases m <;> simp only [Slot.Move.Enabled, Slot.Move.next, Function.update_apply] at enabled ⊢ <;>
    grind [IsInward]

/-- All that is known of a load that begins inside a slot is that it reads. -/
theorem IsInward.upholds {P : c.Keys → Prop} {L : Load.Stage c.Records → Prop} (h : IsInward m)
    (reading : L .reading) : m.Upholds P L := by
  cases m with
  | start i stage => exact h ▸ reading
  | work i stage => exact h.elim
  | finish i outcome =>
    cases outcome with
    | value a => exact h.elim
    | fault e => exact h.elim
    | panic text => trivial
  | _ => trivial

end Lockbox.Store
