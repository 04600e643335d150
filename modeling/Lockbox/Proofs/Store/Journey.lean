import Lockbox.Proofs.Store.Removal

/-!
# Runs in changing surroundings

Between the steps of a store the environment may change in any way, and others may change any file.
Whatever happens, a store keeps its directory and its vault, and what it remembers of keys stays
sound. Accesses are all that fills a slot:

    keeps_journey : s.Keeps (s.journey turns)
    turn_cases : (∃ step c, next = .step step ∧ step.Accesses c) ∨ s.Shrinks (s.turn next)
-/

namespace Lockbox.Store

variable {σ : Type} {s t u : Store σ}

/-- What can happen to a store and its surroundings. -/
inductive Turn (σ : Type) where
  | step (next : Step σ)
  | environment (env : Environment)

/-- A store of the same directory and vault that remembers nothing unsound of keys either. -/
structure Keeps (s t : Store σ) : Prop where
  path : t.path = s.path
  vault : t.vault = s.vault
  sound : s.world.keys.Sound → t.world.keys.Sound

theorem Keeps.refl (s : Store σ) : s.Keeps s := ⟨rfl, rfl, id⟩

theorem Keeps.trans (h : s.Keeps t) (k : t.Keeps u) : s.Keeps u :=
  ⟨k.path.trans h.path, k.vault.trans h.vault, fun sound => k.sound (h.sound sound)⟩

theorem keeps_invalidate (s : Store σ) (p : Path) : s.Keeps (s.invalidate p) := by
  obtain ⟨path, vault, keys, -⟩ := world_invalidate s p
  exact ⟨path, vault, fun sound => keys ▸ sound⟩

variable [Volume σ]

def turn (s : Store σ) : Turn σ → Store σ
  | .step next => (s.step next).2
  | .environment env => { s with world := { s.world with environment := env } }

/-- A store and its surroundings after many things happened. -/
def journey (s : Store σ) (turns : List (Turn σ)) : Store σ := turns.foldl turn s

theorem keeps_access {c : Scope} {answer : Answer} (h : s.Access c answer t) : s.Keeps t := by
  cases h with
  | held _ beside world _ => exact ⟨beside.path, beside.vault, fun sound => world ▸ sound⟩
  | loads _ runs beside _ _ =>
    obtain ⟨onward, -⟩ := Load.onward_of_load (c.reliable s.vault) runs
    exact ⟨beside.path, beside.vault, onward.sound⟩

/-- Whatever happens is an access, or fills no slot. -/
theorem turn_cases (s : Store σ) (next : Turn σ) :
    (∃ step c, next = .step step ∧ step.Accesses c) ∨ s.Shrinks (s.turn next) := by
  cases next with
  | environment env => exact .inr (.of_slots rfl rfl rfl)
  | step next =>
    cases next with
    | host => exact .inl ⟨.host, .host, rfl, trivial⟩
    | function name =>
      cases usable : Scope.ofFunction name with
      | ok n => exact .inl ⟨.function name, .function n, rfl, usable⟩
      | error e =>
        right
        show s.Shrinks (s.functionKeys name).2
        rw [functionKeys_of_refused usable]
        exact .of_slots rfl rfl rfl
    | purge root => exact .inr (shrinks_purge s root)
    | invalidate p => exact .inr (shrinks_invalidate s p)
    | change n f => exact .inr (.of_slots rfl rfl rfl)

theorem keeps_turn (s : Store σ) (next : Turn σ) : s.Keeps (s.turn next) := by
  cases next with
  | environment env => exact ⟨rfl, rfl, id⟩
  | step next =>
    cases next with
    | host => exact keeps_access (access_hostKeys s)
    | function name =>
      cases usable : Scope.ofFunction name with
      | error e =>
        show s.Keeps (s.functionKeys name).2
        rw [functionKeys_of_refused usable]
        exact .refl s
      | ok n => exact keeps_access (access_functionKeys s usable)
    | purge root =>
      obtain ⟨orphans, log, left⟩ := exists_pruned_of_purge s root
      show s.Keeps (s.purge root)
      rw [left]
      exact ⟨rfl, rfl, id⟩
    | invalidate p => exact keeps_invalidate s p
    | change n f => exact ⟨rfl, rfl, id⟩

theorem keeps_journey (s : Store σ) (turns : List (Turn σ)) : s.Keeps (s.journey turns) := by
  induction turns generalizing s with
  | nil => exact .refl s
  | cons next rest ih => exact (keeps_turn s next).trans (ih (s.turn next))

end Lockbox.Store
