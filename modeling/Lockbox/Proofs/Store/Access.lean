import Lockbox.Proofs.Basic
import Lockbox.Proofs.Scope
import Lockbox.Proofs.Store.Direct
import Lockbox.Proofs.Store.Load

/-!
# Accesses

A slot that is set, emptied or forgotten leaves the slots of all other scopes as they were. An
access to the keys of a scope is answered by the slot of the scope, if that holds something, and
else by a load, which leaves in the slot what it gives or nothing (`Access`):

    access_step : next.Accesses c → s.Access c (s.step next).1 (s.step next).2
-/

namespace Lockbox

/-- An answer about the keys of a scope. -/
def Scope.answer : (c : Scope) → Except Error c.Keys → Store.Answer
  | .host, keys => .host keys
  | .function _, keys => .function keys

theorem Scope.answer_injective {c : Scope} {x y : Except Error c.Keys}
    (h : c.answer x = c.answer y) : x = y := by
  cases c with
  | host => exact Store.Answer.host.inj h
  | function name => exact Store.Answer.function.inj h

namespace Store

variable {σ : Type} {s t : Store σ} {c : Scope}

/-! ## Slots -/

/-- Slots of a store of the same vault that hold no more than those of another. -/
structure Shrinks (s t : Store σ) : Prop where
  vault : t.vault = s.vault
  host : ∀ held, t.host = some held → s.host = some held
  function : ∀ n held, t.slot? n = some (some held) → s.slot? n = some (some held)

theorem Shrinks.of_slots (vault : t.vault = s.vault) (host : t.host = s.host)
    (functions : t.functions = s.functions) : s.Shrinks t := by
  refine ⟨vault, ?_, ?_⟩
  · rw [host]
    exact fun _ cached => cached
  · intro n held cached
    rw [slot?, functions] at cached
    exact cached

@[simp] theorem slot?_setSlot_self (s : Store σ) (name : String) (slot : Slot KeyTable) :
    (s.setSlot name slot).slot? name = some slot := by
  simp [slot?, setSlot]

/-- The slot of a function that is set is put in place of the one before it, and the others stay. -/
theorem slot?_setSlot_of_ne (s : Store σ) {name other : String} (h : other ≠ name)
    (slot : Slot KeyTable) : (s.setSlot name slot).slot? other = s.slot? other := by
  have missed : (name == other) = false := by simpa using h.symm
  rw [slot?, setSlot, List.find?_cons, missed]
  dsimp only
  -- the slot in front is that of another function, and the filter dropped only that function
  rw [find?_filter_ne _ h, slot?]

@[simp] theorem slot?_forget_self (s : Store σ) (name : String) :
    (s.forget name).slot? name = none := by
  simp [slot?, forget]

theorem slot?_forget_of_ne (s : Store σ) {name other : String} (h : other ≠ name) :
    (s.forget name).slot? other = s.slot? other := by
  rw [slot?, forget]
  dsimp only
  rw [find?_filter_ne _ h, slot?]

/-- A slot that is not there holds nothing, so that what is held is held by a slot. -/
theorem slot?_of_getD_eq_some {name : String} {held : Loaded KeyTable}
    (h : (s.slot? name).getD .empty = some held) : s.slot? name = some (some held) := by
  cases slot_eq : s.slot? name with
  | none =>
    rw [slot_eq] at h
    cases h
  | some slot =>
    rw [slot_eq] at h
    exact congrArg some h

/-- Emptying a slot leaves the store with less. -/
theorem shrinks_setSlot_none (s : Store σ) (name : String) : s.Shrinks (s.setSlot name none) := by
  refine ⟨rfl, fun _ cached => cached, ?_⟩
  intro n held cached
  by_cases eq : n = name
  · rw [eq, slot?_setSlot_self] at cached
    cases cached
  · rwa [slot?_setSlot_of_ne s eq] at cached

theorem shrinks_forget (s : Store σ) (name : String) : s.Shrinks (s.forget name) := by
  refine ⟨rfl, fun _ cached => cached, ?_⟩
  intro n held cached
  by_cases eq : n = name
  · rw [eq, slot?_forget_self] at cached
    cases cached
  · rwa [slot?_forget_of_ne s eq] at cached

/-! ## Slots of scopes -/

/-- The slot of a scope, if it is there. -/
def slotAt? (s : Store σ) : (c : Scope) → Option (Slot c.Keys)
  | .host => some s.host
  | .function name => s.slot? name

theorem slotAt?_of_eq (host : t.host = s.host) (functions : t.functions = s.functions) (c : Scope) :
    t.slotAt? c = s.slotAt? c := by
  cases c with
  | host => exact congrArg some host
  | function n => rw [Store.slotAt?, Store.slotAt?, slot?, slot?, functions]

theorem slotAt?_setSlot_self (s : Store σ) (name : String) (slot : Slot KeyTable) :
    (s.setSlot name slot).slotAt? (.function name) = some slot := slot?_setSlot_self s name slot

theorem slotAt?_setSlot_of_ne (s : Store σ) {name : String} {c : Scope} (h : c ≠ .function name)
    (slot : Slot KeyTable) : (s.setSlot name slot).slotAt? c = s.slotAt? c := by
  cases c with
  | host => rfl
  | function other => exact slot?_setSlot_of_ne s (fun eq => h (congrArg _ eq)) slot

theorem slotAt?_forget_of_ne (s : Store σ) {name : String} {c : Scope} (h : c ≠ .function name) :
    (s.forget name).slotAt? c = s.slotAt? c := by
  cases c with
  | host => rfl
  | function other => exact slot?_forget_of_ne s fun eq => h (congrArg _ eq)

theorem slotAt?_ofWorld_ne (dir : Path) (vault : Vault) (w : World σ) (c : Scope)
    (loaded : Loaded c.Keys) : (ofWorld dir vault w).slotAt? c ≠ some (some loaded) := by
  -- the host has an empty slot, and no function has one at all
  cases c with
  | host => exact fun cached => by cases cached
  | function n => exact fun cached => by cases cached

/-- What a store still holds was held before. -/
theorem Shrinks.slotAt? (h : s.Shrinks t) {loaded : Loaded c.Keys}
    (cached : t.slotAt? c = some (some loaded)) : s.slotAt? c = some (some loaded) := by
  cases c with
  | host => exact congrArg some (h.host loaded (Option.some.inj cached))
  | function n => exact h.function n loaded cached

/-- A store of the same directory and vault, and with the same slots of all scopes but one. -/
structure Beside (s : Store σ) (c : Scope) (t : Store σ) : Prop where
  path : t.path = s.path
  vault : t.vault = s.vault
  slots : ∀ other, other ≠ c → t.slotAt? other = s.slotAt? other

/-- Setting the slot of a function leaves the slots of all other scopes. -/
theorem beside_setSlot (path : t.path = s.path) (vault : t.vault = s.vault) (host : t.host = s.host)
    (functions : t.functions = s.functions) (n : String) (slot : Slot KeyTable) :
    s.Beside (.function n) (t.setSlot n slot) := by
  refine ⟨path, vault, fun other apart => ?_⟩
  rw [slotAt?_setSlot_of_ne t apart]
  exact slotAt?_of_eq host functions other

/-- Slots that are the same but one hold no more if that one does not. -/
theorem Beside.shrinks (beside : s.Beside c t) (unchanged : t.slotAt? c = s.slotAt? c) :
    s.Shrinks t := by
  -- the slot of the scope is the one that `Beside` does not speak of
  have slots : ∀ other, t.slotAt? other = s.slotAt? other := by
    intro other
    by_cases eq : other = c
    · rw [eq, unchanged]
    · exact beside.slots other eq
  refine ⟨beside.vault, fun held cached => ?_, fun n held cached => ?_⟩
  · have host : some t.host = some s.host := slots .host
    rw [← Option.some.inj host, cached]
  · exact (slots (.function n)).symm.trans cached

/-! ## Invalidation -/

/-- A notice of a change touches slots only, and at most logs that. -/
theorem world_invalidate (s : Store σ) (p : Path) :
    (s.invalidate p).path = s.path ∧ (s.invalidate p).vault = s.vault ∧
      (s.invalidate p).world.keys = s.world.keys ∧
      ∀ hosting, s.world.Alike hosting (s.invalidate p).world := by
  unfold invalidate
  split
  · exact ⟨rfl, rfl, rfl, fun hosting => .refl hosting s.world⟩
  · exact ⟨rfl, rfl, rfl, fun _ => ⟨rfl, rfl, rfl, rfl⟩⟩
  · split
    · exact ⟨rfl, rfl, rfl, fun hosting => .refl hosting s.world⟩
    · exact ⟨rfl, rfl, rfl, fun _ => ⟨rfl, rfl, rfl, rfl⟩⟩

/-- A notice of a change can only empty slots. -/
theorem shrinks_invalidate (s : Store σ) (p : Path) : s.Shrinks (s.invalidate p) := by
  unfold invalidate
  split
  · exact .of_slots rfl rfl rfl
  · refine ⟨rfl, ?_, fun _ _ cached => cached⟩
    intro held cached
    cases cached
  · next name _ =>
    split
    · exact .of_slots rfl rfl rfl
    · have shrinks := shrinks_setSlot_none s name
      exact ⟨rfl, shrinks.host, shrinks.function⟩

/-! ## Accesses to the host and to functions -/

/-- A slot that holds nothing is filled by a load: the answer is that of the load, and the slot
holds nothing else. -/
theorem exists_fetch_none {α τ ε : Type} (serial : Nat) {load : τ → Except ε α × τ} {w v : τ}
    {answer : Except ε α} (h : load w = (answer, v)) :
    ∃ result slot, Slot.fetch none serial load w = (result, slot, v) ∧
      result.map Loaded.value = answer ∧ ∀ held, slot = some held → answer = .ok held.value := by
  -- a slot keeps what was loaded, and stays empty if the load failed
  cases answer with
  | ok value =>
    refine ⟨_, _, Slot.fetch_none_of_ok h, rfl, ?_⟩
    intro held eq
    cases eq
    rfl
  | error e => exact ⟨_, _, Slot.fetch_none_of_error h, rfl, nofun⟩

variable [Volume σ] {w : World σ}

theorem hostKeys_of_loaded {held : Loaded HostKeys} (h : s.host = some held) :
    s.hostKeys = (.ok held, { s with accesses := s.accesses + 1 }) := by
  rw [hostKeys, h, Slot.fetch_some]

/-- An access to the host whose slot holds nothing loads the document of the host. -/
theorem hostKeys_of_empty {answer : Except Error HostKeys} (h : s.host = none)
    (loads : (Load.host s.vault s.path).run.run s.world = (answer, w)) :
    ∃ result slot,
      s.hostKeys = (result, { s with host := slot, world := w, accesses := s.accesses + 1 }) ∧
      result.map Loaded.value = answer ∧ ∀ held, slot = some held → answer = .ok held.value := by
  obtain ⟨result, slot, fetched, answers, filled⟩ := exists_fetch_none s.accesses loads
  refine ⟨result, slot, ?_, answers, filled⟩
  rw [hostKeys, h, fetched]

variable {name n : String}

/-- A name that no function can have is refused before anything is looked at. -/
theorem functionKeys_of_refused {e : Error} (h : Scope.ofFunction name = .error e) :
    s.functionKeys name = (.error e, s) := by
  unfold functionKeys
  rw [h]

theorem functionKeys_of_loaded {held : Loaded KeyTable} (usable : Scope.ofFunction name = .ok n)
    (h : (s.slot? n).getD .empty = some held) :
    s.functionKeys name =
      (.ok held, ({ s with accesses := s.accesses + 1 }).setSlot n (some held)) := by
  unfold functionKeys
  rw [usable]
  dsimp only
  rw [h, Slot.fetch_some]

/-- An access to a function whose slot holds nothing, or is not there, loads the document of the
function. -/
theorem functionKeys_of_empty {answer : Except Error KeyTable}
    (usable : Scope.ofFunction name = .ok n) (h : (s.slot? n).getD .empty = none)
    (loads : (Load.function s.vault s.path n).run.run s.world = (answer, w)) :
    ∃ result slot,
      s.functionKeys name =
        (result, ({ s with world := w, accesses := s.accesses + 1 }).setSlot n slot) ∧
      result.map Loaded.value = answer ∧ ∀ held, slot = some held → answer = .ok held.value := by
  obtain ⟨result, slot, fetched, answers, filled⟩ := exists_fetch_none s.accesses loads
  refine ⟨result, slot, ?_, answers, filled⟩
  unfold functionKeys
  rw [usable]
  dsimp only
  rw [h, fetched]

/-! ## What an access can do -/

/-- Whether a step asks for the keys of a scope. A function may be named in any case. -/
def Step.Accesses : Step σ → Scope → Prop
  | .host, .host => True
  | .function name, .function n => Scope.ofFunction name = .ok n
  | _, _ => False

omit [Volume σ] in
theorem Step.Accesses.isNamed {next : Step σ} (h : next.Accesses c) : c.IsNamed := by
  cases c with
  | host => trivial
  | function n =>
    cases next with
    | function name => exact Scope.isNamed_of_ofFunction h
    | _ => exact h.elim

/-- How an access to a scope can go: what it answers and leaves. -/
inductive Access (s : Store σ) (c : Scope) : Answer → Store σ → Prop
  | held {loaded : Loaded c.Keys} {t : Store σ} (cached : s.slotAt? c = some (some loaded))
    (beside : s.Beside c t) (world : t.world = s.world)
    (slot : t.slotAt? c = some (some loaded)) : Access s c (c.answer (.ok loaded.value)) t
  | loads {given : Except Error c.Keys} {t : Store σ} {slot : Slot c.Keys}
    (empty : (s.slotAt? c).getD .empty = none)
    (runs : (Load.opened (c.form s.vault) (c.file s.path) (c.resolve s.vault)).run.run s.world =
      (given, t.world))
    (beside : s.Beside c t) (left : t.slotAt? c = some slot)
    (filled : ∀ loaded, slot = some loaded → given = .ok loaded.value) :
    Access s c (c.answer given) t

theorem Access.beside {answer : Answer} (h : s.Access c answer t) : s.Beside c t := by
  cases h <;> assumption

/-- An access to the host is answered by its slot or by a load. -/
theorem access_hostKeys (s : Store σ) :
    s.Access .host (.host (s.hostKeys.1.map Loaded.value)) s.hostKeys.2 := by
  -- either the slot answers, or it holds nothing and a load does
  cases held : s.host with
  | some loaded =>
    rw [hostKeys_of_loaded held]
    exact .held (c := .host) (congrArg some held)
      ⟨rfl, rfl, fun other _ => slotAt?_of_eq rfl rfl other⟩ rfl (congrArg some held)
  | none =>
    cases loads : (Load.host s.vault s.path).run.run s.world with
    | mk given w =>
      obtain ⟨result, slot, runs, rfl, filled⟩ := hostKeys_of_empty held loads
      rw [runs]
      refine .loads (c := .host) held loads ⟨rfl, rfl, fun other apart => ?_⟩ rfl filled
      cases other with
      | host => exact absurd rfl apart
      | function n => rfl

/-- An access to a function is answered by its slot or by a load. -/
theorem access_functionKeys (s : Store σ) (usable : Scope.ofFunction name = .ok n) :
    s.Access (.function n) (.function ((s.functionKeys name).1.map Loaded.value))
      (s.functionKeys name).2 := by
  -- whatever the world and the slot come to be, only that slot is set
  have beside : ∀ (w : World σ) (slot : Slot KeyTable), s.Beside (.function n)
      (({ s with world := w, accesses := s.accesses + 1 } : Store σ).setSlot n slot) := by
    intro w slot
    apply beside_setSlot <;> rfl
  cases held : (s.slot? n).getD .empty with
  | some loaded =>
    rw [functionKeys_of_loaded usable held]
    exact .held (c := .function n) (slot?_of_getD_eq_some held) (beside s.world (some loaded)) rfl
      (slot?_setSlot_self _ n (some loaded))
  | none =>
    cases loads : (Load.function s.vault s.path n).run.run s.world with
    | mk given w =>
      obtain ⟨result, slot, runs, rfl, filled⟩ := functionKeys_of_empty usable held loads
      rw [runs]
      exact .loads (c := .function n) held loads (beside w slot)
        (slot?_setSlot_self _ n slot) filled

/-- An access goes in one of these ways. -/
theorem access_step {next : Step σ} (accesses : next.Accesses c) :
    s.Access c (s.step next).1 (s.step next).2 := by
  cases c with
  | host =>
    cases next with
    | host => exact access_hostKeys s
    | _ => exact accesses.elim
  | function n =>
    cases next with
    | function name => exact access_functionKeys s accesses
    | _ => exact accesses.elim

end Store

end Lockbox
