import Lockbox.Proofs.Store.Access
import Lockbox.Proofs.Store.Direct
import Lockbox.Proofs.Store.Lockstep
import Lockbox.Proofs.Volume.Tree.Likeness

/-!
# The log tells nothing of values

Stores are twins if their surroundings are and the same slots are filled in both (`Store.Twins`).
Every call leaves twins as twins, whatever values they hold, and so does every sequence of calls
(`Session.twins_after`). Hence the logs of two sessions are the same, event by event, if nothing but
plain values and random bytes differs at the start:

    log_hides_values : … → (Session.after vault (.closed w) calls).log =
      (Session.after vault (.closed v) calls).log
-/

namespace Lockbox

/-! ## Stores -/

namespace Store

open Document (Bytes)

variable {σ : Type} {s t : Store σ} {bond : Bond σ}

/-- Stores of the same directory in twin worlds, with the same slots filled. -/
structure Twins (bond : Bond σ) (s t : Store σ) : Prop where
  path : s.path = t.path
  left : s.vault = bond.vault
  right : t.vault = bond.vault
  world : bond.Twins s.world t.world
  host : s.host.isSome = t.host.isSome
  functions : ∀ n, Option.Rel (fun a b => a.isSome = b.isSome) (s.slot? n) (t.slot? n)

theorem Twins.report (h : Twins bond s t) (event : Event) :
    Twins bond (s.report event) (t.report event) :=
  ⟨h.path, h.left, h.right, h.world.report [event], h.host, h.functions⟩

/-- Slots that are set in both are to be filled in both. -/
theorem Twins.setSlot (h : Twins bond s t) (name : String) {slot slot' : Slot KeyTable}
    (alike : slot.isSome = slot'.isSome) :
    Twins bond (s.setSlot name slot) (t.setSlot name slot') := by
  refine ⟨h.path, h.left, h.right, h.world, h.host, fun n => ?_⟩
  by_cases eq : n = name
  · rw [eq, slot?_setSlot_self, slot?_setSlot_self]
    exact .some alike
  · rw [slot?_setSlot_of_ne s eq, slot?_setSlot_of_ne t eq]
    exact h.functions n

theorem Twins.forget (h : Twins bond s t) (name : String) :
    Twins bond (s.forget name) (t.forget name) := by
  refine ⟨h.path, h.left, h.right, h.world, h.host, fun n => ?_⟩
  by_cases eq : n = name
  · rw [eq, slot?_forget_self, slot?_forget_self]
    exact .none
  · rw [slot?_forget_of_ne s eq, slot?_forget_of_ne t eq]
    exact h.functions n

theorem Twins.slot (h : Twins bond s t) (name : String) :
    ((s.slot? name).getD .empty).isSome = ((t.slot? name).getD .empty).isSome := by
  have slots := h.functions name
  generalize s.slot? name = x at slots ⊢
  generalize t.slot? name = y at slots ⊢
  cases slots with
  | none => rfl
  | some eq => exact eq

/-- What a notice is about is told by its path, which is the same. -/
theorem Twins.invalidate (h : Twins bond s t) (p : Path) :
    Twins bond (s.invalidate p) (t.invalidate p) := by
  unfold Store.invalidate
  cases Scope.ofPath? p with
  | none => exact h
  | some scope =>
    cases scope with
    | host =>
      have emptied : Twins bond { s with host := .empty } { t with host := .empty } :=
        ⟨h.path, h.left, h.right, h.world, rfl, h.functions⟩
      exact emptied.report _
    | function name =>
      have slots := h.functions name
      dsimp only
      generalize s.slot? name = x at slots ⊢
      generalize t.slot? name = y at slots ⊢
      cases slots with
      | none => exact h
      | some _ => exact (h.setSlot name rfl).report _

/-- A slot is filled in both, or in neither, if it is loaded in lockstep. -/
theorem twins_fetch {α : Type} {slot slot' : Slot α} {load load' : Action σ α}
    {fails : Error → Error → Prop} {gives : α → α → Prop} {w v : World σ} (serial serial' : Nat)
    (alike : slot.isSome = slot'.isSome) (lockstep : bond.Lockstep fails gives load load')
    (twins : bond.Twins w v) :
    (slot.fetch serial (fun w => load.run.run w) w).2.1.isSome =
        (slot'.fetch serial' (fun w => load'.run.run w) v).2.1.isSome ∧
      bond.Twins (slot.fetch serial (fun w => load.run.run w) w).2.2
        (slot'.fetch serial' (fun w => load'.run.run w) v).2.2 := by
  -- filled slots answer without a load, and both are filled or neither is
  cases slot with
  | some held =>
    cases slot' with
    | some held' => exact ⟨rfl, twins⟩
    | none => cases alike
  | none =>
    cases slot' with
    | some held' => cases alike
    | none =>
      obtain ⟨together, after⟩ := lockstep w v twins
      unfold Slot.fetch
      dsimp only
      generalize load.run.run w = first at together after ⊢
      generalize load'.run.run v = second at together after ⊢
      obtain ⟨x, w'⟩ := first
      obtain ⟨y, v'⟩ := second
      -- a slot keeps what was loaded, and stays empty if the load failed
      cases together with
      | error _ => exact ⟨rfl, after⟩
      | ok _ => exact ⟨rfl, after⟩

variable [Volume σ] {find : Key.Lookup} {vault : Vault}
  {likeness : Likeness σ (Bytes (Document.Alike find))}

/-- An access to the host fills its slot in both, or in neither. -/
theorem Twins.hostKeys (h : Twins (Load.bond vault likeness) s t) :
    Twins (Load.bond vault likeness) s.hostKeys.2 t.hostKeys.2 := by
  have loads : (Load.bond vault likeness).Lockstep Anyhow Anyhow (Load.host s.vault s.path)
      (Load.host t.vault t.path) := by
    rw [h.left, h.right, h.path]
    exact Load.lockstep_host t.path
  obtain ⟨filled, world⟩ := twins_fetch s.accesses t.accesses h.host loads h.world
  exact ⟨h.path, h.left, h.right, world, filled, h.functions⟩

theorem Twins.functionKeys (h : Twins (Load.bond vault likeness) s t) (name : String) :
    Twins (Load.bond vault likeness) (s.functionKeys name).2 (t.functionKeys name).2 := by
  unfold Store.functionKeys
  cases Scope.ofFunction name with
  | error e => exact h
  | ok n =>
    have loads : (Load.bond vault likeness).Lockstep Anyhow Anyhow
        (Load.function s.vault s.path n) (Load.function t.vault t.path n) := by
      rw [h.left, h.right, h.path]
      exact Load.lockstep_function t.path n
    obtain ⟨filled, world⟩ := twins_fetch s.accesses t.accesses (h.slot n) loads h.world
    have moved : ∀ (w v : World σ), (Load.bond vault likeness).Twins w v →
        Twins (Load.bond vault likeness) { s with world := w, accesses := s.accesses + 1 }
          { t with world := v, accesses := t.accesses + 1 } :=
      fun w v world => ⟨h.path, h.left, h.right, world, h.host, h.functions⟩
    exact (moved _ _ world).setSlot n filled

/-- Twins hold the same files, whatever is in them. -/
theorem kindred_twins :
    Kindred fun s t : Store σ => Twins (Load.bond vault likeness) s t where
  path := fun h => h.path
  list := fun h p => likeness.list p h.world.volume
  leads := fun h p => likeness.leadsToDirectory h.world.volume p
  report := fun h event => h.report event
  forget := fun h name => h.forget name
  removeFile := by
    intro s t h p
    obtain ⟨eq, like⟩ := likeness.remove p h.world.volume
    exact ⟨eq, h.path, h.left, h.right, h.world.change like, h.host, h.functions⟩

/-- Directories are made in both, or in neither. -/
theorem lockstep_prepare (path : Path) :
    (Load.bond vault likeness).Lockstep Eq Anyhow (prepare path vault)
      (prepare path vault) := by
  intro w v twins
  obtain ⟨eq, like⟩ := likeness.makeDirectories twins.volume path
  have changed := twins.change like
  rw [prepare, Action.run_bind_of_ok (Action.run_get w), Action.run_bind_of_ok (Action.run_get v)]
  generalize Volume.makeDirectories path w.volume = x at eq changed
  generalize Volume.makeDirectories path v.volume = y at eq changed
  obtain ⟨done, volume⟩ := x
  obtain ⟨done', volume'⟩ := y
  obtain rfl : done = done' := eq
  cases done with
  | error fault => exact ⟨.error rfl, changed⟩
  | ok _ => exact ⟨.ok trivial, changed.report _⟩

end Store

/-! ## Sessions -/

/-- What a store is asked for. -/
inductive Call where
  | opening (path : Path)
  | host
  | function (name : String)
  | invalidate (p : Path)
  | purge (root : Path)

/-- A process that has opened a store or none so far. -/
inductive Session (σ : Type) where
  | closed (world : World σ)
  | opened (store : Store σ)

namespace Session

variable {σ : Type}

def world : Session σ → World σ
  | .closed w => w
  | .opened s => s.world

def inWorld (w : World σ) : Session σ → Session σ
  | .closed _ => .closed w
  | .opened s => .opened { s with world := w }

def map (f : Store σ → Store σ) : Session σ → Session σ
  | .closed w => .closed w
  | .opened s => .opened (f s)

/-! ### Two sessions -/

/-- No store was opened in either, or twins were. -/
inductive Twins (bond : Bond σ) : Session σ → Session σ → Prop
  | closed {w v : World σ} (h : bond.Twins w v) : Twins bond (.closed w) (.closed v)
  | opened {s t : Store σ} (h : Store.Twins bond s t) : Twins bond (.opened s) (.opened t)

variable {bond : Bond σ} {a b : Session σ}

theorem Twins.world (h : Twins bond a b) : bond.Twins a.world b.world := by
  cases h with
  | closed h => exact h
  | opened h => exact h.world

theorem Twins.inWorld (h : Twins bond a b) {w v : World σ} (twins : bond.Twins w v) :
    Twins bond (a.inWorld w) (b.inWorld v) := by
  cases h with
  | closed _ => exact .closed twins
  | opened h => exact .opened ⟨h.path, h.left, h.right, twins, h.host, h.functions⟩

/-- What leaves twins as twins does so within sessions. -/
theorem Twins.map (h : Twins bond a b) {f : Store σ → Store σ}
    (hf : ∀ s t, Store.Twins bond s t → Store.Twins bond (f s) (f t)) :
    Twins bond (a.map f) (b.map f) := by
  cases h with
  | closed h => exact .closed h
  | opened h => exact .opened (hf _ _ h)

variable [Volume σ]

/-- The session after a call. A store that is opened takes the place of the one before; if it cannot
be opened, that one is kept. -/
def next (vault : Vault) (session : Session σ) : Call → Session σ
  | .opening path =>
    match Store.openAt path vault session.world with
    | .ok store => .opened store
    | .error (_, w) => session.inWorld w
  | .host => session.map fun s => s.hostKeys.2
  | .function name => session.map fun s => (s.functionKeys name).2
  | .invalidate p => session.map fun s => s.invalidate p
  | .purge root => session.map fun s => s.purge root

def after (vault : Vault) (session : Session σ) (calls : List Call) : Session σ :=
  calls.foldl (next vault) session

open Document (Bytes SameButPlainValues)

variable {find : Key.Lookup} {vault : Vault} {likeness : Likeness σ (Bytes (Document.Alike find))}

/-- A store is opened in both sessions, or in neither. -/
theorem twins_opening (h : Twins (Load.bond vault likeness) a b) (path : Path) :
    Twins (Load.bond vault likeness) (a.next vault (.opening path))
      (b.next vault (.opening path)) := by
  obtain ⟨together, world⟩ := Store.lockstep_prepare path a.world b.world h.world
  rw [next, next, Store.openAt, Store.openAt]
  generalize (Store.prepare path vault).run.run a.world = first at together world ⊢
  generalize (Store.prepare path vault).run.run b.world = second at together world ⊢
  obtain ⟨x, w⟩ := first
  obtain ⟨y, v⟩ := second
  cases together with
  | error _ => exact h.inWorld world
  | ok _ => exact .opened ⟨rfl, rfl, rfl, world, rfl, fun _ => .none⟩

/-- Every call leaves twins as twins. -/
theorem twins_next (h : Twins (Load.bond vault likeness) a b) (call : Call) :
    Twins (Load.bond vault likeness) (a.next vault call) (b.next vault call) := by
  cases call with
  | opening path => exact twins_opening h path
  | host => exact h.map fun _ _ twins => twins.hostKeys
  | function name => exact h.map fun _ _ twins => twins.functionKeys name
  | invalidate p => exact h.map fun _ _ twins => twins.invalidate p
  | purge root => exact h.map fun _ _ twins => Store.kindred_twins.purge twins root

theorem twins_after (h : Twins (Load.bond vault likeness) a b) (calls : List Call) :
    Twins (Load.bond vault likeness) (a.after vault calls) (b.after vault calls) := by
  -- on the calls, each of which leaves twins
  induction calls generalizing a b with
  | nil => exact h
  | cons call rest ih => exact ih (twins_next h call)

/-- Two processes with the same environment, vault and log so far make the same calls, over trees
that differ in nothing but values in documents, in records that do not say that these are
enciphered, and in keys that are texts. What they log is the same, whatever these values and the
random bytes are. -/
theorem log_hides_values (vault : Vault) {env : Environment} {w v : World Tree}
    (left : w.Within env vault.hosting) (right : v.Within env vault.hosting)
    (log : w.log = v.log) (files : w.volume.Alike (Bytes SameButPlainValues) v.volume)
    (calls : List Call) :
    (after vault (.closed w) calls).world.log = (after vault (.closed v) calls).world.log := by
  -- where ids lead is told by the environment, whatever was looked up before
  let find : Key.Lookup := fun id => (Key.resolve env vault.hosting .empty id).1
  let likeness := Tree.likeness (Bytes.refl (Document.Alike find))
  have twins : (Load.bond vault likeness).Twins w v := by
    refine ⟨log, ?_, ⟨left.sound, funext left.find_eq⟩, ⟨right.sound, funext right.find_eq⟩⟩
    exact files.mono fun _ _ contents =>
      contents.mono fun _ _ agree => Document.alike_of_sameButPlainValues find agree
  exact (twins_after (.closed twins) calls).world.log

def keyDocument (key : String) : String := (Json.object [(Flat.functionField, .string key)]).pretty

/-- Documents that hold one key and nothing else differ in that key alone. -/
theorem sameButPlainValues_keyDocument (key other : String) :
    SameButPlainValues (keyDocument key) (keyDocument other) := by
  have parsed : ∀ k, Json.parse? (keyDocument k) =
      some (.object [(Flat.functionField, .string k)]) := by
    intro k
    have legible : Json.Legible Json.maxDepth (.object [(Flat.functionField, .string k)]) := by
      apply Json.Legible.object
      intro m hm
      obtain rfl := List.mem_singleton.1 hm
      exact .string k
    rw [keyDocument, Json.parse?_pretty legible]
    rfl
  exact ⟨_, _, parsed key, parsed other, rfl⟩

/-- A process with no key and an outdated document of a function. -/
def outdated (key : String) (random : Entropy) : World Tree where
  environment := fun _ => none
  entropy := random
  keys := .empty
  log := []
  volume := ⟨#[.directory Tree.directoryMode Tree.root [(Utf8.encode "secrets", 1)],
    .directory Tree.directoryMode Tree.root [(Utf8.encode "foo.json", 2)],
    .file Tree.fileMode (Utf8.encode (keyDocument key))], []⟩

/-- Secrets are brought up to date, made, forgotten and removed. -/
def everyCall : List Call :=
  [.opening (.ofText "secrets"), .function "Foo", .host, .invalidate (.ofText "secrets/foo.json"),
    .function "foo", .purge (.ofText "secrets")]

/-- Trees with such documents are the same but for the keys. -/
theorem alike_outdated (key other : String) (random random' : Entropy) :
    (outdated key random).volume.Alike (Bytes SameButPlainValues)
      (outdated other random').volume := by
  have last : ∀ (a b : Node) {bytes bytes' : List UInt8}, Bytes SameButPlainValues bytes bytes' →
      Tree.Alike (Bytes SameButPlainValues) ⟨#[a, b, .file Tree.fileMode bytes], []⟩
        ⟨#[a, b, .file Tree.fileMode bytes'], []⟩ := by
    intro a b bytes bytes' contents
    refine ⟨rfl, fun n => ?_⟩
    match n with
    | 0 => exact .inl rfl
    | 1 => exact .inl rfl
    | 2 => exact .inr ⟨Tree.fileMode, bytes, bytes', contents, rfl, rfl⟩
    | _ + 3 => exact .inl rfl
  exact last _ _ (Bytes.encode (sameButPlainValues_keyDocument key other))

theorem within_outdated (key : String) (random : Entropy) :
    (outdated key random).Within (fun _ => none) (Vault.mk .onPremises false).hosting :=
  ⟨rfl, [], rfl⟩

/-- Neither the key nor the random bytes show. -/
theorem log_hides_values_outdated :
    (after ⟨.onPremises, false⟩ (.closed (outdated "A" .counting)) everyCall).world.log =
      (after ⟨.onPremises, false⟩ (.closed (outdated "B" ⟨fun _ => 7, 0⟩))
        everyCall).world.log := by
  have files := alike_outdated "A" "B" .counting ⟨fun _ => 7, 0⟩
  have log : (outdated "A" .counting).log = (outdated "B" ⟨fun _ => 7, 0⟩).log := rfl
  exact log_hides_values ⟨.onPremises, false⟩ (within_outdated "A" .counting)
    (within_outdated "B" ⟨fun _ => 7, 0⟩) log files everyCall

end Session

end Lockbox
