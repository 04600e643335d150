import Lockbox.Slot
import Lockbox.Store.Load

/-!
# The store

A directory of secrets files and the keys loaded from it so far, one slot for each scope. Keys are
loaded when they are first asked for and kept until their file is said to have changed.
-/

namespace Lockbox

/-- An open store and its surroundings. -/
structure Store (σ : Type) where
  path : Path
  vault : Vault
  world : World σ
  host : Slot HostKeys
  /-- The slots of the functions that were asked for, by name in lower case. -/
  functions : List (String × Slot KeyTable)
  /-- How often keys were asked for. -/
  accesses : Nat

namespace Store

variable {σ : Type} [Volume σ]

def run (s : Store σ) (action : Action σ α) : Except Error α × Store σ :=
  match action.run.run s.world with
  | (result, world) => (result, { s with world := world })

def report (s : Store σ) (event : Event) : Store σ :=
  { s with world := { s.world with log := s.world.log ++ [event] } }

def prepare (path : Path) (vault : Vault) : Action σ Unit := do
  let w ← get
  let (done, volume) := Volume.makeDirectories path w.volume
  set { w with volume := volume }
  match done with
  | .error fault => throw (.file path fault)
  | .ok () =>
    Action.report ⟨.info, .store, "secret store opened",
      [("path", .text path.display), ("encryption_supported", .flag vault.encrypts)]⟩

/-- A store over a directory that is there, with nothing loaded. -/
def ofWorld (path : Path) (vault : Vault) (world : World σ) : Store σ :=
  ⟨path, vault, world, .empty, [], 0⟩

/-- Open a store, making its directory if need be. Without a store the surroundings as they were
left. -/
def openAt (path : Path) (vault : Vault) (world : World σ) :
    Except (Error × World σ) (Store σ) :=
  match (prepare path vault).run.run world with
  | (.error e, world) => .error (e, world)
  | (.ok (), world) => .ok (ofWorld path vault world)

def describe (s : Store σ) : String :=
  Text.record "SecretStore" [("secrets_path", Text.quoted s.path.display),
    ("encryption_supported", Text.truth s.vault.encrypts)]

/-! ### Slots of functions -/

def slot? (s : Store σ) (name : String) : Option (Slot KeyTable) :=
  (s.functions.find? (·.1 == name)).map (·.2)

def setSlot (s : Store σ) (name : String) (slot : Slot KeyTable) : Store σ :=
  { s with functions := (name, slot) :: s.functions.filter (·.1 ≠ name) }

def forget (s : Store σ) (name : String) : Store σ :=
  { s with functions := s.functions.filter (·.1 ≠ name) }

/-! ### Keys -/

def hostKeys (s : Store σ) : Except Error (Loaded HostKeys) × Store σ :=
  match s.host.fetch s.accesses (fun w => (Load.host s.vault s.path).run.run w) s.world with
  | (result, slot, world) =>
    (result, { s with host := slot, world := world, accesses := s.accesses + 1 })

/-- The keys of a function, named in any case. -/
def functionKeys (s : Store σ) (name : String) : Except Error (Loaded KeyTable) × Store σ :=
  match Scope.ofFunction name with
  | .error e => (.error e, s)
  | .ok name =>
    match ((s.slot? name).getD .empty).fetch s.accesses
        (fun w => (Load.function s.vault s.path name).run.run w) s.world with
    | (result, slot, world) =>
      (result, ({ s with world := world, accesses := s.accesses + 1 }).setSlot name slot)

/-- Forget the keys that may have come from a file. Paths that name no secrets file mean nothing,
and neither do functions that were not asked for. -/
def invalidate (s : Store σ) (p : Path) : Store σ :=
  match Scope.ofPath? p with
  | none => s
  | some .host =>
    ({ s with host := .empty }).report ⟨.debug, .store, "host secrets cache invalidated", []⟩
  | some (.function name) =>
    match s.slot? name with
    | none => s
    | some _ =>
      (s.setSlot name .empty).report
        ⟨.debug, .store, "function secrets cache invalidated", [("function", .text name)]⟩

end Store

end Lockbox
