import Lockbox.Proofs.World
import Lockbox.Store.Purge

/-!
# Stores without slots

A store is compared with one that has no slots and loads on every access (`Direct`). Both can be
taken through the same steps, and a run tells the answers and the files after each step (`trace`). A
purge does not look at slots, so that stores in alike surroundings stay so:

    alike_purge : s.erased.Alike t.erased → (s.purge root).erased.Alike (t.purge root).erased
-/

namespace Lockbox

namespace Store

variable {σ : Type} [Volume σ]

/-! ## Runs -/

/-- What can happen to a store. -/
inductive Step (σ : Type) where
  | host
  | function (name : String)
  | purge (root : Path)
  | invalidate (p : Path)
  /-- The file of a name in the secrets directory is made, rewritten or removed by others. -/
  | change (n : FileName) (f : σ → σ)

/-- What a step answers. -/
inductive Answer where
  | host (keys : Except Error HostKeys)
  | function (keys : Except Error KeyTable)
  | nothing

def step (s : Store σ) : Step σ → Answer × Store σ
  | .host => (.host (s.hostKeys.1.map Loaded.value), s.hostKeys.2)
  | .function name =>
    (.function ((s.functionKeys name).1.map Loaded.value), (s.functionKeys name).2)
  | .purge root => (.nothing, s.purge root)
  | .invalidate p => (.nothing, s.invalidate p)
  | .change _ f => (.nothing, { s with world := { s.world with volume := f s.world.volume } })

/-- The answers of a run and the files after each step. -/
def trace (s : Store σ) : List (Step σ) → List (Answer × σ)
  | [] => []
  | next :: rest =>
    ((s.step next).1, (s.step next).2.world.volume) :: (s.step next).2.trace rest

end Store

/-- A store without slots. -/
structure Direct (σ : Type) where
  path : Path
  vault : Vault
  world : World σ

def Store.erased {σ : Type} (s : Store σ) : Direct σ := ⟨s.path, s.vault, s.world⟩

namespace Direct

variable {σ : Type} [Volume σ]

/-- Every access to the host's keys is a load. -/
def hostKeys (r : Direct σ) : Except Error HostKeys × Direct σ :=
  (((Load.host r.vault r.path).run.run r.world).1,
    { r with world := ((Load.host r.vault r.path).run.run r.world).2 })

/-- Every access to the keys of a function is a load, unless the name is refused. -/
def functionKeys (r : Direct σ) (name : String) : Except Error KeyTable × Direct σ :=
  match Scope.ofFunction name with
  | .error e => (.error e, r)
  | .ok n =>
    (((Load.function r.vault r.path n).run.run r.world).1,
      { r with world := ((Load.function r.vault r.path n).run.run r.world).2 })

def step (r : Direct σ) : Store.Step σ → Store.Answer × Direct σ
  | .host => (.host r.hostKeys.1, r.hostKeys.2)
  | .function name => (.function (r.functionKeys name).1, (r.functionKeys name).2)
  | .purge root => (.nothing, ((Store.ofWorld r.path r.vault r.world).purge root).erased)
  | .invalidate _ => (.nothing, r)
  | .change _ f => (.nothing, { r with world := { r.world with volume := f r.world.volume } })

def trace (r : Direct σ) : List (Store.Step σ) → List (Store.Answer × σ)
  | [] => []
  | next :: rest => ((r.step next).1, (r.step next).2.world.volume) :: (r.step next).2.trace rest

theorem functionKeys_of_refused {r : Direct σ} {name : String} {e : Error}
    (refused : Scope.ofFunction name = .error e) : r.functionKeys name = (.error e, r) := by
  unfold functionKeys
  rw [refused]

theorem functionKeys_of_usable {r : Direct σ} {name n : String}
    (usable : Scope.ofFunction name = .ok n) :
    r.functionKeys name = (((Load.function r.vault r.path n).run.run r.world).1,
      { r with world := ((Load.function r.vault r.path n).run.run r.world).2 }) := by
  unfold functionKeys
  rw [usable]

/-- Stores of one directory and vault in alike surroundings. -/
structure Alike (r q : Direct σ) : Prop where
  path : r.path = q.path
  vault : r.vault = q.vault
  world : r.world.Alike r.vault.hosting q.world

end Direct

namespace Store

variable {σ : Type} {s t : Store σ}

/-! ## Purges of two stores -/

variable [Volume σ]

theorem functionNames?_congr {v u : σ} (list : ∀ p, Volume.list v p = Volume.list u p)
    (leads : ∀ p, Volume.leadsToDirectory v p = Volume.leadsToDirectory u p) (root : Path) :
    functionNames? v root = functionNames? u root := by
  have directory : ∀ name kind,
      isFunctionDirectory v root name kind = isFunctionDirectory u root name kind := by
    intro name kind
    cases kind with
    | link => exact leads (root.join name)
    | _ => rfl
  have named : functionName? v root = functionName? u root := by
    funext entry
    cases entry with
    | error fault => rfl
    | ok entry =>
      rw [functionName?, functionName?]
      simp only [directory]
  rw [functionNames?, functionNames?, list, named]

/-- A relation of stores that hold the same files, whatever is in them, and that may report, forget
and remove the same. -/
structure Kindred (R : Store σ → Store σ → Prop) : Prop where
  path : ∀ {s t : Store σ}, R s t → s.path = t.path
  list : ∀ {s t : Store σ}, R s t → ∀ p,
    Volume.list s.world.volume p = Volume.list t.world.volume p
  leads : ∀ {s t : Store σ}, R s t → ∀ p,
    Volume.leadsToDirectory s.world.volume p = Volume.leadsToDirectory t.world.volume p
  report : ∀ {s t : Store σ}, R s t → ∀ event, R (s.report event) (t.report event)
  forget : ∀ {s t : Store σ}, R s t → ∀ name, R (s.forget name) (t.forget name)
  removeFile : ∀ {s t : Store σ}, R s t → ∀ p,
    (s.removeFile p).1 = (t.removeFile p).1 ∧ R (s.removeFile p).2 (t.removeFile p).2

namespace Kindred

variable {R : Store σ → Store σ → Prop} (kindred : Kindred R)
include kindred

theorem removeOrphan (h : R s t) (p : Path) (name : String) :
    (s.removeOrphan p name).1 = (t.removeOrphan p name).1 ∧
      R (s.removeOrphan p name).2 (t.removeOrphan p name).2 := by
  obtain ⟨eq, related⟩ := kindred.removeFile h p
  rw [Store.removeOrphan, Store.removeOrphan]
  generalize s.removeFile p = x at eq related ⊢
  generalize t.removeFile p = y at eq related ⊢
  obtain ⟨done, s'⟩ := x
  obtain ⟨done', t'⟩ := y
  obtain rfl : done = done' := eq
  cases done with
  | ok _ => exact ⟨rfl, kindred.forget (kindred.report related _) name⟩
  | error fault => exact ⟨rfl, kindred.report related _⟩

theorem removeOrphans (functions : List String) (entries : List (Except OsFault Entry))
    (h : R s t) :
    (s.removeOrphans functions entries).1 = (t.removeOrphans functions entries).1 ∧
      R (s.removeOrphans functions entries).2 (t.removeOrphans functions entries).2 := by
  have path : s.path = t.path := kindred.path h
  induction entries generalizing s t with
  | nil => exact ⟨rfl, h⟩
  | cons first rest ih =>
    cases first with
    | error fault =>
      rw [Store.removeOrphans, Store.removeOrphans, path]
      exact ⟨rfl, h⟩
    | ok entry =>
      rw [Store.removeOrphans, Store.removeOrphans, path]
      cases ownerName? t.path entry with
      | none => exact ih h path
      | some name =>
        dsimp only
        split
        · exact ih h path
        · obtain ⟨eq, related⟩ := kindred.removeOrphan h (t.path.join entry.name) name
          obtain ⟨counted, left⟩ := ih related (kindred.path related)
          rw [eq, counted]
          exact ⟨rfl, left⟩

/-- Purges of stores with the same files go the same way. -/
theorem purge (h : R s t) (root : Path) : R (s.purge root) (t.purge root) := by
  have path : s.path = t.path := kindred.path h
  have tried : (s.tryPurge root).1 = (t.tryPurge root).1 ∧
      R (s.tryPurge root).2 (t.tryPurge root).2 := by
    rw [tryPurge, tryPurge, functionNames?_congr (kindred.list h) (kindred.leads h), path,
      kindred.list h]
    cases functionNames? t.world.volume root with
    | error e => exact ⟨rfl, h⟩
    | ok names =>
      cases names with
      | none => exact ⟨rfl, h⟩
      | some functions =>
        cases Volume.list t.world.volume t.path with
        | error fault => cases fault <;> exact ⟨rfl, h⟩
        | ok entries => exact kindred.removeOrphans functions entries h
  rw [Store.purge, Store.purge]
  dsimp only
  rw [tried.1]
  exact kindred.report tried.2 _

end Kindred

/-- Stores in alike surroundings hold the same files. -/
theorem kindred_alike : Kindred fun s t : Store σ => s.erased.Alike t.erased where
  path := fun h => h.path
  list := fun h p => congrArg (Volume.list · p) h.world.volume
  leads := fun h p => congrArg (Volume.leadsToDirectory · p) h.world.volume
  report := fun h _ =>
    ⟨h.path, h.vault, h.world.environment, h.world.entropy, h.world.volume, h.world.find⟩
  forget := fun h _ => ⟨h.path, h.vault, h.world⟩
  removeFile := by
    intro s t h p
    have volume : s.world.volume = t.world.volume := h.world.volume
    refine ⟨?_, h.path, h.vault, h.world.environment, h.world.entropy, ?_, h.world.find⟩
    · rw [Store.removeFile, Store.removeFile, volume]
    · show (Volume.remove p s.world.volume).2 = (Volume.remove p t.world.volume).2
      rw [volume]

/-- A purge looks at no slot. -/
theorem alike_purge (h : s.erased.Alike t.erased) (root : Path) :
    (s.purge root).erased.Alike (t.purge root).erased :=
  kindred_alike.purge h root

end Store

end Lockbox
