import Lockbox.Store

/-!
# Purging

A secrets file is an orphan if no directory below the script root has the name of its function,
case aside. Purging removes the orphans and forgets their keys. It is best effort: a file that
cannot be removed is reported and left, and if a directory cannot be listed the purge ends.
-/

namespace Lockbox.Store

variable {σ : Type} [Volume σ]

/-- Whether an entry of the script root is a directory, or a link that leads to one. -/
def isFunctionDirectory (volume : σ) (root : Path) (name : FileName) : EntryKind → Bool
  | .directory => true
  | .link => Volume.leadsToDirectory volume (root.join name)
  | .file => false

/-- The name that an entry of the script root gives to a function, if it gives one. -/
def functionName? (volume : σ) (root : Path) :
    Except OsFault Entry → Except Error (Option String)
  | .error fault => .error (.file root fault)
  | .ok entry =>
    match entry.kind with
    | .error fault => .error (.file (root.join entry.name) fault)
    | .ok kind =>
      .ok (if isFunctionDirectory volume root entry.name kind then
        some (Text.lowerCase (Utf8.lossy entry.name)) else none)

/-- The names in lower case of the functions below the script root, if there is a script root. -/
def functionNames? (volume : σ) (root : Path) : Except Error (Option (List String)) :=
  match Volume.list volume root with
  | .error .notFound => .ok none
  | .error fault => .error (.file root fault)
  | .ok entries => do
    let names ← entries.mapM (functionName? volume root)
    return some (names.filterMap id)

/-- The name of the function whose keys an entry of the secrets directory holds, if it is a secrets
file of a function. -/
def ownerName? (secrets : Path) (entry : Entry) : Option String :=
  match entry.kind with
  | .ok .file =>
    if Scope.isSecretsFile (secrets.join entry.name) then do
      let stem ← (secrets.join entry.name).stem?.bind Utf8.decode
      let name := Text.lowerCase stem
      if name = Scope.hostStem then none else some name
    else none
  | _ => none

def removeFile (s : Store σ) (p : Path) : Except OsFault Unit × Store σ :=
  match Volume.remove p s.world.volume with
  | (done, volume) => (done, { s with world := { s.world with volume := volume } })

/-- Remove the file of a function and forget its keys; whether that went well. -/
def removeOrphan (s : Store σ) (p : Path) (name : String) : Bool × Store σ :=
  match s.removeFile p with
  | (.ok (), s) =>
    (true, (s.report ⟨.debug, .store, "deleted orphaned secret file",
      [("path", .text p.display)]⟩).forget name)
  | (.error fault, s) =>
    (false, s.report ⟨.warn, .store, "failed to delete orphaned secret file",
      [("path", .text p.display), ("error", .text fault.message)]⟩)

/-- Remove the orphans among entries of the secrets directory; how many were removed. -/
def removeOrphans (functions : List String) (s : Store σ) :
    List (Except OsFault Entry) → Except Error Nat × Store σ
  | [] => (.ok 0, s)
  | .error fault :: _ => (.error (.file s.path fault), s)
  | .ok entry :: rest =>
    match ownerName? s.path entry with
    | none => removeOrphans functions s rest
    | some name =>
      if name ∈ functions then removeOrphans functions s rest
      else
        match s.removeOrphan (s.path.join entry.name) name with
        | (removed, s) =>
          match removeOrphans functions s rest with
          | (count, s) => (count.map (· + if removed then 1 else 0), s)

/-- Remove the orphans; how many were removed. -/
def tryPurge (s : Store σ) (root : Path) : Except Error Nat × Store σ :=
  match functionNames? s.world.volume root with
  | .error e => (.error e, s)
  | .ok none => (.ok 0, s)
  | .ok (some functions) =>
    match Volume.list s.world.volume s.path with
    | .error .notFound => (.ok 0, s)
    | .error fault => (.error (.file s.path fault), s)
    | .ok entries => s.removeOrphans functions entries

def purged : Except Error Nat → Event
  | .ok 0 => ⟨.debug, .store, "no orphaned secret files", []⟩
  | .ok count => ⟨.info, .store, "purged orphaned secret files", [("deleted", .count count)]⟩
  | .error e =>
    ⟨.error, .store, "an error occurred while purging secret files",
      [("error", .text e.message), ("code", .text e.code)]⟩

/-- Remove the secrets files of functions that have no directory below the script root. -/
def purge (s : Store σ) (root : Path) : Store σ :=
  match s.tryPurge root with
  | (result, s) => s.report (purged result)

end Lockbox.Store
