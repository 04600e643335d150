import Lockbox.Proofs.Store.Orphans

/-!
# When a purge gives up

A purge collects the names of the functions below the script root before it touches a file, and
gives up exactly if that fails (`givesUp_iff_fails`). It also asks what links lead to. A link whose
target cannot be told counts as one that leads to no directory, be there nothing behind it or not
(`IsShut`). Where no link is shut, or the purge fails anyway, a function that may have a directory
keeps its file:

    purge_is_failsafe : (Fails ∨ ∃ link, IsShut link) → s.GivesUp root ∧
      MayBeDirectory d → s.KeepsFile root n
-/

namespace Lockbox.Store

open Volume (Lists)

variable {σ : Type} [Volume σ] {s : Store σ} {volume : σ} {dir root : Path} {entry : Entry}

/-! ## Collecting the functions -/

/-- The script root has an entry. -/
def IsBelow (volume : σ) (root : Path) (entry : Entry) : Prop :=
  ∃ entries, Volume.list volume root = .ok entries ∧ .ok entry ∈ entries

/-- The functions cannot be collected: the script root cannot be opened, one of its entries cannot
be read, or of what kind one is cannot be told. -/
inductive Fails (volume : σ) (root : Path) : Prop
  | unopened {fault : OsFault} (refused : Volume.list volume root = .error fault)
  | unread {entries : List (Except OsFault Entry)} {fault : OsFault}
    (opened : Volume.list volume root = .ok entries) (unread : .error fault ∈ entries)
  | untold {entry : Entry} {fault : OsFault} (below : IsBelow volume root entry)
    (untold : entry.kind = .error fault)

/-- A link of which it cannot be told what it leads to, for another reason than that there is
nothing. -/
def IsShut (volume : σ) (root : Path) (entry : Entry) : Prop :=
  entry.kind = .ok .link ∧ ∃ fault, fault ≠ .notFound ∧
    Volume.isDirectory volume (root.join entry.name) = .error fault

/-- A directory, or a link that leads to one for all that can be told. -/
def MayBeDirectory (volume : σ) (root : Path) (entry : Entry) : Prop :=
  IsFunctionDirectory volume root entry ∨ IsShut volume root entry

theorem exists_functionName?_of_ok {names : List (Option String)}
    {entries : List (Except OsFault Entry)}
    (collected : entries.mapM (functionName? volume root) = .ok names) :
    ∀ e ∈ entries, ∃ name, functionName? volume root e = .ok name := by
  induction entries generalizing names with
  | nil => exact fun _ h => nomatch h
  | cons first rest ih =>
    rw [List.mapM_cons] at collected
    cases owner_eq : functionName? volume root first with
    | error e =>
      rw [owner_eq] at collected
      cases collected
    | ok name =>
      cases later : rest.mapM (functionName? volume root) with
      | error e =>
        rw [owner_eq, later] at collected
        cases collected
      | ok others =>
        intro e he
        rcases List.mem_cons.1 he with rfl | he
        · exact ⟨name, owner_eq⟩
        · exact ih later e he

/-- Where collecting fails there are no names. -/
theorem functionNames?_of_fails (fails : Fails volume root) (functions : List String) :
    functionNames? volume root ≠ .ok (some functions) := by
  have each : ∀ {entries : List (Except OsFault Entry)} {e : Except OsFault Entry},
      Volume.list volume root = .ok entries → e ∈ entries →
      (∀ name, functionName? volume root e ≠ .ok name) →
      functionNames? volume root ≠ .ok (some functions) := by
    intro entries e opened mem bad collected
    rw [functionNames?, opened] at collected
    dsimp only at collected
    cases names : entries.mapM (functionName? volume root) with
    | error e =>
      rw [names] at collected
      cases collected
    | ok found =>
      obtain ⟨name, good⟩ := exists_functionName?_of_ok names e mem
      exact bad name good
  cases fails with
  | @unopened fault refused =>
    rw [functionNames?, refused]
    intro collected
    cases fault <;> cases collected
  | unread opened unread =>
    refine each opened unread fun name known => ?_
    cases known
  | untold below untold =>
    obtain ⟨entries, opened, mem⟩ := below
    refine each opened mem fun name known => ?_
    rw [functionName?, untold] at known
    cases known

/-- Otherwise every entry of the script root is known and its kind as well. -/
theorem lists_of_not_fails (works : ¬Fails volume root) :
    ∃ below, Lists volume root below ∧ ∀ d ∈ below, ∃ kind, d.kind = .ok kind := by
  cases opened : Volume.list volume root with
  | error fault => exact absurd (.unopened opened) works
  | ok entries =>
    have readable : ∃ below : List Entry, entries = below.map .ok := by
      have all : ∀ e ∈ entries, ∃ entry, e = .ok entry := by
        intro e he
        cases e with
        | error fault => exact absurd (.unread opened he) works
        | ok entry => exact ⟨entry, rfl⟩
      clear opened
      induction entries with
      | nil => exact ⟨[], rfl⟩
      | cons first rest ih =>
        obtain ⟨entry, rfl⟩ := all first List.mem_cons_self
        obtain ⟨below, rfl⟩ := ih fun e he => all e (List.mem_cons_of_mem _ he)
        exact ⟨entry :: below, rfl⟩
    obtain ⟨below, rfl⟩ := readable
    refine ⟨below, opened, fun d hd => ?_⟩
    cases told : d.kind with
    | error fault => exact absurd (.untold ⟨_, opened, List.mem_map_of_mem hd⟩ told) works
    | ok kind => exact ⟨kind, rfl⟩

/-! ## Giving up -/

/-- A purge ends before it has the names of the functions, and leaves everything but the log as it
is. -/
structure GivesUp (s : Store σ) (root : Path) : Prop where
  uncollected : ∀ functions, functionNames? s.world.volume root ≠ .ok (some functions)
  untouched : ∃ event, s.purge root = s.report event

/-- Without the names nothing is touched. -/
theorem givesUp_of_uncollected
    (uncollected : ∀ functions, functionNames? s.world.volume root ≠ .ok (some functions)) :
    s.GivesUp root := by
  refine ⟨uncollected, purged (s.tryPurge root).1, ?_⟩
  have eq : (s.tryPurge root).2 = s := by
    rw [tryPurge]
    cases found : functionNames? s.world.volume root with
    | error e => rfl
    | ok names =>
      cases names with
      | none => rfl
      | some functions => exact absurd found (uncollected functions)
  rw [purge_eq, eq]

/-- A purge gives up exactly if the functions cannot be collected. -/
theorem givesUp_iff_fails : s.GivesUp root ↔ Fails s.world.volume root := by
  refine ⟨fun gives => ?_, fun fails => givesUp_of_uncollected (functionNames?_of_fails fails)⟩
  refine Classical.byContradiction fun works => ?_
  obtain ⟨below, listed, told⟩ := lists_of_not_fails works
  obtain ⟨functions, collected, -⟩ := functionNames?_of_lists listed told
  exact gives.uncollected functions collected

/-! ## Files that are kept -/

/-- Try to remove files of a directory one after another. -/
def removeAll (dir : Path) (files : List FileName) (volume : σ) : σ :=
  files.foldl (fun volume file => (Volume.remove (dir.join file) volume).2) volume

theorem removeEach_snd (dir : Path) (orphans : List Orphan) (volume : σ) :
    (removeEach dir orphans volume).2 = removeAll dir (orphans.map Orphan.file) volume := by
  induction orphans generalizing volume with
  | nil => rfl
  | cons orphan rest ih =>
    rw [List.map_cons, removeAll, List.foldl_cons, ← removeAll]
    cases done : (Volume.remove (dir.join orphan.file) volume).1 with
    | ok _ =>
      rw [removeEach_of_ok done]
      exact ih _
    | error fault =>
      rw [removeEach_of_error done]
      exact ih _

/-- In a steady directory files that are not tried to be removed are read as before. -/
theorem read_removeAll (steady : Steady σ dir) {kept : FileName} (proper : kept.IsProper)
    {files : List FileName} (others : ∀ file ∈ files, file.IsProper ∧ file ≠ kept)
    (fit : steady.Fit volume) :
    Volume.read (removeAll dir files volume) (dir.join kept) =
      Volume.read volume (dir.join kept) := by
  have spared : steady.Fit (removeAll dir files volume) ∧
      steady.state (removeAll dir files volume) kept = steady.state volume kept := by
    induction files generalizing volume with
    | nil => exact ⟨fit, rfl⟩
    | cons file rest ih =>
      obtain ⟨named, ne⟩ := others file List.mem_cons_self
      obtain ⟨fit', eq⟩ := ih (fun later h => others later (List.mem_cons_of_mem file h))
        (steady.fit_remove fit named)
      exact ⟨fit', eq.trans (steady.state_remove fit proper named ne.symm)⟩
  exact steady.read_congr spared.1 fit proper spared.2

/-- A purge tries to remove regular files of the secrets directory, but not the one of a function,
which is read as before if the directory is steady. -/
structure KeepsFile (s : Store σ) (root : Path) (n : String) : Prop where
  others : ∃ files, (s.purge root).world.volume = removeAll s.path files s.world.volume ∧
    ∀ file ∈ files, IsBelow s.world.volume s.path ⟨file, .ok .file⟩ ∧
      file ≠ (Scope.function n).fileName
  read : ∀ steady : Steady σ s.path, steady.Fit s.world.volume →
    Volume.read (s.purge root).world.volume ((Scope.function n).file s.path) =
      Volume.read s.world.volume ((Scope.function n).file s.path)

theorem keeps_of_others {n : String} (named : (Scope.function n).IsNamed) {files : List FileName}
    (left : (s.purge root).world.volume = removeAll s.path files s.world.volume)
    (others : ∀ file ∈ files, IsBelow s.world.volume s.path ⟨file, .ok .file⟩ ∧
      file ≠ (Scope.function n).fileName) : s.KeepsFile root n := by
  refine ⟨⟨files, left, others⟩, fun steady fit => ?_⟩
  rw [left, Scope.file_eq_join]
  refine read_removeAll steady (Scope.isProper_fileName named) (fun file h => ?_) fit
  obtain ⟨⟨entries, listed, mem⟩, ne⟩ := others file h
  exact ⟨steady.isProper_of_list fit listed mem, ne⟩

/-- If no file changed, none was removed. -/
theorem keeps_of_volume_eq {n : String} (named : (Scope.function n).IsNamed)
    (unchanged : (s.purge root).world.volume = s.world.volume) : s.KeepsFile root n := by
  have left : (s.purge root).world.volume = removeAll s.path [] s.world.volume := unchanged
  exact keeps_of_others named left nofun

theorem GivesUp.keepsFile {n : String} (gives : s.GivesUp root)
    (named : (Scope.function n).IsNamed) :
    s.KeepsFile root n := by
  obtain ⟨event, eq⟩ := gives.untouched
  exact keeps_of_volume_eq named (by rw [eq]; rfl)

/-- What is removed among entries are regular files, and not those of functions that are known. -/
theorem of_mem_orphans {functions : List String}
    {entries : List (Except OsFault Entry)} {n : String}
    (named : (Scope.function n).IsNamed) (known : n ∈ functions) {o : Orphan}
    (orphan : o ∈ orphans functions dir (readable entries)) :
    .ok ⟨o.file, .ok .file⟩ ∈ entries ∧ o.file ≠ (Scope.function n).fileName := by
  obtain ⟨e, he, found⟩ := List.mem_filterMap.1 orphan
  obtain ⟨owned, eq, unknown⟩ := orphan?_eq_some_iff.1 found
  have file : e = ⟨o.file, .ok .file⟩ := by
    rw [← eq, ← kind_of_ownerName? owned]
  refine ⟨file ▸ mem_of_mem_readable he, fun clash => unknown ?_⟩
  -- the stem of the file of a function is the name of the function, and is in lower case
  rw [← eq] at clash
  have proper : e.name.IsProper := clash ▸ Scope.isProper_fileName named
  obtain ⟨-, ⟨stem, secrets, lowered⟩, -⟩ := (ownerName?_eq_some_iff proper).1 owned
  obtain ⟨ext, -, cut⟩ := cutAtDot_of_isSecretsName secrets
  rw [clash, Scope.cutAtDot_fileName named] at cut
  obtain rfl : n = stem := Utf8.encode_injective (Prod.mk.inj cut).1
  rw [lowered, Text.lowerCase_eq_self named.2]
  exact known

/-- A function that is known keeps its file. -/
theorem keeps_of_known {functions : List String} {n : String}
    (collected : functionNames? s.world.volume root = .ok (some functions))
    (named : (Scope.function n).IsNamed) (known : n ∈ functions) : s.KeepsFile root n := by
  have nothing : (s.tryPurge root).2 = s → s.KeepsFile root n := by
    intro eq
    exact keeps_of_volume_eq named (by rw [purge_eq, eq]; rfl)
  cases listed : Volume.list s.world.volume s.path with
  | error fault =>
    apply nothing
    rw [tryPurge, collected]
    dsimp only
    rw [listed]
    cases fault <;> rfl
  | ok entries =>
    obtain ⟨log, runs⟩ := removeOrphans_eq functions entries s
    have left : (s.purge root).world.volume = removeAll s.path
        ((orphans functions s.path (readable entries)).map Orphan.file) s.world.volume := by
      rw [purge_eq, tryPurge, collected]
      dsimp only
      rw [listed]
      dsimp only
      rw [runs, ← removeEach_snd]
      rfl
    refine keeps_of_others named left fun file h => ?_
    obtain ⟨o, orphan, rfl⟩ := List.mem_map.1 h
    obtain ⟨mem, ne⟩ := of_mem_orphans named known orphan
    exact ⟨⟨entries, listed, mem⟩, ne⟩

/-! ## Purges -/

/-- A purge that cannot collect the functions gives up, and so does one that meets a link which is
shut, if it only meets such a link when something else fails as well. Then no function that may have
a directory loses its file. -/
theorem purge_is_failsafe (s : Store σ) (root : Path)
    (noticed : ∀ link, IsBelow s.world.volume root link → IsShut s.world.volume root link →
      Fails s.world.volume root) :
    ((Fails s.world.volume root ∨
        ∃ link, IsBelow s.world.volume root link ∧ IsShut s.world.volume root link) →
      s.GivesUp root) ∧
    ∀ d, IsBelow s.world.volume root d → MayBeDirectory s.world.volume root d →
      ∀ name n : String, d.name = Utf8.encode name → Scope.ofFunction name = .ok n →
        s.KeepsFile root n := by
  constructor
  · rintro (fails | ⟨link, below, shut⟩)
    · exact givesUp_iff_fails.2 fails
    · exact givesUp_iff_fails.2 (noticed link below shut)
  · intro d below directory name n spelled usable
    have named : (Scope.function n).IsNamed := Scope.isNamed_of_ofFunction usable
    by_cases fails : Fails s.world.volume root
    · exact (givesUp_iff_fails.2 fails).keepsFile named
    · have known : IsFunctionDirectory s.world.volume root d := by
        rcases directory with known | shut
        · exact known
        · exact absurd (noticed d below shut) fails
      obtain ⟨entries, opened, mem⟩ := below
      obtain ⟨all, listed, told⟩ := lists_of_not_fails fails
      obtain ⟨functions, collected, members⟩ := functionNames?_of_lists listed told
      have inside : d ∈ all := by
        rw [Volume.Lists, opened, Except.ok.injEq] at listed
        rw [listed, List.mem_map] at mem
        obtain ⟨e, he, eq⟩ := mem
        exact Except.ok.inj eq ▸ he
      refine keeps_of_known collected named ((members n).2 ⟨d, inside, known, ?_⟩)
      rw [spelled, Utf8.lossy_encode]
      exact Scope.eq_lowerCase_of_ofFunction usable

/-- A function whose directory is a link to one below another directory. The modes of the script
root and of that other directory are given. -/
def linked (scripts code : Nat) : Tree :=
  ⟨#[.directory Tree.directoryMode Tree.root
        [(Utf8.encode "secrets", 1), (Utf8.encode "functions", 2), (Utf8.encode "code", 3)],
      .directory Tree.directoryMode Tree.root [(Utf8.encode "foo.json", 4)],
      .directory scripts Tree.root [(Utf8.encode "foo", 5)],
      .directory code Tree.root [(Utf8.encode "foo", 6)],
      .file Tree.fileMode [],
      .link (.ofText "../code/foo"),
      .directory Tree.directoryMode 3 []], []⟩

def linkedStore (scripts code : Nat) : Store Tree where
  path := .ofText "secrets"
  vault := ⟨.onPremises, false⟩
  world := ⟨Variables.table [], .counting, .empty, [], linked scripts code⟩
  host := none
  functions := []
  accesses := 0

def fooLink : Entry := ⟨Utf8.encode "foo", .ok .link⟩

/-- Where the script root may not be read, a purge gives up; where everything may be, the function
keeps its file. -/
theorem purge_is_failsafe_linked :
    (linkedStore 0 0).GivesUp (.ofText "functions") ∧
      (linkedStore Tree.directoryMode Tree.directoryMode).KeepsFile
        (.ofText "functions") "foo" := by
  have refused : Volume.list (linked 0 0) (.ofText "functions") = .error .denied := rfl
  have opened : Volume.list (linked Tree.directoryMode Tree.directoryMode) (.ofText "functions") =
      .ok [.ok fooLink] := rfl
  constructor
  · refine (purge_is_failsafe (linkedStore 0 0) (.ofText "functions") ?_).1
      (.inl (.unopened refused))
    intro link below _
    obtain ⟨entries, found, -⟩ := below
    rw [linkedStore, refused] at found
    cases found
  · refine (purge_is_failsafe (linkedStore Tree.directoryMode Tree.directoryMode)
      (.ofText "functions") ?_).2 fooLink ⟨_, opened, .head _⟩ (.inl (.inr ⟨rfl, rfl⟩)) "foo" "foo"
        rfl rfl
    intro link below shut
    obtain ⟨entries, found, mem⟩ := below
    rw [linkedStore, opened] at found
    cases found
    rw [List.mem_singleton, Except.ok.injEq] at mem
    obtain ⟨-, fault, -, fails⟩ := shut
    rw [mem] at fails
    cases fails

/-- Where the other directory may not be walked through, the link is shut, and the file is
removed. Once it may be again, the function has its directory. -/
theorem purge_removes_linked :
    let s := linkedStore Tree.directoryMode 0
    (IsBelow s.world.volume (.ofText "functions") fooLink ∧
      IsShut s.world.volume (.ofText "functions") fooLink) ∧
    ¬s.GivesUp (.ofText "functions") ∧
    Volume.read s.world.volume ((Scope.function "foo").file s.path) = .ok [] ∧
    Volume.read (s.purge (.ofText "functions")).world.volume ((Scope.function "foo").file s.path) =
      .error .notFound ∧
    IsFunctionDirectory (linked Tree.directoryMode Tree.directoryMode) (.ofText "functions")
      fooLink := by
  refine ⟨⟨⟨_, rfl, .head _⟩, rfl, .denied, nofun, rfl⟩, ?_, rfl, rfl, .inr ⟨rfl, rfl⟩⟩
  intro gives
  exact gives.uncollected [] rfl

end Lockbox.Store
