import Lockbox.Proofs.Store.Removal
import Lockbox.Proofs.Text.Lossy
import Lockbox.Proofs.Volume.Tree.Unlinking

/-!
# Which files a purge removes

An orphan is a regular file of the secrets directory that has the name of a secrets file, case
aside, of a function that has no directory below the script root (`IsOrphan`). Names are read in two
ways here: file names are cut at their last dot and must be texts, and names of directories are read
with damage marked. The two agree on every name that the store writes (`fileName_ne_of_isOrphan`),
and what the purge picks by them are the orphans (`mem_orphans_iff`). Those that can be removed are
gone afterwards, and nothing else is:

    purge_removes_orphans : s.Purges laws entries orphans root gone
-/

namespace Lockbox.Store

open Volume (Lists)

variable {σ : Type} [Volume σ] {volume : σ} {dir root : Path} {entries below : List Entry}
  {entry : Entry} {name : String} {n : FileName}

/-! ## Orphans -/

/-- A name of a secrets file: a stem, which is a text, and after its last dot the extension of
secrets files, in any case of its letters. -/
def IsSecretsName (n : FileName) (stem : String) : Prop :=
  stem ≠ "" ∧ ∃ ext, Text.sameIgnoringCase ext Scope.extension = true ∧
    n = Utf8.encode (stem ++ "." ++ ext)

/-- A directory of the script root, or a link there that leads to a directory. -/
def IsFunctionDirectory (volume : σ) (root : Path) (entry : Entry) : Prop :=
  entry.kind = .ok .directory ∨
    entry.kind = .ok .link ∧ Volume.isDirectory volume (root.join entry.name) = .ok true

/-- A regular file that holds the keys of a function which has no directory below the script
root. -/
structure IsOrphan (volume : σ) (root : Path) (below : List Entry) (entry : Entry)
    (name : String) : Prop where
  file : entry.IsFile
  named : ∃ stem, IsSecretsName entry.name stem ∧ name = Text.lowerCase stem
  not_host : name ≠ Scope.hostStem
  unowned : ∀ d ∈ below, IsFunctionDirectory volume root d →
    name ≠ Text.lowerCase (Utf8.lossy d.name)

theorem dot_not_mem_of_same {ext : String} (h : Text.sameIgnoringCase ext Scope.extension = true) :
    dot ∉ Utf8.encode ext := by
  intro mem
  obtain ⟨c, hc, number⟩ := Utf8.exists_of_mem_encode mem (by decide)
  obtain rfl : c = '.' := Char.toNat_inj.1 number
  rw [Text.sameIgnoringCase, beq_iff_eq, Text.lowerAscii, Text.lowerAscii,
    String.ofList_inj] at h
  have inside : '.' ∈ ext.toList.map Char.toLower := List.mem_map.2 ⟨'.', hc, by decide⟩
  rw [h] at inside
  exact absurd inside (by decide)

/-- The name of a secrets file is cut at the dot in front of its extension. -/
theorem cutAtDot_of_isSecretsName {stem : String} (h : IsSecretsName n stem) :
    ∃ ext, Text.sameIgnoringCase ext Scope.extension = true ∧
      Path.cutAtDot n = (Utf8.encode stem, some (Utf8.encode ext)) := by
  obtain ⟨filled, ext, spelled, rfl⟩ := h
  have apart : Utf8.encode (stem ++ "." ++ ext) =
      Utf8.encode stem ++ dot :: Utf8.encode ext := by
    rw [Utf8.encode_append, Utf8.encode_append, List.append_assoc]
    rfl
  refine ⟨ext, spelled, ?_⟩
  rw [apart]
  refine Path.cutAtDot_append ?_ (dot_not_mem_of_same spelled)
  intro empty
  exact filled (Utf8.encode_injective empty)

theorem isSecretsName_of_cutAtDot {stem ext : String}
    (cut : Path.cutAtDot n = (Utf8.encode stem, some (Utf8.encode ext)))
    (spelled : Text.sameIgnoringCase ext Scope.extension = true) : IsSecretsName n stem := by
  obtain ⟨filled, -, whole⟩ := Path.of_cutAtDot cut
  refine ⟨?_, ext, spelled, ?_⟩
  · rintro rfl
    exact filled rfl
  · rw [Utf8.encode_append, Utf8.encode_append, List.append_assoc]
    exact whole

/-- Taking a path apart finds the names of secrets files and their stems. -/
theorem isSecretsName_iff (dir : Path) (proper : n.IsProper) {stem : String} :
    IsSecretsName n stem ↔
      Scope.isSecretsFile (dir.join n) = true ∧
        (dir.join n).stem?.bind Utf8.decode = some stem := by
  -- there is one way to cut a name, and both sides are about it
  obtain ⟨front, back, cut⟩ : ∃ front back, Path.cutAtDot n = (front, back) := ⟨_, _, rfl⟩
  rw [Scope.isSecretsFile, Path.extension?_join dir proper cut, Path.stem?_join dir proper cut,
    Option.bind_some]
  constructor
  · intro named
    obtain ⟨ext, spelled, cut'⟩ := cutAtDot_of_isSecretsName named
    obtain ⟨rfl, rfl⟩ := Prod.mk.inj (cut.symm.trans cut')
    rw [Option.bind_some, Utf8.decode_encode, Utf8.decode_encode]
    exact ⟨spelled, rfl⟩
  · rintro ⟨extended, decoded⟩
    obtain rfl := Utf8.eq_encode_of_decode decoded
    cases found : back.bind Utf8.decode with
    | none =>
      rw [found] at extended
      cases extended
    | some ext =>
      rw [found] at extended
      obtain ⟨bytes, rfl, decoded⟩ := Option.bind_eq_some_iff.1 found
      obtain rfl := Utf8.eq_encode_of_decode decoded
      exact isSecretsName_of_cutAtDot cut extended

/-- A file has an owner if it is a regular one with the name of a secrets file, other than that of
the host; the owner is the stem in lower case. -/
theorem ownerName?_eq_some_iff (proper : entry.name.IsProper) :
    ownerName? dir entry = some name ↔
      entry.IsFile ∧ (∃ stem, IsSecretsName entry.name stem ∧ name = Text.lowerCase stem) ∧
        name ≠ Scope.hostStem := by
  -- the name of the host is ruled out after the cut
  have split : ∀ stem, (if Text.lowerCase stem = Scope.hostStem then none
      else some (Text.lowerCase stem)) = some name ↔
        name = Text.lowerCase stem ∧ name ≠ Scope.hostStem := by
    intro stem
    grind
  constructor
  · intro owned
    have file : entry.IsFile := kind_of_ownerName? owned
    have kind : entry.kind = .ok .file := file
    rw [ownerName?, kind] at owned
    dsimp only at owned
    by_cases named : Scope.isSecretsFile (dir.join entry.name) = true
    · rw [if_pos named] at owned
      obtain ⟨stem, decoded, owned⟩ := Option.bind_eq_some_iff.1 owned
      obtain ⟨lowered, ne⟩ := (split stem).1 owned
      exact ⟨file, ⟨stem, (isSecretsName_iff dir proper).2 ⟨named, decoded⟩, lowered⟩, ne⟩
    · rw [if_neg named] at owned
      cases owned
  · rintro ⟨file, ⟨stem, named, lowered⟩, ne⟩
    have kind : entry.kind = .ok .file := file
    obtain ⟨extended, decoded⟩ := (isSecretsName_iff dir proper).1 named
    rw [ownerName?, kind]
    dsimp only
    rw [if_pos extended, decoded]
    exact (split stem).2 ⟨lowered, ne⟩

/-! ## Functions -/

/-- An entry of the script root whose kind is known either names a function or does not, and the two
are told apart as `IsFunctionDirectory` has it. -/
theorem functionName?_eq {kind : EntryKind} (told : entry.kind = .ok kind) :
    ∃ found, functionName? volume root (.ok entry) = .ok found ∧
      ∀ name, found = some name ↔
        IsFunctionDirectory volume root entry ∧ name = Text.lowerCase (Utf8.lossy entry.name) := by
  -- a link counts if it can be followed to a directory, and an error counts as not
  have leads : isFunctionDirectory volume root entry.name kind = true ↔
      IsFunctionDirectory volume root entry := by
    rw [IsFunctionDirectory, told]
    cases kind with
    | directory => exact ⟨fun _ => .inl rfl, fun _ => rfl⟩
    | file => exact ⟨nofun, nofun⟩
    | link =>
      rw [isFunctionDirectory, Volume.leadsToDirectory]
      cases Volume.isDirectory volume (root.join entry.name) with
      | error fault => exact ⟨nofun, nofun⟩
      | ok answer =>
        constructor
        · intro yes
          exact .inr ⟨rfl, congrArg Except.ok yes⟩
        · rintro (eq | ⟨-, yes⟩)
          · cases eq
          · exact Except.ok.inj yes
  refine ⟨_, by rw [functionName?, told], ?_⟩
  intro name
  by_cases directory : isFunctionDirectory volume root entry.name kind = true
  · rw [if_pos directory, Option.some.injEq]
    exact ⟨fun equal => ⟨leads.1 directory, equal.symm⟩, fun both => both.2.symm⟩
  · rw [if_neg directory]
    refine ⟨fun equal => ?_, fun both => absurd (leads.2 both.1) directory⟩
    cases equal

/-- The names of functions are those of the directories below the script root, in lower case. -/
theorem functionNames?_of_lists (listed : Lists volume root below)
    (told : ∀ d ∈ below, ∃ kind, d.kind = .ok kind) :
    ∃ functions, functionNames? volume root = .ok (some functions) ∧
      ∀ name, name ∈ functions ↔ ∃ d ∈ below, IsFunctionDirectory volume root d ∧
        name = Text.lowerCase (Utf8.lossy d.name) := by
  have each : ∃ found, (below.map Except.ok).mapM (functionName? volume root) = .ok found ∧
      ∀ name, name ∈ found.filterMap id ↔ ∃ d ∈ below, IsFunctionDirectory volume root d ∧
        name = Text.lowerCase (Utf8.lossy d.name) := by
    -- the induction is on the entries alone, whatever they were listed from
    clear listed
    induction below with
    | nil => exact ⟨[], rfl, fun name => ⟨nofun, nofun⟩⟩
    | cons d rest ih =>
      obtain ⟨kind, known⟩ := told d List.mem_cons_self
      obtain ⟨first, eq, member⟩ := @functionName?_eq _ _ volume root d kind known
      obtain ⟨found, later, members⟩ := ih fun e he => told e (List.mem_cons_of_mem d he)
      refine ⟨first :: found, ?_, ?_⟩
      · rw [List.map_cons, List.mapM_cons, eq, later]
        rfl
      · intro name
        simp only [List.mem_cons, exists_eq_or_imp, ← members, ← member]
        cases first with
        | none => simp
        | some other => simp [eq_comm]
  obtain ⟨found, runs, members⟩ := each
  refine ⟨found.filterMap id, ?_, members⟩
  have entries : Volume.list volume root = .ok (below.map .ok) := listed
  rw [functionNames?, entries]
  dsimp only
  rw [runs]
  rfl

/-! ## Orphans among entries -/

theorem orphan?_eq_some_iff {functions : List String} {o : Orphan} :
    orphan? functions dir entry = some o ↔
      ownerName? dir entry = some o.function ∧ entry.name = o.file ∧ o.function ∉ functions := by
  obtain ⟨file, function⟩ := o
  rw [orphan?]
  cases ownerName? dir entry with
  | none =>
    constructor
    · intro found
      cases found
    · rintro ⟨found, -⟩
      cases found
  | some name =>
    dsimp only
    split
    · next known =>
      constructor
      · intro found
        cases found
      · rintro ⟨eq, -, apart⟩
        exact absurd (Option.some.inj eq ▸ known) apart
    · next apart =>
      constructor
      · intro eq
        obtain ⟨rfl, rfl⟩ := Orphan.mk.inj (Option.some.inj eq)
        exact ⟨rfl, rfl, apart⟩
      · rintro ⟨eq, rfl, -⟩
        rw [Option.some.inj eq]

/-- What is picked among entries are the orphans, if the functions are those below the script
root. -/
theorem mem_orphans_iff {functions : List String}
    (members : ∀ name, name ∈ functions ↔ ∃ d ∈ below, IsFunctionDirectory volume root d ∧
      name = Text.lowerCase (Utf8.lossy d.name))
    (proper : ∀ e ∈ entries, e.name.IsProper) (o : Orphan) :
    o ∈ orphans functions dir entries ↔
      ∃ e ∈ entries, e.name = o.file ∧ IsOrphan volume root below e o.function := by
  rw [orphans, List.mem_filterMap]
  refine exists_congr fun e => and_congr_right fun he => ?_
  rw [orphan?_eq_some_iff, ownerName?_eq_some_iff (proper e he), members]
  constructor
  · rintro ⟨⟨file, named, ne⟩, eq, unknown⟩
    refine ⟨eq, file, named, ne, ?_⟩
    intro d hd directory owned
    exact unknown ⟨d, hd, directory, owned⟩
  · rintro ⟨eq, orphan⟩
    refine ⟨⟨orphan.file, orphan.named, orphan.not_host⟩, eq, ?_⟩
    rintro ⟨d, hd, directory, owned⟩
    exact orphan.unowned d hd directory owned

theorem orphans_sublist (functions : List String) (dir : Path) (entries : List Entry) :
    ((orphans functions dir entries).map Orphan.file).Sublist (entries.map Entry.name) := by
  induction entries with
  | nil => exact .refl []
  | cons entry rest ih =>
    rw [orphans, List.filterMap_cons]
    cases found : orphan? functions dir entry with
    | none => exact ih.cons entry.name
    | some o =>
      obtain ⟨-, eq, -⟩ := orphan?_eq_some_iff.1 found
      rw [List.map_cons, List.map_cons, eq]
      exact ih.cons_cons o.file

/-! ## Removals -/

/-- Trying to remove files of a directory takes away those that could be removed. -/
theorem lost_removeEach (laws : Unlinking σ dir) (fit : laws.Fit volume)
    (listed : Lists volume dir entries) {orphans : List Orphan}
    (files : ∀ o ∈ orphans, ∃ e ∈ entries, e.name = o.file ∧ e.IsFile)
    (nodup : (orphans.map Orphan.file).Nodup) :
    laws.Lost entries ((removeEach dir orphans volume).1.map Orphan.file) volume
      (removeEach dir orphans volume).2 := by
  -- on the orphans; the listing shrinks with each file that is gone
  induction orphans generalizing volume entries with
  | nil => exact .refl fit listed
  | cons o rest ih =>
    obtain ⟨apart, nodup⟩ := List.nodup_cons.1 nodup
    -- what the others lose, after the first was tried
    have more : ∀ (first : List FileName) (u : σ), laws.Lost entries first volume u →
        (∀ other ∈ rest, other.file ∉ first) →
        laws.Lost entries (first ++ (removeEach dir rest u).1.map Orphan.file) volume
          (removeEach dir rest u).2 := by
      intro first u lost kept
      obtain ⟨left, after, within⟩ := lost.listed
      refine lost.trans within (ih lost.fit after ?_ nodup)
      intro other later
      obtain ⟨f, hf, named, regular⟩ := files other (List.mem_cons_of_mem o later)
      exact ⟨f, (within f).2 ⟨hf, named ▸ kept other later⟩, named, regular⟩
    obtain ⟨e, he, eq, file⟩ := files o List.mem_cons_self
    cases done : (Volume.remove (dir.join o.file) volume).1 with
    | ok _ =>
      rw [removeEach_of_ok done]
      rw [← eq] at done
      have lost := Unlinking.lost_of_ok fit listed he file done
      rw [eq] at lost
      -- no later orphan has this file, as names are listed once
      refine more [o.file] _ lost ?_
      intro other later clash
      exact apart (List.mem_singleton.1 clash ▸ List.mem_map_of_mem later)
    | error fault =>
      rw [removeEach_of_error done]
      rw [← eq] at done
      have lost := Unlinking.lost_of_error fit listed he file done
      rw [eq] at lost
      exact more [] _ lost fun _ _ => List.not_mem_nil

/-! ## Purges -/

/-- What a purge does with orphans among the entries of the secrets directory. Each is tried to be
removed; the count of those that are gone is the answer, their functions lose their slots, and
nothing else in the store changes but the log. -/
structure Purges (laws : Unlinking σ dir) (entries : List Entry) (orphans : List Orphan)
    (root : Path) (s : Store σ) (gone : List Orphan) : Prop where
  tried : ∃ left log, removeEach dir orphans s.world.volume = (gone, left) ∧
    s.purge root = s.pruned gone left log
  within : gone.Sublist orphans
  answer : (s.tryPurge root).1 = .ok gone.length
  slots : ∀ name, (s.purge root).slot? name =
    if name ∈ gone.map Orphan.function then none else s.slot? name
  host : (s.purge root).host = s.host
  lost : laws.Lost entries (gone.map Orphan.file) s.world.volume (s.purge root).world.volume

/-- The file of a function is no orphan's if the function has a directory. -/
theorem fileName_ne_of_isOrphan {d : Entry} {n : String} (hd : d ∈ below)
    (directory : IsFunctionDirectory volume root d) (named : d.name = Utf8.encode name)
    (usable : Scope.ofFunction name = .ok n) {function : String}
    (orphan : IsOrphan volume root below entry function) :
    entry.name ≠ (Scope.function n).fileName := by
  intro eq
  have spelled : (Scope.function n).IsNamed := Scope.isNamed_of_ofFunction usable
  have lowered : n = Text.lowerCase name := Scope.eq_lowerCase_of_ofFunction usable
  obtain ⟨stem, secrets, rfl⟩ := orphan.named
  obtain ⟨ext, -, cut⟩ := cutAtDot_of_isSecretsName secrets
  rw [eq, Scope.cutAtDot_fileName spelled] at cut
  obtain rfl : n = stem := Utf8.encode_injective (Prod.mk.inj cut).1
  -- the stem of the file would be the name of the directory, in lower case as it is
  apply orphan.unowned d hd directory
  rw [named, Utf8.lossy_encode, ← lowered, Text.lowerCase_eq_self spelled.2]

/-- A purge that knows its functions does as said, and the count of what is gone goes into the
log. -/
theorem purges_of_known {s : Store σ} {laws : Unlinking σ s.path} {functions : List String}
    (known : functionNames? s.world.volume root = .ok (some functions))
    (inside : Lists s.world.volume s.path entries) {gone : List Orphan} {left : σ}
    (tried : removeEach s.path (orphans functions s.path entries) s.world.volume = (gone, left))
    (lost : laws.Lost entries (gone.map Orphan.file) s.world.volume left) :
    s.Purges laws entries (orphans functions s.path entries) root gone := by
  have listed : Volume.list s.world.volume s.path = .ok (entries.map .ok) := inside
  have goes : s.tryPurge root = s.removeOrphans functions (entries.map .ok) := by
    rw [tryPurge, known, listed]
  obtain ⟨log, runs⟩ := removeOrphans_eq functions (entries.map .ok) s
  rw [readable_map_ok, unreadable?_map_ok, tried] at runs
  have ends : s.purge root = s.pruned gone left (log ++ [purged (.ok gone.length)]) := by
    rw [purge_eq, goes, runs]
    rfl
  refine ⟨⟨left, _, tried, ends⟩, ?_, ?_, ?_, ?_, ?_⟩
  · have within := gone_sublist s.path (orphans functions s.path entries) s.world.volume
    rwa [tried] at within
  · rw [goes, runs]
    rfl
  · intro name
    rw [ends]
    exact slot?_pruned s gone left _ name
  · rw [ends]
    rfl
  · rw [ends]
    exact lost

/-- A purge removes exactly the orphans that can be removed. Without a script root it removes
nothing, and the file of a function that has a directory there is no orphan. -/
theorem purge_removes_orphans (laws : Unlinking σ dir) {s : Store σ} (place : s.path = dir)
    (fit : laws.Fit s.world.volume) (root : Path) :
    (Volume.list s.world.volume root = .error .notFound →
      ∃ log, s.purge root = { s with world := { s.world with log := log } }) ∧
    ∀ below entries : List Entry, Lists s.world.volume root below →
      (∀ d ∈ below, ∃ kind, d.kind = .ok kind) → Lists s.world.volume dir entries →
      ∃ orphans : List Orphan, (orphans.map Orphan.file).Nodup ∧
        (∀ o, o ∈ orphans ↔ ∃ e ∈ entries, e.name = o.file ∧
          IsOrphan s.world.volume root below e o.function) ∧
        (∃ gone, s.Purges laws entries orphans root gone) ∧
        ∀ d ∈ below, IsFunctionDirectory s.world.volume root d → ∀ name n : String,
          d.name = Utf8.encode name → Scope.ofFunction name = .ok n →
          (Scope.function n).fileName ∉ orphans.map Orphan.file := by
  subst place
  constructor
  · intro missing
    refine ⟨s.world.log ++ [purged (.ok 0)], ?_⟩
    -- without a script root nobody can tell what is an orphan
    rw [purge, tryPurge, functionNames?, missing]
    rfl
  · intro below entries listed told inside
    obtain ⟨functions, known, members⟩ := functionNames?_of_lists listed told
    have chosen := @mem_orphans_iff _ _ _ s.path root entries below functions members
      (laws.proper fit inside)
    have nodup : ((orphans functions s.path entries).map Orphan.file).Nodup :=
      (laws.nodup fit inside).sublist (orphans_sublist functions s.path entries)
    refine ⟨_, nodup, chosen, ?_, ?_⟩
    · refine ⟨_, purges_of_known known inside rfl (lost_removeEach laws fit inside ?_ nodup)⟩
      intro o ho
      obtain ⟨e, he, eq, orphan⟩ := (chosen o).1 ho
      exact ⟨e, he, eq, orphan.file⟩
    · intro d hd directory name n named usable inOrphans
      obtain ⟨o, ho, eq⟩ := List.mem_map.1 inOrphans
      obtain ⟨e, he, file, orphan⟩ := (chosen o).1 ho
      exact fileName_ne_of_isOrphan hd directory named usable orphan (file.trans eq)

/-- A secrets directory with files of functions that have a directory and of functions that have
none, a hidden file, a directory and a link, all with the extension of secrets files. The script
root has a directory and a link to it. -/
def clutter : Tree :=
  ⟨#[.directory Tree.directoryMode Tree.root
        [(Utf8.encode "secrets", 1), (Utf8.encode "functions", 2)],
      .directory Tree.directoryMode Tree.root
        [(Utf8.encode "host.json", 3), (Utf8.encode "Gone.JSON", 3), (Utf8.encode "held.json", 3),
          (Utf8.encode "alpha.json", 3), (Utf8.encode "beta.json", 3), (Utf8.encode ".json", 3),
          (Utf8.encode "x.json", 4), (Utf8.encode "y.json", 5)],
      .directory Tree.directoryMode Tree.root
        [(Utf8.encode "Alpha", 6), (Utf8.encode "beta", 7), (Utf8.encode "held", 3)],
      .file Tree.fileMode [],
      .directory Tree.directoryMode 1 [],
      .link (.ofText "Gone.JSON"),
      .directory Tree.directoryMode 2 [],
      .link (.ofText "Alpha")], []⟩

def cluttered : Store (Guarded Tree) where
  path := .ofText "secrets"
  vault := ⟨.onPremises, false⟩
  world := ⟨Variables.table [], .counting, .empty, [], ⟨clutter, [.ofText "secrets/held.json"]⟩⟩
  host := none
  functions := [("gone", some ⟨0, []⟩), ("held", some ⟨1, []⟩)]
  accesses := 2

def scripts : List Entry :=
  [⟨Utf8.encode "Alpha", .ok .directory⟩, ⟨Utf8.encode "beta", .ok .link⟩,
    ⟨Utf8.encode "held", .ok .file⟩]

/-- The directory and the link to it count as functions, the file does not. -/
theorem functionNames?_cluttered :
    functionNames? cluttered.world.volume (.ofText "functions") = .ok (some ["alpha", "beta"]) := by
  have listed : Volume.list cluttered.world.volume (.ofText "functions") =
      .ok (scripts.map .ok) := rfl
  rw [functionNames?, listed, scripts]
  simp only [List.map_cons, List.map_nil, List.mapM_cons, List.mapM_nil, functionName?,
    Utf8.lossy_encode]
  rfl

/-- The tree is as the laws of removal want it. -/
theorem tidy_clutter : Tree.Tidy (.ofText "secrets") 1 clutter := by
  have proper : ∀ e ∈ clutter.entriesOf 1,
      e.1 ≠ [] ∧ slash ∉ e.1 ∧ e.1 ≠ [dot] ∧ e.1 ≠ [dot, dot] := by decide
  refine ⟨rfl, rfl, ?_, by decide⟩
  intro e he
  obtain ⟨filled, single, ne, others⟩ := proper e he
  exact ⟨filled, single, ne, others⟩

/-- Files of functions that have no directory there are orphans. -/
theorem isOrphan_cluttered {n : FileName} {stem : String} (secrets : IsSecretsName n stem)
    (ownerless : Text.lowerCase stem ∉ ["host", "alpha", "beta"]) :
    IsOrphan cluttered.world.volume (.ofText "functions") scripts ⟨n, .ok .file⟩
      (Text.lowerCase stem) := by
  refine ⟨rfl, ⟨stem, secrets, rfl⟩, ?_, ?_⟩
  · intro eq
    rw [eq] at ownerless
    exact absurd ownerless (by decide)
  · intro d hd directory eq
    rw [scripts] at hd
    simp only [List.mem_cons, List.not_mem_nil, or_false] at hd
    rcases hd with rfl | rfl | rfl
    · rw [Utf8.lossy_encode] at eq
      rw [eq] at ownerless
      exact absurd ownerless (by decide)
    · rw [Utf8.lossy_encode] at eq
      rw [eq] at ownerless
      exact absurd ownerless (by decide)
    -- the third entry is a file, and no function
    · rcases directory with kind | ⟨kind, -⟩ <;> cases kind

theorem tryPurge_cluttered : (cluttered.tryPurge (.ofText "functions")).1 = .ok 1 := by
  rw [tryPurge, functionNames?_cluttered]
  rfl

theorem slot?_cluttered : (cluttered.purge (.ofText "functions")).slot? "gone" = none := by
  rw [purge, tryPurge, functionNames?_cluttered]
  rfl

/-- Of two orphans the one that can be removed is gone, and its slot with it. -/
theorem purge_removes_orphans_cluttered :
    ∃ orphans gone : List Orphan,
      cluttered.Purges (Guarded.unlinking (Tree.unlinking (.ofText "secrets") 1))
        ((clutter.entriesOf 1).map clutter.entryOf) orphans (.ofText "functions") gone ∧
      ⟨Utf8.encode "Gone.JSON", "gone"⟩ ∈ orphans ∧ ⟨Utf8.encode "held.json", "held"⟩ ∈ orphans ∧
      Utf8.encode "alpha.json" ∉ orphans.map Orphan.file ∧
      gone.map Orphan.function = ["gone"] := by
  have told : ∀ d ∈ scripts, ∃ kind, d.kind = .ok kind := by
    intro d hd
    rw [scripts] at hd
    simp only [List.mem_cons, List.not_mem_nil, or_false] at hd
    rcases hd with rfl | rfl | rfl <;> exact ⟨_, rfl⟩
  have inside : Lists cluttered.world.volume (.ofText "secrets")
      ((clutter.entriesOf 1).map clutter.entryOf) := rfl
  obtain ⟨orphans, -, chosen, ⟨gone, purges⟩, kept⟩ :=
    (purge_removes_orphans (Guarded.unlinking (Tree.unlinking (.ofText "secrets") 1))
      (s := cluttered) rfl tidy_clutter (.ofText "functions")).2 scripts _ rfl told inside
  refine ⟨orphans, gone, purges, ?_, ?_, ?_, ?_⟩
  · have lowered : Text.lowerCase "Gone" = "gone" := by decide
    have secrets : IsSecretsName (Utf8.encode "Gone.JSON") "Gone" :=
      ⟨by decide, "JSON", by decide, rfl⟩
    refine (chosen _).2 ⟨⟨Utf8.encode "Gone.JSON", .ok .file⟩, ?_, rfl, ?_⟩
    · exact .tail _ (.head _)
    · exact lowered ▸ isOrphan_cluttered secrets (by decide)
  · have lowered : Text.lowerCase "held" = "held" := by decide
    have secrets : IsSecretsName (Utf8.encode "held.json") "held" :=
      ⟨by decide, "json", by decide, rfl⟩
    refine (chosen _).2 ⟨⟨Utf8.encode "held.json", .ok .file⟩, ?_, rfl, ?_⟩
    · exact .tail _ (.tail _ (.head _))
    · exact lowered ▸ isOrphan_cluttered secrets (by decide)
  · exact kept _ (.head _) (.inl rfl) "Alpha" "alpha" rfl rfl
  -- one orphan is gone, and the slot tells which
  · have single : gone.length = 1 :=
      Except.ok.inj (purges.answer.symm.trans tryPurge_cluttered)
    have inside : "gone" ∈ gone.map Orphan.function := by
      have slots := purges.slots "gone"
      rw [slot?_cluttered] at slots
      split at slots
      · assumption
      · cases slots
    obtain ⟨o, rfl⟩ := List.length_eq_one_iff.1 single
    rw [List.map_singleton, List.mem_singleton] at inside
    rw [List.map_singleton, inside]

end Lockbox.Store
