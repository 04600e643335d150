import Lockbox.Proofs.Key.Answer
import Lockbox.Proofs.Store.Creation
import Lockbox.Proofs.Volume.Tree.Creation

/-!
# Nothing is touched before it may be

A start finds out about the default key first (`Choice`), and stops there if the key cannot be used,
or if there is none where encryption is required. No file was touched then. One that goes on makes
directories and removes files, but makes no file (`Begun`) before it loads the keys of the host, and
goes as that load goes (`Start`). So a file that is new when the keys are ready is that of the host,
made by the load; and where encryption is required it holds sealed keys (`seals_of_ready`), which a
later start in the same environment reads (`ready_of_seals`):

    start_is_guarded : Settings.ofVariables vars = .ok s → Guarded vars random t s

Whether there is a default key, and whether it can be used, is read off the environment
(`Key.HasNoDefault`, `Key.HasUnusableDefault`).
-/

namespace Lockbox

namespace Key

variable {env : Environment} {hosting : Hosting}

/-- A default key is set up, but it is none: the variable that holds it holds no key, or is not
there though it is named. -/
def HasUnusableDefault (env : Environment) (hosting : Hosting) : Prop :=
  ∃ source, LeadsTo env hosting none source ∧
    (source.isRequired = true ∧ IsUnset env source.varName ∨
      ∃ value, Holds env source.varName value ∧ ¬IsKeyText (Text.trim value))

def HasNoDefault (env : Environment) (hosting : Hosting) : Prop :=
  IsUnset env overrideVariable ∧ IsUnset env (defaultVariable hosting)

/-- A source answers with an error in two cases only, and the environment tells which one it is. -/
theorem exists_error_iff_of_answers {source : Source} {answer : Except Error (Option Key)}
    (answered : Answers env source answer) :
    (∃ e, answer = .error e) ↔
      (source.isRequired = true ∧ IsUnset env source.varName ∨
        ∃ value, Holds env source.varName value ∧ ¬IsKeyText (Text.trim value)) := by
  cases answered with
  | missing unset required => exact ⟨fun _ => .inl ⟨required, unset⟩, fun _ => ⟨_, rfl⟩⟩
  | absent unset optional =>
    refine ⟨nofun, ?_⟩
    rintro (⟨required, -⟩ | ⟨value, set, -⟩)
    · cases optional.symm.trans required
    · exact absurd set (unset value)
  | unusable set malformed => exact ⟨fun _ => .inr ⟨_, set, malformed⟩, fun _ => ⟨_, rfl⟩⟩
  | @found value bytes set proper _ =>
    refine ⟨nofun, ?_⟩
    rintro (⟨-, unset⟩ | ⟨value', set', malformed⟩)
    · exact absurd set (unset value)
    -- a variable holds one value
    · obtain rfl : value = value' := Option.some.inj (set.1.symm.trans set'.1)
      exact absurd proper malformed

/-- The default key cannot be used exactly if it is set up and is none. -/
theorem resolve_none_eq_error_iff :
    (∃ fault, (resolve env hosting .empty none).1 = .error fault) ↔
      HasUnusableDefault env hosting := by
  have answered := exists_error_iff_of_answers (answers_resolve env hosting none)
  have told : (∃ fault, (resolve env hosting .empty none).1 = .error fault) ↔
      ∃ e, (resolve env hosting .empty none).1.mapError Fault.error = .error e := by
    cases (resolve env hosting .empty none).1 with
    | error fault => exact ⟨fun _ => ⟨_, rfl⟩, fun _ => ⟨_, rfl⟩⟩
    | ok found => exact ⟨nofun, nofun⟩
  rw [told, answered, HasUnusableDefault]
  constructor
  · exact fun bad => ⟨_, leadsTo_iff.2 rfl, bad⟩
  · rintro ⟨source, leads, bad⟩
    rwa [leadsTo_iff.1 leads]

end Key

def World.fresh (vars : Variables) (random : Entropy) (t : Tree) : World Tree :=
  ⟨vars.process, random, .empty, [], t⟩

namespace Service

variable {s : Settings} {w v : World Tree}

/-! ## The default key -/

/-- How it is found out about the default key. No file is touched. -/
inductive Choice (s : Settings) (w : World Tree) : Except StartFault Vault → World Tree → Prop
  | unusable {fault : Key.Fault} {v : World Tree}
    (found : w.find (Hosting.ofFlag s.hosted) none = .error fault)
    (quiet : w.Quiet (Hosting.ofFlag s.hosted) v) :
    Choice s w (.error (.unusableKey fault.error)) v
  | refused {v : World Tree} (found : w.find (Hosting.ofFlag s.hosted) none = .ok none)
    (required : s.requireEncryption = true) (quiet : w.Quiet (Hosting.ofFlag s.hosted) v) :
    Choice s w (.error .noEncryption) v
  | chosen {key : Option Key} {v : World Tree}
    (found : w.find (Hosting.ofFlag s.hosted) none = .ok key)
    (allowed : key = none → s.requireEncryption = false)
    (quiet : w.Quiet (Hosting.ofFlag s.hosted) v) :
    Choice s w (.ok ⟨Hosting.ofFlag s.hosted, key.isSome⟩) v

/-- What is chosen depends on the answer to one look-up, which leaves nothing behind but log
entries. -/
theorem choice (s : Settings) (w : World Tree) :
    Choice s w (chooseVault s w).1 (chooseVault s w).2 := by
  obtain ⟨v, hushed, runs⟩ :=
    (Action.told_resolveKey none : Action.Told (Hosting.ofFlag s.hosted) _ _) w
  dsimp only at runs
  rw [chooseVault, Vault.probe]
  cases found : w.find (Hosting.ofFlag s.hosted) none with
  | error fault =>
    rw [found] at runs
    rw [Action.run_bind_of_error runs]
    exact .unusable found hushed.toQuiet
  | ok key =>
    rw [found] at runs
    rw [Action.run_bind_of_ok runs]
    -- whether a key was found is told, and nothing else changes
    have logged : ∀ log, w.Quiet (Hosting.ofFlag s.hosted) { v with log := log } :=
      fun log => hushed.toQuiet.trans ⟨⟨rfl, rfl, id⟩, rfl⟩
    cases key with
    | some key =>
      refine .chosen found ?_ (logged _)
      intro absent
      cases absent
    | none =>
      show Choice s w (if s.requireEncryption then (_, _) else (_, _)).1
        (if s.requireEncryption then (_, _) else (_, _)).2
      cases required : s.requireEncryption with
      | true => exact .refused found required (logged _)
      | false => exact .chosen found (fun _ => required) (logged _)

/-! ## Up to the keys of the host -/

/-- The store whose keys of the host are loaded at the start, if the start gets as far. -/
def storeAtStart? (s : Settings) (w : World Tree) : Option (Store Tree) :=
  match chooseVault s { w with log := w.log ++ [starting s] } with
  | (.error _, _) => none
  | (.ok vault, w) =>
    match Store.openAt (Path.ofText s.secretsPath) vault w with
    | .error _ => none
    | .ok store =>
      match store.watch with
      | (.error _, _) => none
      | (.ok _, store) => some (purge s store)

/-- A store as it is at the start, before the keys of the host are loaded. No file was made. -/
structure Begun (s : Settings) (w : World Tree) (store : Store Tree) : Prop where
  path : store.path = Path.ofText s.secretsPath
  host : store.host = none
  vault : ∃ key, w.find (Hosting.ofFlag s.hosted) none = .ok key ∧
    (key = none → s.requireEncryption = false) ∧
    store.vault = ⟨Hosting.ofFlag s.hosted, key.isSome⟩
  onward : w.Onward (Hosting.ofFlag s.hosted) store.world
  makesNoFile : w.volume.MakesNoFile store.world.volume

theorem onward_of_openAt {path : Path} {vault : Vault} {store : Store Tree} (hosting : Hosting)
    (opened : Store.openAt path vault w = .ok store) :
    store = Store.ofWorld path vault store.world ∧ w.Onward hosting store.world ∧
      w.volume.MakesNoFile store.world.volume := by
  have made := Tree.makesNoFile_makeDirectories path w.volume
  rw [Store.openAt, Store.prepare, Action.run_bind_of_ok (Action.run_get w)] at opened
  cases done : Volume.makeDirectories path w.volume with
  | mk result volume =>
    rw [done] at opened made
    -- if the directory cannot be made, there is no store
    cases result with
    | error fault => cases opened
    | ok _ =>
      cases opened
      exact ⟨rfl, ⟨rfl, rfl, id⟩, made⟩

theorem makesNoFile_removeEach (dir : Path) (orphans : List Store.Orphan) (t : Tree) :
    t.MakesNoFile (Store.removeEach dir orphans t).2 := by
  -- on the orphans, as each one is removed from the tree that the others left
  induction orphans generalizing t with
  | nil => exact .refl t
  | cons orphan rest ih =>
    have first := Tree.makesNoFile_remove (dir.join orphan.file) t
    cases done : (Volume.remove (dir.join orphan.file) t).1 with
    | ok _ =>
      rw [Store.removeEach_of_ok done]
      exact first.trans (ih _)
    | error fault =>
      rw [Store.removeEach_of_error done]
      exact first.trans (ih _)

/-- A purge at the start, should there be a script root, only takes files away. -/
theorem begun_purge {store : Store Tree} (begun : Begun s w store) :
    Begun s w (purge s store) := by
  unfold purge
  split
  · exact begun
  · next root _ =>
    obtain ⟨orphans, log, left⟩ := Store.exists_pruned_of_purge store (Path.ofText root)
    have gone := makesNoFile_removeEach store.path orphans store.world.volume
    rw [left]
    exact ⟨begun.path, begun.host, begun.vault, begun.onward.trans ⟨rfl, rfl, id⟩,
      begun.makesNoFile.trans gone⟩

/-- Whatever was done before the keys are loaded: the vault was chosen, directories were made, and
the purge has removed files. -/
theorem begun_of_storeAtStart? {store : Store Tree} (h : storeAtStart? s w = some store) :
    Begun s w store := by
  have choice := choice s { w with log := w.log ++ [starting s] }
  unfold storeAtStart? at h
  split at h
  · cases h
  · next vault u chosen =>
    rw [chosen] at choice
    cases choice with
    | @chosen key _ found allowed quiet =>
      split at h
      · cases h
      · next store' opened =>
        obtain ⟨eq, onward, made⟩ := onward_of_openAt (Hosting.ofFlag s.hosted) opened
        split at h
        · cases h
        · next watch store'' watched =>
          cases h
          apply begun_purge
          -- the watch changes nothing but the log
          have kept : ∃ log, store'' = Store.ofWorld (Path.ofText s.secretsPath)
              ⟨Hosting.ofFlag s.hosted, key.isSome⟩ { store'.world with log := log } := by
            unfold Store.watch at watched
            split at watched
            · cases watched
            · cases watched
              rw [eq]
              exact ⟨_, rfl⟩
          obtain ⟨log, rfl⟩ := kept
          refine ⟨rfl, rfl, ⟨key, found, allowed, rfl⟩, ?_, ?_⟩
          · have started : w.Onward (Hosting.ofFlag s.hosted)
                { w with log := w.log ++ [starting s] } := ⟨rfl, rfl, id⟩
            have logged : store'.world.Onward (Hosting.ofFlag s.hosted)
                { store'.world with log := log } := ⟨rfl, rfl, id⟩
            exact (started.trans quiet.toOnward).trans (onward.trans logged)
          · rw [← quiet.volume] at made
            exact made

/-- How a start goes: it stops before any file is touched, or the store cannot be opened or
watched, or it goes as the load of the keys of the host goes. -/
inductive Start (s : Settings) (w : World Tree) : Except StartFault Unit → World Tree → Prop
  | stopped {fault : StartFault} {v : World Tree}
    (stops : chooseVault s { w with log := w.log ++ [starting s] } = (.error fault, v)) :
    Start s w (.error fault) v
  | unopened {e : Error} {v : World Tree} (halts : storeAtStart? s w = none) :
    Start s w (.error (.store e)) v
  | failed {store : Store Tree} {e : Error} {v : World Tree}
    (begun : storeAtStart? s w = some store) (fails : store.hostKeys.1 = .error e)
    (unchanged : v.volume = store.hostKeys.2.world.volume) : Start s w (.error (.host e)) v
  | ready {store : Store Tree} {keys : Loaded HostKeys} {v : World Tree}
    (begun : storeAtStart? s w = some store) (loads : store.hostKeys.1 = .ok keys)
    (unchanged : v.volume = store.hostKeys.2.world.volume) : Start s w (.ok ()) v

/-- Every start goes in one of these ways. -/
theorem start (s : Settings) (w : World Tree) : Start s w (run s w).1 (run s w).2 := by
  cases chosen : chooseVault s { w with log := w.log ++ [starting s] } with
  | mk answer u =>
    rw [run, chosen]
    cases answer with
    | error fault => exact .stopped chosen
    | ok vault =>
      dsimp only
      cases opened : Store.openAt (Path.ofText s.secretsPath) vault u with
      | error failed =>
        have halts : storeAtStart? s w = none := by
          rw [storeAtStart?, chosen]
          dsimp only
          rw [opened]
        rw [openStore, opened]
        exact .unopened halts
      | ok store =>
        cases watched : store.watch with
        | mk watch store' =>
          cases watch with
          | error e =>
            have halts : storeAtStart? s w = none := by
              rw [storeAtStart?, chosen]
              dsimp only
              rw [opened]
              dsimp only
              rw [watched]
            rw [openStore, opened]
            dsimp only
            rw [watched]
            exact .unopened halts
          | ok watch =>
            -- from here on the start is the load
            have begun : storeAtStart? s w = some (purge s store') := by
              rw [storeAtStart?, chosen]
              dsimp only
              rw [opened]
              dsimp only
              rw [watched]
            rw [openStore, opened]
            dsimp only
            rw [watched]
            dsimp only
            cases loads : (purge s store').hostKeys with
            | mk result after =>
              cases result with
              | error e => exact .failed begun (by rw [loads]) (by rw [loads])
              | ok keys => exact .ready begun (by rw [loads]) (by rw [loads]; rfl)

/-- A start that gets as far goes as the load of the keys of the host goes. -/
theorem run_of_begun {store : Store Tree} (begun : storeAtStart? s w = some store) :
    (run s w).2.volume = store.hostKeys.2.world.volume ∧
      ((run s w).1 = .ok () ↔ ∃ keys, store.hostKeys.1 = .ok keys) := by
  have start := start s w
  cases goes : run s w with
  | mk result after =>
    rw [goes] at start
    cases start with
    | stopped stops =>
      rw [storeAtStart?, stops] at begun
      cases begun
    | unopened halts => cases halts.symm.trans begun
    | failed again fails unchanged =>
      obtain rfl := Option.some.inj (begun.symm.trans again)
      exact ⟨unchanged, nofun, fun ⟨_, loads⟩ => nomatch fails.symm.trans loads⟩
    | ready again loads unchanged =>
      obtain rfl := Option.some.inj (begun.symm.trans again)
      exact ⟨unchanged, fun _ => ⟨_, loads⟩, fun _ => rfl⟩

end Service

/-- Faults that stop the start before the store is opened. -/
def StartFault.IsEarly : StartFault → Prop
  | .unusableKey _ => True
  | .noEncryption => True
  | _ => False

namespace Service

variable {fault : StartFault}

/-- A start that stops early leaves the files as they are. -/
theorem volume_of_isEarly (early : fault.IsEarly) (stops : (run s w).1 = .error fault) :
    (run s w).2.volume = w.volume := by
  have start := start s w
  rw [stops] at start
  generalize (run s w).2 = v at start
  cases start with
  | stopped stops =>
    -- only a choice stops early, and it touches no file
    have choice := choice s { w with log := w.log ++ [starting s] }
    rw [stops] at choice
    cases choice with
    | unusable _ quiet => exact quiet.volume.symm
    | refused _ _ quiet => exact quiet.volume.symm
  | unopened => cases early
  | failed => cases early

/-- A start stops early exactly if the default key does not allow it to go on. -/
theorem stops_iff_of_isEarly (early : fault.IsEarly) : (run s w).1 = .error fault ↔
    (chooseVault s { w with log := w.log ++ [starting s] }).1 = .error fault := by
  constructor
  · intro stops
    have start := start s w
    rw [stops] at start
    cases start with
    | stopped stops => rw [stops]
    | unopened => cases early
    | failed => cases early
  · intro stops
    rw [run]
    split
    · next other _ chosen =>
      rw [chosen] at stops
      exact congrArg Except.error (Except.error.inj stops)
    · next chosen =>
      rw [chosen] at stops
      cases stops

/-- A start stops at the key if the look-up ends with a fault. -/
theorem stops_at_key_iff :
    (∃ e, (run s w).1 = .error (.unusableKey e)) ↔
      ∃ fault, w.find (Hosting.ofFlag s.hosted) none = .error fault := by
  have choice := choice s { w with log := w.log ++ [starting s] }
  have early : ∀ e, (StartFault.unusableKey e).IsEarly := fun _ => trivial
  simp only [stops_iff_of_isEarly (early _)]
  generalize (chooseVault s { w with log := w.log ++ [starting s] }).1 = answer at choice
  cases choice with
  | unusable found => exact ⟨fun _ => ⟨_, found⟩, fun _ => ⟨_, rfl⟩⟩
  | refused found => exact ⟨nofun, fun ⟨_, fails⟩ => nomatch found.symm.trans fails⟩
  | chosen found => exact ⟨nofun, fun ⟨_, fails⟩ => nomatch found.symm.trans fails⟩

theorem stops_unencrypted_iff : (run s w).1 = .error .noEncryption ↔
    s.requireEncryption = true ∧ w.find (Hosting.ofFlag s.hosted) none = .ok none := by
  have choice := choice s { w with log := w.log ++ [starting s] }
  have early : StartFault.noEncryption.IsEarly := trivial
  rw [stops_iff_of_isEarly early]
  generalize (chooseVault s { w with log := w.log ++ [starting s] }).1 = answer at choice
  cases choice with
  | unusable found => exact ⟨nofun, fun ⟨_, missing⟩ => nomatch found.symm.trans missing⟩
  | refused found required => exact ⟨fun _ => ⟨required, found⟩, fun _ => rfl⟩
  | @chosen key _ found allowed =>
    refine ⟨nofun, ?_⟩
    rintro ⟨required, missing⟩
    cases found.symm.trans missing
    cases (allowed rfl).symm.trans required

/-! ## New keys -/

/-- A text is a current document of sealed keys of the host, which can be read where ids lead as
given. -/
structure Seals (find : Key.Lookup) (text : String) (secrets : HostSecrets) (keys : HostKeys) :
    Prop where
  reads : Document.readHost text = .ok ⟨.structured, secrets⟩
  opens : Load.SealedHost find secrets keys
  given : Load.hostValues find secrets = .ok keys

/-- Where there is no file of the host, keys that are loaded were sealed and written. -/
theorem seals_of_missing {store : Store Tree} {loaded : Loaded HostKeys}
    (encrypts : store.vault.encrypts = true) (sound : store.world.keys.Sound)
    (empty : store.host = none) (loads : store.hostKeys.1 = .ok loaded)
    (missing : Load.textAt store.world.volume (Scope.host.file store.path) = .ok none) :
    ∃ text secrets, Seals (store.world.find store.vault.hosting) text secrets loaded.value ∧
      Volume.write (Scope.host.file store.path) (Utf8.encode text) store.world.volume =
        (.ok (), store.hostKeys.2.world.volume) := by
  have reliable := @Load.reliable_host Tree store.vault
  cases goes : (Load.host store.vault store.path).run.run store.world with
  | mk answer v =>
    obtain ⟨result, slot, runs, answers, -⟩ := Store.hostKeys_of_empty empty goes
    rw [runs] at loads ⊢
    obtain rfl : result = .ok loaded := loads
    cases made : (Generation.host store.vault).run.run store.world with
    | mk generated u =>
      cases generated with
      | error e =>
        -- without secrets there are no keys either
        have fails : ((Load.hostForm store.vault).generate.run.run store.world).1 = .error e :=
          congrArg Prod.fst made
        obtain ⟨rfl, -⟩ := Load.barren_of_missing reliable missing fails goes
        cases answers
      | ok secrets =>
        obtain ⟨text, keys, done, reads, given, written, answered⟩ :=
          Load.created_of_missing reliable sound missing made goes
        obtain ⟨master, functions⟩ := Generation.isEncrypted_of_host encrypts made
        -- keys that are served were written
        cases done with
        | error fault => cases answers.trans answered
        | ok _ =>
          obtain rfl : loaded.value = keys := Except.ok.inj (answers.trans answered)
          exact ⟨text, secrets, ⟨reads, Load.sealedHost_of_values master functions given, given⟩,
            written⟩

/-- Sealed keys that are found are loaded again, and the files are left as they are. -/
theorem hostKeys_of_seals {store : Store Tree} {text : String} {secrets : HostSecrets}
    {keys : HostKeys} (seals : Seals (store.world.find store.vault.hosting) text secrets keys)
    (empty : store.host = none) (stored : Volume.read store.world.volume
      (Scope.host.file store.path) = .ok (Utf8.encode text)) :
    store.hostKeys.1.map Loaded.value = .ok keys ∧
      store.hostKeys.2.world.volume = store.world.volume := by
  have reads : Load.textAt store.world.volume (Scope.host.file store.path) = .ok (some text) := by
    rw [Load.textAt, stored]
    dsimp only
    rw [Utf8.decode_encode]
  have settled : Load.Settled store.vault.hosting (Load.hostForm store.vault) Load.hostValues
      (Scope.host.file store.path) store.world keys := by
    refine ⟨text, _, reads, seals.reads, seals.given, ?_⟩
    intro old
    rw [Document.isOutdated_structured] at old
    cases old
  obtain ⟨v, hushed, goes⟩ := Load.run_of_settled (Load.reliable_host store.vault) settled
  obtain ⟨result, slot, runs, answers, -⟩ := Store.hostKeys_of_empty empty goes
  rw [runs]
  exact ⟨answers, hushed.volume.symm⟩

/-- Where a start gets ready that must encipher, a file that was not there before is that of the
host, and holds sealed keys. -/
theorem seals_of_ready {v : World Tree} (sound : w.keys.Sound)
    (required : s.requireEncryption = true) (ready : run s w = (.ok (), v)) {n : FileNumber}
    (file : v.volume.IsFile n) (new : w.volume.node? n = none) :
    ∃ text secrets keys, Seals (w.find (Hosting.ofFlag s.hosted)) text secrets keys ∧
      Volume.read v.volume (Scope.host.file (Path.ofText s.secretsPath)) =
        .ok (Utf8.encode text) := by
  have start := start s w
  rw [ready] at start
  cases start with
  | @ready store loaded _ begun loads unchanged =>
    have begun := begun_of_storeAtStart? begun
    obtain ⟨key, found, allowed, vault⟩ := begun.vault
    have hosting : store.vault.hosting = Hosting.ofFlag s.hosted := by rw [vault]
    have encrypts : store.vault.encrypts = true := by
      rw [vault]
      cases key with
      | some key => rfl
      | none => cases (allowed rfl).symm.trans required
    rw [← begun.path]
    rw [unchanged] at file ⊢
    -- either the load has made the file, or it was there and the load has made none
    by_cases missing : Load.textAt store.world.volume (Scope.host.file store.path) = .ok none
    · obtain ⟨text, secrets, seals, written⟩ := seals_of_missing encrypts
        (begun.onward.sound sound) begun.host loads missing
      rw [hosting, ← begun.onward.find] at seals
      refine ⟨text, secrets, loaded.value, seals, ?_⟩
      exact Tree.read_of_written (Load.textAt_eq_none_iff.1 missing) written
    · -- what was there before is no new file
      have old : w.volume.IsFile n := by
        apply begun.makesNoFile
        rcases Store.makesNone_of_access (Store.access_hostKeys store) (.inr missing) with
          kept | ⟨text, bytes, stored, written⟩
        · exact kept ▸ file
        · refine Tree.makesNoFile_write ?_ bytes n (written ▸ file)
          rw [Load.textAt_eq_some_iff.1 stored]
          exact nofun
      obtain ⟨_, _, node⟩ := old
      cases new.symm.trans node

/-- A start that finds a default key but no file of the host makes one, if it can be written. -/
theorem ready_of_missing {store : Store Tree} {key : Key} (begun : storeAtStart? s w = some store)
    (sound : w.keys.Sound) (found : w.find (Hosting.ofFlag s.hosted) none = .ok (some key))
    (missing : Load.textAt store.world.volume (Scope.host.file store.path) = .ok none)
    (writes : ∀ bytes,
      (Volume.write (Scope.host.file store.path) bytes store.world.volume).1 = .ok ()) :
    ∃ text, (run s w).1 = .ok () ∧ (run s w).2.volume =
      (Volume.write (Scope.host.file store.path) (Utf8.encode text) store.world.volume).2 := by
  have facts := begun_of_storeAtStart? begun
  obtain ⟨key', found', -, vault⟩ := facts.vault
  obtain rfl : some key = key' := Except.ok.inj (found.symm.trans found')
  have encrypts : store.vault.encrypts = true := by rw [vault]; rfl
  have finds : store.world.find store.vault.hosting none = .ok (some key) := by
    rw [vault, ← facts.onward.find]
    exact found
  -- nothing was refused, since there is a default key to encipher under
  have granted : ¬ ∃ e, Generation.Refused store.vault [masterKeyName, hostFunctionKeyName]
      store.world e := fun ⟨_, refused⟩ =>
    Generation.not_refused_of_found (facts.onward.sound sound) finds refused
  obtain ⟨text, d, keys, done, -, -, -, written, answers, -⟩ :=
    (Store.sealing_hostKeys encrypts (facts.onward.sound sound) facts.host missing).created granted
  obtain rfl : .ok () = done := by
    rw [← writes (Utf8.encode text)]
    exact congrArg Prod.fst written
  obtain ⟨volume, ready⟩ := run_of_begun begun
  refine ⟨text, ready.2 (exists_ok_of_map_eq_ok answers), ?_⟩
  rw [volume, written]

/-! ## The whole run -/

/-- What a run of the service with usable settings does to files, in an environment and a tree. -/
structure Guarded (vars : Variables) (random : Entropy) (t : Tree) (s : Settings) : Prop where
  /-- It stops at a default key exactly if there is one that cannot be used. -/
  unusable : (∃ e, (run s (.fresh vars random t)).1 = .error (.unusableKey e)) ↔
    Key.HasUnusableDefault vars.process (Hosting.ofFlag s.hosted)
  /-- It stops for want of encryption exactly if that is required and there is no default key. -/
  unencrypted : (run s (.fresh vars random t)).1 = .error .noEncryption ↔
    s.requireEncryption = true ∧ Key.HasNoDefault vars.process (Hosting.ofFlag s.hosted)
  /-- A run that stops for one of these reasons leaves the tree as it was. -/
  untouched : ∀ fault : StartFault, fault.IsEarly →
    (run s (.fresh vars random t)).1 = .error fault →
    (outcome vars (.fresh vars random t)).exitCode = 1 ∧
      (outcome vars (.fresh vars random t)).world.volume = t
  /-- Where encryption is required, a file of the host that is new when the keys are ready is a
  current document of sealed keys, and a later run that finds it serves them. -/
  seals : s.requireEncryption = true → (run s (.fresh vars random t)).1 = .ok () →
    ∀ n, (outcome vars (.fresh vars random t)).world.volume.resolve
        (Scope.host.file (Path.ofText s.secretsPath)) = .ok n →
      (outcome vars (.fresh vars random t)).world.volume.IsFile n → t.node? n = none →
    ∃ text d keys, Volume.read (outcome vars (.fresh vars random t)).world.volume
        (Scope.host.file (Path.ofText s.secretsPath)) = .ok (Utf8.encode text) ∧
      Document.readHost text = .ok d ∧ d.version.number = 1 ∧
      Load.SealedHost ((World.fresh vars random t).find (Hosting.ofFlag s.hosted)) d.secrets keys ∧
      ∀ (random' : Entropy) (t' : Tree) (store : Store Tree),
        storeAtStart? s (.fresh vars random' t') = some store →
        Volume.read store.world.volume (Scope.host.file store.path) = .ok (Utf8.encode text) →
        store.hostKeys.1.map Loaded.value = .ok keys ∧
          (outcome vars (.fresh vars random' t')).exitCode = 0 ∧
          (outcome vars (.fresh vars random' t')).world.volume = store.world.volume

/-- With usable settings the process ends as the start ends, whatever filter its log gets. -/
theorem outcome_of_settings {vars : Variables} (usable : Settings.ofVariables vars = .ok s)
    (w : World Tree) : (outcome vars w).world = (run s w).2 ∧
      ((outcome vars w).exitCode = 0 ↔ (run s w).1 = .ok ()) ∧
      ∀ fault, (run s w).1 = .error fault → (outcome vars w).exitCode = 1 := by
  rw [outcome, usable]
  dsimp only
  cases filterOf w.environment s with
  | mk filter remarks =>
    cases run s w with
    | mk result after =>
      cases result with
      | ok _ => simp
      | error fault => simp

/-- A later run that finds sealed keys serves them, and leaves them as they are. -/
theorem ready_of_seals {vars : Variables} (usable : Settings.ofVariables vars = .ok s)
    {text : String} {secrets : HostSecrets} {keys : HostKeys} {store : Store Tree}
    (seals : Seals (w.find (Hosting.ofFlag s.hosted)) text secrets keys)
    (begun : storeAtStart? s w = some store)
    (stored : Volume.read store.world.volume (Scope.host.file store.path) =
      .ok (Utf8.encode text)) :
    store.hostKeys.1.map Loaded.value = .ok keys ∧ (outcome vars w).exitCode = 0 ∧
      (outcome vars w).world.volume = store.world.volume := by
  have facts := begun_of_storeAtStart? begun
  obtain ⟨key, -, -, vault⟩ := facts.vault
  have hosting : store.vault.hosting = Hosting.ofFlag s.hosted := by rw [vault]
  rw [facts.onward.find, ← hosting] at seals
  obtain ⟨served, kept⟩ := hostKeys_of_seals seals facts.host stored
  obtain ⟨world, ready, -⟩ := outcome_of_settings usable w
  obtain ⟨volume, loads⟩ := run_of_begun begun
  rw [ready, loads, world, volume]
  exact ⟨served, exists_ok_of_map_eq_ok served, kept⟩

/-- The start of the service fails before it touches any file if its settings are wrong, if its
default key cannot be used, or if it has none and has to encipher; and where it has to encipher, the
keys of the host that it makes are sealed, and later starts serve them. -/
theorem start_is_guarded (vars : Variables) (random : Entropy) (t : Tree) :
    (∀ fault, Settings.ofVariables vars = .error fault →
      (outcome vars (.fresh vars random t)).exitCode = 1 ∧
        (outcome vars (.fresh vars random t)).world.volume = t) ∧
    ∀ s, Settings.ofVariables vars = .ok s → Guarded vars random t s := by
  constructor
  · intro fault wrong
    rw [outcome, wrong]
    exact ⟨rfl, rfl⟩
  · intro s usable
    obtain ⟨world, ready, stopped⟩ := outcome_of_settings usable (.fresh vars random t)
    constructor
    -- both faults are read off the look-up of the default key
    · rw [stops_at_key_iff]
      exact Key.resolve_none_eq_error_iff
    · rw [stops_unencrypted_iff]
      exact and_congr_right fun _ => Key.resolve_none_eq_ok_none_iff
    · intro fault early stops
      rw [world]
      exact ⟨stopped fault stops, volume_of_isEarly early stops⟩
    · intro required done n _ file new
      rw [world] at file ⊢
      obtain ⟨text, secrets, keys, seals, stored⟩ := @seals_of_ready s (.fresh vars random t) _
        KeyCache.sound_empty required (Prod.ext done rfl) n file new
      refine ⟨text, _, keys, stored, seals.reads, rfl, seals.opens, ?_⟩
      intro random' t' store begun found
      exact ready_of_seals usable seals begun found

def strict : Variables := [("SECRETS_PATH", "secrets"), ("REQUIRE_ENCRYPTION", "true")]

/-- An environment that requires encryption and has a default key for it. -/
def strictKeyed : Variables := strict ++ [(Key.localVariable, "000102030405060708090a0b0c0d0e0f")]

/-- What such an environment sets. -/
def strictSettings : Settings := ⟨"secrets", none, false, true, none, "info"⟩

theorem ofVariables_strict : Settings.ofVariables strict = .ok strictSettings ∧
    Settings.ofVariables strictKeyed = .ok strictSettings := by decide +kernel

/-- The tree when the secrets directory was made. -/
def secretsTree : Tree where
  nodes := #[.directory Tree.directoryMode 0 [(Utf8.encode "secrets", 1)],
    .directory Tree.directoryMode 0 []]
  touches := [⟨0, Utf8.encode "secrets", 1, .created⟩]

/-- With a key the start gets as far as the keys of the host. -/
theorem storeAtStart?_strictKeyed : ∃ store,
    storeAtStart? strictSettings (.fresh strictKeyed .counting .empty) = some store ∧
      store.world.volume = secretsTree := ⟨_, rfl, rfl⟩

theorem resolve_written (bytes : List UInt8) :
    (Volume.write (Scope.host.file (.ofText "secrets")) bytes secretsTree).2.resolve
      (Scope.host.file (.ofText "secrets")) = .ok 2 := rfl

theorem isFile_written (bytes : List UInt8) :
    (Volume.write (Scope.host.file (.ofText "secrets")) bytes secretsTree).2.IsFile 2 :=
  ⟨Tree.fileMode, bytes, rfl⟩

/-- The start makes it and gets ready. -/
theorem ready_strictKeyed : ∃ text,
    (run strictSettings (.fresh strictKeyed .counting .empty)).1 = .ok () ∧
      (run strictSettings (.fresh strictKeyed .counting .empty)).2.volume =
        (Volume.write (Scope.host.file (.ofText "secrets")) (Utf8.encode text) secretsTree).2 := by
  obtain ⟨store, begun, volume⟩ := storeAtStart?_strictKeyed
  have path := (begun_of_storeAtStart? begun).path
  have found : (World.fresh strictKeyed .counting .empty).find .onPremises none =
      .ok (some ⟨Key.defaultId, Blob.firstBytes⟩) := by decide +kernel
  rw [← volume, show Path.ofText "secrets" = store.path from path.symm]
  apply ready_of_missing begun KeyCache.sound_empty found
  · rw [volume, path]
    rfl
  · intro bytes
    rw [volume, path]
    rfl

/-- Without a default key the start is refused and leaves nothing behind; with one, the keys of the
host are sealed. -/
theorem start_is_guarded_strict :
    ((outcome strict (.fresh strict .counting .empty)).exitCode = 1 ∧
      (outcome strict (.fresh strict .counting .empty)).world.volume = .empty) ∧
    ∃ text d keys, Volume.read
        (outcome strictKeyed (.fresh strictKeyed .counting .empty)).world.volume
        (Scope.host.file (.ofText "secrets")) = .ok (Utf8.encode text) ∧
      Document.readHost text = .ok d ∧ d.version.number = 1 ∧
      Load.SealedHost ((World.fresh strictKeyed .counting .empty).find .onPremises) d.secrets
        keys := by
  obtain ⟨bare, keyed⟩ := ofVariables_strict
  constructor
  · have guarded := (start_is_guarded strict .counting .empty).2 strictSettings bare
    -- without a key the run is short enough to be evaluated
    have refused : (run strictSettings (.fresh strict .counting .empty)).1 =
        .error .noEncryption := by decide +kernel
    exact guarded.untouched .noEncryption trivial refused
  · have guarded := (start_is_guarded strictKeyed .counting .empty).2 strictSettings keyed
    obtain ⟨text, ready, volume⟩ := ready_strictKeyed
    have world := (outcome_of_settings keyed (.fresh strictKeyed .counting .empty)).1
    obtain ⟨text, d, keys, stored, reads, version, opens, -⟩ := guarded.seals rfl ready 2
      (by rw [world, volume]; exact resolve_written _)
      (by rw [world, volume]; exact isFile_written _) rfl
    exact ⟨text, d, keys, stored, reads, version, opens⟩

end Service

end Lockbox
