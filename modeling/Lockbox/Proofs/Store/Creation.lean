import Mathlib.Data.List.Forall2
import Lockbox.Proofs.Store.Generation
import Lockbox.Proofs.Store.Journey
import Lockbox.Proofs.Store.Transparency
import Lockbox.Service

/-!
# New keys are sealed

A store that enciphers makes a file in one way only: an access finds no file, and what it writes is
a document of the current version in which every key is sealed and opens to the value that is then
served. If a key cannot be sealed nothing is written, and the access fails. This holds after any
run, whatever becomes of the environment and the files meanwhile:

    new_keys_sealed : ((ofWorld dir vault w).journey turns).SealsNewKeys

What else a store does to files is to rewrite documents that are there, and to remove orphans.
-/

namespace Lockbox

namespace Load

variable {σ α β : Type} [Volume σ] {hosting : Hosting} {form : Form σ α} {finish : α → Action σ β}
  {values : Key.Lookup → α → Except Error β} {p : Path} {w v : World σ} {answer : Except Error β}

theorem run_document_of_barren {u : World σ} {e : Error} (missing : textAt w.volume p = .ok none)
    (fails : form.generate.run.run w = (.error e, u)) :
    (document form p).run.run w = (.error e, u) := by
  rw [document, Action.run_bind_of_ok ((run_readIfThere p w).trans (by rw [missing]))]
  exact Action.run_bind_of_error fails _

/-- Whatever becomes of the write, it is the only one. -/
theorem run_document_of_generated {u : World σ} {secrets : α} {text : String}
    (missing : textAt w.volume p = .ok none)
    (generates : form.generate.run.run w = (.ok secrets, u))
    (writes : form.write secrets = .ok text) :
    ∃ log, (document form p).run.run w =
      (((Volume.write p (Utf8.encode text) u.volume).1.mapError (Error.file p)).map
        fun _ => secrets, stored p text log u) := by
  have runs := run_writeText p text u
  rw [document, Action.run_bind_of_ok ((run_readIfThere p w).trans (by rw [missing]))]
  dsimp only
  rw [Action.run_bind_of_ok generates, writes, Action.run_bind_of_ok (run_liftFormat text u)]
  cases done : (Volume.write p (Utf8.encode text) u.volume).1 with
  | ok _ =>
    rw [done] at runs
    rw [Action.run_bind_of_ok runs]
    exact ⟨_, rfl⟩
  | error fault =>
    rw [done] at runs
    rw [Action.run_bind_of_error runs]
    exact ⟨_, rfl⟩

theorem barren_of_missing (reliable : Reliable hosting form finish values)
    (missing : textAt w.volume p = .ok none) {e : Error}
    (fails : (form.generate.run.run w).1 = .error e)
    (loads : (opened form p finish).run.run w = (answer, v)) :
    answer = .error e ∧ v.volume = w.volume := by
  cases generated : form.generate.run.run w with
  | mk given u =>
    rw [generated] at fails
    obtain rfl : given = .error e := fails
    have opens := run_document_of_barren missing generated
    rw [opened, Action.run_bind_of_error opens] at loads
    obtain ⟨rfl, rfl⟩ := Prod.mk.inj loads
    exact ⟨rfl, (reliable.orderly.quiet_of_run generated).volume.symm⟩

/-- Where there is no file, and keys are made, they are written, and served if they could be. -/
theorem created_of_missing (reliable : Reliable hosting form finish values)
    (sound : w.keys.Sound) (missing : textAt w.volume p = .ok none) {u : World σ} {secrets : α}
    (generates : form.generate.run.run w = (.ok secrets, u))
    (loads : (opened form p finish).run.run w = (answer, v)) :
    ∃ text b done, form.read text = .ok ⟨.structured, secrets⟩ ∧
      values (w.find hosting) secrets = .ok b ∧
      Volume.write p (Utf8.encode text) w.volume = (done, v.volume) ∧
      answer = (done.mapError (Error.file p)).map fun _ => b := by
  obtain ⟨text, writes, reads⟩ := reliable.rereads secrets
  obtain ⟨log, opens⟩ := run_document_of_generated missing generates writes
  obtain ⟨b, given⟩ := reliable.generated w u secrets sound generates
  have quiet := reliable.orderly.quiet_of_run generates
  rw [← quiet.volume] at opens
  have after : (stored p text log u).volume = (Volume.write p (Utf8.encode text) w.volume).2 := by
    rw [quiet.volume]
    rfl
  refine ⟨text, b, (Volume.write p (Utf8.encode text) w.volume).1, reads, given, ?_⟩
  -- the keys are served only if the write was done
  cases done : (Volume.write p (Utf8.encode text) w.volume).1 with
  | error fault =>
    rw [done] at opens
    rw [opened, Action.run_bind_of_error opens] at loads
    obtain ⟨rfl, rfl⟩ := Prod.mk.inj loads
    exact ⟨Prod.ext done after.symm, rfl⟩
  | ok _ =>
    rw [done] at opens
    obtain ⟨v', hushed, runs⟩ := run_opened_of_ok reliable opens
    -- ids lead where they led before the keys were made
    have find : (stored p text log u).find hosting = w.find hosting := quiet.find.symm
    rw [runs, find, given] at loads
    obtain ⟨rfl, rfl⟩ := Prod.mk.inj loads
    exact ⟨Prod.ext done (after.symm.trans hushed.volume), rfl⟩

/-- Where there is a file, or what is there cannot be read, a load makes none: at most it rewrites
the document that is there. -/
theorem kept_or_rewritten (reliable : Reliable hosting form finish values)
    (present : textAt w.volume p ≠ .ok none)
    (loads : (opened form p finish).run.run w = (answer, v)) :
    v.volume = w.volume ∨ ∃ text bytes, textAt w.volume p = .ok (some text) ∧
      v.volume = (Volume.write p bytes w.volume).2 := by
  obtain ⟨given, u, opens, hushed, -⟩ := exists_opening_of_load reliable loads
  rw [← hushed.volume]
  -- by how the document is opened: three of the ways call for there being no file
  cases opens with
  | unreadable => exact .inl rfl
  | current => exact .inl rfl
  | outdated present => exact .inr ⟨_, _, present, rfl⟩
  | barren missing => exact absurd missing present
  | unwritable missing => exact absurd missing present
  | made missing => exact absurd missing present

/-! ## Sealed documents -/

/-- The names of sealed secrets, and the values that they open to. -/
def SealedTable (find : Key.Lookup) (secrets : List Secret) (table : KeyTable) : Prop :=
  List.Forall₂ (fun s entry => entry.1 = s.name ∧ Vault.Sealed find s entry.2) secrets table

/-- Sealed secrets of the host, and the values that they open to. -/
structure SealedHost (find : Key.Lookup) (secrets : HostSecrets) (keys : HostKeys) : Prop where
  masterKey : Vault.Sealed find secrets.masterKey keys.masterKey
  functionKeys : SealedTable find secrets.functionKeys keys.functionKeys

variable {find : Key.Lookup}

/-- Encrypted secrets that can be read are sealed, each with its value. -/
theorem sealedTable_of_values {seen : List String} {secrets : List Secret} {table : KeyTable}
    (encrypted : ∀ s ∈ secrets, s.isEncrypted = true)
    (given : tableAfter find seen secrets = .ok table) : SealedTable find secrets table := by
  -- on the secrets, each of which is encrypted
  induction secrets generalizing seen table with
  | nil =>
    cases given
    exact .nil
  | cons s rest ih =>
    rw [tableAfter] at given
    split at given
    · cases given
    · obtain ⟨value, opens, given⟩ := exists_of_bind_eq_ok given
      obtain ⟨others, later, given⟩ := exists_of_bind_eq_ok given
      cases given
      have first := Vault.sealed_of_plainValue (encrypted s List.mem_cons_self) opens
      exact .cons ⟨rfl, first⟩ (ih (fun t mem => encrypted t (List.mem_cons_of_mem s mem)) later)

theorem sealedHost_of_values {secrets : HostSecrets} {keys : HostKeys}
    (master : secrets.masterKey.isEncrypted = true)
    (functions : ∀ s ∈ secrets.functionKeys, s.isEncrypted = true)
    (given : hostValues find secrets = .ok keys) : SealedHost find secrets keys := by
  obtain ⟨value, opens, given⟩ := exists_of_bind_eq_ok given
  obtain ⟨table, later, given⟩ := exists_of_bind_eq_ok given
  cases given
  exact ⟨Vault.sealed_of_plainValue master opens, sealedTable_of_values functions later⟩

end Load

namespace Store

variable {σ α β : Type} [Volume σ]

/-- How an access to a scope goes that finds no file, by the names of the keys that are made, and
what a document of the scope is. -/
structure Sealing (s : Store σ) (scope : Scope) (names : List String)
    (read : String → Except FormatFault (Document.Decoded α))
    (isSealed : Key.Lookup → α → β → Prop) (answer : Except Error β) (after : σ) : Prop where
  /-- If one of the keys cannot be sealed, the access fails and no file is touched. -/
  refused : ∀ e, Generation.Refused s.vault names s.world e →
    answer = .error e ∧ after = s.world.volume
  /-- Otherwise a current document of sealed keys is written, and their values are served, unless
  the write fails. In a steady directory the file then holds that document, or is not made. -/
  created : (¬ ∃ e, Generation.Refused s.vault names s.world e) →
    ∃ text d keys done, read text = .ok d ∧ d.version.number = 1 ∧
      isSealed (s.world.find s.vault.hosting) d.secrets keys ∧
      Volume.write (scope.file s.path) (Utf8.encode text) s.world.volume = (done, after) ∧
      answer = (done.mapError (Error.file (scope.file s.path))).map (fun _ => keys) ∧
      ∀ steady : Steady σ s.path, steady.Fit s.world.volume →
        (done = .ok () → Load.textAt after (scope.file s.path) = .ok (some text)) ∧
        ∀ fault, done = .error fault → after = s.world.volume

/-- No file of a scope was made: nothing was touched, or a document that was there is rewritten. -/
def MakesNone (s : Store σ) (scope : Scope) (after : σ) : Prop :=
  after = s.world.volume ∨ ∃ text bytes,
    Load.textAt s.world.volume (scope.file s.path) = .ok (some text) ∧
    after = (Volume.write (scope.file s.path) bytes s.world.volume).2

/-- All that a store does to files: where there is no file it makes one of sealed keys or none, and
otherwise it makes none. -/
structure SealsNewKeys (s : Store σ) : Prop where
  host : s.host = none → Load.textAt s.world.volume (Scope.host.file s.path) = .ok none →
    Sealing s .host [masterKeyName, hostFunctionKeyName] Document.readHost Load.SealedHost
      (s.hostKeys.1.map Loaded.value) s.hostKeys.2.world.volume
  host_otherwise :
    s.host ≠ none ∨ Load.textAt s.world.volume (Scope.host.file s.path) ≠ .ok none →
    MakesNone s .host s.hostKeys.2.world.volume
  function : ∀ name n, Scope.ofFunction name = .ok n → (s.slot? n).getD .empty = none →
    Load.textAt s.world.volume ((Scope.function n).file s.path) = .ok none →
    Sealing s (.function n) [defaultKeyName] Document.readFunction Load.SealedTable
      ((s.functionKeys name).1.map Loaded.value) (s.functionKeys name).2.world.volume
  function_otherwise : ∀ name n, Scope.ofFunction name = .ok n →
    (s.slot? n).getD .empty ≠ none ∨
      Load.textAt s.world.volume ((Scope.function n).file s.path) ≠ .ok none →
    MakesNone s (.function n) (s.functionKeys name).2.world.volume
  function_refused : ∀ name e, Scope.ofFunction name = .error e →
    s.functionKeys name = (.error e, s)
  /-- A purge only removes files. -/
  purge : ∀ root, ∃ orphans,
    (s.purge root).world.volume = (removeEach s.path orphans s.world.volume).2
  invalidate : ∀ p, (s.invalidate p).world.volume = s.world.volume

variable {s : Store σ} {scope : Scope} {names : List String}
  {form : Load.Form σ α} {finish : α → Action σ β} {values : Key.Lookup → α → Except Error β}
  {isSealed : Key.Lookup → α → β → Prop} {answer : Except Error β} {v : World σ}

/-- A load that finds no file seals what it makes, if what is made in its form is encrypted. -/
theorem sealing_of_load (reliable : Load.Reliable s.vault.hosting form finish values)
    (sound : s.world.keys.Sound) (named : scope.IsNamed)
    (refusals : ∀ e, (form.generate.run.run s.world).1 = .error e ↔
      Generation.Refused s.vault names s.world e)
    (seals : ∀ secrets u keys, form.generate.run.run s.world = (.ok secrets, u) →
      values (s.world.find s.vault.hosting) secrets = .ok keys →
      isSealed (s.world.find s.vault.hosting) secrets keys)
    (missing : Load.textAt s.world.volume (scope.file s.path) = .ok none)
    (loads : (Load.opened form (scope.file s.path) finish).run.run s.world = (answer, v)) :
    Sealing s scope names form.read isSealed answer v.volume := by
  constructor
  · intro e refused
    exact Load.barren_of_missing reliable missing ((refusals e).2 refused) loads
  · intro granted
    -- keys are refused, or made and written
    cases generated : form.generate.run.run s.world with
    | mk given u =>
      cases given with
      | error e => exact absurd ⟨e, (refusals e).1 (by rw [generated])⟩ granted
      | ok secrets =>
        obtain ⟨text, keys, done, reads, given, written, answers⟩ :=
          Load.created_of_missing reliable sound missing generated loads
        refine ⟨text, _, keys, done, reads, rfl, seals secrets u keys generated given, written,
          answers, ?_⟩
        intro steady fit
        have proper := Scope.isProper_fileName named
        have result : (Volume.write (scope.file s.path) (Utf8.encode text) s.world.volume).1 =
          done := by rw [written]
        have left : (Volume.write (scope.file s.path) (Utf8.encode text) s.world.volume).2 =
          v.volume := by rw [written]
        constructor
        · rintro rfl
          rw [← left]
          exact Load.textAt_written fit proper missing result
        · rintro fault rfl
          rw [← left]
          exact steady.write_failed fit proper result

/-- A load that has something to read makes no file. -/
theorem makesNone_of_load (reliable : Load.Reliable s.vault.hosting form finish values)
    (present : Load.textAt s.world.volume (scope.file s.path) ≠ .ok none)
    (loads : (Load.opened form (scope.file s.path) finish).run.run s.world = (answer, v)) :
    MakesNone s scope v.volume :=
  Load.kept_or_rewritten reliable present loads

/-- An access to the host that finds no file seals what it makes. -/
theorem sealing_hostKeys (encrypts : s.vault.encrypts = true) (sound : s.world.keys.Sound)
    (empty : s.host = none)
    (missing : Load.textAt s.world.volume (Scope.host.file s.path) = .ok none) :
    Sealing s .host [masterKeyName, hostFunctionKeyName] Document.readHost Load.SealedHost
      (s.hostKeys.1.map Loaded.value) s.hostKeys.2.world.volume := by
  cases loads : (Load.host s.vault s.path).run.run s.world with
  | mk answer v =>
    obtain ⟨result, slot, runs, rfl, -⟩ := hostKeys_of_empty empty loads
    rw [runs]
    refine sealing_of_load (Load.reliable_host s.vault) sound trivial ?_ ?_ missing loads
    · exact fun e => Generation.answer_host_eq_error_iff encrypts
    · intro secrets u keys made given
      obtain ⟨master, functions⟩ := Generation.isEncrypted_of_host encrypts made
      exact Load.sealedHost_of_values master functions given

theorem sealing_functionKeys (encrypts : s.vault.encrypts = true) (sound : s.world.keys.Sound)
    {name n : String} (usable : Scope.ofFunction name = .ok n)
    (empty : (s.slot? n).getD .empty = none)
    (missing : Load.textAt s.world.volume ((Scope.function n).file s.path) = .ok none) :
    Sealing s (.function n) [defaultKeyName] Document.readFunction Load.SealedTable
      ((s.functionKeys name).1.map Loaded.value) (s.functionKeys name).2.world.volume := by
  cases loads : (Load.function s.vault s.path n).run.run s.world with
  | mk answer v =>
    obtain ⟨result, slot, runs, rfl, -⟩ := functionKeys_of_empty usable empty loads
    rw [runs]
    refine sealing_of_load (Load.reliable_function s.vault n) sound
      (Scope.isNamed_of_ofFunction usable) ?_ ?_ missing loads
    · exact fun e => Generation.answer_function_eq_error_iff encrypts
    · intro secrets u keys made given
      exact Load.sealedTable_of_values (Generation.isEncrypted_of_function encrypts made) given

theorem makesNone_of_access {given : Answer} {t : Store σ} (h : s.Access scope given t)
    (otherwise : (s.slotAt? scope).getD .empty ≠ none ∨
      Load.textAt s.world.volume (scope.file s.path) ≠ .ok none) :
    MakesNone s scope t.world.volume := by
  cases h with
  | held _ _ world => exact .inl (congrArg World.volume world)
  | loads empty runs =>
    have present := otherwise.resolve_left fun held => held empty
    exact makesNone_of_load (scope.reliable s.vault) present runs

/-- A store that enciphers seals new keys. -/
theorem sealsNewKeys (encrypts : s.vault.encrypts = true) (sound : s.world.keys.Sound) :
    s.SealsNewKeys where
  host := sealing_hostKeys encrypts sound
  host_otherwise := makesNone_of_access (access_hostKeys s)
  function _ _ := sealing_functionKeys encrypts sound
  function_otherwise _ _ usable := makesNone_of_access (access_functionKeys s usable)
  function_refused _ _ := functionKeys_of_refused
  purge root := by
    obtain ⟨orphans, log, left⟩ := exists_pruned_of_purge s root
    exact ⟨orphans, by rw [left]; rfl⟩
  invalidate p := by
    obtain ⟨-, -, -, worlds⟩ := world_invalidate s p
    exact (worlds s.vault.hosting).volume.symm

end Store

/-! ## From the start -/

namespace Vault

variable {σ : Type} {hosting : Hosting} {w v : World σ} {vault : Vault}

/-- A vault that was probed enciphers if and only if the default key was found. -/
theorem probe_eq_ok (h : (probe hosting).run.run w = (.ok vault, v)) :
    vault.hosting = hosting ∧
      (vault.encrypts = true ↔ ∃ key, w.find hosting none = .ok (some key)) ∧
      v.keys = (Key.resolve w.environment hosting w.keys none).2 := by
  cases resolved : Key.resolve w.environment hosting w.keys none with
  | mk found keys =>
    have finds : w.find hosting none = found := by rw [World.find, resolved]
    cases found with
    | error fault =>
      rw [probe, Action.run_bind_of_error (Action.run_resolveKey_of_error resolved)] at h
      cases h
    | ok key =>
      rw [probe, Action.run_bind_of_ok (Action.run_resolveKey_of_ok resolved)] at h
      cases h
      rw [finds]
      refine ⟨rfl, ?_, rfl⟩
      cases key with
      | none =>
        constructor
        · intro enciphers
          cases enciphers
        · rintro ⟨_, found⟩
          cases found
      | some key => exact ⟨fun _ => ⟨key, rfl⟩, fun _ => rfl⟩

end Vault

/-- The service goes on with a vault that enciphers if encryption is required of it, or if there is
a default key. -/
theorem Service.encrypts_of_chooseVault {settings : Settings} {vault : Vault} {u u' : World Tree}
    (chosen : chooseVault settings u = (.ok vault, u'))
    (wanted : settings.requireEncryption = true ∨
      ∃ key, u.find (Hosting.ofFlag settings.hosted) none = .ok (some key)) :
    vault.encrypts = true ∧
      u'.keys = (Key.resolve u.environment vault.hosting u.keys none).2 := by
  unfold chooseVault at chosen
  cases probed : (Vault.probe (Hosting.ofFlag settings.hosted)).run.run u with
  | mk answer v =>
    rw [probed] at chosen
    cases answer with
    | error e => cases chosen
    | ok found =>
      obtain ⟨hosting, encrypts, keys⟩ := Vault.probe_eq_ok probed
      dsimp only at chosen
      split at chosen
      · next enciphers =>
        cases chosen
        rw [hosting]
        exact ⟨enciphers, keys⟩
      · next plain =>
        split at chosen
        · cases chosen
        · next optional =>
          exfalso
          rcases wanted with required | keyed
          · exact optional required
          · exact plain (encrypts.2 keyed)

namespace Store

variable {σ : Type} [Volume σ] {dir : Path}

/-- After any run of a store that enciphers, in whatever environments and with whatever done to its
files, new keys are sealed or not made at all. The service goes on with such a vault if encryption
is required of it, or if it finds a default key. -/
theorem new_keys_sealed {vault : Vault} (encrypts : vault.encrypts = true) {w : World σ}
    {history : List (Environment × Option String)}
    (remembered : w.keys = Key.remembered vault.hosting history) (turns : List (Turn σ)) :
    ((ofWorld dir vault w).journey turns).SealsNewKeys ∧
    ∀ (settings : Settings) (chosen : Vault) (u u' : World Tree),
      Service.chooseVault settings u = (.ok chosen, u') →
      (settings.requireEncryption = true ∨
        ∃ key, u.find (Hosting.ofFlag settings.hosted) none = .ok (some key)) →
      chosen.encrypts = true ∧
        (u.keys = .empty → u'.keys = Key.remembered chosen.hosting [(u.environment, none)]) := by
  have keeps := keeps_journey (ofWorld dir vault w) turns
  have sound : w.keys.Sound := by
    rw [remembered]
    exact Key.sound_remembered vault.hosting history
  constructor
  · apply sealsNewKeys
    · rw [keeps.vault]
      exact encrypts
    · exact keeps.sound sound
  · intro settings chosen u u' goes wanted
    obtain ⟨enciphers, keys⟩ := Service.encrypts_of_chooseVault goes wanted
    refine ⟨enciphers, ?_⟩
    intro unused
    rw [keys, unused]
    rfl

/-- A store that was asked for the keys of the host when there was no default key, and has one
now. -/
def keyedLate : Store Tree :=
  (ofWorld (.ofText "secrets") ⟨.onPremises, true⟩ unkeyed).journey
    [.step .host, .environment keyed]

theorem find_keyedLate : keyedLate.world.find .onPremises none =
    .ok (some ⟨Key.defaultId, Blob.firstBytes⟩) := rfl

theorem write_keyedLate (bytes : List UInt8) :
    (Volume.write (Scope.host.file keyedLate.path) bytes keyedLate.world.volume).1 = .ok () := rfl

theorem volume_keyedLate : keyedLate.world.volume = unkeyed.volume := rfl

/-- Keys of the host are refused first, and sealed in a new file when there is a key. -/
theorem new_keys_sealed_late :
    (ofWorld (.ofText "secrets") ⟨.onPremises, true⟩ unkeyed).hostKeys.1.map Loaded.value =
      .error (.keyMissing Key.defaultId) ∧
    ∃ text d keys, Document.readHost text = .ok d ∧ d.version.number = 1 ∧
      Load.SealedHost (keyedLate.world.find .onPremises) d.secrets keys ∧
      keyedLate.hostKeys.1.map Loaded.value = .ok keys ∧
      Load.textAt keyedLate.hostKeys.2.world.volume (Scope.host.file keyedLate.path) =
        .ok (some text) := by
  have unused : unkeyed.keys = Key.remembered .onPremises [] := rfl
  obtain ⟨start, -⟩ := @new_keys_sealed Tree _ (.ofText "secrets") ⟨.onPremises, true⟩ rfl
    unkeyed [] unused []
  have late : keyedLate.SealsNewKeys := (@new_keys_sealed Tree _ (.ofText "secrets")
    ⟨.onPremises, true⟩ rfl unkeyed [] unused [.step .host, .environment keyed]).1
  have sound : keyedLate.world.keys.Sound := KeyCache.sound_empty
  -- now there is a key, so that nothing can be refused
  have granted : ¬ ∃ e, Generation.Refused keyedLate.vault [masterKeyName, hostFunctionKeyName]
      keyedLate.world e := fun ⟨_, refused⟩ =>
    Generation.not_refused_of_found sound find_keyedLate refused
  have fit : (Tree.steady (.ofText "secrets") 1).Fit keyedLate.world.volume := by
    rw [volume_keyedLate]
    exact plain_unkeyed
  refine ⟨((start.host rfl rfl).refused _ (.absent rfl)).1, ?_⟩
  obtain ⟨text, d, keys, done, reads, version, opens, written, answers, kept⟩ :=
    (late.host rfl rfl).created granted
  obtain rfl : .ok () = done := by
    rw [← write_keyedLate (Utf8.encode text)]
    exact congrArg Prod.fst written
  exact ⟨text, d, keys, reads, version, opens, answers,
    (kept (Tree.steady (.ofText "secrets") 1) fit).1 rfl⟩

end Store

end Lockbox
