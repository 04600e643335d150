import Lockbox.Proofs.Json.Truncation
import Lockbox.Proofs.Scope
import Lockbox.Proofs.Store.Failure
import Lockbox.Proofs.Text.Lossy
import Lockbox.Proofs.Volume.Stepwise

/-!
# Upgrades that fail

An outdated document is rewritten when it is loaded. Its keys are served, whatever becomes of the
file. If the file cannot be opened for writing, it still holds the old document, and whoever loads
it later is served the same keys. Opening it empties it, though, and of a document that was written
in part nothing can be read (`Document.eq_of_readHost_cut`), so that the keys are lost unless all of
it was written:

    failed_upgrade_keeps_keys : Stuck … text rewritten fault →
      ∃ keys, (s.hostKeys.1.map Loaded.value = .ok keys ∧ Outcome … text rewritten keys …)
-/

namespace Lockbox

/-! ## Documents that are cut off -/

namespace Document

/-- What is read as a document is JSON. -/
theorem exists_parse?_of_read {α : Type} {t : String} {d : Decoded α}
    {readAs : Version → List (String × Json) → Except FormatFault α}
    (h : Document.read readAs t = .ok d) : ∃ j, Json.parse? t = some j := by
  obtain ⟨members, found, -⟩ := exists_of_bind_eq_ok h
  rw [membersOf] at found
  cases parsed : Json.parse? t with
  | none =>
    rw [parsed] at found
    cases found
  | some j => exact ⟨j, rfl⟩

/-- A front of a printed document that is JSON is the document. -/
theorem eq_of_read_cut {α : Type} {t : String} {d : Decoded α} {members : List (String × Json)}
    {more : List Char} {readAs : Version → List (String × Json) → Except FormatFault α}
    (legible : Json.Legible Json.maxDepth (.object members))
    (cut : (Json.object members).pretty.toList = t.toList ++ more)
    (h : Document.read readAs t = .ok d) : t = (Json.object members).pretty := by
  obtain ⟨j, parsed⟩ := exists_parse?_of_read h
  rw [Json.eq_nil_of_parse?_prefix legible parsed cut, List.append_nil] at cut
  exact String.toList_inj.1 cut.symm

/-- What begins a written document of the host and can be read is all of it. -/
theorem eq_of_readHost_cut {host : HostSecrets} {text t : String} {more : List Char}
    {d : Decoded HostSecrets} (written : writeHost host = .ok text)
    (cut : text.toList = t.toList ++ more) (h : readHost t = .ok d) : t = text := by
  obtain rfl : Structured.writeHost host = text := Except.ok.inj written
  exact eq_of_read_cut (Structured.legible_hostDocument host) cut h

theorem eq_of_readFunction_cut {keys : List Secret} {text t : String} {more : List Char}
    {d : Decoded (List Secret)} (written : writeFunction keys = .ok text)
    (cut : text.toList = t.toList ++ more) (h : readFunction t = .ok d) : t = text := by
  obtain rfl : Structured.writeFunction keys = text := Except.ok.inj written
  exact eq_of_read_cut (Structured.legible_functionDocument keys) cut h

end Document

namespace Load

variable {σ α β : Type}

/-! ## Documents that outlast a load -/

/-- What the fate of an outdated document rests on: documents are read and written alike in all
vaults, the secrets of an outdated one are the same keys to all, and of a document that was cut off
nothing is read. -/
structure Durable (read : String → Except FormatFault (Document.Decoded α))
    (write : α → Except FormatFault String) (form : Vault → Form σ α)
    (finish : Vault → α → Action σ β) (values : Key.Lookup → α → Except Error β) : Prop where
  reliable : ∀ vault, Reliable vault.hosting (form vault) (finish vault) values
  reads : ∀ vault, (form vault).read = read
  writes : ∀ vault, (form vault).write = write
  plain : ∀ {text : String} {d : Document.Decoded α}, read text = .ok d → d.isOutdated = true →
    ∃ keys, ∀ find, values find d.secrets = .ok keys
  entire : ∀ {secrets : α} {text t : String} {more : List Char} {d : Document.Decoded α},
    write secrets = .ok text → text.toList = t.toList ++ more → read t = .ok d → t = text

theorem durable_host : Durable Document.readHost Document.writeHost
    (hostForm : Vault → Form σ HostSecrets) readHostSecrets hostValues where
  reliable := reliable_host
  reads _ := rfl
  writes _ := rfl
  plain read old := by
    obtain ⟨master, function, plain⟩ := Document.secrets_of_outdated_host read old
    rw [plain]
    exact ⟨_, fun find => hostValues_singleton (Vault.plainValue_plaintext find "" master)
      (Vault.plainValue_plaintext find "" function)⟩
  entire := Document.eq_of_readHost_cut

theorem durable_function (name : String) : Durable Document.readFunction Document.writeFunction
    (fun vault => (functionForm vault name : Form σ (List Secret))) resolveKeys
    (fun find => tableAfter find []) where
  reliable vault := reliable_function vault name
  reads _ := rfl
  writes _ := rfl
  plain read old := by
    obtain ⟨key, plain⟩ := Document.secrets_of_outdated_function read old
    rw [plain]
    exact ⟨_, fun find => tableAfter_singleton (Vault.plainValue_plaintext find "" key)⟩
  entire := Document.eq_of_readFunction_cut

variable [Volume σ] {p : Path} {read : String → Except FormatFault (Document.Decoded α)}
  {write : α → Except FormatFault String} {form : Vault → Form σ α}
  {finish : Vault → α → Action σ β} {values : Key.Lookup → α → Except Error β}

/-- A file that cannot be read as a document gives no keys. -/
theorem error_of_unread (durable : Durable read write form finish values) (vault : Vault)
    {w : World σ} (present : textAt w.volume p ≠ .ok none)
    (unread : ∀ text d, textAt w.volume p = .ok (some text) → read text ≠ .ok d) :
    ∃ e v, (opened (form vault) p (finish vault)).run.run w = (.error e, v) := by
  have starts := run_readIfThere p w
  -- opening fails whether the file cannot be read, is no text, or is no document
  have fails : ∃ e v, (document (form vault) p).run.run w = (.error e, v) := by
    cases found : textAt w.volume p with
    | error e =>
      rw [found] at starts
      exact ⟨e, w, by rw [document, Action.run_bind_of_error starts]⟩
    | ok text =>
      cases text with
      | none => exact absurd found present
      | some text =>
        cases known : read text with
        | ok d => exact absurd known (unread text d found)
        | error fault =>
          rw [found] at starts
          refine ⟨.format fault, w, ?_⟩
          rw [document, Action.run_bind_of_ok starts]
          dsimp only
          rw [durable.reads, known]
          rfl
  obtain ⟨e, v, fails⟩ := fails
  exact ⟨e, v, Action.run_bind_of_error fails _⟩

/-- An outdated document at a path, the text that is to replace it, and why that fails. -/
structure Stuck (read : String → Except FormatFault (Document.Decoded α))
    (write : α → Except FormatFault String) (p : Path) (volume : σ)
    (text rewritten : String) (fault : OsFault) : Prop where
  there : textAt volume p = .ok (some text)
  outdated : ∃ d, read text = .ok d ∧ d.isOutdated = true ∧ write d.secrets = .ok rewritten
  fails : (Volume.write p (Utf8.encode rewritten) volume).1 = .error fault

/-- A file that cannot be opened for writing is not written. -/
theorem Stuck.of_refused {volume : σ} {text rewritten : String} {fault : OsFault}
    (found : textAt volume p = .ok (some text))
    (outdated : ∃ d, read text = .ok d ∧ d.isOutdated = true ∧ write d.secrets = .ok rewritten)
    (refused : (Volume.create p volume).1 = .error fault) :
    Stuck read write p volume text rewritten fault :=
  ⟨found, outdated, by rw [Volume.write_of_refused refused]⟩

/-- What a load gives where there is an outdated document, and the file that it leaves. -/
theorem run_of_outdated (durable : Durable read write form finish values) {text rewritten : String}
    {d : Document.Decoded α} (old : read text = .ok d) (outdated : d.isOutdated = true)
    (rewrites : write d.secrets = .ok rewritten) :
    ∃ keys, (∀ find, values find d.secrets = .ok keys) ∧ ∀ (vault : Vault) (w : World σ),
      textAt w.volume p = .ok (some text) →
        ∃ v, (opened (form vault) p (finish vault)).run.run w = (.ok keys, v) ∧
          v.volume = (Volume.write p (Utf8.encode rewritten) w.volume).2 := by
  obtain ⟨keys, plain⟩ := durable.plain old outdated
  refine ⟨keys, plain, fun vault w found => ?_⟩
  rw [← durable.reads vault] at old
  rw [← durable.writes vault] at rewrites
  obtain ⟨log, opens⟩ := run_document_of_outdated found old outdated rewrites
  obtain ⟨v, hushed, runs⟩ := run_opened_of_ok (durable.reliable vault) opens
  rw [plain] at runs
  exact ⟨v, runs, hushed.volume.symm⟩

/-- What a load gives where that document was rewritten. -/
theorem run_of_rewritten (durable : Durable read write form finish values) {rewritten : String}
    {secrets : α} (rewrites : write secrets = .ok rewritten) {keys : β}
    (plain : ∀ find, values find secrets = .ok keys) (vault : Vault) {w : World σ}
    (found : textAt w.volume p = .ok (some rewritten)) :
    ((opened (form vault) p (finish vault)).run.run w).1 = .ok keys := by
  have again := (durable.reliable vault).reads_of_written ((durable.writes vault).symm ▸ rewrites)
  obtain ⟨v, -, runs⟩ := run_opened_of_ok (durable.reliable vault)
    (run_document_of_current found again (Document.isOutdated_structured secrets))
  rw [runs, plain]

def CanOpen (volume : σ) (p : Path) : Prop := ∃ file, (Volume.create p volume).1 = .ok file

theorem not_canOpen {volume : σ} {fault : OsFault}
    (refused : (Volume.create p volume).1 = .error fault) : ¬CanOpen volume p := by
  rintro ⟨file, opens⟩
  cases refused.symm.trans opens

/-- What became of a file whose document could not be brought up to date. If the file could not be
opened, it holds the old document, and every later load, in any process, gives the same keys. If it
was opened, it does not, and a later load gives the keys only if the new document is there as a
whole. -/
structure Outcome (load : Vault → Action σ β) (p : Path) (text rewritten : String) (keys : β)
    (before after : σ) : Prop where
  refused : ¬CanOpen before p → textAt after p = .ok (some text) ∧
    ∀ (vault : Vault) (w : World σ), w.volume = after → ((load vault).run.run w).1 = .ok keys
  begun : CanOpen before p → textAt after p ≠ .ok (some text) ∧
    ∀ (vault : Vault) (w : World σ), w.volume = after →
      (((load vault).run.run w).1 = .ok keys ↔ textAt after p = .ok (some rewritten))

/-- What is left of a file that could be opened is the new document or none at all. -/
theorem eq_rewritten_of_torn (durable : Durable read write form finish values) {secrets : α}
    {rewritten t : String} {volume : σ} {k : Nat} {d : Document.Decoded α}
    (rewrites : write secrets = .ok rewritten)
    (torn : Volume.read volume p = .ok ((Utf8.encode rewritten).take k))
    (found : textAt volume p = .ok (some t)) (known : read t = .ok d) : t = rewritten := by
  rw [textAt_eq_some_iff, torn, Except.ok.injEq, ← Utf8.decode_eq_some_iff] at found
  -- bytes that were cut off and decode are a front of the text
  obtain ⟨more, cut⟩ := Utf8.exists_append_of_decode_take found
  exact durable.entire rewrites cut known

/-- If the file cannot be opened, nothing has changed. -/
theorem outcome_of_refused (laws : Stepwise σ p) {before : σ} (fit : laws.Fit before)
    {text rewritten : String} {fault : OsFault} {keys : β}
    (found : textAt before p = .ok (some text))
    (refused : (Volume.create p before).1 = .error fault)
    (serves : ∀ (vault : Vault) (w : World σ), textAt w.volume p = .ok (some text) →
      ((opened (form vault) p (finish vault)).run.run w).1 = .ok keys) :
    Outcome (fun vault => opened (form vault) p (finish vault)) p text rewritten keys before
      (Volume.write p (Utf8.encode rewritten) before).2 := by
  have stored : textAt (Volume.write p (Utf8.encode rewritten) before).2 p = .ok (some text) := by
    rw [Volume.write_of_refused refused]
    exact textAt_eq_some_iff.2 (laws.refused fit (textAt_eq_some_iff.1 found) refused)
  constructor
  · exact fun _ => ⟨stored, fun vault w after => serves vault w (after ▸ stored)⟩
  · exact fun opens => absurd opens (not_canOpen refused)

omit [Volume σ] in
/-- No text of a rewritten document is that of an outdated one. -/
theorem ne_of_isOutdated (durable : Durable read write form finish values)
    {text rewritten : String} {d : Document.Decoded α} (old : read text = .ok d)
    (outdated : d.isOutdated = true) (rewrites : write d.secrets = .ok rewritten) :
    text ≠ rewritten := by
  rintro rfl
  have again := (durable.reliable ⟨.onPremises, false⟩).reads_of_written
    ((durable.writes ⟨.onPremises, false⟩).symm ▸ rewrites)
  rw [durable.reads, old, Except.ok.injEq] at again
  rw [again] at outdated
  cases outdated

/-- If it can, it was emptied, and its contents are a front of the new document. -/
theorem outcome_of_opened (durable : Durable read write form finish values) (laws : Stepwise σ p)
    {before : σ} (fit : laws.Fit before) {text rewritten : String} {fault : OsFault}
    {d : Document.Decoded α} {keys : β} {file : FileNumber}
    (stored : textAt before p = .ok (some text)) (old : read text = .ok d)
    (outdated : d.isOutdated = true) (rewrites : write d.secrets = .ok rewritten)
    (plain : ∀ find, values find d.secrets = .ok keys)
    (opens : (Volume.create p before).1 = .ok file)
    (fails : (Volume.write p (Utf8.encode rewritten) before).1 = .error fault) :
    Outcome (fun vault => opened (form vault) p (finish vault)) p text rewritten keys before
      (Volume.write p (Utf8.encode rewritten) before).2 := by
  rw [Volume.write_of_opened opens] at fails ⊢
  -- what is left are the first k bytes of the new document
  obtain ⟨k, torn⟩ := laws.torn fit (textAt_eq_some_iff.1 stored) opens fails
  constructor
  · exact fun closed => absurd ⟨file, opens⟩ closed
  · refine fun _ => ⟨fun reads => ?_, fun vault w after => ?_⟩
    · exact ne_of_isOutdated durable old outdated rewrites
        (eq_rewritten_of_torn durable rewrites torn reads old)
    · rw [← after] at torn ⊢
      refine ⟨fun gives => ?_, run_of_rewritten durable rewrites plain vault⟩
      -- otherwise the file holds something else, which is no document at all
      refine Classical.byContradiction fun ne => ?_
      have missing : textAt w.volume p ≠ .ok none := by
        intro gone
        rw [textAt, torn] at gone
        dsimp only at gone
        cases found : Utf8.decode ((Utf8.encode rewritten).take k) <;> rw [found] at gone <;>
          cases gone
      obtain ⟨e, v, runs⟩ := error_of_unread durable vault missing fun t d' found' known =>
        ne (eq_rewritten_of_torn durable rewrites torn found' known ▸ found')
      rw [runs] at gives
      cases gives

/-- Loading an outdated document that cannot be brought up to date gives its keys, and leaves the
file in one of these ways. -/
theorem exists_outcome_of_stuck (durable : Durable read write form finish values)
    (laws : Stepwise σ p) {w : World σ} (fit : laws.Fit w.volume) {text rewritten : String}
    {fault : OsFault} (stuck : Stuck read write p w.volume text rewritten fault) (vault : Vault) :
    ∃ keys v, (opened (form vault) p (finish vault)).run.run w = (.ok keys, v) ∧
      v.volume = (Volume.write p (Utf8.encode rewritten) w.volume).2 ∧
      Outcome (fun vault => opened (form vault) p (finish vault)) p text rewritten keys w.volume
        v.volume := by
  obtain ⟨d, old, outdated, rewrites⟩ := stuck.outdated
  obtain ⟨keys, plain, serves⟩ := run_of_outdated (p := p) durable old outdated rewrites
  obtain ⟨v, runs, left⟩ := serves vault w stuck.there
  refine ⟨keys, v, runs, left, ?_⟩
  rw [left]
  -- the write failed at opening the file or at filling it
  cases opens : (Volume.create p w.volume).1 with
  | error refused =>
    refine outcome_of_refused laws fit stuck.there opens fun other u found => ?_
    obtain ⟨v', runs', -⟩ := serves other u found
    rw [runs']
  | ok file =>
    exact outcome_of_opened durable laws fit stuck.there old outdated rewrites plain opens
      stuck.fails

end Load

/-! ## Accesses -/

namespace Store

open Load (Stuck Outcome)

variable {σ : Type} [Volume σ]

/-- An access that loads an outdated document serves its keys, also if the document cannot be
brought up to date. If the file cannot even be opened for writing, it still holds the old document,
and every later load gives the same keys. -/
theorem failed_upgrade_keeps_keys (s : Store σ) :
    (∀ (laws : Stepwise σ (Scope.host.file s.path)) (text rewritten : String) (fault : OsFault),
      laws.Fit s.world.volume → s.host = none →
      Stuck Document.readHost Document.writeHost (Scope.host.file s.path) s.world.volume text
        rewritten fault →
      ∃ keys, s.hostKeys.1.map Loaded.value = .ok keys ∧
        Outcome (fun vault => Load.host vault s.path) (Scope.host.file s.path) text rewritten keys
          s.world.volume s.hostKeys.2.world.volume) ∧
    ∀ (name n : String) (laws : Stepwise σ ((Scope.function n).file s.path))
      (text rewritten : String) (fault : OsFault),
      laws.Fit s.world.volume → Scope.ofFunction name = .ok n → (s.slot? n).getD .empty = none →
      Stuck Document.readFunction Document.writeFunction ((Scope.function n).file s.path)
        s.world.volume text rewritten fault →
      ∃ keys, (s.functionKeys name).1.map Loaded.value = .ok keys ∧
        Outcome (fun vault => Load.function vault s.path n) ((Scope.function n).file s.path) text
          rewritten keys s.world.volume (s.functionKeys name).2.world.volume := by
  constructor
  · intro laws text rewritten fault fit empty stuck
    obtain ⟨keys, w, loads, -, outcome⟩ :=
      Load.exists_outcome_of_stuck Load.durable_host laws fit stuck s.vault
    obtain ⟨result, slot, runs, answers, -⟩ := hostKeys_of_empty empty loads
    rw [runs]
    exact ⟨keys, answers, outcome⟩
  · intro name n laws text rewritten fault fit usable empty stuck
    obtain ⟨keys, w, loads, -, outcome⟩ :=
      Load.exists_outcome_of_stuck (Load.durable_function n) laws fit stuck s.vault
    obtain ⟨result, slot, runs, answers, -⟩ := functionKeys_of_empty usable empty loads
    rw [runs]
    exact ⟨keys, answers, outcome⟩

def flatHostMembers : List (String × Json) :=
  [(Flat.hostFunctionField, .string "F"), (Flat.masterField, .string "M")]

def flatHostExample : String := (Json.object flatHostMembers).pretty

theorem parse?_flatHostExample :
    Json.parse? flatHostExample = some (.object flatHostMembers) := by
  have legible : Json.Legible Json.maxDepth (.object flatHostMembers) := by
    apply Json.Legible.object
    intro m hm
    simp only [flatHostMembers, List.mem_cons, List.not_mem_nil, or_false] at hm
    rcases hm with rfl | rfl <;> exact Json.Legible.string _
  rw [flatHostExample, Json.parse?_pretty legible]
  rfl

theorem readHost_flatHostExample : Document.readHost flatHostExample =
    .ok ⟨.flat, ⟨.plaintext "" "M", [.plaintext "" "F"]⟩⟩ := by
  rw [Document.readHost, Document.read, Document.membersOf, parse?_flatHostExample]
  rfl

def rewrittenHostExample : String :=
  Structured.writeHost ⟨.plaintext "" "M", [.plaintext "" "F"]⟩

theorem outdated_flatHostExample : ∃ d, Document.readHost flatHostExample = .ok d ∧
    d.isOutdated = true ∧ Document.writeHost d.secrets = .ok rewrittenHostExample :=
  ⟨_, readHost_flatHostExample, rfl, rfl⟩

def rewrittenExample : String := Structured.writeFunction [.plaintext "" "X"]

theorem outdated_flatExample : ∃ d, Document.readFunction Document.flatExample = .ok d ∧
    d.isOutdated = true ∧ Document.writeFunction d.secrets = .ok rewrittenExample :=
  ⟨_, Document.readFunction_flatExample, rfl, rfl⟩

/-- A secrets directory with flat documents of the host and of a function, in files of one mode. -/
def flatTree (mode : Nat) : Tree :=
  ⟨#[.directory Tree.directoryMode Tree.root [(Utf8.encode "secrets", 1)],
      .directory Tree.directoryMode Tree.root
        [(Utf8.encode "foo.json", 2), (Utf8.encode "host.json", 3)],
      .file mode (Utf8.encode Document.flatExample), .file mode (Utf8.encode flatHostExample)], []⟩

def hostFile : Path := Scope.host.file (.ofText "secrets")

def fooFile : Path := (Scope.function "foo").file (.ofText "secrets")

theorem isNamed_foo : (Scope.function "foo").IsNamed :=
  Scope.isNamed_of_ofFunction (rfl : Scope.ofFunction "foo" = .ok "foo")

/-- The directory is plain: proper names, each once, of files. -/
theorem plain_flatTree (mode : Nat) :
    Tree.Plain (Path.ofText "secrets").segments 1 (flatTree mode) := by
  have proper : FileName.IsProper (Utf8.encode "secrets") :=
    ⟨by decide, by decide, by decide, by decide⟩
  have leads : (flatTree mode).Leads 1 Tree.root [Utf8.encode "secrets"] :=
    .down (by decide) rfl (by decide) proper (by decide) rfl rfl .here
  -- the directory has two entries, and everything is checked of both
  have entry : ∀ e ∈ (flatTree mode).entriesOf 1,
      e = ((Scope.function "foo").fileName, 2) ∨ e = (Scope.host.fileName, 3) := by
    intro e he
    rcases List.mem_cons.1 he with he | he
    · exact .inl he
    · exact .inr (List.mem_singleton.1 he)
  refine ⟨leads, rfl, ?_, ?_, ?_, ?_⟩
  · intro e he
    rcases entry e he with rfl | rfl
    · exact Scope.isProper_fileName isNamed_foo
    · exact Scope.isProper_fileName trivial
  · intro e he
    rcases entry e he with rfl | rfl <;> decide
  · intro e he
    rcases entry e he with rfl | rfl
    · exact ⟨_, rfl, nofun⟩
    · exact ⟨_, rfl, nofun⟩
  · intro e he f hf eq
    rcases entry e he with rfl | rfl <;> rcases entry f hf with rfl | rfl
    · rfl
    · cases eq
    · cases eq
    · rfl

/-- A store over such a directory on a volume. -/
def flatStore (volume : σ) : Store σ :=
  ofWorld (.ofText "secrets") ⟨.onPremises, false⟩
    ⟨Variables.table [], .counting, .empty, [], volume⟩

/-- The key of the function is served, whether or not its file can be written. -/
theorem served_flatTree (mode : Nat) (readable : Tree.mayRead mode = true) :
    ((flatStore (flatTree mode)).functionKeys "Foo").1.map Loaded.value = .ok [("", "X")] := by
  have read : Volume.read (flatTree mode) fooFile = .ok (Utf8.encode Document.flatExample) := by
    show (if Tree.mayRead mode then _ else _) = _
    rw [if_pos readable]
    rfl
  have found : Load.textAt (flatStore (flatTree mode)).world.volume fooFile =
      .ok (some Document.flatExample) := Load.textAt_eq_some_iff.2 read
  obtain ⟨keys, plain, serves⟩ := Load.run_of_outdated (σ := Tree) (p := fooFile)
    (Load.durable_function "foo") Document.readFunction_flatExample rfl
    (rfl : Document.writeFunction [.plaintext "" "X"] = .ok rewrittenExample)
  obtain rfl : keys = [("", "X")] := (Except.ok.inj (plain fun _ => .ok none)).symm
  obtain ⟨v, loads, -⟩ := serves (flatStore (flatTree mode)).vault _ found
  obtain ⟨result, slot, runs, answers, -⟩ := functionKeys_of_empty
    (rfl : Scope.ofFunction "Foo" = .ok "foo") rfl loads
  rw [runs]
  exact answers

/-- Where the files may not be written, the old documents stay, and their keys are served. -/
theorem failed_upgrade_readOnly :
    (∃ keys, (flatStore (flatTree 0o444)).hostKeys.1.map Loaded.value = .ok keys ∧
      Load.textAt (flatStore (flatTree 0o444)).hostKeys.2.world.volume hostFile =
        .ok (some flatHostExample)) ∧
    ∃ keys, ((flatStore (flatTree 0o444)).functionKeys "foo").1.map Loaded.value = .ok keys ∧
      Load.textAt ((flatStore (flatTree 0o444)).functionKeys "foo").2.world.volume fooFile =
        .ok (some Document.flatExample) := by
  have hostRefused : (Volume.create hostFile (flatTree 0o444)).1 = .error .denied := rfl
  have fooRefused : (Volume.create fooFile (flatTree 0o444)).1 = .error .denied := rfl
  obtain ⟨host, function⟩ := failed_upgrade_keeps_keys (flatStore (flatTree 0o444))
  obtain ⟨hostKeys, hostServed, hostLeft⟩ := host (Tree.stepwise hostFile) _ _ _ trivial rfl
    (.of_refused (Load.textAt_eq_some_iff.2 rfl) outdated_flatHostExample hostRefused)
  obtain ⟨keys, served, left⟩ := function "foo" "foo" (Tree.stepwise fooFile) _ _ _ trivial rfl rfl
    (.of_refused (Load.textAt_eq_some_iff.2 rfl) outdated_flatExample fooRefused)
  exact ⟨⟨hostKeys, hostServed, (hostLeft.refused (Load.not_canOpen hostRefused)).1⟩,
    keys, served, (left.refused (Load.not_canOpen fooRefused)).1⟩

/-- A store over such a directory on a volume that is full. -/
def fullStore : Store Limited := flatStore ⟨flatTree Tree.fileMode, 0⟩

/-- The laws of the function's file there. -/
def fullLaws : Stepwise Limited fooFile :=
  Limited.stepwise (.ofText "secrets") 1 (Scope.isProper_fileName isNamed_foo)

/-- A document is not empty, for the empty text is not JSON. -/
theorem encode_rewrittenExample_pos : 0 < (Utf8.encode rewrittenExample).length := by
  refine Nat.pos_of_ne_zero fun short => ?_
  have empty : rewrittenExample = "" := Utf8.encode_injective (List.eq_nil_of_length_eq_zero short)
  have parsed := Structured.parse?_writeFunction [.plaintext "" "X"]
  -- were it empty, it could not be parsed
  have nothing : Json.parse? "" = none := by
    rw [Json.parse?, String.toList_empty]
    rfl
  rw [← rewrittenExample, empty, nothing] at parsed
  cases parsed

/-- On the full volume the file is opened, and none of the document is written. -/
theorem write_fullStore : Volume.write fooFile (Utf8.encode rewrittenExample)
      fullStore.world.volume =
    (.error Limited.noRoom, ⟨(Volume.create fooFile (flatTree Tree.fileMode)).2.fill 2 [], 0⟩) := by
  have opens : (Volume.create fooFile fullStore.world.volume).1 = .ok 2 := rfl
  rw [Volume.write_of_opened opens, Limited.fill_of_lt 2 encode_rewrittenExample_pos]
  rfl

/-- Hence the document cannot be brought up to date there. -/
theorem stuck_fullStore : Stuck Document.readFunction Document.writeFunction fooFile
    fullStore.world.volume Document.flatExample rewrittenExample Limited.noRoom where
  there := Load.textAt_eq_some_iff.2 rfl
  outdated := outdated_flatExample
  fails := by rw [write_fullStore]

/-- There the keys are served once. The file is empty then, and no later load gives them. -/
theorem failed_upgrade_loses_keys :
    Stuck Document.readFunction Document.writeFunction fooFile fullStore.world.volume
        Document.flatExample rewrittenExample Limited.noRoom ∧
      ∃ keys, (fullStore.functionKeys "foo").1.map Loaded.value = .ok keys ∧
        Load.textAt (fullStore.functionKeys "foo").2.world.volume fooFile = .ok (some "") ∧
        ∀ (vault : Vault) (w : World Limited),
          w.volume = (fullStore.functionKeys "foo").2.world.volume →
            ((Load.function vault fullStore.path "foo").run.run w).1 ≠ .ok keys := by
  refine ⟨stuck_fullStore, ?_⟩
  have fit : fullLaws.Fit fullStore.world.volume := plain_flatTree Tree.fileMode
  obtain ⟨keys, v, loads, left, outcome⟩ := Load.exists_outcome_of_stuck
    (Load.durable_function "foo") fullLaws fit stuck_fullStore fullStore.vault
  obtain ⟨result, slot, runs, answers, -⟩ := functionKeys_of_empty
    (rfl : Scope.ofFunction "foo" = .ok "foo") rfl loads
  -- opening emptied the file, and there was no room for a single byte
  have empty : Load.textAt v.volume fooFile = .ok (some "") := by
    rw [left, write_fullStore]
    exact Load.textAt_eq_some_iff.2 rfl
  rw [runs]
  refine ⟨keys, answers, empty, fun vault w after gives => ?_⟩
  have rewritten := ((outcome.begun ⟨2, rfl⟩).2 vault w after).1 gives
  rw [empty, Except.ok.injEq, Option.some.injEq] at rewritten
  have filled := encode_rewrittenExample_pos
  rw [← rewritten] at filled
  cases filled

end Store

end Lockbox
