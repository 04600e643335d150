import Lockbox.Proofs.Store.Opening
import Lockbox.Proofs.Vault

/-!
# What a load gives

A load opens a document and then reads every secret in it. Reading is told by where ids lead
(`hostValues`, `tableAfter`), and so nothing goes wrong in it after a file was written: a document
that was just made holds secrets that were just written, and one that was brought up to date holds
plain keys (`Reliable`). Hence a load that fails has written nothing:

    volume_of_error : load = (.error e, v) → v.volume = w.volume
-/

namespace Lockbox.Load

variable {σ α β : Type}

/-! ## The values of secrets -/

/-- The plain values of secrets, given where ids lead and the names in lower case before them. -/
def tableAfter (find : Key.Lookup) : List String → List Secret → Except Error KeyTable
  | _, [] => .ok []
  | seen, s :: rest =>
    if Text.lowerCase s.name ∈ seen then .error (.format (.duplicateName s.name))
    else do
      let value ← Vault.plainValue find s
      let others ← tableAfter find (Text.lowerCase s.name :: seen) rest
      .ok ((s.name, value) :: others)

def hostValues (find : Key.Lookup) (secrets : HostSecrets) : Except Error HostKeys := do
  let masterKey ← Vault.plainValue find secrets.masterKey
  let functionKeys ← tableAfter find [] secrets.functionKeys
  .ok ⟨masterKey, functionKeys⟩

def readHostSecrets (vault : Vault) (secrets : HostSecrets) : Action σ HostKeys := do
  let masterKey ← vault.read secrets.masterKey
  let functionKeys ← resolveKeys vault secrets.functionKeys
  return ⟨masterKey, functionKeys⟩

/-- What a list of secrets is read as depends on where ids lead and on the names before it. -/
theorem told_resolveAfter (vault : Vault) (seen : List String) (secrets : List Secret) :
    Action.Told vault.hosting (resolveAfter vault seen secrets : Action σ KeyTable)
      fun find => tableAfter find seen secrets := by
  -- on the secrets, with the names before them growing
  induction secrets generalizing seen with
  | nil => exact .pure []
  | cons s rest ih =>
    unfold resolveAfter tableAfter
    -- a name that was seen ends the reading, or else its value is read
    by_cases known : Text.lowerCase s.name ∈ seen
    · simp only [if_pos known]
      exact fun w => ⟨w, .refl vault.hosting w, rfl⟩
    · simp only [if_neg known]
      refine (Vault.told_read vault s).bind fun value => ?_
      exact (ih (Text.lowerCase s.name :: seen)).bind fun others => .pure _

theorem told_readHostSecrets (vault : Vault) (secrets : HostSecrets) :
    Action.Told vault.hosting (readHostSecrets vault secrets : Action σ HostKeys)
      fun find => hostValues find secrets :=
  (Vault.told_read vault secrets.masterKey).bind fun _ =>
    (told_resolveAfter vault [] secrets.functionKeys).bind fun _ => .pure _

theorem tableAfter_singleton {find : Key.Lookup} {s : Secret} {value : String}
    (h : Vault.plainValue find s = .ok value) :
    tableAfter find [] [s] = .ok [(s.name, value)] := by
  rw [tableAfter, if_neg List.not_mem_nil, h]
  rfl

theorem hostValues_singleton {find : Key.Lookup} {s t : Secret} {master function : String}
    (hs : Vault.plainValue find s = .ok master) (ht : Vault.plainValue find t = .ok function) :
    hostValues find ⟨s, [t]⟩ = .ok ⟨master, [(t.name, function)]⟩ := by
  rw [hostValues, hs]
  dsimp only
  rw [tableAfter_singleton ht]
  rfl

/-! ## Generated secrets -/

theorem orderly_value {hosting : Hosting} :
    Action.Orderly hosting (Generation.value : Action σ String) :=
  (Action.Orderly.draw _).bind fun _ => (Action.Told.pure _).orderly

/-- A secret is made by a draw and by writing it. -/
theorem orderly_secret (vault : Vault) (name : String) :
    Action.Orderly vault.hosting (Generation.secret vault name : Action σ Secret) :=
  orderly_value.bind fun value => Vault.orderly_write vault (.plaintext name value)

theorem orderly_generated_host (vault : Vault) :
    Action.Orderly vault.hosting (Generation.host vault : Action σ HostSecrets) :=
  (orderly_secret vault masterKeyName).bind fun _ =>
    (orderly_secret vault hostFunctionKeyName).bind fun _ => (Action.Told.pure _).orderly

theorem orderly_generated_function (vault : Vault) :
    Action.Orderly vault.hosting (Generation.function vault : Action σ (List Secret)) :=
  (orderly_secret vault defaultKeyName).bind fun _ => (Action.Told.pure _).orderly

theorem plainValue_of_secret {vault : Vault} {name : String} {t : Secret} {w v : World σ}
    (sound : w.keys.Sound) (h : (Generation.secret vault name).run.run w = (.ok t, v)) :
    ∃ value, Vault.plainValue (w.find vault.hosting) t = .ok value := by
  -- the value is drawn, and then written in the world after the draw
  obtain ⟨value, u, drawn, written⟩ := Action.run_bind_eq_ok h
  have quiet : w.Quiet vault.hosting u := orderly_value.quiet_of_run drawn
  rw [quiet.find]
  exact ⟨_, Vault.plainValue_of_write (quiet.sound sound) written⟩

theorem hostValues_of_generated {vault : Vault} {secrets : HostSecrets} {w v : World σ}
    (sound : w.keys.Sound) (h : (Generation.host vault).run.run w = (.ok secrets, v)) :
    ∃ keys, hostValues (w.find vault.hosting) secrets = .ok keys := by
  obtain ⟨master, u, first, h⟩ := Action.run_bind_eq_ok h
  obtain ⟨function, u', second, h⟩ := Action.run_bind_eq_ok h
  cases h
  -- the second key is made where ids still lead where they led
  have quiet := (orderly_secret vault masterKeyName).quiet_of_run first
  obtain ⟨masterValue, masterRead⟩ := plainValue_of_secret sound first
  obtain ⟨functionValue, functionRead⟩ := plainValue_of_secret (quiet.sound sound) second
  rw [← quiet.find] at functionRead
  exact ⟨_, hostValues_singleton masterRead functionRead⟩

/-- A generated key of a function can be read where it was generated. -/
theorem tableAfter_of_generated {vault : Vault} {secrets : List Secret} {w v : World σ}
    (sound : w.keys.Sound) (h : (Generation.function vault).run.run w = (.ok secrets, v)) :
    ∃ keys, tableAfter (w.find vault.hosting) [] secrets = .ok keys := by
  obtain ⟨key, u, made, h⟩ := Action.run_bind_eq_ok h
  cases h
  obtain ⟨value, read⟩ := plainValue_of_secret sound made
  exact ⟨_, tableAfter_singleton read⟩

/-! ## Forms -/

/-- What a load rests on: what is written is read again, reading the secrets of a document is told
by where ids lead, and it goes well for secrets that were just made and for those of an outdated
document. -/
structure Reliable (hosting : Hosting) (form : Form σ α) (finish : α → Action σ β)
    (values : Key.Lookup → α → Except Error β) : Prop where
  rereads : ∀ secrets, ∃ text, form.write secrets = .ok text ∧
    form.read text = .ok ⟨.structured, secrets⟩
  finishes : ∀ secrets, Action.Told hosting (finish secrets) fun find => values find secrets
  orderly : Action.Orderly hosting form.generate
  generated : ∀ (w v : World σ) (secrets : α), w.keys.Sound →
    form.generate.run.run w = (.ok secrets, v) → ∃ b, values (w.find hosting) secrets = .ok b
  outdated : ∀ (text : String) (d : Document.Decoded α) (find : Key.Lookup),
    form.read text = .ok d → d.isOutdated = true → ∃ b, values find d.secrets = .ok b

theorem Reliable.exists_text {hosting : Hosting} {form : Form σ α} {finish : α → Action σ β}
    {values : Key.Lookup → α → Except Error β} (reliable : Reliable hosting form finish values)
    (secrets : α) : ∃ text, form.write secrets = .ok text := by
  obtain ⟨text, written, -⟩ := reliable.rereads secrets
  exact ⟨text, written⟩

/-- The text that is written is the one that reads back. -/
theorem Reliable.reads_of_written {hosting : Hosting} {form : Form σ α} {finish : α → Action σ β}
    {values : Key.Lookup → α → Except Error β} (reliable : Reliable hosting form finish values)
    {secrets : α} {text : String} (written : form.write secrets = .ok text) :
    form.read text = .ok ⟨.structured, secrets⟩ := by
  obtain ⟨other, again, reads⟩ := reliable.rereads secrets
  obtain rfl : other = text := Except.ok.inj (again.symm.trans written)
  exact reads

/-- Loads of the host rest on that. -/
theorem reliable_host (vault : Vault) :
    Reliable vault.hosting (hostForm vault : Form σ HostSecrets) (readHostSecrets vault)
      hostValues where
  rereads := Document.readHost_writeHost
  finishes := told_readHostSecrets vault
  orderly := orderly_generated_host vault
  generated _ _ _ sound h := hostValues_of_generated sound h
  outdated text d find read old := by
    obtain ⟨master, function, plain⟩ := Document.secrets_of_outdated_host read old
    rw [plain]
    exact ⟨_, hostValues_singleton (Vault.plainValue_plaintext find "" master)
      (Vault.plainValue_plaintext find "" function)⟩

theorem reliable_function (vault : Vault) (name : String) :
    Reliable vault.hosting (functionForm vault name : Form σ (List Secret)) (resolveKeys vault)
      (fun find => tableAfter find []) where
  rereads := Document.readFunction_writeFunction
  finishes := told_resolveAfter vault []
  orderly := orderly_generated_function vault
  generated _ _ _ sound h := tableAfter_of_generated sound h
  outdated text d find read old := by
    obtain ⟨key, plain⟩ := Document.secrets_of_outdated_function read old
    rw [plain]
    exact ⟨_, tableAfter_singleton (Vault.plainValue_plaintext find "" key)⟩

/-! ## Loads -/

variable [Volume σ] {hosting : Hosting} {form : Form σ α} {finish : α → Action σ β}
  {values : Key.Lookup → α → Except Error β} {p : Path}

/-- Open a document and read its secrets. -/
def opened (form : Form σ α) (p : Path) (finish : α → Action σ β) : Action σ β := do
  finish (← document form p)

theorem host_eq_opened (vault : Vault) (secretsPath : Path) :
    (host vault secretsPath : Action σ HostKeys) =
      opened (hostForm vault) (Scope.host.file secretsPath) (readHostSecrets vault) := rfl

theorem function_eq_opened (vault : Vault) (secretsPath : Path) (name : String) :
    (function vault secretsPath name : Action σ KeyTable) =
      opened (functionForm vault name) ((Scope.function name).file secretsPath)
        (resolveKeys vault) := rfl

/-- Opening a document goes in one of the ways of an opening. -/
theorem opening_of_run (reliable : Reliable hosting form finish values) {w u : World σ}
    {answer : Except Error α} (h : (document form p).run.run w = (answer, u)) :
    Opening form p w answer u := by
  have opens := opening reliable.exists_text p w
  rw [h] at opens
  exact opens

/-- A load whose document was opened goes as the secrets in it go. -/
theorem run_opened_of_ok (reliable : Reliable hosting form finish values) {w u : World σ}
    {secrets : α} (opens : (document form p).run.run w = (.ok secrets, u)) :
    ∃ v, u.Hushed hosting v ∧
      (opened form p finish).run.run w = (values (u.find hosting) secrets, v) := by
  obtain ⟨v, hushed, runs⟩ := reliable.finishes secrets u
  exact ⟨v, hushed, (Action.run_bind_of_ok opens finish).trans runs⟩

/-- A load goes as its document is opened, and then as the secrets in it go. -/
theorem exists_opening_of_load (reliable : Reliable hosting form finish values) {w v : World σ}
    {answer : Except Error β} (h : (opened form p finish).run.run w = (answer, v)) :
    ∃ given u, Opening form p w given u ∧ u.Hushed hosting v ∧
      answer = given >>= fun secrets => values (u.find hosting) secrets := by
  cases opens : (document form p).run.run w with
  | mk given u =>
    have opening := opening_of_run reliable opens
    -- where it could not be opened, no secret is read
    cases given with
    | error e =>
      rw [opened, Action.run_bind_of_error opens] at h
      obtain ⟨rfl, rfl⟩ := Prod.mk.inj h
      exact ⟨.error e, u, opening, .refl hosting u, rfl⟩
    | ok secrets =>
      obtain ⟨v', hushed, runs⟩ := run_opened_of_ok reliable opens
      rw [runs] at h
      obtain ⟨rfl, rfl⟩ := Prod.mk.inj h
      exact ⟨.ok secrets, u, opening, hushed, rfl⟩

/-- Secrets that were just made are read where they were made. -/
theorem values_of_made (reliable : Reliable hosting form finish values) {w v : World σ}
    (sound : w.keys.Sound) {secrets : α} (generates : form.generate.run.run w = (.ok secrets, v))
    (text : String) (log : List Event) :
    ∃ b, values ((stored p text log v).find hosting) secrets = .ok b := by
  have quiet := reliable.orderly.quiet_of_run generates
  show ∃ b, values (v.find hosting) secrets = .ok b
  rw [← quiet.find]
  exact reliable.generated w v secrets sound generates

/-! ## Failures -/

/-- A write that fails changes nothing. -/
def Kept (σ : Type) [Volume σ] : Prop :=
  ∀ (p : Path) (bytes : List UInt8) (volume : σ) (fault : OsFault),
    (Volume.write p bytes volume).1 = .error fault → (Volume.write p bytes volume).2 = volume

/-- A document that could not be opened was not written either. -/
theorem volume_of_failed_opening (reliable : Reliable hosting form finish values) (kept : Kept σ)
    {w u : World σ} {e : Error} (opens : Opening form p w (.error e) u) :
    u.volume = w.volume := by
  cases opens with
  | unreadable => rfl
  | barren missing fails => exact (reliable.orderly.quiet_of_run fails).volume.symm
  | unwritable missing generates writes fails =>
    -- nothing was touched before the write, which changed nothing
    have quiet := reliable.orderly.quiet_of_run generates
    rw [quiet.volume]
    exact kept _ _ _ _ fails

/-- If a file was written, then the secrets that were written are also read. -/
theorem unchanged_or_values (reliable : Reliable hosting form finish values) {w u : World σ}
    (sound : w.keys.Sound) {secrets : α} (opens : Opening form p w (.ok secrets) u) :
    u.volume = w.volume ∨ ∃ b, values (u.find hosting) secrets = .ok b := by
  -- a file is written where the document was outdated or missing
  cases opens with
  | current => exact .inl rfl
  | outdated found read old rewrites => exact .inr (reliable.outdated _ _ _ read old)
  | made missing generates writes done =>
    exact .inr (values_of_made reliable sound generates _ _)

/-- A load that fails has written nothing. -/
theorem volume_of_error (reliable : Reliable hosting form finish values) (kept : Kept σ)
    {w v : World σ} (sound : w.keys.Sound) {e : Error}
    (h : (opened form p finish).run.run w = (.error e, v)) : v.volume = w.volume := by
  obtain ⟨given, u, opens, hushed, told⟩ := exists_opening_of_load reliable h
  rw [← hushed.volume]
  cases given with
  | error other => exact volume_of_failed_opening reliable kept opens
  | ok secrets =>
    rcases unchanged_or_values reliable sound opens with unchanged | ⟨b, read⟩
    · -- nothing was written before the secrets were read
      exact unchanged
    · cases told.trans read

/-- Nothing fails once keys were generated and kept. -/
theorem ok_of_missing (reliable : Reliable hosting form finish values) {w u : World σ}
    (sound : w.keys.Sound) {secrets : α} (missing : textAt w.volume p = .ok none)
    (opens : (document form p).run.run w = (.ok secrets, u)) :
    ∃ b v, (opened form p finish).run.run w = (.ok b, v) := by
  obtain ⟨v, -, runs⟩ := run_opened_of_ok reliable opens
  -- no document is there, so it was made, and what is made can be read
  cases opening_of_run reliable opens with
  | current found => cases missing.symm.trans found
  | outdated found => cases missing.symm.trans found
  | made _ generates _ _ =>
    obtain ⟨b, read⟩ := values_of_made reliable sound generates _ _
    exact ⟨b, v, by rw [runs, read]⟩

/-- Nothing fails where there is an outdated document. -/
theorem ok_of_outdated (reliable : Reliable hosting form finish values) {w : World σ}
    {text : String} {d : Document.Decoded α} (found : textAt w.volume p = .ok (some text))
    (read : form.read text = .ok d) (old : d.isOutdated = true) :
    ∃ b v, (opened form p finish).run.run w = (.ok b, v) := by
  obtain ⟨rewritten, rewrites, -⟩ := reliable.rereads d.secrets
  obtain ⟨log, opens⟩ := run_document_of_outdated found read old rewrites
  obtain ⟨v, -, runs⟩ := run_opened_of_ok reliable opens
  obtain ⟨b, given⟩ := reliable.outdated text d _ read old
  exact ⟨b, v, by rw [runs, given]⟩

end Lockbox.Load

/-! ## Loads of scopes -/

namespace Lockbox.Scope

variable {σ : Type}

def Records : Scope → Type
  | .host => HostSecrets
  | .function _ => List Secret

def Keys : Scope → Type
  | .host => HostKeys
  | .function _ => KeyTable

def form (vault : Vault) : (c : Scope) → Load.Form σ c.Records
  | .host => Load.hostForm vault
  | .function name => Load.functionForm vault name

def resolve (vault : Vault) : (c : Scope) → c.Records → Action σ c.Keys
  | .host => Load.readHostSecrets vault
  | .function _ => Load.resolveKeys vault

def values (find : Key.Lookup) : (c : Scope) → c.Records → Except Error c.Keys
  | .host => Load.hostValues find
  | .function _ => Load.tableAfter find []

theorem reliable (vault : Vault) (c : Scope) :
    Load.Reliable vault.hosting (form vault c : Load.Form σ c.Records) (resolve vault c)
      (fun find => values find c) := by
  cases c with
  | host => exact Load.reliable_host vault
  | function name => exact Load.reliable_function vault name

end Lockbox.Scope
