import Lockbox.Proofs.Cipher.Blob
import Lockbox.Proofs.Document.RoundTrip
import Lockbox.Proofs.World
import Lockbox.Vault

/-!
# Secrets survive the vault

Reading a stored secret depends on nothing but where ids lead (`plainValue`), and changes nothing
but the log and what is remembered of keys. What was written is read again, also where the key was
found by way of an alias or an override:

    plainValue_of_write : (v.write s).run.run w = (.ok t, w') →
      plainValue (w.find v.hosting) t = .ok (v.kept s.value)

A process of the same surroundings that starts afterwards can therefore read what was persisted
(`persisted_secret_is_readable`).
-/

namespace Lockbox

/-- An encrypted secret names its key. -/
theorem Secret.keyId?_encrypted {name blob id : String} (filled : id ≠ "") :
    (Secret.encrypted name blob id).keyId? = some id :=
  Option.filter_eq_some_iff.2 ⟨rfl, by simpa using filled⟩

namespace Converter

variable {σ : Type} {hosting : Hosting}

def keyAt (find : Key.Lookup) (id : Option String) : Except Error Key := do
  match ← (find id).mapError Key.Fault.error with
  | some key => .ok key
  | none => .error (.keyMissing (id.getD Key.defaultId))

/-- An id that leads to a key gives it. -/
theorem keyAt_of_found {find : Key.Lookup} {id : Option String} {key : Key}
    (h : find id = .ok (some key)) : keyAt find id = .ok key := by
  rw [keyAt, h]
  rfl

/-- A key that is given was led to. -/
theorem keyAt_eq_ok {find : Key.Lookup} {id : Option String} {key : Key}
    (h : keyAt find id = .ok key) : find id = .ok (some key) := by
  rw [keyAt] at h
  cases found : find id with
  | error fault =>
    rw [found] at h
    cases h
  | ok other =>
    rw [found] at h
    cases other with
    | none => cases h
    | some other =>
      cases h
      rfl

/-- Asking for a key is a lookup, and a failure where there is none. -/
theorem told_keyFor (id : Option String) :
    Action.Told hosting (keyFor hosting id : Action σ Key) fun find => keyAt find id := by
  refine (Action.told_resolveKey id).bind fun key => ?_
  cases key with
  | none => exact .throw _
  | some key => exact .pure key

theorem run_keyFor_of_found {id : Option String} {key : Key} {w : World σ}
    (h : w.find hosting id = .ok (some key)) :
    ∃ w', (keyFor hosting id).run.run w = (.ok key, w') := by
  obtain ⟨w', -, runs⟩ := told_keyFor id w
  refine ⟨w', runs.trans ?_⟩
  rw [← keyAt_of_found h]

def decipheredValue (find : Key.Lookup) (s : Secret) : Except Error String :=
  match s.keyId? with
  | none => .error (.keyIdMissing s.name)
  | some id => do
    let key ← keyAt find (some id)
    (Blob.decrypt s.value key.bytes).mapError Error.cipher

/-- What a blob is deciphered to depends on its key alone. -/
theorem told_decipherValue (s : Secret) :
    Action.Told hosting (decipherValue hosting s : Action σ String)
      fun find => decipheredValue find s := by
  unfold decipherValue decipheredValue
  -- without the id of a key nothing is looked up
  cases s.keyId? with
  | none => exact .throw _
  | some id =>
    refine (told_keyFor (some id)).bind fun key => ?_
    rw [Action.decrypt]
    cases Blob.decrypt s.value key.bytes with
    | ok text => exact .pure text
    | error fault => exact .throw _

/-- Enciphering looks up a key and draws a block. -/
theorem orderly_encipherValue (s : Secret) :
    Action.Orderly hosting (encipherValue hosting s : Action σ Secret) :=
  (told_keyFor s.keyId?).orderly.bind fun key =>
    (Action.Orderly.encrypt key.bytes s.value).bind fun _ => (Action.Told.pure _).orderly

/-- What is enciphered is a blob under a key that was found, and names that key. -/
theorem encipherValue_eq_ok {s t : Secret} {w w' : World σ}
    (h : (encipherValue hosting s).run.run w = (.ok t, w')) :
    ∃ key iv blob, w.find hosting s.keyId? = .ok (some key) ∧ iv.length = Cbc.blockLength ∧
      Blob.encrypt iv key.bytes s.value = .ok blob ∧ t = .encrypted s.name blob key.id := by
  obtain ⟨key, u, found, rest⟩ := Action.run_bind_eq_ok h
  obtain ⟨blob, u', enciphered, done⟩ := Action.run_bind_eq_ok rest
  obtain ⟨v, -, runs⟩ := told_keyFor s.keyId? w
  rw [runs] at found
  obtain ⟨iv, drawn, peeked, made⟩ := Action.run_bind_eq_ok enciphered
  refine ⟨key, iv, blob, keyAt_eq_ok (Prod.ext_iff.1 found).1, ?_, ?_, ?_⟩
  · rw [Action.run_draw] at peeked
    cases peeked
    exact Entropy.length_peek _ _
  · cases result : Blob.encrypt iv key.bytes s.value with
    | ok other =>
      rw [result] at made
      cases made
      rfl
    | error fault =>
      rw [result] at made
      cases made
  · cases done
    rfl

end Converter

namespace Vault

variable {σ τ : Type} {v : Vault} {s t : Secret}

/-! ## Reading -/

/-- The plain value of a stored secret, given where ids lead. -/
def plainValue (find : Key.Lookup) (s : Secret) : Except Error String :=
  if s.isEncrypted then Converter.decipheredValue find s else .ok s.value

theorem plainValue_plaintext (find : Key.Lookup) (name value : String) :
    plainValue find (.plaintext name value) = .ok value := rfl

/-- The plain value of an encrypted secret whose key is found. -/
theorem plainValue_of_found {find : Key.Lookup} {id : String} {key : Key}
    (enciphered : s.isEncrypted = true) (named : s.keyId? = some id)
    (found : find (some id) = .ok (some key)) :
    plainValue find s = (Blob.decrypt s.value key.bytes).mapError Error.cipher := by
  rw [plainValue, if_pos enciphered, Converter.decipheredValue, named]
  simp only [Converter.keyAt_of_found found]
  rfl

/-- Reading a secret at most looks up a key. -/
theorem told_read (v : Vault) (s : Secret) :
    Action.Told v.hosting (v.read s : Action σ String) fun find => plainValue find s := by
  unfold read converter plainValue
  cases s.isEncrypted with
  | false => exact .pure s.value
  | true => exact Converter.told_decipherValue s

/-! ## Writing -/

/-- Writing a secret draws a block at most, and touches no file. -/
theorem orderly_write (v : Vault) (s : Secret) :
    Action.Orderly v.hosting (v.write s : Action σ Secret) := by
  rw [write, converter]
  cases v.encrypts with
  | false => exact (Action.Told.pure _).orderly
  | true => exact Converter.orderly_encipherValue s

/-- What a value is when it comes back: the cipher drops a byte order mark at its front. -/
def kept (v : Vault) (value : String) : String :=
  if v.encrypts then Blob.dropMark value else value

/-- The two forms at rest. -/
theorem write_eq_ok {w w' : World σ} (h : (v.write s).run.run w = (.ok t, w')) :
    (v.encrypts = false ∧ t = .plaintext s.name s.value) ∨
      ∃ key iv blob, v.encrypts = true ∧ w.find v.hosting s.keyId? = .ok (some key) ∧
        iv.length = Cbc.blockLength ∧ Blob.encrypt iv key.bytes s.value = .ok blob ∧
        t = .encrypted s.name blob key.id := by
  rw [write, converter] at h
  cases encrypts : v.encrypts with
  | false =>
    rw [encrypts] at h
    cases h
    exact .inl ⟨rfl, rfl⟩
  | true =>
    rw [encrypts] at h
    obtain ⟨key, iv, blob, found, block, made, rfl⟩ := Converter.encipherValue_eq_ok h
    exact .inr ⟨key, iv, blob, rfl, found, block, made, rfl⟩

/-- A secret keeps its name at rest. -/
theorem name_of_write {w w' : World σ} (h : (v.write s).run.run w = (.ok t, w')) :
    t.name = s.name := by
  rcases write_eq_ok h with ⟨-, rfl⟩ | ⟨_, _, _, -, -, -, -, rfl⟩
  · rfl
  · rfl

/-- What was written can be read where it was written. -/
theorem plainValue_of_write {w w' : World σ} (sound : w.keys.Sound)
    (h : (v.write s).run.run w = (.ok t, w')) :
    plainValue (w.find v.hosting) t = .ok (v.kept s.value) := by
  rcases write_eq_ok h with ⟨plain, rfl⟩ | ⟨key, iv, blob, encrypts, found, block, made, rfl⟩
  · rw [plainValue_plaintext, kept, if_neg (Bool.eq_false_iff.1 plain)]
  · -- the key that is named is the one that was found, not the one asked for
    obtain ⟨filled, -, again⟩ := World.find_id_of_found sound found
    rw [plainValue_of_found rfl (Secret.keyId?_encrypted filled) again]
    show (Blob.decrypt blob key.bytes).mapError Error.cipher = _
    rw [Blob.decrypt_encrypt block made, kept, if_pos encrypts]
    rfl

/-- Every secret whose key is found can be written. -/
theorem exists_write {key : Key} {w : World σ} (sound : w.keys.Sound)
    (found : w.find v.hosting s.keyId? = .ok (some key)) :
    ∃ t w', (v.write s).run.run w = (.ok t, w') := by
  rw [write, converter]
  cases v.encrypts with
  | false => exact ⟨_, _, rfl⟩
  | true =>
    obtain ⟨w', runs⟩ := Converter.run_keyFor_of_found found
    obtain ⟨-, proper, -⟩ := World.find_id_of_found sound found
    -- a key that was found has a proper length, so that it enciphers any text
    obtain ⟨blob, made⟩ := Blob.exists_encrypt proper (w'.entropy.peek Cbc.blockLength) s.value
    have enciphered : (Action.encrypt key.bytes s.value).run.run w' =
        (.ok blob, { w' with entropy := w'.entropy.advance Cbc.blockLength }) := by
      rw [Action.encrypt, Action.run_bind_of_ok (Action.run_draw _ _), made]
      rfl
    refine ⟨.encrypted s.name blob key.id,
      { w' with entropy := w'.entropy.advance Cbc.blockLength }, ?_⟩
    show (Converter.encipherValue v.hosting s).run.run w = _
    rw [Converter.encipherValue, Action.run_bind_of_ok runs, Action.run_bind_of_ok enciphered]
    rfl

/-- Whatever is persisted in some process, where keys were looked up before, is read back from its
place in a current document by any process of the same environment and hosting. -/
theorem persisted_secret_is_readable {env : Environment} {hosting : Hosting} {w w' : World σ}
    {u : World τ} (here : w.Within env hosting) (there : u.Within env hosting)
    {encrypts : Bool} (other : Bool)
    (written : (Vault.write ⟨hosting, encrypts⟩ s).run.run w = (.ok t, w')) :
    t.name = s.name ∧
    (encrypts = true → t.isEncrypted = true ∧ ∃ id, t.keyId? = some id ∧ id ≠ "") ∧
    (∀ (keys : List Secret) (i : Nat), keys[i]? = some t →
      ∃ text d, Document.writeFunction keys = .ok text ∧ Document.readFunction text = .ok d ∧
      d.version.number = 1 ∧
      ∃ r, d.secrets[i]? = some r ∧ ((Vault.read ⟨hosting, other⟩ r).run.run u).1 =
        .ok (if encrypts then Blob.dropMark s.value else s.value)) ∧
    (∀ host : HostSecrets, host.masterKey = t → ∃ text d, Document.writeHost host = .ok text ∧
      Document.readHost text = .ok d ∧ d.version.number = 1 ∧
      ((Vault.read ⟨hosting, other⟩ d.secrets.masterKey).run.run u).1 =
        .ok (if encrypts then Blob.dropMark s.value else s.value)) ∧
    (∀ (host : HostSecrets) (i : Nat), host.functionKeys[i]? = some t →
      ∃ text d, Document.writeHost host = .ok text ∧ Document.readHost text = .ok d ∧
      d.version.number = 1 ∧ ∃ r, d.secrets.functionKeys[i]? = some r ∧
        ((Vault.read ⟨hosting, other⟩ r).run.run u).1 =
          .ok (if encrypts then Blob.dropMark s.value else s.value)) := by
  -- ids lead to the same keys in both processes, whatever was looked up in either
  have eq : u.find hosting = w.find hosting := by
    funext id
    rw [there.find_eq, here.find_eq]
  have read : ((Vault.read ⟨hosting, other⟩ t).run.run u).1 =
      .ok (if encrypts then Blob.dropMark s.value else s.value) := by
    have value := plainValue_of_write here.sound written
    obtain ⟨u', -, runs⟩ := told_read ⟨hosting, other⟩ t u
    rw [runs]
    dsimp only
    rw [eq]
    exact value
  refine ⟨name_of_write written, ?_, ?_, ?_, ?_⟩
  · intro enciphers
    rcases write_eq_ok written with ⟨plain, -⟩ | ⟨key, _, blob, -, found, -, -, rfl⟩
    · exact absurd (enciphers.symm.trans plain) (by decide)
    · obtain ⟨filled, -, -⟩ := World.find_id_of_found here.sound found
      exact ⟨rfl, key.id, Option.filter_eq_some_iff.2 ⟨rfl, by simpa using filled⟩, filled⟩
  · intro keys i place
    obtain ⟨text, stored, reread⟩ := Document.readFunction_writeFunction keys
    exact ⟨text, _, stored, reread, rfl, t, place, read⟩
  · intro host place
    obtain ⟨text, stored, reread⟩ := Document.readHost_writeHost host
    exact ⟨text, _, stored, reread, rfl, place ▸ read⟩
  · intro host i place
    obtain ⟨text, stored, reread⟩ := Document.readHost_writeHost host
    exact ⟨text, _, stored, reread, rfl, t, place, read⟩

/-- A process whose default key is kept in a variable with the name of an alias, with nothing looked
up. -/
def aliased : World Unit where
  environment := Variables.table
    [(Key.overrideVariable, "Default"), ("Default", "000102030405060708090a0b0c0d0e0f")]
  entropy := .counting
  keys := .empty
  log := []
  volume := ()

theorem find_aliased : aliased.find .onPremises (some "DEFAULT") =
    .ok (some ⟨"Default", (List.range 16).map UInt8.ofNat⟩) := rfl

/-- A key asked for by one alias is kept under another, and found again. -/
theorem persisted_secret_under_alias :
    ∃ t w', (Vault.write ⟨.onPremises, true⟩ ⟨"master", "\uFEFFx", false, some "DEFAULT"⟩).run.run
        aliased = (.ok t, w') ∧
      ∃ text d, Document.writeFunction [t] = .ok text ∧ Document.readFunction text = .ok d ∧
        d.version.number = 1 ∧ ∃ r, d.secrets[0]? = some r ∧
          ((Vault.read ⟨.onPremises, false⟩ r).run.run aliased).1 = .ok "x" := by
  have within : aliased.Within aliased.environment .onPremises := ⟨rfl, [], rfl⟩
  obtain ⟨t, w', written⟩ := exists_write (v := ⟨.onPremises, true⟩)
    (s := ⟨"master", "\uFEFFx", false, some "DEFAULT"⟩) within.sound find_aliased
  obtain ⟨-, -, readable, -⟩ := persisted_secret_is_readable within within false written
  exact ⟨t, w', written, readable [t] 0 rfl⟩

end Vault

end Lockbox
