import Lockbox.Proofs.Basic
import Lockbox.Proofs.Cipher.Length
import Lockbox.Proofs.Vault

/-!
# Stored blobs are not served

Reading an encrypted secret goes by the key that its own id leads to, or fails
(`run_read_of_named`). What it gives was sealed in the secret (`Sealed`) and is therefore shorter
than what is stored, so that no blob is ever taken for a value:

    never_served_raw : s.isEncrypted = true → … ((v.read s).run.run w).1 = .ok text →
      Sealed (w.find v.hosting) s text ∧
      (Utf8.encode text).length < (Utf8.encode s.value).length ∧ text ≠ s.value

A secret that is not encrypted is its stored value, wherever it is read.
-/

namespace Lockbox

namespace Secret

variable {s : Secret}

theorem keyId?_of_unnamed (h : s.storedKeyId = none ∨ s.storedKeyId = some "") :
    s.keyId? = none := by
  rcases h with h | h
  · rw [keyId?, h]
    rfl
  · rw [keyId?, h]
    rfl

theorem keyId?_of_named {id : String} (named : s.storedKeyId = some id) (filled : id ≠ "") :
    s.keyId? = some id := by
  rw [keyId?, Option.filter_eq_some_iff]
  exact ⟨named, by simpa using filled⟩

theorem keyId?_eq_some {id : String} (h : s.keyId? = some id) :
    s.storedKeyId = some id ∧ id ≠ "" := by
  obtain ⟨named, filled⟩ := Option.filter_eq_some_iff.1 h
  exact ⟨named, by simpa using filled⟩

end Secret

namespace Vault

variable {σ : Type} {v : Vault} {s : Secret}

/-- A secret that is not encrypted is read without looking at anything. -/
theorem run_read_of_plain (v : Vault) (h : s.isEncrypted = false) (w : World σ) :
    (v.read s).run.run w = (.ok s.value, w) := by
  rw [read, converter, h]
  rfl

/-- An encrypted secret without the id of its key is refused without looking at anything. -/
theorem run_read_of_unnamed (v : Vault) (h : s.isEncrypted = true) (unnamed : s.keyId? = none)
    (w : World σ) : (v.read s).run.run w = (.error (.keyIdMissing s.name), w) := by
  rw [read, converter, h]
  show (Converter.decipherValue v.hosting s).run.run w = _
  rw [Converter.decipherValue, unnamed]
  rfl

/-- An encrypted secret is deciphered with the key that its id leads to. -/
theorem run_read_of_named (v : Vault) (h : s.isEncrypted = true) {id : String}
    (named : s.keyId? = some id) (w : World σ) :
    ((v.read s).run.run w).1 = match w.find v.hosting (some id) with
      | .error fault => .error fault.error
      | .ok none => .error (.keyMissing id)
      | .ok (some key) => (Blob.decrypt s.value key.bytes).mapError .cipher := by
  obtain ⟨w', -, runs⟩ := told_read v s w
  rw [runs]
  dsimp only
  rw [plainValue, if_pos h, Converter.decipheredValue, named]
  dsimp only
  rw [Converter.keyAt]
  cases w.find v.hosting (some id) with
  | error fault => rfl
  | ok found =>
    cases found with
    | none => rfl
    | some key => rfl

/-- An encrypted secret that says under which key, and that this key deciphers to a value. -/
structure Sealed (find : Key.Lookup) (s : Secret) (value : String) : Prop where
  encrypted : s.isEncrypted = true
  deciphered : ∃ id key, s.storedKeyId = some id ∧ id ≠ "" ∧ find (some id) = .ok (some key) ∧
    Blob.decrypt s.value key.bytes = .ok value

/-- The value of an encrypted secret is what is sealed in it. -/
theorem sealed_of_plainValue {find : Key.Lookup} {value : String} (h : s.isEncrypted = true)
    (given : plainValue find s = .ok value) : Sealed find s value := by
  rw [plainValue, if_pos h, Converter.decipheredValue] at given
  cases named : s.keyId? with
  | none =>
    rw [named] at given
    cases given
  | some id =>
    rw [named] at given
    obtain ⟨stored, filled⟩ := Secret.keyId?_eq_some named
    obtain ⟨key, found, deciphered⟩ := exists_of_bind_eq_ok given
    refine ⟨h, id, key, stored, filled, Converter.keyAt_eq_ok found, ?_⟩
    cases text : Blob.decrypt s.value key.bytes with
    | error fault =>
      rw [text] at deciphered
      cases deciphered
    | ok other =>
      rw [text] at deciphered
      cases deciphered
      rfl

theorem sealed_of_read (h : s.isEncrypted = true) {w : World σ} {text : String}
    (served : ((v.read s).run.run w).1 = .ok text) : Sealed (w.find v.hosting) s text := by
  obtain ⟨w', -, runs⟩ := told_read v s w
  rw [runs] at served
  exact sealed_of_plainValue h served

/-- An encrypted secret is never served as it is stored, and one that is not encrypted always is,
whatever the environment holds and whatever is remembered of keys. -/
theorem never_served_raw (v : Vault) (s : Secret) (w : World σ) :
    (s.isEncrypted = true →
      (s.storedKeyId = none ∨ s.storedKeyId = some "" →
        (v.read s).run.run w = (.error (.keyIdMissing s.name), w)) ∧
      (∀ id, s.storedKeyId = some id → id ≠ "" →
        ((v.read s).run.run w).1 = match w.find v.hosting (some id) with
          | .error fault => .error fault.error
          | .ok none => .error (.keyMissing id)
          | .ok (some key) => (Blob.decrypt s.value key.bytes).mapError .cipher) ∧
      ∀ text, ((v.read s).run.run w).1 = .ok text →
        Sealed (w.find v.hosting) s text ∧
        (Utf8.encode text).length < (Utf8.encode s.value).length ∧ text ≠ s.value) ∧
    (s.isEncrypted = false → (v.read s).run.run w = (.ok s.value, w)) := by
  refine ⟨fun encrypted => ⟨?_, ?_, ?_⟩, fun plain => run_read_of_plain v plain w⟩
  · intro unnamed
    exact run_read_of_unnamed v encrypted (Secret.keyId?_of_unnamed unnamed) w
  · intro id named filled
    exact run_read_of_named v encrypted (Secret.keyId?_of_named named filled) w
  · intro text served
    have opens := sealed_of_read encrypted served
    obtain ⟨id, key, -, -, -, deciphered⟩ := opens.deciphered
    have shorter := Blob.length_lt_of_decrypt deciphered
    refine ⟨opens, shorter, ?_⟩
    rintro rfl
    exact Nat.lt_irrefl _ shorter

/-- A secret stored under an alias of the default key, a blob between blanks. -/
def underAlias : Secret :=
  ⟨"master", "\u00a0AAECAwQFBgcICQoLDA0OD8ZcwB4XTo3scaW6gIoqSVs=\n", true, some "DEFAULT"⟩

theorem decrypt_underAlias : Blob.decrypt underAlias.value Blob.firstBytes = .ok "x" :=
  (Blob.decrypt_eq_ok_iff _ _ _).2 ⟨Blob.firstBytes, rfl, .inl Blob.encrypt_marked_x⟩

/-- The blob is deciphered, refused without its id, and served as it is only if it is not taken for
one. -/
theorem never_served_raw_underAlias :
    (Utf8.encode "x").length < (Utf8.encode underAlias.value).length ∧
    ((Vault.read ⟨.onPremises, false⟩ underAlias).run.run aliased).1 = .ok "x" ∧
    (Vault.read ⟨.onPremises, true⟩ (underAlias.withKeyId "")).run.run aliased =
      (.error (.keyIdMissing "master"), aliased) ∧
    (Vault.read ⟨.onPremises, true⟩ { underAlias with isEncrypted := false }).run.run aliased =
      (.ok underAlias.value, aliased) := by
  obtain ⟨-, named, shorter⟩ := (never_served_raw ⟨.onPremises, false⟩ underAlias aliased).1 rfl
  obtain ⟨unnamed, -, -⟩ :=
    (never_served_raw ⟨.onPremises, true⟩ (underAlias.withKeyId "") aliased).1 rfl
  have served : ((Vault.read ⟨.onPremises, false⟩ underAlias).run.run aliased).1 = .ok "x" := by
    rw [named "DEFAULT" rfl (by decide), find_aliased]
    show (Blob.decrypt underAlias.value Blob.firstBytes).mapError Error.cipher = _
    rw [decrypt_underAlias]
    rfl
  exact ⟨(shorter "x" served).2.1, served, unnamed (.inr rfl),
    (never_served_raw ⟨.onPremises, true⟩ { underAlias with isEncrypted := false } aliased).2 rfl⟩

end Vault

end Lockbox
