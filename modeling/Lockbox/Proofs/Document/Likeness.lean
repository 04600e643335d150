import Mathlib.Data.List.Forall2
import Lockbox.Proofs.Document.Disclosure
import Lockbox.Proofs.Vault

/-!
# Documents that differ in plain values

Two secrets are alike if they differ in their values alone, and both can be read or neither
(`Secret.Alike`). Two documents are alike if both are refused, or both hold secrets that are alike
in the same version (`Document.Alike`). Documents that differ in values that are not enciphered are
alike, and so is what is written of alike secrets:

    alike_of_sameButPlainValues : SameButPlainValues t u → Alike find t u
-/

namespace Lockbox

/-! ## Secrets -/

/-- Secrets that differ in their values alone. Where ids lead, both values can be had or neither. -/
structure Secret.Alike (find : Key.Lookup) (s t : Secret) : Prop where
  name : s.name = t.name
  isEncrypted : s.isEncrypted = t.isEncrypted
  keyId : s.storedKeyId = t.storedKeyId
  opens : (∃ value, Vault.plainValue find s = .ok value) ↔
    ∃ value, Vault.plainValue find t = .ok value

structure HostSecrets.Alike (find : Key.Lookup) (a b : HostSecrets) : Prop where
  masterKey : a.masterKey.Alike find b.masterKey
  functionKeys : List.Forall₂ (Secret.Alike find) a.functionKeys b.functionKeys

theorem Secret.Alike.refl (find : Key.Lookup) (s : Secret) : s.Alike find s :=
  ⟨rfl, rfl, rfl, Iff.rfl⟩

theorem HostSecrets.Alike.refl (find : Key.Lookup) (host : HostSecrets) : host.Alike find host :=
  ⟨.refl find host.masterKey, List.forall₂_same.2 fun s _ => .refl find s⟩

def Secret.conceal (s : Secret) : Secret := if s.isEncrypted then s else s.blank

variable {find : Key.Lookup} {s t : Secret}

/-- Values that are not enciphered can be had, whatever they are. -/
theorem Secret.alike_of_conceal_eq (find : Key.Lookup) (h : s.conceal = t.conceal) :
    s.Alike find t := by
  have kept : ∀ r : Secret, r.conceal.name = r.name ∧ r.conceal.isEncrypted = r.isEncrypted ∧
      r.conceal.storedKeyId = r.storedKeyId := by
    intro r
    rw [conceal]
    split <;> exact ⟨rfl, rfl, rfl⟩
  obtain ⟨name, isEncrypted, keyId⟩ := kept t
  rw [← h] at name isEncrypted keyId
  rw [(kept s).1] at name
  rw [(kept s).2.1] at isEncrypted
  rw [(kept s).2.2] at keyId
  refine ⟨name, isEncrypted, keyId, ?_⟩
  -- an enciphered secret is all there, and a plain one can be read with any value
  cases enciphered : s.isEncrypted with
  | true =>
    rw [conceal, conceal, if_pos enciphered, if_pos (isEncrypted ▸ enciphered)] at h
    rw [h]
  | false =>
    rw [Vault.plainValue, Vault.plainValue, ← isEncrypted, enciphered]
    exact ⟨fun _ => ⟨t.value, rfl⟩, fun _ => ⟨s.value, rfl⟩⟩

/-- Lists that are the same but for plain values are alike, record by record. -/
theorem Secret.alike_of_map_conceal_eq (find : Key.Lookup) :
    ∀ {a b : List Secret}, a.map conceal = b.map conceal → List.Forall₂ (Secret.Alike find) a b
  | [], [], _ => .nil
  | _ :: _, _ :: _, h =>
    .cons (alike_of_conceal_eq find (List.cons.inj h).1) (alike_of_map_conceal_eq find
      (List.cons.inj h).2)

theorem HostSecrets.alike_of_map_conceal_eq (find : Key.Lookup) {a b : HostSecrets}
    (h : a.map Secret.conceal = b.map Secret.conceal) : a.Alike find b := by
  obtain ⟨masterKey, functionKeys⟩ := HostSecrets.mk.inj h
  exact ⟨Secret.alike_of_conceal_eq find masterKey,
    Secret.alike_of_map_conceal_eq find functionKeys⟩

namespace Document

open Json (member?)

/-! ## Plain values -/

def isSet : Option Json → Bool
  | some (.bool b) => b
  | _ => false

def saysEncrypted : Json → Bool
  | .object members => isSet (member? "encrypted" members)
  | .array items => isSet items[2]?
  | _ => false

/-- A record without its value, unless that is said to be enciphered. -/
def concealRecord (j : Json) : Json := if saysEncrypted j then j else blankRecord j

/-- The same JSON document except for values in records that do not say that they are enciphered,
and for keys that are texts. -/
def SameButPlainValues (t u : String) : Prop := SameUnder concealRecord t u

/-- A truth value is read from a flag that is set, and is false without one. -/
theorem isSet_of_readTruth {o : Option Json} {b : Bool}
    (h : Schema.readOr false Schema.readTruth o = .ok b) : isSet o = b := by
  cases o with
  | none => exact Except.ok.inj h
  | some j =>
    cases j with
    | bool _ => exact Except.ok.inj h
    | _ => cases h

/-- A secret is taken for enciphered if its record says so, in either shape. -/
theorem isEncrypted_of_readSecret {j : Json} (h : Schema.readSecret j = .ok s) :
    s.isEncrypted = saysEncrypted j := by
  -- by the shape of the record: an object has the flag by name, an array by its place
  cases j with
  | object members =>
    obtain ⟨isEncrypted, truth, h⟩ := exists_of_bind_eq_ok h
    obtain ⟨_, -, h⟩ := exists_of_bind_eq_ok h
    obtain ⟨_, -, h⟩ := exists_of_bind_eq_ok h
    obtain ⟨_, -, h⟩ := exists_of_bind_eq_ok h
    cases h
    exact (isSet_of_readTruth truth).symm
  | array items =>
    obtain ⟨_, -, h⟩ := exists_of_bind_eq_ok h
    obtain ⟨_, -, h⟩ := exists_of_bind_eq_ok h
    obtain ⟨isEncrypted, truth, h⟩ := exists_of_bind_eq_ok h
    obtain ⟨_, -, h⟩ := exists_of_bind_eq_ok h
    dsimp only at h
    split at h
    · cases h
    · cases h
      exact (isSet_of_readTruth truth).symm
  | _ => cases h

/-- Concealing a record conceals the secret in it, and neither makes it readable nor unreadable. -/
theorem readSecret_concealRecord (j : Json) :
    Schema.readSecret (concealRecord j) = (Schema.readSecret j).map Secret.conceal := by
  rw [concealRecord]
  cases read : Schema.readSecret j with
  | error e =>
    split
    · exact read
    · rw [readSecret_blankRecord, read]
      rfl
  | ok s =>
    -- the record is kept exactly if the secret is
    show _ = Except.ok s.conceal
    rw [← isEncrypted_of_readSecret read, Secret.conceal]
    split
    · exact read
    · rw [readSecret_blankRecord, read]
      rfl

example : concealRecord (.array [.string "n", .string "v"]) = .array [.string "n", .string ""] ∧
    concealRecord (.array [.string "n", .string "v", .bool true]) =
      .array [.string "n", .string "v", .bool true] := ⟨rfl, rfl⟩

/-- So records that are concealed are masked, as those without values are. -/
theorem masks_concealRecord : Masks concealRecord Secret.conceal where
  readSecret := readSecret_concealRecord
  text := fun _ => rfl
  record := by
    intro j s h
    rw [concealRecord] at h
    split at h
    · exact h
    · exact masks_blankRecord.record j s h
  plaintext := fun _ => rfl

/-! ## Documents -/

/-- Documents of the same version that hold what is related. -/
structure Decoded.Alike {α : Type} (like : α → α → Prop) (d e : Decoded α) : Prop where
  version : d.version = e.version
  secrets : like d.secrets e.secrets

/-- Texts that are read alike, whatever they are taken for: both are refused, or both hold secrets
that are alike in the same version. -/
structure Alike (find : Key.Lookup) (t u : String) : Prop where
  host : Together Anyhow (Decoded.Alike (HostSecrets.Alike find)) (readHost t) (readHost u)
  function : Together Anyhow (Decoded.Alike (List.Forall₂ (Secret.Alike find)))
    (readFunction t) (readFunction u)

theorem Alike.refl (find : Key.Lookup) (t : String) : Alike find t t := by
  constructor
  · exact .refl (fun _ => trivial) (fun d => ⟨rfl, .refl find d.secrets⟩) _
  · refine .refl (fun _ => trivial) (fun d => ⟨rfl, ?_⟩) _
    exact List.forall₂_same.2 fun s _ => .refl find s

/-- Documents that differ in plain values alone are alike, wherever ids lead. -/
theorem alike_of_sameButPlainValues (find : Key.Lookup) {t u : String}
    (agree : SameButPlainValues t u) : Alike find t u := by
  constructor
  · by_cases misplaced : ∃ s, Misplaces t s
    · -- the faults show the texts that are no records, and are two faults all the same
      obtain ⟨s, left⟩ := misplaced
      obtain ⟨s', right⟩ := misplaces_of_sameUnder masks_concealRecord agree left
      rw [readHost_of_misplaces left, readHost_of_misplaces right]
      exact .error trivial
    · have none : ∀ s, ¬Misplaces t s := fun s shows => misplaced ⟨s, shows⟩
      refine .of_map_eq (readHost_sameUnder masks_concealRecord agree none) (fun _ => trivial) ?_
      intro d e h
      obtain ⟨version, secrets⟩ := Decoded.mk.inj h
      exact ⟨version, HostSecrets.alike_of_map_conceal_eq find secrets⟩
  · refine .of_map_eq (readFunction_sameUnder masks_concealRecord agree) (fun _ => trivial) ?_
    intro d e h
    obtain ⟨version, secrets⟩ := Decoded.mk.inj h
    exact ⟨version, Secret.alike_of_map_conceal_eq find secrets⟩

/-- A document of the host holds no keys of a function. -/
theorem readFunction_structured_writeHost (host : HostSecrets) :
    readFunction (Structured.writeHost host) =
      .error (.schema (.missing Structured.keysField)) := by
  have missing : member? Structured.keysField (Structured.hostMembers host) = none := by
    simp [Structured.hostMembers, Json.member?_sortMembers, Json.member?_cons,
      Structured.versionMember, Structured.keysField, Structured.masterField,
      Structured.hostFunctionsField]
  rw [readFunction, read_writeHost, Version.readFunction, Structured.readFunction,
    Structured.keysOfMembers, missing]
  rfl

/-- A document of a function holds no master key. -/
theorem readHost_structured_writeFunction (keys : List Secret) :
    readHost (Structured.writeFunction keys) =
      .error (.schema (.missing Structured.masterField)) := by
  have master : member? Structured.masterField (Structured.functionMembers keys) = none := by
    simp [Structured.functionMembers, Json.member?_sortMembers, Json.member?_cons,
      Structured.versionMember, Structured.keysField, Structured.masterField]
  have functions : member? Structured.hostFunctionsField (Structured.functionMembers keys) =
      none := by
    simp [Structured.functionMembers, Json.member?_sortMembers, Json.member?_cons,
      Structured.versionMember, Structured.keysField, Structured.hostFunctionsField]
  rw [readHost, read_writeFunction, Version.readHost, Structured.readHost, Structured.hostOfMembers,
    master, functions]
  rfl

/-- What is written of alike secrets is alike. -/
theorem alike_writeHost {a b : HostSecrets} (h : a.Alike find b) :
    Alike find (Structured.writeHost a) (Structured.writeHost b) := by
  constructor
  · rw [readHost_structured, readHost_structured]
    exact .ok ⟨rfl, h⟩
  · rw [readFunction_structured_writeHost, readFunction_structured_writeHost]
    exact .error trivial

/-- The same of the keys of a function. -/
theorem alike_writeFunction {a b : List Secret} (h : List.Forall₂ (Secret.Alike find) a b) :
    Alike find (Structured.writeFunction a) (Structured.writeFunction b) := by
  constructor
  · rw [readHost_structured_writeFunction, readHost_structured_writeFunction]
    exact .error trivial
  · rw [readFunction_structured, readFunction_structured]
    exact .ok ⟨rfl, h⟩

/-! ## Bytes -/

/-- The same bytes, or those of texts that are related. -/
def Bytes (like : String → String → Prop) (bytes other : List UInt8) : Prop :=
  bytes = other ∨ ∃ t u, Utf8.decode bytes = some t ∧ Utf8.decode other = some u ∧ like t u

theorem Bytes.refl (like : String → String → Prop) (bytes : List UInt8) : Bytes like bytes bytes :=
  .inl rfl

/-- Bytes that are related are related in a wider sense. -/
theorem Bytes.mono {like like' : String → String → Prop} {bytes other : List UInt8}
    (h : Bytes like bytes other) (texts : ∀ t u, like t u → like' t u) :
    Bytes like' bytes other := by
  rcases h with eq | ⟨t, u, left, right, given⟩
  · exact .inl eq
  · exact .inr ⟨t, u, left, right, texts t u given⟩

/-- Texts that are related have bytes that are. -/
theorem Bytes.encode {like : String → String → Prop} {t u : String} (h : like t u) :
    Bytes like (Utf8.encode t) (Utf8.encode u) :=
  .inr ⟨t, u, Utf8.decode_encode t, Utf8.decode_encode u, h⟩

/-- Both are texts, or neither is. -/
theorem Bytes.decode {like : String → String → Prop} (refl : ∀ t, like t t)
    {bytes other : List UInt8} (h : Bytes like bytes other) :
    Option.Rel like (Utf8.decode bytes) (Utf8.decode other) := by
  rcases h with rfl | ⟨t, u, left, right, given⟩
  · cases Utf8.decode bytes with
    | none => exact .none
    | some t => exact .some (refl t)
  · rw [left, right]
    exact .some given

end Document

end Lockbox
