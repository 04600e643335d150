import Mathlib.Data.List.Forall2
import Lockbox.Document.Structured
import Lockbox.Proofs.Basic

/-!
# What a structured document may hold

The grammar of structured documents, said without a reader: what may stand in each place of a record
and what it means (`Holds`), what is a record (`Record`), and what a document of a function or of
the host consists of. The readers accept what the grammar does, and read the same in it:

    readSecret_eq_ok_iff : Schema.readSecret j = .ok s ↔ Record j s

Hence they look at no other member of an object (`structured_reader_is_exact`).
-/

namespace Lockbox

/-! ## The grammar -/

/-- A place for a text: nothing and null stand for the empty one. -/
inductive HoldsText : Option Json → String → Prop
  | absent : HoldsText none ""
  | null : HoldsText (some .null) ""
  | text (s : String) : HoldsText (some (.string s)) s

/-- A place for a truth value: nothing stands for false, and null is no truth value. -/
inductive HoldsTruth : Option Json → Bool → Prop
  | absent : HoldsTruth none false
  | truth (b : Bool) : HoldsTruth (some (.bool b)) b

/-- A place for the id of a key, which may be missing or null. -/
inductive HoldsId : Option Json → Option String → Prop
  | absent : HoldsId none none
  | null : HoldsId (some .null) none
  | text (s : String) : HoldsId (some (.string s)) (some s)

/-- A record of a secret: an object, in which the id of the key has one of two names and not both,
or an array of at most four values. -/
inductive Record : Json → Secret → Prop
  | object {members : List (String × Json)} {s : Secret}
    (name : HoldsText (Json.member? "name" members) s.name)
    (value : HoldsText (Json.member? "value" members) s.value)
    (encrypted : HoldsTruth (Json.member? "encrypted" members) s.isEncrypted)
    (single : Json.member? "encryptionKeyId" members = none ∨ Json.member? "keyId" members = none)
    (keyId : HoldsId
      ((Json.member? "encryptionKeyId" members).or (Json.member? "keyId" members)) s.storedKeyId) :
    Record (.object members) s
  | array {items : List Json} {s : Secret} (few : items.length ≤ 4)
    (name : HoldsText items[0]? s.name) (value : HoldsText items[1]? s.value)
    (encrypted : HoldsTruth items[2]? s.isEncrypted) (keyId : HoldsId items[3]? s.storedKeyId) :
    Record (.array items) s

/-- An array of records in order. -/
inductive Records : Json → List Secret → Prop
  | array {items : List Json} {secrets : List Secret}
    (each : List.Forall₂ Record items secrets) : Records (.array items) secrets

/-- The members of a document of a function. -/
structure FunctionDocument (members : List (String × Json)) (keys : List Secret) : Prop where
  keys : ∃ j, Json.member? "keys" members = some j ∧ Records j keys

/-- The members of a document of the host. Without function keys there are none. -/
structure HostDocument (members : List (String × Json)) (host : HostSecrets) : Prop where
  masterKey : ∃ j, Json.member? "masterKey" members = some j ∧ Record j host.masterKey
  functionKeys : (Json.member? "functionKeys" members = none ∧ host.functionKeys = []) ∨
    ∃ j, Json.member? "functionKeys" members = some j ∧ Records j host.functionKeys

/-! ## Places -/

namespace Schema

variable {o : Option Json} {j : Json} {items : List Json} {members : List (String × Json)}
  {s : Secret} {secrets : List Secret}

/-- The reader of texts accepts what may stand for one. -/
theorem readText_eq_ok_iff {t : String} : readOr "" readText o = .ok t ↔ HoldsText o t := by
  constructor
  · intro h
    cases o with
    | none =>
      cases h
      exact .absent
    | some j =>
      cases j with
      | null =>
        cases h
        exact .null
      | string s =>
        cases h
        exact .text s
      | _ => cases h
  · intro h
    cases h <;> rfl

/-- The reader of truth values accepts what may stand for one. -/
theorem readTruth_eq_ok_iff {b : Bool} : readOr false readTruth o = .ok b ↔ HoldsTruth o b := by
  constructor
  · intro h
    cases o with
    | none =>
      cases h
      exact .absent
    | some j =>
      cases j with
      | bool b =>
        cases h
        exact .truth b
      | _ => cases h
  · intro h
    cases h <;> rfl

/-- The reader of ids accepts what may stand for one. -/
theorem readId_eq_ok_iff {id : Option String} :
    readOr none readOptionalText o = .ok id ↔ HoldsId o id := by
  constructor
  · intro h
    cases o with
    | none =>
      cases h
      exact .absent
    | some j =>
      cases j with
      | null =>
        cases h
        exact .null
      | string s =>
        cases h
        exact .text s
      | _ => cases h
  · intro h
    cases h <;> rfl

/-- Two names of the id are refused, whatever they hold. -/
theorem readKeyId_eq_ok_iff {id : Option String} :
    readKeyId members = .ok id ↔
      (Json.member? "encryptionKeyId" members = none ∨ Json.member? "keyId" members = none) ∧
        HoldsId ((Json.member? "encryptionKeyId" members).or (Json.member? "keyId" members))
          id := by
  rw [← readId_eq_ok_iff, readKeyId, keyIdField, olderKeyIdField]
  -- by which of the two names is there
  cases Json.member? "encryptionKeyId" members with
  | none =>
    cases Json.member? "keyId" members with
    | none => simp [readOr, pure, Except.pure]
    | some j => simp [readOr]
  | some j =>
    cases Json.member? "keyId" members with
    | none => simp [readOr]
    | some j' =>
      dsimp only
      cases readOptionalText j <;> simp [bind, Except.bind, throw, throwThe, MonadExceptOf.throw]

/-! ## Records -/

theorem readMembers_eq_ok_iff : readMembers members = .ok s ↔ Record (.object members) s := by
  constructor
  · intro h
    obtain ⟨isEncrypted, encrypted, h⟩ := exists_of_bind_eq_ok h
    obtain ⟨id, keyId, h⟩ := exists_of_bind_eq_ok h
    obtain ⟨t, name, h⟩ := exists_of_bind_eq_ok h
    obtain ⟨u, value, h⟩ := exists_of_bind_eq_ok h
    cases h
    obtain ⟨single, keyId⟩ := readKeyId_eq_ok_iff.1 keyId
    exact .object (readText_eq_ok_iff.1 name) (readText_eq_ok_iff.1 value)
      (readTruth_eq_ok_iff.1 encrypted) single keyId
  · intro h
    cases h with
    | object name value encrypted single keyId =>
      rw [readMembers, readTruth_eq_ok_iff.2 encrypted, readKeyId_eq_ok_iff.2 ⟨single, keyId⟩,
        readText_eq_ok_iff.2 name, readText_eq_ok_iff.2 value]
      rfl

theorem readItems_eq_ok_iff : readItems items = .ok s ↔ Record (.array items) s := by
  constructor
  · intro h
    obtain ⟨t, name, h⟩ := exists_of_bind_eq_ok h
    obtain ⟨u, value, h⟩ := exists_of_bind_eq_ok h
    obtain ⟨isEncrypted, encrypted, h⟩ := exists_of_bind_eq_ok h
    obtain ⟨id, keyId, h⟩ := exists_of_bind_eq_ok h
    split at h
    · cases h
    · next few =>
      cases h
      exact .array (Nat.not_lt.1 few) (readText_eq_ok_iff.1 name) (readText_eq_ok_iff.1 value)
        (readTruth_eq_ok_iff.1 encrypted) (readId_eq_ok_iff.1 keyId)
  · intro h
    cases h with
    | array few name value encrypted keyId =>
      rw [readItems, readText_eq_ok_iff.2 name, readText_eq_ok_iff.2 value,
        readTruth_eq_ok_iff.2 encrypted, readId_eq_ok_iff.2 keyId]
      exact if_neg (Nat.not_lt.2 few)

/-- The reader of records accepts what is one. -/
theorem readSecret_eq_ok_iff : readSecret j = .ok s ↔ Record j s := by
  cases j with
  | object members => exact readMembers_eq_ok_iff
  | array items => exact readItems_eq_ok_iff
  | _ => constructor <;> intro h <;> cases h

/-- Records are read one by one, in their order. -/
theorem mapM_readSecret_eq_ok_iff :
    items.mapM readSecret = .ok secrets ↔ List.Forall₂ Record items secrets := by
  -- on the items, each of which is to be a record
  induction items generalizing secrets with
  | nil =>
    constructor <;> intro h <;> cases h
    · exact .nil
    · rfl
  | cons item rest ih =>
    rw [List.mapM_cons]
    constructor
    · intro h
      obtain ⟨s, first, h⟩ := exists_of_bind_eq_ok h
      obtain ⟨others, later, h⟩ := exists_of_bind_eq_ok h
      cases h
      exact .cons (readSecret_eq_ok_iff.1 first) (ih.1 later)
    · intro h
      cases h with
      | cons first later =>
        rw [readSecret_eq_ok_iff.2 first, ih.2 later]
        rfl

theorem readSecrets_eq_ok_iff : readSecrets j = .ok secrets ↔ Records j secrets := by
  cases j with
  | array items =>
    exact mapM_readSecret_eq_ok_iff.trans ⟨.array, fun h => by cases h; assumption⟩
  | _ => constructor <;> intro h <;> cases h

end Schema

/-! ## Documents -/

namespace Structured

variable {α : Type} {members : List (String × Json)} {host : HostSecrets} {keys : List Secret}

theorem mapError_schema_eq_ok_iff {x : Except SchemaFault α} {a : α} :
    x.mapError FormatFault.schema = .ok a ↔ x = .ok a := by
  cases x <;> simp [Except.mapError]

/-- The reader of the keys of a function accepts the documents that have them. -/
theorem readFunction_eq_ok_iff :
    readFunction members = .ok keys ↔ FunctionDocument members keys := by
  rw [readFunction, mapError_schema_eq_ok_iff, keysOfMembers, keysField]
  constructor
  · intro h
    cases member_eq : Json.member? "keys" members with
    | none =>
      rw [member_eq] at h
      cases h
    | some j =>
      rw [member_eq] at h
      exact ⟨j, member_eq, Schema.readSecrets_eq_ok_iff.1 h⟩
  · rintro ⟨j, declared, records⟩
    rw [declared]
    exact Schema.readSecrets_eq_ok_iff.2 records

/-- The reader of the secrets of the host accepts the documents that have them. -/
theorem readHost_eq_ok_iff : readHost members = .ok host ↔ HostDocument members host := by
  rw [readHost, mapError_schema_eq_ok_iff]
  constructor
  · intro h
    obtain ⟨functionKeys, functions, h⟩ := exists_of_bind_eq_ok h
    obtain ⟨masterKey, master, h⟩ := exists_of_bind_eq_ok h
    cases h
    constructor
    · cases member_eq : Json.member? masterField members with
      | none =>
        rw [member_eq] at master
        cases master
      | some j =>
        rw [member_eq] at master
        exact ⟨j, member_eq, Schema.readSecret_eq_ok_iff.1 master⟩
    · cases member_eq : Json.member? hostFunctionsField members with
      | none =>
        rw [member_eq] at functions
        cases functions
        exact .inl ⟨member_eq, rfl⟩
      | some j =>
        rw [member_eq] at functions
        exact .inr ⟨j, member_eq, Schema.readSecrets_eq_ok_iff.1 functions⟩
  · rintro ⟨⟨j, declared, record⟩, functions⟩
    have master : required masterField Schema.readSecret (Json.member? masterField members) =
        .ok host.masterKey := by
      rw [masterField, declared]
      exact Schema.readSecret_eq_ok_iff.2 record
    -- without function keys there are none, which is no fault
    have others : Schema.readOr [] Schema.readSecrets (Json.member? hostFunctionsField members) =
        .ok host.functionKeys := by
      rw [hostFunctionsField]
      rcases functions with ⟨nothing, none⟩ | ⟨j, declared, records⟩
      · rw [nothing, none]
        rfl
      · rw [declared]
        exact Schema.readSecrets_eq_ok_iff.2 records
    rw [hostOfMembers, others, master]
    rfl

/-- Two objects have the same members of some names. -/
def Agree (names : List String) (members others : List (String × Json)) : Prop :=
  ∀ n ∈ names, Json.member? n members = Json.member? n others

def recordNames : List String := ["name", "value", "encrypted", "encryptionKeyId", "keyId"]

/-- A record is read as its five members say, whatever others it has. -/
theorem readSecret_congr {others : List (String × Json)}
    (agree : Agree recordNames members others) :
    Schema.readSecret (.object members) = Schema.readSecret (.object others) := by
  have name := agree "name" (by simp [recordNames])
  have value := agree "value" (by simp [recordNames])
  have encrypted := agree "encrypted" (by simp [recordNames])
  have keyId := agree Schema.keyIdField (by simp [recordNames, Schema.keyIdField])
  have older := agree Schema.olderKeyIdField (by simp [recordNames, Schema.olderKeyIdField])
  simp only [Schema.readSecret, Schema.readMembers, Schema.readKeyId, name, value, encrypted, keyId,
    older]

/-- The reader of structured documents accepts what the grammar does and reads the same in it. It
looks at no other members, neither of a document nor of a record. -/
theorem structured_reader_is_exact (members : List (String × Json)) :
    (∀ keys, readFunction members = .ok keys ↔ FunctionDocument members keys) ∧
    (∀ host, readHost members = .ok host ↔ HostDocument members host) ∧
    (∀ j s, Schema.readSecret j = .ok s ↔ Record j s) ∧
    ∀ others : List (String × Json),
      (Agree ["keys"] members others → readFunction members = readFunction others) ∧
      (Agree ["masterKey", "functionKeys"] members others → readHost members = readHost others) ∧
      (Agree recordNames members others →
        Schema.readSecret (.object members) = Schema.readSecret (.object others)) := by
  refine ⟨fun _ => readFunction_eq_ok_iff, fun _ => readHost_eq_ok_iff,
    fun _ _ => Schema.readSecret_eq_ok_iff, fun others => ⟨?_, ?_, readSecret_congr⟩⟩
  · intro agree
    have keys := agree keysField (List.mem_singleton_self _)
    rw [readFunction, readFunction, keysOfMembers, keysOfMembers, keys]
  · intro agree
    have master := agree masterField List.mem_cons_self
    have functions := agree hostFunctionsField (by simp [hostFunctionsField])
    rw [readHost, readHost, hostOfMembers, hostOfMembers, master, functions]

/-- A record with an older name of its key's id and a remark, and one that is an array. -/
def mixedRecords : Json :=
  .array [.object [("keyId", .string "k"), ("name", .null), ("remark", .bool true),
    ("value", .string "v")], .array [.string "n"]]

/-- Both are read, and what else the document holds makes no difference. -/
theorem structured_reader_is_exact_mixed :
    Agree ["keys"] [("keys", mixedRecords), ("masterKey", .null)] [("keys", mixedRecords)] ∧
      readFunction [("keys", mixedRecords), ("masterKey", .null)] =
        .ok [⟨"", "v", false, some "k"⟩, ⟨"n", "", false, none⟩] ∧
      readFunction [("keys", mixedRecords), ("masterKey", .null)] =
        readFunction [("keys", mixedRecords)] := by
  have agree : Agree ["keys"] [("keys", mixedRecords), ("masterKey", .null)]
      [("keys", mixedRecords)] := by
    intro n hn
    rw [List.mem_singleton.1 hn]
    rfl
  obtain ⟨accepts, -, -, ignores⟩ :=
    structured_reader_is_exact [("keys", mixedRecords), ("masterKey", .null)]
  refine ⟨agree, (accepts _).2 ⟨mixedRecords, rfl, .array (.cons ?_ (.cons ?_ .nil))⟩,
    (ignores _).1 agree⟩
  · exact .object .null (.text "v") .absent (.inl rfl) (.text "k")
  · exact .array (by decide) (.text "n") .absent .absent .absent

end Structured

end Lockbox
