import Lockbox.Document
import Lockbox.Proofs.Basic
import Lockbox.Proofs.Json.RoundTrip

/-!
# Secrets survive their documents

Every list of secrets can be written, and the text that is written reads back as the same secrets in
the current version:

    readHost_writeHost : ∃ text, writeHost host = .ok text ∧ readHost text = .ok ⟨.structured, host⟩

A document of any version that is read and written again has therefore been brought up to date, and
nothing is left to bring up to date in it (`rewriting_brings_up_to_date`).
-/

namespace Lockbox

open Json (Legible)

/-! ## Records -/

/-- A record is written with texts, truth values and a null, all of which can be read back. -/
theorem Secret.legible_toJson (s : Secret) (depth : Nat) : Legible (depth + 1) s.toJson := by
  apply Legible.object
  intro m hm
  simp only [List.mem_cons, List.not_mem_nil, or_false] at hm
  rcases hm with rfl | rfl | rfl | rfl
  · exact .string s.name
  · exact .string s.value
  · exact .bool s.isEncrypted
  -- a record without a key id has a null in its place
  · cases s.storedKeyId with
    | none => exact .null
    | some id => exact .string id

/-- The members of a record that was read. -/
def Secret.members (s : Secret) : List (String × Json) :=
  Json.sortMembers [("name", .string s.name), ("value", .string s.value),
    ("encrypted", .bool s.isEncrypted),
    ("encryptionKeyId", (s.storedKeyId.map Json.string).getD .null)]

/-- Members are sorted when they are read, and a record holds nothing that would be sorted
further. -/
theorem Secret.sorted_toJson (s : Secret) : s.toJson.sorted = .object s.members := by
  have keyId : ((s.storedKeyId.map Json.string).getD .null).sorted =
      (s.storedKeyId.map Json.string).getD .null := by
    cases s.storedKeyId <;> rfl
  rw [toJson, Json.sorted, Json.sortedMembers_eq_map]
  simp only [List.map_cons, List.map_nil, keyId, members, Json.sorted]

namespace Schema

/-- A record is read by its members, whatever their order. -/
theorem readSecret_sorted (s : Secret) : readSecret s.toJson.sorted = .ok s := by
  have name : Json.member? "name" s.members = some (.string s.name) := by
    simp [Secret.members, Json.member?_sortMembers, Json.member?_cons]
  have value : Json.member? "value" s.members = some (.string s.value) := by
    simp [Secret.members, Json.member?_sortMembers, Json.member?_cons]
  have encrypted : Json.member? "encrypted" s.members = some (.bool s.isEncrypted) := by
    simp [Secret.members, Json.member?_sortMembers, Json.member?_cons]
  have keyId : Json.member? keyIdField s.members =
      some ((s.storedKeyId.map Json.string).getD .null) := by
    simp [Secret.members, Json.member?_sortMembers, Json.member?_cons, keyIdField]
  -- the member of older documents is not written, so that it cannot clash
  have older : Json.member? olderKeyIdField s.members = none := by
    simp [Secret.members, Json.member?_sortMembers, Json.member?_cons, olderKeyIdField]
  have id : readKeyId s.members = .ok s.storedKeyId := by
    rw [readKeyId, keyId, older]
    cases s.storedKeyId <;> rfl
  rw [Secret.sorted_toJson, readSecret, readMembers, name, value, encrypted, id]
  rfl

theorem readSecrets_sorted (secrets : List Secret) :
    readSecrets (Json.array (secrets.map Secret.toJson)).sorted = .ok secrets := by
  rw [Json.sorted, Json.sortedItems_eq_map, List.map_map, readSecrets]
  -- on the records, each of which is read by itself
  induction secrets with
  | nil => rfl
  | cons s rest ih =>
    rw [List.map_cons, List.mapM_cons, ih, Function.comp_apply, readSecret_sorted]
    rfl

end Schema

/-! ## Documents -/

namespace Structured

/-- A list of records is nested one deeper than a record. -/
theorem legible_records (secrets : List Secret) (depth : Nat) :
    Legible (depth + 2) (.array (secrets.map Secret.toJson)) := by
  apply Legible.array
  intro item hi
  obtain ⟨s, -, rfl⟩ := List.mem_map.1 hi
  exact s.legible_toJson depth

/-- A document of the host is nested far less deep than documents may be. -/
theorem legible_hostDocument (host : HostSecrets) : Legible Json.maxDepth (hostDocument host) := by
  apply Legible.object
  intro m hm
  simp only [List.mem_cons, List.not_mem_nil, or_false] at hm
  -- the master key, the list of function keys and the version
  rcases hm with rfl | rfl | rfl
  · exact host.masterKey.legible_toJson _
  · exact legible_records host.functionKeys _
  · exact Legible.integer (n := 1) (by decide)

theorem legible_functionDocument (keys : List Secret) :
    Legible Json.maxDepth (functionDocument keys) := by
  apply Legible.object
  intro m hm
  simp only [List.mem_cons, List.not_mem_nil, or_false] at hm
  rcases hm with rfl | rfl
  · exact legible_records keys _
  · exact Legible.integer (n := 1) (by decide)

def hostMembers (host : HostSecrets) : List (String × Json) :=
  Json.sortMembers [(masterField, host.masterKey.toJson.sorted),
    (hostFunctionsField, (Json.array (host.functionKeys.map Secret.toJson)).sorted), versionMember]

def functionMembers (keys : List Secret) : List (String × Json) :=
  Json.sortMembers [(keysField, (Json.array (keys.map Secret.toJson)).sorted), versionMember]

theorem parse?_writeHost (host : HostSecrets) :
    Json.parse? (writeHost host) = some (.object (hostMembers host)) := by
  rw [writeHost, Json.parse?_pretty (legible_hostDocument host)]
  rfl

theorem parse?_writeFunction (keys : List Secret) :
    Json.parse? (writeFunction keys) = some (.object (functionMembers keys)) := by
  rw [writeFunction, Json.parse?_pretty (legible_functionDocument keys)]
  rfl

/-- The members that were written are read as the secrets they were written for. -/
theorem readHost_hostMembers (host : HostSecrets) : readHost (hostMembers host) = .ok host := by
  have master : Json.member? masterField (hostMembers host) =
      some host.masterKey.toJson.sorted := by
    simp [hostMembers, Json.member?_sortMembers, Json.member?_cons, versionMember, masterField,
      hostFunctionsField]
  have functions : Json.member? hostFunctionsField (hostMembers host) =
      some (Json.array (host.functionKeys.map Secret.toJson)).sorted := by
    simp [hostMembers, Json.member?_sortMembers, Json.member?_cons, versionMember, masterField,
      hostFunctionsField]
  rw [readHost, hostOfMembers, master, functions, Schema.readOr, Schema.readSecrets_sorted,
    required, Schema.readSecret_sorted]
  rfl

theorem readFunction_functionMembers (keys : List Secret) :
    readFunction (functionMembers keys) = .ok keys := by
  have records : Json.member? keysField (functionMembers keys) =
      some (Json.array (keys.map Secret.toJson)).sorted := by
    simp [functionMembers, Json.member?_sortMembers, Json.member?_cons, versionMember, keysField]
  rw [readFunction, keysOfMembers, records, required, Schema.readSecrets_sorted]
  rfl

end Structured

namespace Document

/-- A document with the number of the current version is read as a structured one. -/
theorem read_structured {α : Type} {text : String} {members : List (String × Json)}
    (readAs : Version → List (String × Json) → Except FormatFault α)
    (parsed : Json.parse? text = some (.object members))
    (version : Json.member? "version" members = some (.integer 1)) :
    Document.read readAs text = (readAs .structured members).map (Decoded.mk .structured) := by
  have number : versionNumber members = .ok 1 := by
    rw [versionNumber, version]
    rfl
  have members_ok : membersOf text = .ok members := by
    rw [membersOf, parsed]
  have known : Version.ofNumber 1 = .ok .structured := rfl
  rw [Document.read, members_ok]
  simp only [bind, Except.bind, number, known]
  cases readAs .structured members <;> rfl

/-- A written document of the host says its version, and is read as one of that version. -/
theorem read_writeHost {α : Type} (host : HostSecrets)
    (readAs : Version → List (String × Json) → Except FormatFault α) :
    Document.read readAs (Structured.writeHost host) =
      (readAs .structured (Structured.hostMembers host)).map (Decoded.mk .structured) := by
  apply read_structured readAs (Structured.parse?_writeHost host)
  simp [Structured.hostMembers, Json.member?_sortMembers, Json.member?_cons,
    Structured.versionMember]

theorem read_writeFunction {α : Type} (keys : List Secret)
    (readAs : Version → List (String × Json) → Except FormatFault α) :
    Document.read readAs (Structured.writeFunction keys) =
      (readAs .structured (Structured.functionMembers keys)).map (Decoded.mk .structured) := by
  apply read_structured readAs (Structured.parse?_writeFunction keys)
  simp [Structured.functionMembers, Json.member?_sortMembers, Json.member?_cons,
    Structured.versionMember]

/-- Reading what was written of the secrets of the host gives them back. -/
theorem readHost_structured (host : HostSecrets) :
    readHost (Structured.writeHost host) = .ok ⟨.structured, host⟩ := by
  have held : Version.readHost .structured (Structured.hostMembers host) = .ok host :=
    Structured.readHost_hostMembers host
  rw [readHost, read_writeHost, held]
  rfl

/-- Reading what was written of the keys of a function gives them back. -/
theorem readFunction_structured (keys : List Secret) :
    readFunction (Structured.writeFunction keys) = .ok ⟨.structured, keys⟩ := by
  have held : Version.readFunction .structured (Structured.functionMembers keys) = .ok keys :=
    Structured.readFunction_functionMembers keys
  rw [readFunction, read_writeFunction, held]
  rfl

theorem readHost_writeHost (host : HostSecrets) :
    ∃ text, writeHost host = .ok text ∧ readHost text = .ok ⟨.structured, host⟩ :=
  ⟨Structured.writeHost host, rfl, readHost_structured host⟩

theorem readFunction_writeFunction (keys : List Secret) :
    ∃ text, writeFunction keys = .ok text ∧ readFunction text = .ok ⟨.structured, keys⟩ :=
  ⟨Structured.writeFunction keys, rfl, readFunction_structured keys⟩

@[simp] theorem isOutdated_structured {α : Type} (secrets : α) :
    (⟨.structured, secrets⟩ : Decoded α).isOutdated = false := rfl

/-! ## Older documents -/

/-- There are two versions, and one of them is current. -/
theorem version_of_isOutdated {α : Type} {d : Decoded α} (h : d.isOutdated = true) :
    d.version = .flat := by
  obtain ⟨version, secrets⟩ := d
  cases version with
  | flat => rfl
  | structured => cases h

/-- A document that can be read was read by the reader of its version. -/
theorem read_eq_ok {α : Type} {readAs : Version → List (String × Json) → Except FormatFault α}
    {text : String} {d : Decoded α} (h : Document.read readAs text = .ok d) :
    ∃ members, readAs d.version members = .ok d.secrets := by
  obtain ⟨members, -, h⟩ := exists_of_bind_eq_ok h
  obtain ⟨number, -, h⟩ := exists_of_bind_eq_ok h
  obtain ⟨version, -, h⟩ := exists_of_bind_eq_ok h
  obtain ⟨secrets, held, h⟩ := exists_of_bind_eq_ok h
  cases h
  exact ⟨members, held⟩

/-- An outdated document of the host holds two plain keys without names. -/
theorem secrets_of_outdated_host {text : String} {d : Decoded HostSecrets}
    (h : readHost text = .ok d) (old : d.isOutdated = true) :
    ∃ master function, d.secrets = ⟨.plaintext "" master, [.plaintext "" function]⟩ := by
  obtain ⟨members, held⟩ := read_eq_ok h
  -- only the flat version is older than the current one
  rw [version_of_isOutdated old] at held
  obtain ⟨master, -, held⟩ := exists_of_bind_eq_ok held
  obtain ⟨function, -, held⟩ := exists_of_bind_eq_ok held
  exact ⟨master, function, (Except.ok.inj held).symm⟩

/-- An outdated document of a function holds one plain key without a name. -/
theorem secrets_of_outdated_function {text : String} {d : Decoded (List Secret)}
    (h : readFunction text = .ok d) (old : d.isOutdated = true) :
    ∃ key, d.secrets = [.plaintext "" key] := by
  obtain ⟨members, held⟩ := read_eq_ok h
  rw [version_of_isOutdated old] at held
  obtain ⟨key, -, held⟩ := exists_of_bind_eq_ok held
  exact ⟨key, (Except.ok.inj held).symm⟩

/-! ## Migration -/

/-- Writing and reading are inverse on secrets, in the current version. Hence what is written of a
document of any version holds the same secrets, is current, and is written again as it is. -/
theorem rewriting_brings_up_to_date :
    (∀ host, ∃ text, writeHost host = .ok text ∧
      ∃ d, readHost text = .ok d ∧ d.version.number = 1 ∧ d.secrets = host) ∧
    (∀ keys, ∃ text, writeFunction keys = .ok text ∧
      ∃ d, readFunction text = .ok d ∧ d.version.number = 1 ∧ d.secrets = keys) ∧
    (∀ text old, readHost text = .ok old → ∃ rewritten, writeHost old.secrets = .ok rewritten ∧
      ∃ d, readHost rewritten = .ok d ∧ d.version.number = 1 ∧ d.isOutdated = false ∧
        d.secrets = old.secrets ∧ writeHost d.secrets = .ok rewritten) ∧
    (∀ text old, readFunction text = .ok old →
      ∃ rewritten, writeFunction old.secrets = .ok rewritten ∧
        ∃ d, readFunction rewritten = .ok d ∧ d.version.number = 1 ∧ d.isOutdated = false ∧
          d.secrets = old.secrets ∧ writeFunction d.secrets = .ok rewritten) := by
  refine ⟨?_, ?_, ?_, ?_⟩
  · intro host
    obtain ⟨text, written, read⟩ := readHost_writeHost host
    exact ⟨text, written, _, read, rfl, rfl⟩
  · intro keys
    obtain ⟨text, written, read⟩ := readFunction_writeFunction keys
    exact ⟨text, written, _, read, rfl, rfl⟩
  -- what was read is written like any other secrets
  · intro _ old _
    obtain ⟨text, written, read⟩ := readHost_writeHost old.secrets
    exact ⟨text, written, _, read, rfl, isOutdated_structured _, rfl, written⟩
  · intro _ old _
    obtain ⟨text, written, read⟩ := readFunction_writeFunction old.secrets
    exact ⟨text, written, _, read, rfl, isOutdated_structured _, rfl, written⟩

def flatExample : String := "\x7b\"key\": \"X\"\x7d"

theorem parse?_flatExample :
    Json.parse? flatExample = some (.object [(Flat.functionField, .string "X")]) := by
  simp [flatExample, Flat.functionField, Json.parse?, Json.value?, Json.maxDepth, Json.enclosed?,
    Json.series?, Json.skipGap, Json.isGap, Json.member, Json.string?, Json.stringBody?,
    Json.sortMembers, Json.insertMember]

theorem readFunction_flatExample :
    readFunction flatExample = .ok ⟨.flat, [.plaintext "" "X"]⟩ := by
  have version : Json.member? "version" [(Flat.functionField, .string "X")] = none := by
    simp [Json.member?_cons, Flat.functionField]
  have key : Json.member? Flat.functionField [(Flat.functionField, .string "X")] =
      some (.string "X") := by
    simp [Json.member?_cons]
  rw [readFunction, Document.read, membersOf, parse?_flatExample]
  simp only [bind, Except.bind, versionNumber, version]
  simp only [Version.ofNumber, Version.all, List.find?, Version.number, beq_self_eq_true,
    Version.readFunction, Flat.readFunction, Flat.textMember, key, bind, Except.bind]
  rfl

/-- The key of a flat document is kept when the document is brought up to date. -/
theorem rewriting_flat_example :
    readFunction flatExample = .ok ⟨.flat, [.plaintext "" "X"]⟩ ∧
      ∃ rewritten, writeFunction [.plaintext "" "X"] = .ok rewritten ∧
        ∃ d, readFunction rewritten = .ok d ∧ d.version.number = 1 ∧ d.isOutdated = false ∧
          d.secrets = [.plaintext "" "X"] ∧ writeFunction d.secrets = .ok rewritten := by
  refine ⟨readFunction_flatExample, ?_⟩
  have kept := rewriting_brings_up_to_date.2.2.2 flatExample ⟨.flat, [.plaintext "" "X"]⟩
    readFunction_flatExample
  exact kept

end Document

end Lockbox
