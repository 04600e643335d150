import Lockbox.Proofs.Document.RoundTrip

/-!
# What a flat document keeps

Of the keys of a function, a flat document keeps the value of the first one without a name
(`FirstUnnamed`), and of the secrets of the host the value of the master key as well. It can be
written exactly if what it keeps is not encrypted:

    writeFunction_eq_ok_iff : writeFunction keys = .ok text ↔
      ∃ s, FirstUnnamed keys s ∧ s.isEncrypted = false ∧ text = functionText s.value

All else is lost. The text is that of a document that keeps everything, and is read back as such
(`reads_functionText`, `reads_hostText`), as are the secrets that were read from any flat document.
-/

namespace Lockbox.Flat

variable {s t : Secret} {keys : List Secret} {host : HostSecrets} {text value : String}
  {members : List (String × Json)}

/-! ## The key that is kept -/

/-- The first key without a name. -/
inductive FirstUnnamed : List Secret → Secret → Prop
  | here {s : Secret} {rest : List Secret} (unnamed : s.name = "") : FirstUnnamed (s :: rest) s
  | later {s t : Secret} {rest : List Secret} (named : s.name ≠ "")
    (first : FirstUnnamed rest t) : FirstUnnamed (s :: rest) t

/-- There is one first key without a name. -/
theorem FirstUnnamed.eq (h : FirstUnnamed keys s) (h' : FirstUnnamed keys t) : s = t := by
  -- on the list: the names decide which key is the first
  induction h with
  | here unnamed =>
    cases h' with
    | here _ => rfl
    | later named _ => exact absurd unnamed named
  | later named _ ih =>
    cases h' with
    | here unnamed => exact absurd unnamed named
    | later _ first => exact ih first

/-- The key that is looked up is the first one without a name. -/
theorem find?_eq_some_iff : keys.find? (·.name == "") = some s ↔ FirstUnnamed keys s := by
  -- on the list, by whether its first key has a name
  induction keys with
  | nil => exact ⟨nofun, nofun⟩
  | cons k rest ih =>
    by_cases unnamed : k.name = ""
    · rw [List.find?_cons_of_pos (by simpa using unnamed)]
      constructor
      · intro found
        cases found
        exact .here unnamed
      · intro first
        cases first with
        | here _ => rfl
        | later named _ => exact absurd unnamed named
    · rw [List.find?_cons_of_neg (by simpa using unnamed), ih]
      constructor
      · exact .later unnamed
      · intro first
        cases first with
        | here named => exact absurd named unnamed
        | later _ first => exact first

/-- A key that is not encrypted stays the first one when encrypted keys are left out. -/
theorem FirstUnnamed.filter (h : FirstUnnamed keys s) (plain : s.isEncrypted = false) :
    FirstUnnamed (keys.filter (!·.isEncrypted)) s := by
  induction h with
  | here unnamed =>
    rw [List.filter_cons_of_pos (by simpa using plain)]
    exact .here unnamed
  | @later k _ _ named _ ih =>
    -- a named key before it is left out or stays before it
    cases encrypted : k.isEncrypted with
    | true =>
      rw [List.filter_cons_of_neg (by simp [encrypted])]
      exact ih plain
    | false =>
      rw [List.filter_cons_of_pos (by simp [encrypted])]
      exact .later named (ih plain)

theorem plainValue_eq_ok_iff :
    plainValue s = .ok value ↔ s.isEncrypted = false ∧ s.value = value := by
  rw [plainValue]
  cases s.isEncrypted <;> simp

/-- The value that is written is that of the first key without a name, which must not be encrypted.
A later one does not stand in for it. -/
theorem unnamedValue_eq_ok_iff : unnamedValue keys = .ok value ↔
    ∃ s, FirstUnnamed keys s ∧ s.isEncrypted = false ∧ s.value = value := by
  rw [unnamedValue]
  -- without such a key nothing is written
  cases found : keys.find? (·.name == "") with
  | none =>
    refine ⟨nofun, ?_⟩
    rintro ⟨s, first, -⟩
    cases found.symm.trans (find?_eq_some_iff.2 first)
  | some k =>
    have first := find?_eq_some_iff.1 found
    constructor
    · exact fun plain => ⟨k, first, plainValue_eq_ok_iff.1 plain⟩
    · rintro ⟨s, unnamed, plain⟩
      rw [first.eq unnamed]
      exact plainValue_eq_ok_iff.2 plain

/-! ## The text that is written -/

def functionText (key : String) : String := (Json.object [(functionField, .string key)]).pretty

def hostText (master function : String) : String :=
  (Json.object [(hostFunctionField, .string function), (masterField, .string master)]).pretty

theorem writeFunction_eq_ok_iff : writeFunction keys = .ok text ↔
    ∃ s, FirstUnnamed keys s ∧ s.isEncrypted = false ∧ text = functionText s.value := by
  constructor
  · intro h
    obtain ⟨key, kept, h⟩ := exists_of_bind_eq_ok h
    obtain ⟨s, first, plain, rfl⟩ := unnamedValue_eq_ok_iff.1 kept
    exact ⟨s, first, plain, (Except.ok.inj h).symm⟩
  · rintro ⟨s, first, plain, rfl⟩
    rw [writeFunction, unnamedValue_eq_ok_iff.2 ⟨s, first, plain, rfl⟩]
    rfl

/-- Of the host the master key is written too, under the same condition. -/
theorem writeHost_eq_ok_iff : writeHost host = .ok text ↔
    host.masterKey.isEncrypted = false ∧ ∃ s, FirstUnnamed host.functionKeys s ∧
      s.isEncrypted = false ∧ text = hostText host.masterKey.value s.value := by
  constructor
  · intro h
    obtain ⟨master, first, h⟩ := exists_of_bind_eq_ok h
    obtain ⟨function, kept, h⟩ := exists_of_bind_eq_ok h
    obtain ⟨bare, rfl⟩ := plainValue_eq_ok_iff.1 first
    obtain ⟨s, unnamed, plain, rfl⟩ := unnamedValue_eq_ok_iff.1 kept
    exact ⟨bare, s, unnamed, plain, (Except.ok.inj h).symm⟩
  · rintro ⟨bare, s, unnamed, plain, rfl⟩
    rw [writeHost, plainValue_eq_ok_iff.2 ⟨bare, rfl⟩,
      unnamedValue_eq_ok_iff.2 ⟨s, unnamed, plain, rfl⟩]
    rfl

/-! ## Reading it -/

/-- A text is an object whose members are read as told. -/
def Reads {α : Type} (read : List (String × Json) → Except FormatFault α) (text : String) (a : α) :
    Prop :=
  ∃ members, Json.parse? text = some (.object members) ∧ read members = .ok a

theorem textMember_of_member? {name : String} (value : String)
    (declared : Json.member? name members = some (.string value)) :
    textMember members name = .ok value := by
  rw [textMember, declared]

/-- A flat document of a function is read as the one key without a name. -/
theorem reads_functionText (key : String) :
    Reads readFunction (functionText key) [.plaintext "" key] := by
  have legible : Json.Legible Json.maxDepth (.object [(functionField, .string key)]) := by
    apply Json.Legible.object
    intro m hm
    rw [List.mem_singleton.1 hm]
    exact .string key
  refine ⟨_, Json.parse?_pretty legible, ?_⟩
  rw [readFunction, textMember_of_member? key]
  · rfl
  · simp [Json.member?_sortMembers, Json.sortedMembers, Json.sorted, Json.member?_cons]

theorem reads_hostText (master function : String) :
    Reads readHost (hostText master function)
      ⟨.plaintext "" master, [.plaintext "" function]⟩ := by
  have legible : Json.Legible Json.maxDepth
      (.object [(hostFunctionField, .string function), (masterField, .string master)]) := by
    apply Json.Legible.object
    intro m hm
    simp only [List.mem_cons, List.not_mem_nil, or_false] at hm
    rcases hm with rfl | rfl
    · exact .string function
    · exact .string master
  refine ⟨_, Json.parse?_pretty legible, ?_⟩
  -- the two members differ in name, so that sorting loses neither
  rw [readHost, textMember_of_member? master, textMember_of_member? function]
  · rfl
  · simp [Json.member?_sortMembers, Json.sortedMembers, Json.sorted, Json.member?_cons,
      hostFunctionField, masterField]
  · simp [Json.member?_sortMembers, Json.sortedMembers, Json.sorted, Json.member?_cons,
      hostFunctionField, masterField]

/-- A flat document holds plain keys without names, and nothing else. -/
theorem exists_of_readFunction (h : readFunction members = .ok keys) :
    ∃ key, keys = [.plaintext "" key] := by
  obtain ⟨key, -, h⟩ := exists_of_bind_eq_ok h
  exact ⟨key, (Except.ok.inj h).symm⟩

theorem exists_of_readHost (h : readHost members = .ok host) :
    ∃ master function, host = ⟨.plaintext "" master, [.plaintext "" function]⟩ := by
  obtain ⟨master, -, h⟩ := exists_of_bind_eq_ok h
  obtain ⟨function, -, h⟩ := exists_of_bind_eq_ok h
  exact ⟨master, function, (Except.ok.inj h).symm⟩

/-! ## The codec -/

/-- Whether the keys of a function can be written depends on the first one without a name alone. -/
theorem exists_writeFunction_iff (keys : List Secret) : (∃ text, writeFunction keys = .ok text) ↔
    ∃ s, FirstUnnamed keys s ∧ s.isEncrypted = false := by
  constructor
  · rintro ⟨text, written⟩
    obtain ⟨s, first, plain, -⟩ := writeFunction_eq_ok_iff.1 written
    exact ⟨s, first, plain⟩
  · rintro ⟨s, first, plain⟩
    exact ⟨_, writeFunction_eq_ok_iff.2 ⟨s, first, plain, rfl⟩⟩

/-- The same of the host, and of its master key. -/
theorem exists_writeHost_iff (host : HostSecrets) : (∃ text, writeHost host = .ok text) ↔
    host.masterKey.isEncrypted = false ∧
      ∃ s, FirstUnnamed host.functionKeys s ∧ s.isEncrypted = false := by
  constructor
  · rintro ⟨text, written⟩
    obtain ⟨master, s, first, plain, -⟩ := writeHost_eq_ok_iff.1 written
    exact ⟨master, s, first, plain⟩
  · rintro ⟨master, s, first, plain⟩
    exact ⟨_, writeHost_eq_ok_iff.2 ⟨master, s, first, plain, rfl⟩⟩

/-- What is read again is the key that is kept, whatever else was written. -/
theorem reads_of_writeFunction (written : writeFunction keys = .ok text)
    (first : FirstUnnamed keys s) : Reads readFunction text [.plaintext "" s.value] := by
  obtain ⟨t, unnamed, -, rfl⟩ := writeFunction_eq_ok_iff.1 written
  rw [first.eq unnamed]
  exact reads_functionText t.value

/-- Of the host the master key is read again as well. -/
theorem reads_of_writeHost (written : writeHost host = .ok text)
    (first : FirstUnnamed host.functionKeys s) :
    Reads readHost text ⟨.plaintext "" host.masterKey.value, [.plaintext "" s.value]⟩ := by
  obtain ⟨-, t, unnamed, -, rfl⟩ := writeHost_eq_ok_iff.1 written
  rw [first.eq unnamed]
  exact reads_hostText host.masterKey.value t.value

/-- What was read can be written, and nothing of it is lost. -/
theorem exists_text_of_readFunction (read : readFunction members = .ok keys) :
    ∃ text, writeFunction keys = .ok text ∧ Reads readFunction text keys := by
  obtain ⟨key, rfl⟩ := exists_of_readFunction read
  exact ⟨functionText key, rfl, reads_functionText key⟩

theorem exists_text_of_readHost (read : readHost members = .ok host) :
    ∃ text, writeHost host = .ok text ∧ Reads readHost text host := by
  obtain ⟨master, function, rfl⟩ := exists_of_readHost read
  exact ⟨hostText master function, rfl, reads_hostText master function⟩

/-- Nothing of an encrypted key is written. -/
theorem writeFunction_filter (written : writeFunction keys = .ok text) :
    writeFunction (keys.filter (!·.isEncrypted)) = .ok text := by
  obtain ⟨s, first, plain, rfl⟩ := writeFunction_eq_ok_iff.1 written
  exact writeFunction_eq_ok_iff.2 ⟨s, first.filter plain, plain, rfl⟩

theorem writeHost_filter (written : writeHost host = .ok text) :
    host.masterKey.isEncrypted = false ∧
      writeHost ⟨host.masterKey, host.functionKeys.filter (!·.isEncrypted)⟩ = .ok text := by
  obtain ⟨master, s, first, plain, rfl⟩ := writeHost_eq_ok_iff.1 written
  exact ⟨master, writeHost_eq_ok_iff.2 ⟨master, s, first.filter plain, plain, rfl⟩⟩

/-- Writing keeps the key that is kept and nothing else, and succeeds exactly if there is such a key
and it is not encrypted; of the host, the master key likewise. What was read can be written, and is
read again as it was. Encrypted keys might as well not be there. -/
theorem flat_documents_keep_plain_values :
    (∀ keys, ((∃ text, writeFunction keys = .ok text) ↔
        ∃ s, FirstUnnamed keys s ∧ s.isEncrypted = false) ∧
      ∀ text s, writeFunction keys = .ok text → FirstUnnamed keys s →
        Reads readFunction text [.plaintext "" s.value]) ∧
    (∀ host, ((∃ text, writeHost host = .ok text) ↔ host.masterKey.isEncrypted = false ∧
        ∃ s, FirstUnnamed host.functionKeys s ∧ s.isEncrypted = false) ∧
      ∀ text s, writeHost host = .ok text → FirstUnnamed host.functionKeys s →
        Reads readHost text
          ⟨.plaintext "" host.masterKey.value, [.plaintext "" s.value]⟩) ∧
    (∀ members keys, readFunction members = .ok keys →
      ∃ text, writeFunction keys = .ok text ∧ Reads readFunction text keys) ∧
    (∀ members host, readHost members = .ok host →
      ∃ text, writeHost host = .ok text ∧ Reads readHost text host) ∧
    (∀ keys text, writeFunction keys = .ok text →
      writeFunction (keys.filter (!·.isEncrypted)) = .ok text) ∧
    ∀ host text, writeHost host = .ok text → host.masterKey.isEncrypted = false ∧
      writeHost ⟨host.masterKey, host.functionKeys.filter (!·.isEncrypted)⟩ = .ok text := by
  refine ⟨fun keys => ⟨exists_writeFunction_iff keys, ?_⟩,
    fun host => ⟨exists_writeHost_iff host, ?_⟩, ?_, ?_, ?_, ?_⟩
  · exact fun text s written first => reads_of_writeFunction written first
  · exact fun text s written first => reads_of_writeHost written first
  · exact fun members keys read => exists_text_of_readFunction read
  · exact fun members host read => exists_text_of_readHost read
  · exact fun keys text written => writeFunction_filter written
  · exact fun host text written => writeHost_filter written

/-- Named and encrypted keys around two keys without a name. -/
def mingledKeys : List Secret :=
  [.encrypted "partner" "blob" "default", .plaintext "ops" "x", .plaintext "" "a\x22\\\n",
    .encrypted "" "blob" "default", .plaintext "" "later"]

/-- The first of the two is kept, whatever stands around it; behind an encrypted one it is not. -/
theorem flat_documents_keep_plain_values_mingled :
    (∃ text, writeFunction mingledKeys = .ok text ∧
      Reads readFunction text [.plaintext "" "a\x22\\\n"]) ∧
    (∃ text, writeHost ⟨.plaintext "master" "m", mingledKeys⟩ = .ok text ∧
      Reads readHost text ⟨.plaintext "" "m", [.plaintext "" "a\x22\\\n"]⟩) ∧
    ¬∃ text, writeFunction (mingledKeys.drop 3) = .ok text := by
  have first : FirstUnnamed mingledKeys (.plaintext "" "a\x22\\\n") :=
    .later (by decide) (.later (by decide) (.here rfl))
  obtain ⟨functions, hosts, -⟩ := flat_documents_keep_plain_values
  refine ⟨?_, ?_, ?_⟩
  · obtain ⟨text, written⟩ := (functions mingledKeys).1.2 ⟨_, first, rfl⟩
    exact ⟨text, written, (functions mingledKeys).2 text _ written first⟩
  · obtain ⟨text, written⟩ :=
      (hosts ⟨.plaintext "master" "m", mingledKeys⟩).1.2 ⟨rfl, _, first, rfl⟩
    exact ⟨text, written, (hosts _).2 text _ written first⟩
  · intro written
    obtain ⟨s, unnamed, plain⟩ := (functions (mingledKeys.drop 3)).1.1 written
    rw [unnamed.eq (.here rfl : FirstUnnamed (mingledKeys.drop 3) (.encrypted "" "blob" "default"))]
      at plain
    cases plain

end Lockbox.Flat
