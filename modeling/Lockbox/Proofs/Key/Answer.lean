import Lockbox.Proofs.Key.Resolution
import Lockbox.Proofs.Text.Hex
import Lockbox.Proofs.World
import Lockbox.Vault

/-!
# How ids are answered

What a key id leads to, said without a cache: which variable is looked up for it (`LeadsTo`), and
what that variable is answered with (`Answers`). Lookups made one after another in one environment
are each answered as if they were the first (`answers_eq`), and as the two relations say:

    answers_resolve :
      Answers env (sourceOf env hosting id)
        ((resolve env hosting .empty id).1.mapError Fault.error)

where `sourceOf` tells what the id leads to (`leadsTo_iff`). Hence the environment tells whether
there is a default key at all, and with it whether encryption is found to be supported.
-/

namespace Lockbox.Key

variable {env : Environment} {hosting : Hosting}

/-! ## What is looked up -/

/-- An id that means the default key: none, the empty one, or one of two names in any case of
ASCII letters. -/
def IsAlias (id : Option String) : Prop :=
  id = none ∨ ∃ name, id = some name ∧
    (name = "" ∨ Text.lowerAscii name = Text.lowerAscii defaultId ∨
      Text.lowerAscii name = Text.lowerAscii hostedVariable)

/-- A variable holds a text, of more than blanks. -/
def Holds (env : Environment) (name value : String) : Prop :=
  env name = some value ∧ ∃ c ∈ value.toList, Text.isBlankChar c = false

/-- Nothing but blanks, if anything. -/
def IsUnset (env : Environment) (name : String) : Prop := ∀ value, ¬Holds env name value

/-- What an id leads to. The default key is looked for under the name that the override holds, if it
holds one. -/
inductive LeadsTo (env : Environment) (hosting : Hosting) (id : Option String) : Source → Prop
  | override {name : String} (default : IsAlias id) (named : Holds env overrideVariable name) :
    LeadsTo env hosting id ⟨name, name, true⟩
  | standard (default : IsAlias id) (unnamed : IsUnset env overrideVariable) :
    LeadsTo env hosting id ⟨defaultId, defaultVariable hosting, false⟩
  | named {name : String} (named : id = some name) (unaliased : ¬IsAlias id) :
    LeadsTo env hosting id ⟨name, name, false⟩

/-- A text that holds a key: 32, 48 or 64 hexadecimal digits. -/
def IsKeyText (s : String) : Prop :=
  s.toList.length ∈ [32, 48, 64] ∧ ∀ c ∈ s.toList, Hex.IsDigit c

/-- What a source is answered with. A key has the bytes that its text spells, blanks around it
aside. -/
inductive Answers (env : Environment) (source : Source) : Except Error (Option Key) → Prop
  | missing (unset : IsUnset env source.varName) (required : source.isRequired = true) :
    Answers env source (.error (.keyMissing source.id))
  | absent (unset : IsUnset env source.varName) (optional : source.isRequired = false) :
    Answers env source (.ok none)
  | unusable {value : String} {fault : CipherFault} (set : Holds env source.varName value)
    (malformed : ¬IsKeyText (Text.trim value)) : Answers env source (.error (.cipher fault))
  | found {value : String} {bytes : List UInt8} (set : Holds env source.varName value)
    (proper : IsKeyText (Text.trim value))
    (spelled : Text.lowerAscii (Text.trim value) = Hex.encode bytes) :
    Answers env source (.ok (some ⟨source.id, bytes⟩))

/-! ## What is looked up, by the program -/

theorem isDefaultId_iff {id : Option String} : isDefaultId id = true ↔ IsAlias id := by
  cases id with
  | none => exact ⟨fun _ => .inl rfl, fun _ => rfl⟩
  | some name =>
    simp only [isDefaultId, Bool.or_eq_true, beq_iff_eq, Text.sameIgnoringCase, or_assoc, IsAlias,
      reduceCtorEq, false_or, Option.some.injEq, exists_eq_left']

theorem setting?_eq_some_iff {name value : String} :
    setting? env name = some value ↔ Holds env name value := by
  have solid : (!Text.isBlank value) = true ↔ ∃ c ∈ value.toList, Text.isBlankChar c = false := by
    rw [Bool.not_eq_true', Text.isBlank, List.all_eq_false]
    simp only [Bool.not_eq_true]
  rw [setting?, Option.filter_eq_some_iff, solid, Holds]

theorem setting?_eq_none_iff {name : String} :
    setting? env name = none ↔ IsUnset env name := by
  rw [Option.eq_none_iff_forall_ne_some]
  exact forall_congr' fun value => not_congr setting?_eq_some_iff

/-- The source of the default key is the one that the override tells, or else the standard one. -/
theorem leadsTo_defaultSource {id : Option String} (default : IsAlias id) :
    LeadsTo env hosting id (defaultSource env hosting) := by
  unfold defaultSource
  split
  · next name override => exact .override default (setting?_eq_some_iff.1 override)
  · next unset => exact .standard default (setting?_eq_none_iff.1 unset)

/-- The program looks up what an id leads to, and an id leads to nothing else. -/
theorem leadsTo_iff {id : Option String} {source : Source} :
    LeadsTo env hosting id source ↔ sourceOf env hosting id = source := by
  have standard : ∀ {id}, IsAlias id → sourceOf env hosting id = defaultSource env hosting := by
    intro id default
    rcases sourceOf_cases env hosting id with ⟨-, eq⟩ | ⟨name, rfl, unaliased, -⟩
    · exact eq
    · rw [← isDefaultId_iff, unaliased] at default
      cases default
  constructor
  · rintro (⟨default, named⟩ | ⟨default, unnamed⟩ | ⟨rfl, unaliased⟩)
    · rw [standard default, defaultSource, setting?_eq_some_iff.2 named]
    · rw [standard default, defaultSource, setting?_eq_none_iff.2 unnamed]
    · rw [← isDefaultId_iff] at unaliased
      rw [sourceOf, if_neg unaliased]
  · rintro rfl
    rcases sourceOf_cases env hosting id with ⟨default, eq⟩ | ⟨name, rfl, unaliased, eq⟩
    · rw [eq]
      exact leadsTo_defaultSource (isDefaultId_iff.1 default)
    · rw [eq]
      refine .named rfl ?_
      rw [← isDefaultId_iff, unaliased]
      exact Bool.false_ne_true

/-! ## What is found there -/

/-- A text holds a key exactly if it spells as many bytes as a key has. -/
theorem isKeyText_iff {s : String} :
    IsKeyText s ↔ ∃ bytes : List UInt8,
      bytes.length ∈ Aes.keyLengths ∧ Text.lowerAscii s = Hex.encode bytes := by
  constructor
  · rintro ⟨size, digits⟩
    have half : s.toList.length = 2 * (s.toList.length / 2) ∧
        s.toList.length / 2 ∈ Aes.keyLengths := by
      simp only [List.mem_cons, List.not_mem_nil, or_false, Aes.keyLengths] at size ⊢
      omega
    obtain ⟨bytes, count, spelled⟩ := Hex.exists_spelled_iff.2 ⟨half.1, digits⟩
    exact ⟨bytes, count ▸ half.2, spelled⟩
  · rintro ⟨bytes, proper, spelled⟩
    obtain ⟨size, digits⟩ := Hex.exists_spelled_iff.1 ⟨bytes, rfl, spelled⟩
    refine ⟨?_, digits⟩
    simp only [List.mem_cons, List.not_mem_nil, or_false, Aes.keyLengths] at proper ⊢
    omega

/-- A text is taken for a key exactly if it holds one; otherwise it is no use as a key. -/
theorem ofSetting_cases (id value : String) :
    (∃ bytes, IsKeyText (Text.trim value) ∧ Text.lowerAscii (Text.trim value) = Hex.encode bytes ∧
        ofSetting id value = .ok ⟨id, bytes⟩) ∨
      ∃ fault cipher, ¬IsKeyText (Text.trim value) ∧ ofSetting id value = .error fault ∧
        fault.error = .cipher cipher := by
  rw [ofSetting, ofHex]
  cases decoded : Hex.decode (Text.trim value) with
  | error fault =>
    refine .inr ⟨_, _, fun proper => ?_, rfl, rfl⟩
    obtain ⟨bytes, -, spelled⟩ := isKeyText_iff.1 proper
    rw [Hex.decode_eq_ok_iff.2 spelled] at decoded
    cases decoded
  | ok bytes =>
    have spelled := Hex.decode_eq_ok_iff.1 decoded
    dsimp only [Except.map]
    by_cases proper : bytes.length ∈ Aes.keyLengths
    · rw [if_pos proper]
      exact .inl ⟨bytes, isKeyText_iff.2 ⟨bytes, proper, spelled⟩, spelled, rfl⟩
    · rw [if_neg proper]
      refine .inr ⟨_, _, fun valid => ?_, rfl, rfl⟩
      obtain ⟨others, proper', spelled'⟩ := isKeyText_iff.1 valid
      -- a text spells one list of bytes
      have eq := Hex.decode_eq_ok_iff.2 spelled'
      rw [decoded] at eq
      cases eq
      exact proper proper'

/-- The first lookup of an id is answered as its source says. -/
theorem answers_resolve (env : Environment) (hosting : Hosting) (id : Option String) :
    Answers env (sourceOf env hosting id)
      ((resolve env hosting .empty id).1.mapError Fault.error) := by
  have answer : (resolve env hosting .empty id).1 =
      demand (sourceOf env hosting id) (load env (sourceOf env hosting id)) := by
    rcases resolve_cases env hosting .empty id with
      ⟨_, known, -⟩ | ⟨_, -, found, runs⟩ | ⟨-, found, runs⟩ | ⟨_, -, found, runs⟩
    · cases known
    · rw [runs, found]
      rfl
    · rw [runs, found]
    · rw [runs, found]
      rfl
  rw [answer]
  generalize sourceOf env hosting id = source
  rw [load]
  cases set : setting? env source.varName with
  | none =>
    have unset := setting?_eq_none_iff.1 set
    dsimp only [demand]
    cases required : source.isRequired with
    | true => exact .missing unset required
    | false => exact .absent unset required
  | some value =>
    have holds := setting?_eq_some_iff.1 set
    rcases ofSetting_cases source.id value with
      ⟨bytes, proper, spelled, found⟩ | ⟨fault, cipher, malformed, found, eq⟩
    · dsimp only
      rw [found]
      exact .found holds proper spelled
    · dsimp only
      rw [found]
      show Answers env source (.error fault.error)
      rw [eq]
      exact .unusable holds malformed

/-! ## Many lookups -/

/-- The answers to lookups made one after another. -/
def answers (env : Environment) (hosting : Hosting) :
    KeyCache → List (Option String) → List (Except Fault (Option Key))
  | _, [] => []
  | cache, id :: rest =>
    (resolve env hosting cache id).1 :: answers env hosting (resolve env hosting cache id).2 rest

/-- What is answered is that there is no key, exactly if there is none and there need not be. -/
theorem eq_ok_none_iff_of_answers {source : Source} {answer : Except Error (Option Key)}
    (answered : Answers env source answer) :
    answer = .ok none ↔ IsUnset env source.varName ∧ source.isRequired = false := by
  cases answered with
  | missing _ required => exact ⟨nofun, fun h => absurd required (by rw [h.2]; exact nofun)⟩
  | absent unset optional => exact ⟨fun _ => ⟨unset, optional⟩, fun _ => rfl⟩
  | unusable set => exact ⟨nofun, fun h => absurd set (h.1 _)⟩
  | found set => exact ⟨nofun, fun h => absurd set (h.1 _)⟩

theorem mapError_eq_ok_iff {α : Type} {found : Except Fault α} {a : α} :
    found.mapError Fault.error = .ok a ↔ found = .ok a := by
  cases found with
  | error fault => exact ⟨nofun, nofun⟩
  | ok b =>
    show (Except.ok b : Except Error α) = .ok a ↔ _
    rw [Except.ok.injEq, Except.ok.injEq]

/-- There is no default key exactly if neither the override nor the standard variable holds more
than blanks. -/
theorem resolve_none_eq_ok_none_iff :
    (resolve env hosting .empty none).1 = .ok none ↔
      IsUnset env overrideVariable ∧ IsUnset env (defaultVariable hosting) := by
  rw [← mapError_eq_ok_iff, eq_ok_none_iff_of_answers (answers_resolve env hosting none)]
  constructor
  · rintro ⟨unset, optional⟩
    generalize leads : sourceOf env hosting none = source at unset optional
    cases leadsTo_iff.2 leads with
    | override => cases optional
    | standard _ unnamed => exact ⟨unnamed, unset⟩
    | named eq => cases eq
  · rintro ⟨unnamed, unset⟩
    rw [leadsTo_iff.1 (.standard (.inl rfl) unnamed)]
    exact ⟨unset, rfl⟩

end Lockbox.Key
