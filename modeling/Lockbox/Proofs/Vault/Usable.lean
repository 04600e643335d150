import Lockbox.Proofs.Vault.Permanence

/-!
# Keys that are remembered are of use

However many keys are looked up, and whatever becomes of the environment meanwhile, each slot holds
at most one key, which has the slot for its id and the length of a key. It stays there, and a key
that is found is the one in the slot of its own id. So whoever has been given a key can encipher and
decipher with it: a converter that complains of the length of a key has not been given any
(`Usable.converters`), and does nothing to what is remembered but look up keys (`LooksUp`).

    remembered_keys_are_usable : Usable hosting lookups
-/

namespace Lockbox

namespace KeyCache

variable {c : KeyCache} {slot : String} {key : Key}

/-- Each slot once. -/
def Distinct (c : KeyCache) : Prop := (c.entries.map (·.1)).Nodup

theorem distinct_empty : Distinct empty := List.nodup_nil

/-- A slot where nothing is seen has no entry. -/
theorem slot_not_mem_of_get? (h : c.get? slot = none) : slot ∉ c.entries.map (·.1) := by
  intro mem
  obtain ⟨entry, inside, rfl⟩ := List.mem_map.1 mem
  rw [get?, Option.map_eq_none_iff, List.find?_eq_none] at h
  exact h entry inside (beq_self_eq_true entry.1)

/-- The entries are what is seen. -/
theorem Distinct.mem_entries_iff (h : c.Distinct) :
    (slot, key) ∈ c.entries ↔ c.get? slot = some key := by
  constructor
  · intro mem
    rw [get?, find?_of_mem h mem]
    rfl
  · intro seen
    obtain ⟨entry, found, rfl⟩ := Option.map_eq_some_iff.1 seen
    have eq : (entry.1 == slot) = true :=
      List.find?_some (p := fun e : String × Key => e.1 == slot) found
    obtain rfl := beq_iff_eq.1 eq
    exact List.mem_of_find?_eq_some found

end KeyCache

namespace Key

variable {hosting : Hosting} {cache : KeyCache}

/-- A key is remembered in a slot that has none. -/
theorem distinct_resolve (distinct : cache.Distinct) (env : Environment) (hosting : Hosting)
    (id : Option String) : (resolve env hosting cache id).2.Distinct := by
  -- only the last of the ways in which a lookup can go remembers anything
  rcases resolve_cases env hosting cache id with
    ⟨_, -, runs⟩ | ⟨_, -, -, runs⟩ | ⟨-, -, runs⟩ | ⟨key, unknown, -, grown⟩
  · rwa [runs]
  · rwa [runs]
  · rwa [runs]
  · rw [grown]
    exact List.nodup_cons.2 ⟨KeyCache.slot_not_mem_of_get? unknown, distinct⟩

/-- So however many keys are looked up, no slot gets two. -/
theorem distinct_lookedUp (distinct : cache.Distinct) (hosting : Hosting) (lookups : Lookups) :
    (lookedUp hosting cache lookups).Distinct := by
  -- on the lookups, each of which keeps slots apart
  induction lookups generalizing cache with
  | nil => exact distinct
  | cons next rest ih =>
    rw [lookedUp_cons]
    exact ih (distinct_resolve distinct next.1 hosting next.2)

/-- A key that was found is remembered under its own id. -/
theorem get?_id_of_finds (sound : cache.Sound) {lookups : Lookups} {env : Environment}
    {id : Option String} {k : Key} (finds : Finds hosting cache lookups env id k) :
    (lookedUp hosting cache lookups).get? k.id = some k := by
  have known := get?_lookedUp_of_finds finds
  obtain ⟨named, -, -⟩ := sound_lookedUp sound hosting lookups _ _ known
  rwa [named]

/-- The error of a fault tells whether it is the length of the material. -/
theorem Fault.error_eq_keyLength_iff {fault : Fault} {n : Nat} :
    fault.error = .cipher (.keyLength n) ↔ ∃ id, fault = .badLength id n := by
  cases fault <;> simp [Fault.error]

end Key

/-! ## The cipher -/

namespace Blob

theorem decrypt_ne_keyLength {key : List UInt8} (proper : key.length ∈ Aes.keyLengths)
    (blob : String) (n : Nat) : decrypt blob key ≠ .error (.keyLength n) := by
  rw [decrypt, if_pos proper]
  intro refused
  split at refused
  · cases refused
  · split at refused
    · split at refused
      · cases refused
      · split at refused <;> cases refused
    · cases refused

end Blob

namespace Action

variable {σ α β : Type} {hosting : Hosting}

/-- What an action does to what is remembered is looking up keys. -/
def LooksUp (hosting : Hosting) (a : Action σ α) : Prop :=
  ∀ w : World σ, ∃ lookups, (a.run.run w).2.keys = Key.lookedUp hosting w.keys lookups

/-- An action that leaves what is remembered as it was looks up nothing. -/
theorem LooksUp.of_keys {a : Action σ α} (keeps : ∀ w : World σ, (a.run.run w).2.keys = w.keys) :
    LooksUp hosting a := fun w => ⟨[], keeps w⟩

theorem LooksUp.pure (x : α) : LooksUp hosting (pure x : Action σ α) := .of_keys fun _ => rfl

theorem LooksUp.throw (e : Error) : LooksUp hosting (throw e : Action σ α) := .of_keys fun _ => rfl

/-- The lookups of two steps follow one another. -/
theorem LooksUp.bind {a : Action σ α} {f : α → Action σ β} (ha : LooksUp hosting a)
    (hf : ∀ x, LooksUp hosting (f x)) : LooksUp hosting (a >>= f) := by
  intro w
  obtain ⟨lookups, first⟩ := ha w
  rw [run_bind]
  cases started : a.run.run w with
  | mk answer u =>
    rw [started] at first
    -- a step that fails is the last one
    cases answer with
    | error e => exact ⟨lookups, first⟩
    | ok x =>
      obtain ⟨more, second⟩ := hf x u
      refine ⟨lookups ++ more, ?_⟩
      rw [Key.lookedUp_append, ← first]
      exact second

/-- The one lookup of a key is remembered whether it succeeds or not. -/
theorem looksUp_resolveKey (id : Option String) :
    LooksUp hosting (resolveKey hosting id : Action σ (Option Key)) := by
  intro w
  -- it is the lookup of this id in the environment of the world
  refine ⟨[(w.environment, id)], ?_⟩
  cases found : Key.resolve w.environment hosting w.keys id with
  | mk answer keys =>
    have looked : Key.lookedUp hosting w.keys [(w.environment, id)] = keys :=
      congrArg Prod.snd found
    rw [looked]
    cases answer with
    | ok key => rw [run_resolveKey_of_ok found]
    | error fault => rw [run_resolveKey_of_error found]

theorem looksUp_encrypt (key : List UInt8) (text : String) :
    LooksUp hosting (encrypt key text : Action σ String) :=
  .of_keys fun w => by rw [run_encrypt]

theorem looksUp_decrypt (key : List UInt8) (blob : String) :
    LooksUp hosting (decrypt key blob : Action σ String) :=
  .of_keys fun w => by rw [run_decrypt]

/-- Decrypting with a key of a proper length does not complain of it. -/
theorem run_decrypt_ne_keyLength {key : List UInt8} (proper : key.length ∈ Aes.keyLengths)
    (blob : String) (n : Nat) (w : World σ) :
    ((decrypt key blob).run.run w).1 ≠ .error (.cipher (.keyLength n)) := by
  intro refused
  rw [run_decrypt] at refused
  cases read : Blob.decrypt blob key with
  | ok text =>
    rw [read] at refused
    cases refused
  | error fault =>
    rw [read] at refused
    cases refused
    exact Blob.decrypt_ne_keyLength proper blob n read

/-- Every text can be enciphered under a key of a proper length. -/
theorem exists_run_encrypt {key : List UInt8} (proper : key.length ∈ Aes.keyLengths)
    (text : String) (w : World σ) : ∃ blob v, (encrypt key text).run.run w = (.ok blob, v) := by
  obtain ⟨blob, made⟩ := Blob.exists_encrypt proper (w.entropy.peek Cbc.blockLength) text
  refine ⟨blob, { w with entropy := w.entropy.advance Cbc.blockLength }, ?_⟩
  rw [run_encrypt, made]
  rfl

end Action

/-! ## The converters -/

namespace Converter

variable {σ : Type} {hosting : Hosting} {w v : World σ} {s : Secret} {n : Nat}

theorem looksUp_keyFor (id : Option String) :
    Action.LooksUp hosting (keyFor hosting id : Action σ Key) := by
  apply (Action.looksUp_resolveKey id).bind
  intro key
  cases key with
  | none => exact .throw _
  | some key => exact .pure key

theorem looksUp_check (c : Converter) (wanted : Direction) :
    Action.LooksUp hosting (c.check wanted : Action σ Unit) := by
  rw [check]
  split
  · exact .pure ()
  · exact .throw _

theorem looksUp_decipherValue (s : Secret) :
    Action.LooksUp hosting (decipherValue hosting s : Action σ String) := by
  rw [decipherValue]
  cases s.keyId? with
  | none => exact .throw _
  | some id =>
    apply (looksUp_keyFor (some id)).bind
    exact fun key => Action.looksUp_decrypt key.bytes s.value

theorem looksUp_encipherValue (s : Secret) :
    Action.LooksUp hosting (encipherValue hosting s : Action σ Secret) :=
  (looksUp_keyFor s.keyId?).bind fun key =>
    (Action.looksUp_encrypt key.bytes s.value).bind fun _ => .pure _

/-- Reading a value looks up at most the key that it was written with. -/
theorem looksUp_readValue (c : Converter) (s : Secret) :
    Action.LooksUp hosting (c.readValue hosting s : Action σ String) := by
  apply (looksUp_check c .reading).bind
  intro _
  cases c with
  | plain => exact .pure _
  | enciphering => exact looksUp_decipherValue s

/-- Writing a value looks up at most the key that it is to be written with. -/
theorem looksUp_writeValue (c : Converter) (s : Secret) :
    Action.LooksUp hosting (c.writeValue hosting s : Action σ Secret) := by
  apply (looksUp_check c .writing).bind
  intro _
  cases c with
  | plain => exact .pure _
  | enciphering => exact looksUp_encipherValue s

/-- The key that a converter is given has the length of a key. -/
theorem proper_of_keyFor (sound : w.keys.Sound) {id : Option String} {key : Key}
    (found : (keyFor hosting id).run.run w = (.ok key, v)) : key.bytes.length ∈ Aes.keyLengths := by
  obtain ⟨_, -, told⟩ := told_keyFor id w
  rw [found] at told
  have answer : w.find hosting id = .ok (some key) := keyAt_eq_ok (congrArg Prod.fst told).symm
  exact (World.find_id_of_found sound answer).2.1

/-- A converter that is told of the length of a key is not given any. -/
theorem badLength_of_keyAt {find : Key.Lookup} {id : Option String}
    (refused : keyAt find id = .error (.cipher (.keyLength n))) :
    ∃ slot, find id = .error (.badLength slot n) := by
  rw [keyAt] at refused
  cases answer : find id with
  | error fault =>
    rw [answer] at refused
    obtain ⟨slot, rfl⟩ := Key.Fault.error_eq_keyLength_iff.1 (Except.error.inj refused)
    exact ⟨slot, rfl⟩
  | ok key =>
    rw [answer] at refused
    cases key with
    | none => cases refused
    | some key => cases refused

theorem badLength_of_keyFor {id : Option String}
    (refused : (keyFor hosting id).run.run w = (.error (.cipher (.keyLength n)), v)) :
    ∃ slot, w.find hosting id = .error (.badLength slot n) := by
  obtain ⟨_, -, told⟩ := told_keyFor id w
  rw [refused] at told
  exact badLength_of_keyAt (congrArg Prod.fst told).symm

/-- A value that cannot be deciphered for the length of its key has none: material of that length
was found where the key is looked for. -/
theorem badLength_of_decipherValue (sound : w.keys.Sound)
    (refused : (decipherValue hosting s).run.run w = (.error (.cipher (.keyLength n)), v)) :
    ∃ slot, w.find hosting s.keyId? = .error (.badLength slot n) := by
  rw [decipherValue] at refused
  cases named : s.keyId? with
  | none =>
    rw [named] at refused
    cases refused
  | some id =>
    rw [named] at refused
    -- the key was refused, or it was found and has a proper length
    rcases Action.run_bind_cases refused with ⟨e, failed, eq⟩ | ⟨key, u, found, rest⟩
    · cases eq
      exact badLength_of_keyFor failed
    · have proper := proper_of_keyFor sound found
      exact absurd (congrArg Prod.fst rest) (Action.run_decrypt_ne_keyLength proper s.value n u)

/-- The same holds of a value that cannot be enciphered. -/
theorem badLength_of_encipherValue (sound : w.keys.Sound)
    (refused : (encipherValue hosting s).run.run w = (.error (.cipher (.keyLength n)), v)) :
    ∃ slot, w.find hosting s.keyId? = .error (.badLength slot n) := by
  -- under a key that was found every text can be enciphered
  rcases Action.run_bind_cases refused with ⟨e, failed, eq⟩ | ⟨key, u, found, rest⟩
  · cases eq
    exact badLength_of_keyFor failed
  · have proper := proper_of_keyFor sound found
    obtain ⟨blob, u', made⟩ := Action.exists_run_encrypt proper s.value u
    rw [Action.run_bind_of_ok made] at rest
    cases rest

/-- Only the converter that enciphers asks for a key. -/
theorem badLength_of_readValue {c : Converter} (sound : w.keys.Sound)
    (refused : (c.readValue hosting s).run.run w = (.error (.cipher (.keyLength n)), v)) :
    ∃ slot, w.find hosting s.keyId? = .error (.badLength slot n) := by
  rw [readValue.eq_def, check] at refused
  -- a converter of the other direction is refused for that, and not for a length
  split at refused
  · cases c with
    | plain => cases refused
    | enciphering => exact badLength_of_decipherValue sound refused
  · cases refused

theorem badLength_of_writeValue {c : Converter} (sound : w.keys.Sound)
    (refused : (c.writeValue hosting s).run.run w = (.error (.cipher (.keyLength n)), v)) :
    ∃ slot, w.find hosting s.keyId? = .error (.badLength slot n) := by
  rw [writeValue.eq_def, check] at refused
  split at refused
  · cases c with
    | plain => cases refused
    | enciphering => exact badLength_of_encipherValue sound refused
  · cases refused

end Converter

namespace Key

/-! ## What is remembered -/

/-- What holds of the keys that are remembered after lookups, and of whoever is given one. -/
structure Usable (hosting : Hosting) (lookups : Lookups) : Prop where
  /-- An entry is a key that has the slot for its id, and the length of a key. -/
  entries : ∀ slot key, (slot, key) ∈ (lookedUp hosting .empty lookups).entries →
    key.id = slot ∧ slot ≠ "" ∧ key.bytes.length ∈ [16, 24, 32]
  /-- The entries are what is seen, so that a slot has one at most. -/
  single : ∀ slot key, (slot, key) ∈ (lookedUp hosting .empty lookups).entries ↔
    (lookedUp hosting .empty lookups).get? slot = some key
  /-- No entry is lost or changed by further lookups. -/
  lasting : ∀ slot key later, (slot, key) ∈ (lookedUp hosting .empty lookups).entries →
    (slot, key) ∈ (lookedUp hosting .empty (lookups ++ later)).entries
  /-- A key that was found is the entry of its own id. -/
  found : ∀ env id key, Finds hosting .empty lookups env id key →
    (key.id, key) ∈ (lookedUp hosting .empty lookups).entries
  /-- Keys of one id are one key. -/
  same : ∀ env env' id id' k k', Finds hosting .empty lookups env id k →
    Finds hosting .empty lookups env' id' k' → k.id = k'.id → k.bytes = k'.bytes
  /-- A key that a converter is given can be used. -/
  ciphers : ∀ {σ : Type} (w v : World σ) (id : Option String) (key : Key),
    w.keys = lookedUp hosting .empty lookups →
    (Converter.keyFor hosting id).run.run w = (.ok key, v) →
    (∀ text, ∃ blob, ((Action.encrypt key.bytes text).run.run v).1 = .ok blob) ∧
    ∀ blob n, ((Action.decrypt key.bytes blob).run.run v).1 ≠ .error (.cipher (.keyLength n))
  /-- A converter that complains of the length of a key has not been given any. -/
  converters : ∀ {σ : Type} (w : World σ) (c : Converter) (s : Secret) (n : Nat),
    w.keys = lookedUp hosting .empty lookups →
    ((c.readValue hosting s).run.run w).1 = .error (.cipher (.keyLength n)) ∨
      ((c.writeValue hosting s).run.run w).1 = .error (.cipher (.keyLength n)) →
    ∃ slot, w.find hosting s.keyId? = .error (.badLength slot n)
  /-- What converters do to what is remembered is looking up keys. -/
  keeps : ∀ {σ : Type} (w : World σ) (c : Converter) (s : Secret),
    w.keys = lookedUp hosting .empty lookups →
    (∃ more, ((c.readValue hosting s).run.run w).2.keys =
      lookedUp hosting .empty (lookups ++ more)) ∧
    ∃ more, ((c.writeValue hosting s).run.run w).2.keys =
      lookedUp hosting .empty (lookups ++ more)

/-- Whatever is looked up and whatever becomes of the environment meanwhile, what is remembered are
keys that can be used, each in the slot of its id and there for good. -/
theorem remembered_keys_are_usable (hosting : Hosting) (lookups : Lookups) :
    Usable hosting lookups := by
  have sound : (lookedUp hosting .empty lookups).Sound :=
    sound_lookedUp KeyCache.sound_empty hosting lookups
  have distinct : ∀ lookups, (lookedUp hosting .empty lookups).Distinct :=
    distinct_lookedUp KeyCache.distinct_empty hosting
  have known : ∀ {env id key}, Finds hosting .empty lookups env id key →
      (lookedUp hosting .empty lookups).get? key.id = some key :=
    get?_id_of_finds KeyCache.sound_empty
  constructor
  case entries =>
    intro slot key mem
    exact sound slot key ((distinct lookups).mem_entries_iff.1 mem)
  case single => exact fun slot key => (distinct lookups).mem_entries_iff
  case lasting =>
    intro slot key later mem
    -- what is seen in a slot stays there, and the entries are what is seen
    apply (distinct _).mem_entries_iff.2
    rw [lookedUp_append]
    exact get?_lookedUp_of_some ((distinct lookups).mem_entries_iff.1 mem) hosting later
  case found => exact fun env id key finds => (distinct lookups).mem_entries_iff.2 (known finds)
  case same =>
    intro env env' id id' k k' finds finds' eq
    have first := known finds
    rw [eq, known finds'] at first
    rw [Option.some.inj first]
  case ciphers =>
    intro σ w v id key remembered found
    rw [← remembered] at sound
    have proper := Converter.proper_of_keyFor sound found
    constructor
    · intro text
      obtain ⟨blob, v', made⟩ := Action.exists_run_encrypt proper text v
      exact ⟨blob, congrArg Prod.fst made⟩
    · exact fun blob n => Action.run_decrypt_ne_keyLength proper blob n v
  case converters =>
    intro σ w c s n remembered refused
    rw [← remembered] at sound
    rcases refused with refused | refused
    · exact Converter.badLength_of_readValue sound (Prod.ext refused rfl)
    · exact Converter.badLength_of_writeValue sound (Prod.ext refused rfl)
  case keeps =>
    intro σ w c s remembered
    simp only [lookedUp_append, ← remembered]
    exact ⟨Converter.looksUp_readValue c s w, Converter.looksUp_writeValue c s w⟩

/-- The override is gone, and the variable that it told has another key. -/
def changed : Environment :=
  Variables.table [("other", "202122232425262728292a2b2c2d2e2f"), ("short", "0001")]

/-- A key that was found by way of the override, and again by its own id. -/
def rerouted : Lookups := [(overridden, none), (changed, some "other")]

/-- A process that has found it. -/
def rerouting : World Unit := ⟨changed, .counting, lookedUp .onPremises .empty rerouted, [], ()⟩

/-- The default key of earlier is what its id leads to later, and it enciphers; a key that is too
short is refused when it is looked up. -/
theorem remembered_keys_are_usable_rerouted :
    (∃ k k', Finds .onPremises .empty rerouted overridden none k ∧
      Finds .onPremises .empty rerouted changed (some "other") k' ∧ k.bytes = k'.bytes) ∧
    (∃ key v blob, (Converter.keyFor .onPremises (some "other")).run.run rerouting = (.ok key, v) ∧
      ((Action.encrypt key.bytes "x").run.run v).1 = .ok blob) ∧
    (((Converter.enciphering .writing).writeValue .onPremises
      ⟨"master", "x", false, some "short"⟩).run.run rerouting).1 =
        .error (.cipher (.keyLength 2)) ∧
    ∃ slot, rerouting.find .onPremises (some "short") = .error (.badLength slot 2) := by
  obtain ⟨-, -, -, -, agree, ciphers, converters, -⟩ :=
    remembered_keys_are_usable .onPremises rerouted
  refine ⟨⟨_, _, ⟨0, rfl, rfl⟩, ⟨1, rfl, rfl⟩, ?_⟩, ?_, rfl, ?_⟩
  · exact agree _ _ _ _ _ _ ⟨0, rfl, rfl⟩ ⟨1, rfl, rfl⟩ rfl
  · obtain ⟨encrypts, -⟩ := ciphers rerouting _ (some "other")
      ⟨"other", (List.range' 16 16).map UInt8.ofNat⟩ rfl rfl
    obtain ⟨blob, made⟩ := encrypts "x"
    exact ⟨_, _, blob, rfl, made⟩
  · exact converters rerouting (.enciphering .writing) ⟨"master", "x", false, some "short"⟩ 2 rfl
      (.inr rfl)

end Key

end Lockbox
