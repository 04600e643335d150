import Lockbox.Proofs.Key.Answer
import Lockbox.Proofs.Vault

/-!
# How long keys last

A resolver forgets no key that it has found, whatever becomes of the environment. The slot of a key
is the id that its source has at the time (`get?_lookedUp_of_finds`), and so two lookups that find
keys find the same one exactly if their ids lead to sources of one id:

    eq_iff_of_finds : k = k' ↔ (sourceOf env hosting id).id = (sourceOf env' hosting id').id

An id that is no alias of the default key leads to itself at all times. An alias leads to where the
override says, and to another key as soon as the override says otherwise
(`default_key_is_replaced`). So a record stays readable while the id that it names leads to itself
(`found_keys_endure`).
-/

namespace Lockbox

namespace Key

variable {hosting : Hosting} {cache : KeyCache} {slot : String} {k k' : Key}

def replies (hosting : Hosting) : KeyCache → Lookups → List (Except Fault (Option Key))
  | _, [] => []
  | cache, next :: rest =>
    (resolve next.1 hosting cache next.2).1 ::
      replies hosting (resolve next.1 hosting cache next.2).2 rest

/-- One of the lookups asks for an id in an environment and finds a key. -/
def Finds (hosting : Hosting) (cache : KeyCache) (lookups : Lookups) (env : Environment)
    (id : Option String) (k : Key) : Prop :=
  ∃ i : Nat, lookups[i]? = some (env, id) ∧
    (replies hosting cache lookups)[i]? = some (.ok (some k))

/-! ## Nothing is forgotten -/

/-- A lookup leaves what is remembered. -/
theorem get?_resolve_of_some (known : cache.get? slot = some k) (env : Environment)
    (hosting : Hosting) (id : Option String) :
    (resolve env hosting cache id).2.get? slot = some k :=
  KeyCache.get?_getOrFind_of_some known _

theorem get?_lookedUp_of_some (known : cache.get? slot = some k) (hosting : Hosting)
    (lookups : Lookups) : (lookedUp hosting cache lookups).get? slot = some k := by
  induction lookups generalizing cache with
  | nil => exact known
  | cons next rest ih =>
    rw [lookedUp_cons]
    apply ih
    exact get?_resolve_of_some known next.1 hosting next.2

/-- A key that is remembered is found wherever its slot is looked up. -/
theorem resolve_of_get? {env : Environment} {id : Option String}
    (known : cache.get? (sourceOf env hosting id).id = some k) :
    (resolve env hosting cache id).1 = .ok (some k) := by
  rw [resolve, KeyCache.getOrFind_of_some known]
  rfl

/-- Whatever key was found in a run is remembered at its end, in the slot that its id led to. -/
theorem get?_lookedUp_of_finds {lookups : Lookups} {env : Environment} {id : Option String}
    (finds : Finds hosting cache lookups env id k) :
    (lookedUp hosting cache lookups).get? (sourceOf env hosting id).id = some k := by
  obtain ⟨i, asked, replied⟩ := finds
  induction lookups generalizing cache i with
  | nil => cases asked
  | cons next rest ih =>
    cases i with
    | zero =>
      -- the key is put into its slot now, and stays there
      obtain rfl := Option.some.inj asked
      exact get?_lookedUp_of_some (get?_of_resolve_eq_ok (Option.some.inj replied)) hosting rest
    | succ i => exact ih i asked replied

/-- Two keys that were found are one exactly if their sources had one id. -/
theorem eq_iff_of_finds (sound : cache.Sound) {lookups : Lookups} {env env' : Environment}
    {id id' : Option String} (finds : Finds hosting cache lookups env id k)
    (finds' : Finds hosting cache lookups env' id' k') :
    k = k' ↔ (sourceOf env hosting id).id = (sourceOf env' hosting id').id := by
  have first := get?_lookedUp_of_finds finds
  have second := get?_lookedUp_of_finds finds'
  have sound := sound_lookedUp sound hosting lookups
  constructor
  · rintro rfl
    exact (sound _ _ first).1.symm.trans (sound _ _ second).1
  · intro eq
    rw [eq, second] at first
    exact (Option.some.inj first).symm

/-- An id that is no alias of the default key leads to itself at all times. -/
theorem sourceOf_of_not_isAlias {id : Option String} (unaliased : ¬IsAlias id) (env : Environment)
    (hosting : Hosting) : some (sourceOf env hosting id).id = id := by
  cases id with
  | none => exact absurd (.inl rfl) unaliased
  | some name => rw [leadsTo_iff.1 (.named rfl unaliased)]

end Key

namespace Converter

variable {σ τ : Type} {hosting : Hosting}

/-- A key that is found is remembered under its own id. -/
theorem get?_of_keyFor {id : Option String} {key : Key} {w v : World σ} (sound : w.keys.Sound)
    (found : (keyFor hosting id).run.run w = (.ok key, v)) :
    v.keys.get? key.id = some key := by
  cases answer : Key.resolve w.environment hosting w.keys id with
  | mk reply keys =>
    rw [keyFor] at found
    cases reply with
    | error fault =>
      rw [Action.run_bind_of_error (Action.run_resolveKey_of_error answer)] at found
      cases found
    | ok other =>
      rw [Action.run_bind_of_ok (Action.run_resolveKey_of_ok answer)] at found
      cases other with
      | none => cases found
      | some other =>
        cases found
        have known : keys.get? (Key.sourceOf w.environment hosting id).id = some key := by
          simpa only [answer] using Key.get?_of_resolve_eq_ok (congrArg Prod.fst answer)
        have kept : keys.Sound := by
          simpa only [answer] using Key.sound_resolve sound w.environment hosting id
        rw [(kept _ _ known).1]
        exact known

theorem keys_of_encrypt {key : List UInt8} {text blob : String} {v w : World σ}
    (made : (Action.encrypt key text).run.run v = (.ok blob, w)) : w.keys = v.keys := by
  obtain ⟨iv, u, drawn, rest⟩ := Action.run_bind_eq_ok made
  rw [Action.run_draw] at drawn
  cases drawn
  cases result : Blob.encrypt (v.entropy.peek Cbc.blockLength) key text with
  | error fault =>
    rw [result] at rest
    cases rest
  | ok other =>
    rw [result] at rest
    cases rest
    rfl

/-- The key under which a record was enciphered is remembered under its own id. -/
theorem get?_of_encipherValue {s t : Secret} {w w' : World σ} (sound : w.keys.Sound)
    (written : (encipherValue hosting s).run.run w = (.ok t, w')) :
    ∃ key iv blob, iv.length = Cbc.blockLength ∧ Blob.encrypt iv key.bytes s.value = .ok blob ∧
      t = .encrypted s.name blob key.id ∧ w'.keys.get? key.id = some key := by
  obtain ⟨key, iv, blob, found, block, made, form⟩ := encipherValue_eq_ok written
  refine ⟨key, iv, blob, block, made, form, ?_⟩
  obtain ⟨other, v, looked, rest⟩ := Action.run_bind_eq_ok written
  obtain ⟨_, v', enciphered, done⟩ := Action.run_bind_eq_ok rest
  -- a lookup is told by where ids lead, so that the key is the one that was found
  have eq : other = key := by
    have tells : Action.Told hosting (keyFor hosting s.keyId? : Action σ Key) _ :=
      told_keyFor s.keyId?
    obtain ⟨_, -, told⟩ := tells w
    rw [looked] at told
    have answer := keyAt_eq_ok (congrArg Prod.fst told).symm
    rw [found] at answer
    cases answer
    rfl
  cases done
  rw [keys_of_encrypt enciphered, ← eq]
  exact get?_of_keyFor sound looked

/-- A record that was enciphered can be read, at any later time, where the id that it names leads to
itself. -/
theorem decipherValue_of_encipherValue {s t : Secret} {w w' : World σ} {u : World τ}
    (sound : w.keys.Sound) (written : (encipherValue hosting s).run.run w = (.ok t, w'))
    {later : Key.Lookups} (remembered : u.keys = Key.lookedUp hosting w'.keys later)
    (leads : t.keyId? = some (Key.sourceOf u.environment hosting t.keyId?).id) :
    ((decipherValue hosting t).run.run u).1 = .ok (Blob.dropMark s.value) := by
  obtain ⟨key, iv, blob, block, made, form, known⟩ := get?_of_encipherValue sound written
  have named : t.keyId? = some key.id := by
    obtain ⟨stored, -⟩ := Option.filter_eq_some_iff.1 leads
    rw [leads, ← stored, form]
    rfl
  have kept := Key.get?_lookedUp_of_some known hosting later
  rw [← remembered] at kept
  have found : u.find hosting (some key.id) = .ok (some key) := by
    apply Key.resolve_of_get?
    rw [named] at leads
    rw [← Option.some.inj leads]
    exact kept
  have tells : Action.Told hosting (decipherValue hosting t : Action τ String) _ :=
    told_decipherValue t
  obtain ⟨_, -, told⟩ := tells u
  rw [told]
  show decipheredValue (u.find hosting) t = _
  rw [decipheredValue, named]
  simp only [keyAt_of_found found]
  show (Blob.decrypt t.value key.bytes).mapError Error.cipher = _
  rw [form]
  show (Blob.decrypt blob key.bytes).mapError Error.cipher = _
  rw [Blob.decrypt_encrypt block made]
  rfl

end Converter

namespace Key

/-! ## The same key under the same id -/

/-- Whatever becomes of the environment, two lookups that find keys find the same key exactly if
what their ids lead to has the same id; so it is with an id that is no alias of the default key. A
record that was enciphered can be read for good while the id that it names leads to itself. -/
theorem found_keys_endure (hosting : Hosting) (lookups : Lookups) :
    (∀ env env' id id' k k' source source', Finds hosting .empty lookups env id k →
      Finds hosting .empty lookups env' id' k' →
      LeadsTo env hosting id source → LeadsTo env' hosting id' source' →
      (k = k' ↔ source.id = source'.id)) ∧
    (∀ env env' id k k', Finds hosting .empty lookups env id k →
      Finds hosting .empty lookups env' id k' → ¬IsAlias id → k = k') ∧
    ∀ {σ τ : Type} (w w' : World σ) (s t : Secret) (later : Lookups) (u : World τ)
      (source : Source),
      w.keys = lookedUp hosting .empty lookups →
      (Converter.encipherValue hosting s).run.run w = (.ok t, w') →
      u.keys = lookedUp hosting w'.keys later →
      LeadsTo u.environment hosting t.keyId? source → t.keyId? = some source.id →
      ((Converter.decipherValue hosting t).run.run u).1 = .ok (Blob.dropMark s.value) := by
  refine ⟨?_, ?_, ?_⟩
  · intro env env' id id' k k' source source' finds finds' leads leads'
    rw [← leadsTo_iff.1 leads, ← leadsTo_iff.1 leads']
    exact eq_iff_of_finds KeyCache.sound_empty finds finds'
  · intro env env' id k k' finds finds' unaliased
    apply (eq_iff_of_finds KeyCache.sound_empty finds finds').2
    apply Option.some.inj
    rw [sourceOf_of_not_isAlias unaliased, sourceOf_of_not_isAlias unaliased]
  · intro σ τ w w' s t later u source known written remembered leads named
    have sound : w.keys.Sound := by
      rw [known]
      exact sound_lookedUp KeyCache.sound_empty hosting lookups
    apply Converter.decipherValue_of_encipherValue sound written remembered
    rw [leadsTo_iff.1 leads]
    exact named

/-- A default key in its standard variable. -/
def standing : Environment :=
  Variables.table [(localVariable, "000102030405060708090a0b0c0d0e0f")]

def fresh : World Unit := ⟨standing, .counting, .empty, [], ()⟩

theorem find_fresh : fresh.find .onPremises none =
    .ok (some ⟨"default", (List.range 16).map UInt8.ofNat⟩) := rfl

/-- A key that was found, and a record under it, outlast the variable of the key. -/
theorem found_keys_endure_unset :
    (∃ k k', Finds .onPremises .empty [(standing, some "default"), (fun _ => none, none)]
        standing (some "default") k ∧
      Finds .onPremises .empty [(standing, some "default"), (fun _ => none, none)]
        (fun _ => none) none k' ∧ k = k') ∧
    ∃ t w', (Converter.encipherValue .onPremises (.plaintext "master" "\uFEFFx")).run.run fresh =
        (.ok t, w') ∧
      ((Converter.decipherValue .onPremises t).run.run
        { w' with environment := fun _ => none }).1 = .ok "x" := by
  have first : LeadsTo standing .onPremises (some "default") ⟨"default", localVariable, false⟩ :=
    leadsTo_iff.2 rfl
  have bare : ∀ id, IsAlias id →
      LeadsTo (fun _ => none) .onPremises id ⟨"default", localVariable, false⟩ :=
    fun id aliased => .standard aliased fun value held => nomatch held.1
  obtain ⟨agree, -, -⟩ := found_keys_endure .onPremises
    [(standing, some "default"), (fun _ => none, none)]
  obtain ⟨-, -, readable⟩ := found_keys_endure .onPremises []
  refine ⟨⟨_, _, ⟨0, rfl, rfl⟩, ⟨1, rfl, rfl⟩, ?_⟩, ?_⟩
  · exact (agree _ _ _ _ _ _ _ _ ⟨0, rfl, rfl⟩ ⟨1, rfl, rfl⟩ first (bare none (.inl rfl))).2 rfl
  · obtain ⟨t, w', written⟩ := Vault.exists_write (v := ⟨.onPremises, true⟩)
      (s := .plaintext "master" "\uFEFFx") KeyCache.sound_empty find_fresh
    refine ⟨t, w', written, ?_⟩
    obtain ⟨key, _, blob, found, -, -, rfl⟩ := Converter.encipherValue_eq_ok written
    cases find_fresh.symm.trans found
    exact readable fresh w' _ _ [] _ _ rfl written rfl (bare _ (.inr ⟨_, rfl, .inr (.inl rfl)⟩)) rfl

/-- A default key in its standard variable, and an override that tells another one. -/
def overridden : Environment :=
  Variables.table [(localVariable, "000102030405060708090a0b0c0d0e0f"),
    (overrideVariable, "other"), ("other", "101112131415161718191a1b1c1d1e1f")]

/-- The default key is another one once an override is set, also under the id that it had. -/
theorem default_key_is_replaced :
    ∃ k k', Finds .onPremises .empty [(standing, some "default"), (overridden, some "default")]
        standing (some "default") k ∧
      Finds .onPremises .empty [(standing, some "default"), (overridden, some "default")]
        overridden (some "default") k' ∧
      k.id = "default" ∧ k.bytes ≠ k'.bytes :=
  ⟨⟨"default", (List.range 16).map UInt8.ofNat⟩, ⟨"other", (List.range' 16 16).map UInt8.ofNat⟩,
    ⟨0, rfl, rfl⟩, ⟨1, rfl, rfl⟩, rfl, by decide⟩

end Key

end Lockbox
