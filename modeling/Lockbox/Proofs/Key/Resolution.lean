import Lockbox.Key.Resolution

/-!
# What is remembered about keys

Keys are remembered under the id of their source. In one environment an id has one source at most
(`varName_eq_of_id_eq`), so that remembering a key changes no later answer:

    resolve_stable : (resolve env hosting (resolve env hosting cache id).2 other).1 =
                       (resolve env hosting cache other).1

This holds of any cache, also of one that was filled in other environments. What is remembered is
sound (`KeyCache.Sound`), and the id of a key that was found leads to that key again
(`resolve_id_of_found`).
-/

namespace Lockbox

namespace KeyCache

/-- Every slot holds a key of that id which can be used, and there is no nameless slot. -/
def Sound (c : KeyCache) : Prop :=
  ∀ slot key, c.get? slot = some key →
    key.id = slot ∧ slot ≠ "" ∧ key.bytes.length ∈ Aes.keyLengths

theorem sound_empty : Sound empty := by
  intro slot key h
  cases h

/-- What is remembered last is seen first. -/
theorem get?_cons (slot other : String) (key : Key) (c : KeyCache) :
    get? ⟨(slot, key) :: c.entries⟩ other = if slot = other then some key else c.get? other := by
  by_cases h : slot = other
  · simp [get?, h]
  · simp [get?, h]

end KeyCache

namespace Key

variable {env : Environment} {hosting : Hosting} {cache : KeyCache}

/-! ## Sources -/

/-- A setting that is blank counts as absent. -/
theorem not_blank_of_setting? {name value : String} (h : setting? env name = some value) :
    Text.isBlank value = false := by
  obtain ⟨-, solid⟩ := Option.filter_eq_some_iff.1 h
  simpa using solid

/-- The default key has an id, whatever the override says. -/
theorem defaultSource_id_ne_empty (env : Environment) (hosting : Hosting) :
    (defaultSource env hosting).id ≠ "" := by
  unfold defaultSource
  split
  · next id override =>
    rintro rfl
    exact absurd (not_blank_of_setting? override) (by decide)
  · exact (by decide : defaultId ≠ "")

/-- Either an id means the default key, or it names its own variable. -/
theorem sourceOf_cases (env : Environment) (hosting : Hosting) (id : Option String) :
    (isDefaultId id = true ∧ sourceOf env hosting id = defaultSource env hosting) ∨
      ∃ name, id = some name ∧ isDefaultId (some name) = false ∧
        sourceOf env hosting id = ⟨name, name, false⟩ := by
  cases id with
  | none => exact .inl ⟨rfl, rfl⟩
  | some name =>
    by_cases standard : isDefaultId (some name) = true
    · exact .inl ⟨standard, if_pos standard⟩
    · exact .inr ⟨name, rfl, Bool.eq_false_iff.2 standard, if_neg standard⟩

theorem sourceOf_id_ne_empty (env : Environment) (hosting : Hosting) (id : Option String) :
    (sourceOf env hosting id).id ≠ "" := by
  rcases sourceOf_cases env hosting id with ⟨-, source⟩ | ⟨name, -, named, source⟩
  · rw [source]
    exact defaultSource_id_ne_empty env hosting
  · rw [source]
    rintro rfl
    exact absurd named (by decide)

/-- The default key is found under the id that its variable goes by, unless that id is an alias. -/
theorem defaultSource_varName {name : String} (named : isDefaultId (some name) = false)
    (h : (defaultSource env hosting).id = name) : (defaultSource env hosting).varName = name := by
  unfold defaultSource at h ⊢
  split at h
  · exact h
  · rw [← h] at named
    exact absurd named (by decide : ¬isDefaultId (some defaultId) = false)

/-- In one environment, sources of one id have one variable. -/
theorem varName_eq_of_id_eq {a b : Option String}
    (h : (sourceOf env hosting a).id = (sourceOf env hosting b).id) :
    (sourceOf env hosting a).varName = (sourceOf env hosting b).varName := by
  -- each of the two means the default key or names its variable
  rcases sourceOf_cases env hosting a with ⟨-, left⟩ | ⟨name, -, named, left⟩ <;>
    rcases sourceOf_cases env hosting b with ⟨-, right⟩ | ⟨other, -, unaliased, right⟩ <;>
    rw [left, right] at h ⊢
  · exact defaultSource_varName unaliased h
  · exact (defaultSource_varName named h.symm).symm
  · exact h

/-- The id of a source leads back to that source. -/
theorem sourceOf_sourceOf_id (env : Environment) (hosting : Hosting) (id : Option String) :
    (sourceOf env hosting (some (sourceOf env hosting id).id)).id =
      (sourceOf env hosting id).id := by
  -- the id of a source may itself mean the default key
  rcases sourceOf_cases env hosting (some (sourceOf env hosting id).id) with
    ⟨standard, again⟩ | ⟨name, eq, -, again⟩
  · rcases sourceOf_cases env hosting id with ⟨-, source⟩ | ⟨name, -, named, source⟩
    · rw [again, source]
    · rw [source] at standard
      exact absurd (standard.symm.trans named) (by decide)
  · rw [again]
    exact (Option.some.inj eq).symm

/-! ## Finding -/

/-- Only material of a proper length is taken for a key. -/
theorem ofSetting_eq_ok {id value : String} {key : Key} (h : ofSetting id value = .ok key) :
    key.id = id ∧ key.bytes.length ∈ Aes.keyLengths := by
  unfold ofSetting ofHex at h
  cases decoded : Hex.decode (Text.trim value) with
  | error fault =>
    rw [decoded] at h
    cases h
  | ok bytes =>
    rw [decoded] at h
    simp only [Except.map] at h
    split at h
    · next proper =>
      cases h
      exact ⟨rfl, proper⟩
    · cases h

/-- A key that was loaded goes by the id of its source. -/
theorem load_eq_ok {source : Source} {key : Key} (h : load env source = .ok (some key)) :
    key.id = source.id ∧ key.bytes.length ∈ Aes.keyLengths := by
  unfold load at h
  split at h
  · cases h
  · next value _ =>
    cases found : ofSetting source.id value with
    | error fault =>
      rw [found] at h
      cases h
    | ok other =>
      rw [found] at h
      cases h
      exact ofSetting_eq_ok found

theorem load_congr {s t : Source} (id : s.id = t.id) (varName : s.varName = t.varName) :
    load env s = load env t := by
  rw [load, load, id, varName]

/-- The four outcomes of a lookup: the key is remembered, cannot be used, is absent, or is found
and then remembered. -/
theorem resolve_cases (env : Environment) (hosting : Hosting) (cache : KeyCache)
    (id : Option String) :
    (∃ key, cache.get? (sourceOf env hosting id).id = some key ∧
      resolve env hosting cache id = (.ok (some key), cache)) ∨
    (∃ fault, cache.get? (sourceOf env hosting id).id = none ∧
      load env (sourceOf env hosting id) = .error fault ∧
      resolve env hosting cache id = (.error fault, cache)) ∨
    (cache.get? (sourceOf env hosting id).id = none ∧
      load env (sourceOf env hosting id) = .ok none ∧
      resolve env hosting cache id = (demand (sourceOf env hosting id) (.ok none), cache)) ∨
    (∃ key, cache.get? (sourceOf env hosting id).id = none ∧
      load env (sourceOf env hosting id) = .ok (some key) ∧
      resolve env hosting cache id =
        (.ok (some key), ⟨((sourceOf env hosting id).id, key) :: cache.entries⟩)) := by
  -- what is remembered answers, or else what is found in the environment
  cases known : cache.get? (sourceOf env hosting id).id with
  | some key =>
    refine .inl ⟨key, rfl, ?_⟩
    rw [resolve, KeyCache.getOrFind_of_some known]
    rfl
  | none =>
    refine .inr ?_
    cases found : load env (sourceOf env hosting id) with
    | error fault =>
      refine .inl ⟨fault, rfl, rfl, ?_⟩
      simp only [resolve, found, KeyCache.getOrFind, known]
      rfl
    | ok key =>
      refine .inr ?_
      cases key with
      | none =>
        refine .inl ⟨rfl, rfl, ?_⟩
        simp only [resolve, found, KeyCache.getOrFind, known]
      | some key =>
        refine .inr ⟨key, rfl, rfl, ?_⟩
        rw [resolve, found, KeyCache.getOrFind_of_none known]
        rfl

/-- A lookup remembers a key under its own id, if any. -/
theorem sound_resolve (sound : cache.Sound) (env : Environment) (hosting : Hosting)
    (id : Option String) : (resolve env hosting cache id).2.Sound := by
  -- in three of the four outcomes nothing new is remembered
  rcases resolve_cases env hosting cache id with
    ⟨_, -, runs⟩ | ⟨_, -, -, runs⟩ | ⟨-, -, runs⟩ | ⟨key, -, found, grown⟩
  · rw [runs]
    exact sound
  · rw [runs]
    exact sound
  · rw [runs]
    exact sound
  · rw [grown]
    intro slot other h
    rw [KeyCache.get?_cons] at h
    split at h
    · next eq =>
      cases h
      obtain ⟨named, proper⟩ := load_eq_ok found
      rw [← eq]
      exact ⟨named, sourceOf_id_ne_empty env hosting id, proper⟩
    · exact sound slot other h

/-- Remembering a key changes no later answer in the same environment, whatever the cache holds. -/
theorem resolve_stable (env : Environment) (hosting : Hosting) (cache : KeyCache)
    (id other : Option String) :
    (resolve env hosting (resolve env hosting cache id).2 other).1 =
      (resolve env hosting cache other).1 := by
  rcases resolve_cases env hosting cache id with
    ⟨_, -, runs⟩ | ⟨_, -, -, runs⟩ | ⟨-, -, runs⟩ | ⟨key, unknown, found, grown⟩
  · rw [runs]
  · rw [runs]
  · rw [runs]
  · rw [grown]
    by_cases eq : (sourceOf env hosting id).id = (sourceOf env hosting other).id
    · -- the other id has the same source, where the same key would be found now
      have loaded : load env (sourceOf env hosting other) = .ok (some key) := by
        rw [← load_congr eq (varName_eq_of_id_eq eq)]
        exact found
      have known : KeyCache.get? ⟨((sourceOf env hosting id).id, key) :: cache.entries⟩
          (sourceOf env hosting other).id = some key := by
        rw [KeyCache.get?_cons, if_pos eq]
      rw [eq] at unknown
      rw [resolve, KeyCache.getOrFind_of_some known, resolve, loaded,
        KeyCache.getOrFind_of_none unknown]
    · have slot : KeyCache.get? ⟨((sourceOf env hosting id).id, key) :: cache.entries⟩
          (sourceOf env hosting other).id = cache.get? (sourceOf env hosting other).id := by
        rw [KeyCache.get?_cons, if_neg eq]
      cases known : cache.get? (sourceOf env hosting other).id with
      | some present =>
        rw [known] at slot
        rw [resolve, KeyCache.getOrFind_of_some slot, resolve, KeyCache.getOrFind_of_some known]
      | none =>
        rw [known] at slot
        simp only [resolve, KeyCache.getOrFind, slot, known, KeyCache.insertIfNew]
        cases load env (sourceOf env hosting other) with
        | error fault => rfl
        | ok key =>
          cases key with
          | none => rfl
          | some key => rfl

/-- A key that is found is remembered under its source, and can be used. -/
theorem get?_of_resolve_eq_ok {id : Option String} {key : Key}
    (h : (resolve env hosting cache id).1 = .ok (some key)) :
    (resolve env hosting cache id).2.get? (sourceOf env hosting id).id = some key := by
  rcases resolve_cases env hosting cache id with
    ⟨other, known, runs⟩ | ⟨_, -, -, runs⟩ | ⟨-, -, runs⟩ | ⟨other, -, -, grown⟩
  · rw [runs] at h ⊢
    cases h
    exact known
  · rw [runs] at h
    cases h
  · rw [runs] at h
    simp only [demand] at h
    split at h <;> cases h
  · rw [grown] at h ⊢
    cases h
    rw [KeyCache.get?_cons, if_pos rfl]

/-- What a key that was found is like, and that its own id leads to it again. -/
theorem resolve_id_of_found (sound : cache.Sound) {id : Option String} {key : Key}
    (h : (resolve env hosting cache id).1 = .ok (some key)) :
    key.id ≠ "" ∧ key.bytes.length ∈ Aes.keyLengths ∧
      (resolve env hosting cache (some key.id)).1 = .ok (some key) := by
  have known := get?_of_resolve_eq_ok h
  obtain ⟨named, filled, proper⟩ := sound_resolve sound env hosting id _ _ known
  refine ⟨named ▸ filled, proper, ?_⟩
  rw [← resolve_stable env hosting cache id, named, resolve]
  rw [← sourceOf_sourceOf_id] at known
  rw [KeyCache.getOrFind_of_some known]
  rfl

/-! ## Histories -/

/-- Lookups, each in an environment of its own. -/
abbrev Lookups := List (Environment × Option String)

/-- What is remembered after more lookups. -/
def lookedUp (hosting : Hosting) (cache : KeyCache) (lookups : Lookups) : KeyCache :=
  lookups.foldl (fun cache next => (resolve next.1 hosting cache next.2).2) cache

/-- What is remembered after lookups where nothing was before. -/
def remembered (hosting : Hosting) (lookups : Lookups) : KeyCache :=
  lookedUp hosting .empty lookups

theorem lookedUp_cons (next : Environment × Option String) (rest : Lookups) :
    lookedUp hosting cache (next :: rest) =
      lookedUp hosting (resolve next.1 hosting cache next.2).2 rest := rfl

/-- Lookups go on from what is remembered. -/
theorem lookedUp_append (hosting : Hosting) (cache : KeyCache) (lookups more : Lookups) :
    lookedUp hosting cache (lookups ++ more) =
      lookedUp hosting (lookedUp hosting cache lookups) more := List.foldl_append

/-- Lookups keep what is remembered sound, however the environment changes between them. -/
theorem sound_lookedUp (sound : cache.Sound) (hosting : Hosting) (lookups : Lookups) :
    (lookedUp hosting cache lookups).Sound := by
  -- on the lookups, each of which keeps what is remembered sound
  induction lookups generalizing cache with
  | nil => exact sound
  | cons next rest ih =>
    rw [lookedUp_cons]
    apply ih
    exact sound_resolve sound next.1 hosting next.2

theorem sound_remembered (hosting : Hosting) (lookups : Lookups) :
    (remembered hosting lookups).Sound :=
  sound_lookedUp KeyCache.sound_empty hosting lookups

/-- Lookups in one environment change no answer in it. -/
theorem resolve_lookedUp (env : Environment) (hosting : Hosting) (cache : KeyCache)
    (ids : List (Option String)) (id : Option String) :
    (resolve env hosting (lookedUp hosting cache (ids.map (env, ·))) id).1 =
      (resolve env hosting cache id).1 := by
  induction ids generalizing cache with
  | nil => rfl
  | cons first rest ih => rw [List.map_cons, lookedUp_cons, ih, resolve_stable]

/-- In one environment every answer is that of the first lookup. -/
theorem resolve_remembered (env : Environment) (hosting : Hosting) (ids : List (Option String))
    (id : Option String) :
    (resolve env hosting (remembered hosting (ids.map (env, ·))) id).1 =
      (resolve env hosting .empty id).1 :=
  resolve_lookedUp env hosting .empty ids id

end Key

end Lockbox
