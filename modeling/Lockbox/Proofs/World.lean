import Lockbox.Proofs.Key.Resolution
import Lockbox.World

/-!
# What actions can tell and change

Two worlds are alike if only their logs differ and what keys they remember: every id leads to the
same key in both. An action respects this (`Respects`) if it gives the same answer in alike worlds
and leaves them alike.

A world is onward of another if it has the same environment, every id still leads to the same key
and what is remembered is still sound. It is quiet if no file was touched either, and hushed if
besides nothing was drawn. Looking up a key is hushed, and where ids lead (`World.find`) tells its
answer, as it does for all that is made of such steps (`Told`):

    told_resolveKey : Told hosting (resolveKey hosting id)
      fun find => (find id).mapError Key.Fault.error
-/

namespace Lockbox

/-- Where ids lead. -/
abbrev Key.Lookup := Option String → Except Key.Fault (Option Key)

namespace World

variable {σ : Type} {hosting : Hosting} {u v w : World σ}

def find (hosting : Hosting) (w : World σ) : Key.Lookup := fun id =>
  (Key.resolve w.environment hosting w.keys id).1

/-- Only the logs differ and what is remembered, not what it amounts to. -/
structure Alike (hosting : Hosting) (w v : World σ) : Prop where
  environment : w.environment = v.environment
  entropy : w.entropy = v.entropy
  volume : w.volume = v.volume
  find : w.find hosting = v.find hosting

theorem Alike.refl (hosting : Hosting) (w : World σ) : w.Alike hosting w := ⟨rfl, rfl, rfl, rfl⟩

theorem Alike.symm (h : w.Alike hosting v) : v.Alike hosting w :=
  ⟨h.environment.symm, h.entropy.symm, h.volume.symm, h.find.symm⟩

theorem Alike.trans (h : u.Alike hosting v) (k : v.Alike hosting w) : u.Alike hosting w :=
  ⟨h.environment.trans k.environment, h.entropy.trans k.entropy, h.volume.trans k.volume,
    h.find.trans k.find⟩

/-- The environment is the same, every id leads to the same key, and nothing unsound was
remembered. -/
structure Onward (hosting : Hosting) (w v : World σ) : Prop where
  environment : w.environment = v.environment
  find : w.find hosting = v.find hosting
  sound : w.keys.Sound → v.keys.Sound

theorem Onward.refl (hosting : Hosting) (w : World σ) : w.Onward hosting w := ⟨rfl, rfl, id⟩

theorem Onward.trans (h : u.Onward hosting v) (k : v.Onward hosting w) : u.Onward hosting w :=
  ⟨h.environment.trans k.environment, h.find.trans k.find, fun s => k.sound (h.sound s)⟩

/-- No file was touched either. -/
structure Quiet (hosting : Hosting) (w v : World σ) : Prop extends Onward hosting w v where
  volume : w.volume = v.volume

theorem Quiet.refl (hosting : Hosting) (w : World σ) : w.Quiet hosting w :=
  ⟨.refl hosting w, rfl⟩

theorem Quiet.trans (h : u.Quiet hosting v) (k : v.Quiet hosting w) : u.Quiet hosting w :=
  ⟨h.toOnward.trans k.toOnward, h.volume.trans k.volume⟩

/-- Nothing was drawn either. -/
structure Hushed (hosting : Hosting) (w v : World σ) : Prop extends Quiet hosting w v where
  entropy : w.entropy = v.entropy

theorem Hushed.refl (hosting : Hosting) (w : World σ) : w.Hushed hosting w :=
  ⟨.refl hosting w, rfl⟩

theorem Hushed.trans (h : u.Hushed hosting v) (k : v.Hushed hosting w) : u.Hushed hosting w :=
  ⟨h.toQuiet.trans k.toQuiet, h.entropy.trans k.entropy⟩

theorem Hushed.alike (h : w.Hushed hosting v) : w.Alike hosting v :=
  ⟨h.environment, h.entropy, h.volume, h.find⟩

/-- A key that was found can be used, and is found under its own id. -/
theorem find_id_of_found (sound : w.keys.Sound) {id : Option String} {key : Key}
    (h : w.find hosting id = .ok (some key)) :
    key.id ≠ "" ∧ key.bytes.length ∈ Aes.keyLengths ∧
      w.find hosting (some key.id) = .ok (some key) :=
  Key.resolve_id_of_found sound h

/-- The surroundings of a process that has looked up some keys in an environment. -/
def Within (env : Environment) (hosting : Hosting) (w : World σ) : Prop :=
  w.environment = env ∧ ∃ ids : List (Option String),
    w.keys = Key.remembered hosting (ids.map (env, ·))

/-- Whatever was looked up, what is remembered of it is sound. -/
theorem Within.sound {env : Environment} (h : w.Within env hosting) : w.keys.Sound := by
  obtain ⟨-, ids, remembered⟩ := h
  rw [remembered]
  exact Key.sound_remembered hosting _

theorem Within.find_eq {env : Environment} (h : w.Within env hosting) (id : Option String) :
    w.find hosting id = (Key.resolve env hosting .empty id).1 := by
  -- what is remembered was looked up in the same environment, and that changes no later lookup
  obtain ⟨environment, ids, remembered⟩ := h
  rw [find, environment, remembered, Key.resolve_remembered]

end World

namespace Action

variable {σ α β : Type} {hosting : Hosting}

/-! ## Running -/

theorem run_get (w : World σ) : (get : Action σ (World σ)).run.run w = (.ok w, w) := rfl

/-- The second step is run only if the first one succeeds, and in the world that the first one
left. -/
theorem run_bind (a : Action σ α) (f : α → Action σ β) (w : World σ) :
    (a >>= f).run.run w = match a.run.run w with
      | (.ok x, w) => (f x).run.run w
      | (.error e, w) => (.error e, w) := by
  rw [ExceptT.run_bind, StateT.run_bind]
  show (match a.run.run w with | (r, w) => _) = _
  obtain ⟨r, v⟩ := a.run.run w
  cases r with
  | ok x => rfl
  | error e => rfl

theorem run_bind_of_ok {a : Action σ α} {w v : World σ} {x : α} (h : a.run.run w = (.ok x, v))
    (f : α → Action σ β) : (a >>= f).run.run w = (f x).run.run v := by
  rw [run_bind, h]

theorem run_bind_of_error {a : Action σ α} {w v : World σ} {e : Error}
    (h : a.run.run w = (.error e, v)) (f : α → Action σ β) :
    (a >>= f).run.run w = (.error e, v) := by
  rw [run_bind, h]

/-- What succeeds as a whole succeeds step by step. -/
theorem run_bind_eq_ok {a : Action σ α} {f : α → Action σ β} {w v : World σ} {y : β}
    (h : (a >>= f).run.run w = (.ok y, v)) :
    ∃ x u, a.run.run w = (.ok x, u) ∧ (f x).run.run u = (.ok y, v) := by
  rw [run_bind] at h
  cases started : a.run.run w with
  | mk result u =>
    rw [started] at h
    cases result with
    | ok x => exact ⟨x, u, rfl, h⟩
    | error e => cases h

/-- What is done in two steps ends with the first if that fails. -/
theorem run_bind_cases {a : Action σ α} {f : α → Action σ β} {w v : World σ}
    {answer : Except Error β} (runs : (a >>= f).run.run w = (answer, v)) :
    (∃ e, a.run.run w = (.error e, v) ∧ answer = .error e) ∨
      ∃ x u, a.run.run w = (.ok x, u) ∧ (f x).run.run u = (answer, v) := by
  rw [run_bind] at runs
  cases first : a.run.run w with
  | mk given u =>
    rw [first] at runs
    cases given with
    | error e =>
      obtain ⟨rfl, rfl⟩ := Prod.mk.inj runs
      exact .inl ⟨e, rfl, rfl⟩
    | ok x => exact .inr ⟨x, u, rfl, runs⟩

/-- What was done before a failure is not undone when the failure is handled. -/
theorem run_tryCatch (a : Action σ α) (handle : Error → Action σ α) (w : World σ) :
    (tryCatch a handle).run.run w = match a.run.run w with
      | (.ok x, w) => (.ok x, w)
      | (.error e, w) => (handle e).run.run w := by
  -- the handler of the transformer is the one that acts, not that of the monad below
  show StateT.run (ExceptT.run (ExceptT.tryCatch a handle)) w = _
  cases h : a.run.run w with
  | mk result v =>
    have started : StateT.run (m := Id) a w = (result, v) := h
    rw [ExceptT.tryCatch, ExceptT.run_mk, StateT.run_bind, started]
    cases result with
    | ok x => rfl
    | error e => rfl

theorem run_report (event : Event) (w : World σ) :
    (report event).run.run w = (.ok (), { w with log := w.log ++ [event] }) := rfl

/-- Events are logged in order. -/
theorem run_reports (events : List Event) (w : World σ) :
    (events.forM report).run.run w = (.ok (), { w with log := w.log ++ events }) := by
  induction events generalizing w with
  | nil =>
    rw [List.append_nil]
    rfl
  | cons event rest ih =>
    -- on the events: the first one is logged, and the others behind it
    show (report event >>= fun _ => rest.forM report).run.run w = _
    rw [run_bind_of_ok (run_report event w), ih, List.append_assoc]
    rfl

theorem run_draw (n : Nat) (w : World σ) :
    (draw n).run.run w = (.ok (w.entropy.peek n), { w with entropy := w.entropy.advance n }) := rfl

/-- Encrypting draws a block for the start of the chain, whether it succeeds or not. -/
theorem run_encrypt (key : List UInt8) (text : String) (w : World σ) :
    (encrypt key text).run.run w =
      ((Blob.encrypt (w.entropy.peek Cbc.blockLength) key text).mapError Error.cipher,
        { w with entropy := w.entropy.advance Cbc.blockLength }) := by
  rw [encrypt, run_bind_of_ok (run_draw Cbc.blockLength w)]
  cases Blob.encrypt (w.entropy.peek Cbc.blockLength) key text with
  | ok blob => rfl
  | error fault => rfl

theorem run_decrypt (key : List UInt8) (blob : String) (w : World σ) :
    (decrypt key blob).run.run w = ((Blob.decrypt blob key).mapError Error.cipher, w) := by
  rw [decrypt]
  cases Blob.decrypt blob key with
  | ok text => rfl
  | error fault => rfl

/-! ## Looking up keys -/

/-- Remembering a key and logging events are the only changes that a lookup makes. -/
theorem hushed_resolve (hosting : Hosting) (id : Option String) (w : World σ)
    (events : List Event) :
    w.Hushed hosting { w with
      keys := (Key.resolve w.environment hosting w.keys id).2, log := w.log ++ events } := by
  refine ⟨⟨⟨rfl, ?_, ?_⟩, rfl⟩, rfl⟩
  -- what is remembered of one id leads no other id elsewhere
  · funext other
    exact (Key.resolve_stable w.environment hosting w.keys id other).symm
  · intro sound
    exact Key.sound_resolve sound w.environment hosting id

theorem run_resolveKey_of_ok {id : Option String} {w : World σ} {key : Option Key}
    {keys : KeyCache} (h : Key.resolve w.environment hosting w.keys id = (.ok key, keys)) :
    (resolveKey hosting id).run.run w = (.ok key, { w with keys := keys }) := by
  rw [resolveKey, run_bind_of_ok (run_get w), h]
  rfl

/-- A lookup that fails is logged, but what it came to know on its way is remembered. -/
theorem run_resolveKey_of_error {id : Option String} {w : World σ} {fault : Key.Fault}
    {keys : KeyCache} (h : Key.resolve w.environment hosting w.keys id = (.error fault, keys)) :
    (resolveKey hosting id).run.run w =
      (.error fault.error, { w with keys := keys, log := w.log ++ fault.events }) := by
  rw [resolveKey, run_bind_of_ok (run_get w), h]
  exact run_bind_of_ok (run_reports fault.events { w with keys := keys }) _

/-! ## Actions told by lookups -/

/-- The answer of an action is told by where ids lead, and the action changes nothing but the log
and what is remembered of keys. -/
def Told (hosting : Hosting) (a : Action σ α) (answer : Key.Lookup → Except Error α) : Prop :=
  ∀ w : World σ, ∃ v, w.Hushed hosting v ∧ a.run.run w = (answer (w.find hosting), v)

theorem Told.pure (a : α) : Told hosting (pure a : Action σ α) fun _ => .ok a := by
  intro w
  exact ⟨w, .refl hosting w, rfl⟩

theorem Told.throw (e : Error) : Told hosting (throw e : Action σ α) fun _ => .error e := by
  intro w
  exact ⟨w, .refl hosting w, rfl⟩

/-- Actions that are told by lookups can be done one after another. -/
theorem Told.bind {a : Action σ α} {f : α → Action σ β} {answer : Key.Lookup → Except Error α}
    {next : α → Key.Lookup → Except Error β} (ha : Told hosting a answer)
    (hf : ∀ x, Told hosting (f x) (next x)) :
    Told hosting (a >>= f) fun find => answer find >>= fun x => next x find := by
  intro w
  obtain ⟨v, first, runs⟩ := ha w
  show ∃ u, w.Hushed hosting u ∧ (a >>= f).run.run w =
    (answer (w.find hosting) >>= fun x => next x (w.find hosting), u)
  cases given : answer (w.find hosting) with
  | error e =>
    rw [given] at runs
    exact ⟨v, first, run_bind_of_error runs f⟩
  | ok x =>
    rw [given] at runs
    obtain ⟨u, second, continues⟩ := hf x v
    -- what follows is told by the same lookups, since ids lead where they led
    refine ⟨u, first.trans second, ?_⟩
    rw [run_bind_of_ok runs, continues, first.find]
    rfl

/-- Looking up a key gives what is found. -/
theorem told_resolveKey (id : Option String) :
    Told hosting (resolveKey hosting id : Action σ (Option Key))
      fun find => (find id).mapError Key.Fault.error := by
  intro w
  have hushed := hushed_resolve hosting id w
  cases found : Key.resolve w.environment hosting w.keys id with
  | mk answer keys =>
    rw [found] at hushed
    have answered : w.find hosting id = answer := by rw [World.find, found]
    show ∃ v, w.Hushed hosting v ∧ (resolveKey hosting id).run.run w =
      ((w.find hosting id).mapError Key.Fault.error, v)
    rw [answered]
    cases answer with
    | ok key =>
      refine ⟨_, hushed [], ?_⟩
      rw [run_resolveKey_of_ok found, List.append_nil]
      rfl
    | error fault =>
      refine ⟨_, hushed fault.events, ?_⟩
      exact run_resolveKey_of_error found

/-! ## Respecting alikeness -/

/-- Alike worlds are answered and changed alike. -/
def Respects (hosting : Hosting) (a : Action σ α) : Prop :=
  ∀ w v : World σ, w.Alike hosting v →
    (a.run.run w).1 = (a.run.run v).1 ∧ (a.run.run w).2.Alike hosting (a.run.run v).2

theorem Respects.pure (a : α) : Respects hosting (pure a : Action σ α) := by
  intro w v alike
  exact ⟨rfl, alike⟩

theorem Respects.throw (e : Error) : Respects hosting (throw e : Action σ α) := by
  intro w v alike
  exact ⟨rfl, alike⟩

theorem Respects.bind {a : Action σ α} {f : α → Action σ β} (ha : Respects hosting a)
    (hf : ∀ x, Respects hosting (f x)) : Respects hosting (a >>= f) := by
  intro w v alike
  have step := ha w v alike
  rw [run_bind, run_bind]
  cases left : a.run.run w with
  | mk answer w' =>
    cases right : a.run.run v with
    | mk other v' =>
      rw [left, right] at step
      -- the second action is the same in both, for the first one gave the same answer
      obtain ⟨rfl, alike⟩ := step
      cases answer with
      | ok x => exact hf x w' v' alike
      | error e => exact ⟨rfl, alike⟩

/-- Alike worlds fail alike, and so they are handled alike. -/
theorem Respects.tryCatch {a : Action σ α} {handle : Error → Action σ α} (ha : Respects hosting a)
    (hh : ∀ e, Respects hosting (handle e)) : Respects hosting (tryCatch a handle) := by
  intro w v alike
  have step := ha w v alike
  rw [run_tryCatch, run_tryCatch]
  cases left : a.run.run w with
  | mk answer w' =>
    cases right : a.run.run v with
    | mk other v' =>
      rw [left, right] at step
      obtain ⟨rfl, alike⟩ := step
      cases answer with
      | ok x => exact ⟨rfl, alike⟩
      | error e => exact hh e w' v' alike

theorem Respects.report (event : Event) : Respects hosting (report event : Action σ Unit) := by
  intro w v alike
  exact ⟨rfl, alike.environment, alike.entropy, alike.volume, alike.find⟩

theorem Told.respects {a : Action σ α} {answer : Key.Lookup → Except Error α}
    (h : Told hosting a answer) : Respects hosting a := by
  intro w v alike
  obtain ⟨w', left, runs⟩ := h w
  obtain ⟨v', right, runs'⟩ := h v
  -- both answers are told by the same lookups
  rw [runs, runs', alike.find]
  exact ⟨rfl, left.alike.symm.trans (alike.trans right.alike)⟩

/-! ## Orderly actions -/

/-- An action that respects alikeness and touches no file. -/
structure Orderly (hosting : Hosting) (a : Action σ α) : Prop where
  respects : Respects hosting a
  quiet : ∀ w : World σ, w.Quiet hosting (a.run.run w).2

/-- An orderly action touches no file on any of its runs. -/
theorem Orderly.quiet_of_run {a : Action σ α} (h : Orderly hosting a) {w v : World σ}
    {answer : Except Error α} (runs : a.run.run w = (answer, v)) : w.Quiet hosting v := by
  have moved := h.quiet w
  rw [runs] at moved
  exact moved

theorem Told.orderly {a : Action σ α} {answer : Key.Lookup → Except Error α}
    (h : Told hosting a answer) : Orderly hosting a := by
  refine ⟨h.respects, ?_⟩
  intro w
  obtain ⟨v, hushed, runs⟩ := h w
  rw [runs]
  exact hushed.toQuiet

theorem Orderly.bind {a : Action σ α} {f : α → Action σ β} (ha : Orderly hosting a)
    (hf : ∀ x, Orderly hosting (f x)) : Orderly hosting (a >>= f) := by
  refine ⟨ha.respects.bind fun x => (hf x).respects, ?_⟩
  intro w
  have first := ha.quiet w
  rw [run_bind]
  cases started : a.run.run w with
  | mk answer w' =>
    rw [started] at first
    cases answer with
    | ok x => exact first.trans ((hf x).quiet w')
    | error e => exact first

/-- Drawing moves the entropy of alike worlds alike. -/
theorem Orderly.draw (n : Nat) : Orderly hosting (draw n : Action σ (List UInt8)) := by
  constructor
  · intro w v alike
    rw [run_draw, run_draw, alike.entropy]
    exact ⟨rfl, alike.environment, rfl, alike.volume, alike.find⟩
  · intro w
    exact ⟨⟨rfl, rfl, id⟩, rfl⟩

/-- Encrypting is a draw, and the rest depends on the key and the text alone. -/
theorem Orderly.encrypt (key : List UInt8) (text : String) :
    Orderly hosting (encrypt key text : Action σ String) := by
  refine (Orderly.draw Cbc.blockLength).bind fun iv => ?_
  cases Blob.encrypt iv key text with
  | ok blob => exact (Told.pure blob).orderly
  | error fault => exact (Told.throw _).orderly

end Action

end Lockbox
