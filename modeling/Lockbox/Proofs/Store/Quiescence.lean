import Lockbox.Proofs.Document.Dispatch
import Lockbox.Proofs.Store.Journey
import Lockbox.Proofs.Store.Stage
import Lockbox.Proofs.Store.Upgrade
import Lockbox.Proofs.Volume.Retentive

/-!
# Loads settle

A load that gives keys leaves a current document that gives them (`Load.Current.of_load`). Loading
such a document writes nothing and draws nothing (`Load.Current.run`), and a load of anything else
leaves it alone, even where both paths lead to one file: no load writes to a file that holds a
current document. Hence nothing that a store does on its own, and no notice of it, ever leads to
another write (`Store.loads_settle`):

    rests_turn : s.Rests c keys → next.Spares s (c.file s.path) → (s.turn next).Rests c keys
-/

namespace Lockbox

namespace Load

variable {σ α β : Type} [Volume σ] {hosting : Hosting} {form : Form σ α}
  {finish : α → Action σ β} {values : Key.Lookup → α → Except Error β} {p : Path} {w v u : World σ}
  {b : β}

/-! ## Current documents -/

/-- The file of a path holds a document that gives a value and is not outdated. -/
def Current (hosting : Hosting) (form : Form σ α) (values : Key.Lookup → α → Except Error β)
    (p : Path) (w : World σ) (b : β) : Prop :=
  ∃ text d, textAt w.volume p = .ok (some text) ∧ form.read text = .ok d ∧
    d.isOutdated = false ∧ values (w.find hosting) d.secrets = .ok b

/-- A load of a current document goes from reading to its keys. -/
theorem Current.run (reliable : Reliable hosting form finish values)
    (current : Current hosting form values p w b) :
    ∃ secrets v,
      (Stage.advance form p finish .reading).run.run w = (.ok (.inl (.resolving secrets)), w) ∧
      (opened form p finish).run.run w = (.ok b, v) ∧ w.Hushed hosting v := by
  obtain ⟨text, d, found, read, fresh, given⟩ := current
  obtain ⟨v, hushed, runs⟩ := run_opened_of_ok reliable (run_document_of_current found read fresh)
  rw [given] at runs
  refine ⟨d.secrets, v, ?_, runs, hushed⟩
  rw [Stage.advance, Action.run_bind_of_ok ((run_readIfThere p w).trans (by rw [found]))]
  dsimp only
  rw [read, Action.run_bind_of_ok (run_liftFormat d w), fresh]
  rfl

/-- A document stays current while its file reads the same and ids lead where they led. -/
theorem Current.of_textAt_eq (current : Current hosting form values p w b)
    (kept : ∀ text, textAt w.volume p = .ok (some text) → textAt v.volume p = .ok (some text))
    (find : w.find hosting = v.find hosting) : Current hosting form values p v b := by
  obtain ⟨text, d, found, read, fresh, given⟩ := current
  exact ⟨text, d, kept text found, read, fresh, find ▸ given⟩

/-! ## What a load leaves -/

variable (laws : Retentive σ)

include laws

theorem Current.of_written (reliable : Reliable hosting form finish values) {secrets : α}
    {text : Option String} {rewritten : String} (found : textAt w.volume p = .ok text)
    (rewrites : form.write secrets = .ok rewritten)
    (done : (Volume.write p (Utf8.encode rewritten) w.volume).1 = .ok ()) (log : List Event)
    (given : values (w.find hosting) secrets = .ok b) :
    Current hosting form values p (stored p rewritten log w) b := by
  have reads := laws.read_written (read_of_textAt found) done
  exact ⟨rewritten, _, textAt_eq_some_iff.2 reads, reliable.reads_of_written rewrites,
    Document.isOutdated_structured secrets, given⟩

theorem Current.of_opening (reliable : Reliable hosting form finish values) {secrets : α}
    (writable : ∀ bytes, (Volume.write p bytes w.volume).1 = .ok ())
    (opens : Opening form p w (.ok secrets) u) (given : values (u.find hosting) secrets = .ok b) :
    Current hosting form values p u b := by
  cases opens with
  | current found read fresh => exact ⟨_, _, found, read, fresh, given⟩
  | @outdated text rewritten d log found _ _ rewrites =>
    exact .of_written laws reliable found rewrites (writable _) log given
  | @made text _ v log missing generates writes done =>
    -- keys are generated without a file being touched
    rw [(reliable.orderly.quiet_of_run generates).volume] at missing
    exact .of_written laws reliable missing writes done log given

/-- A load that gives something leaves a document that is current and gives it. -/
theorem Current.of_load (reliable : Reliable hosting form finish values)
    (writable : ∀ bytes, (Volume.write p bytes w.volume).1 = .ok ())
    (h : (opened form p finish).run.run w = (.ok b, v)) : Current hosting form values p v b := by
  obtain ⟨given, u, opens, hushed, told⟩ := exists_opening_of_load reliable h
  obtain ⟨secrets, rfl, given⟩ := exists_of_bind_eq_ok told.symm
  have current := Current.of_opening laws reliable writable opens given
  exact current.of_textAt_eq (fun _ found => hushed.volume ▸ found) hushed.find

/-- Opening a document leaves another file alone, unless that is outdated too. Where both paths lead
to one file, its text is not outdated and so it is not written to. -/
theorem Opening.textAt_eq {q : Path} {text : String} {answer : Except Error α}
    (orderly : Action.Orderly hosting form.generate)
    (found : textAt w.volume q = .ok (some text))
    (fresh : ∀ d, form.read text = .ok d → d.isOutdated = false)
    (opens : Opening form p w answer u) : textAt u.volume q = .ok (some text) := by
  have reads := textAt_eq_some_iff.1 found
  -- what is missing reads otherwise, before and after keys were generated
  have made : ∀ (v : World σ) (bytes : List UInt8), w.volume = v.volume →
      textAt w.volume p = .ok none →
      textAt (Volume.write p bytes v.volume).2 q = .ok (some text) := by
    intro v bytes unchanged missing
    rw [← unchanged]
    refine textAt_eq_some_iff.2 (laws.read_apart bytes reads ?_)
    rw [textAt_eq_none_iff.1 missing]
    nofun
  cases opens with
  | unreadable => exact found
  | current => exact found
  | @outdated old rewritten d log found' read outdated _ =>
    refine textAt_eq_some_iff.2 (laws.read_apart _ reads ?_)
    rw [textAt_eq_some_iff.1 found']
    intro eq
    rw [Utf8.encode_injective (Except.ok.inj eq)] at read
    exact Bool.false_ne_true ((fresh d read).symm.trans outdated)
  | barren _ fails => exact (orderly.quiet_of_run fails).volume ▸ found
  | @unwritable _ _ v _ missing generates =>
    exact made v _ (orderly.quiet_of_run generates).volume missing
  | @made _ _ v _ missing generates =>
    exact made v _ (orderly.quiet_of_run generates).volume missing

/-- So does a load. -/
theorem textAt_of_load {q : Path} {text : String} {answer : Except Error β}
    (reliable : Reliable hosting form finish values)
    (found : textAt w.volume q = .ok (some text))
    (fresh : ∀ d, form.read text = .ok d → d.isOutdated = false)
    (h : (opened form p finish).run.run w = (answer, v)) :
    textAt v.volume q = .ok (some text) := by
  obtain ⟨given, u, opens, hushed, -⟩ := exists_opening_of_load reliable h
  rw [← hushed.volume]
  exact opens.textAt_eq laws reliable.orderly found fresh

end Load

/-- All scopes see one version in a text. -/
theorem Scope.version_eq {σ : Type} (vault : Vault) {c other : Scope} {text : String}
    {d : Document.Decoded c.Records} {d' : Document.Decoded other.Records}
    (h : (c.form vault : Load.Form σ c.Records).read text = .ok d)
    (h' : (other.form vault : Load.Form σ other.Records).read text = .ok d') :
    d.version = d'.version := by
  cases c <;> cases other <;> exact Document.version_eq_of_read h h'

namespace Store

variable {σ : Type} [Volume σ] {s t : Store σ} {c other : Scope} {keys : c.Keys}

/-! ## Scopes at rest -/

/-- The file of a scope holds a current document that gives keys, and its slot holds no others. -/
structure Rests (s : Store σ) (c : Scope) (keys : c.Keys) : Prop where
  current : Load.Current s.vault.hosting (c.form s.vault) (fun find => Scope.values find c)
    (c.file s.path) s.world keys
  slot : ∀ loaded, s.slotAt? c = some (some loaded) → loaded.value = keys

/-- What leaves the environment and the file at a path alone: all that a store does but a purge, and
changes by others after which the file reads as before. -/
def Turn.Spares (s : Store σ) (p : Path) : Turn σ → Prop
  | .environment _ => False
  | .step (.purge _) => False
  | .step (.change _ f) => Volume.read (f s.world.volume) p = Volume.read s.world.volume p
  | .step _ => True

/-- Many things happen, each of which leaves the environment and a file alone. -/
def Spares (p : Path) (s : Store σ) : List (Turn σ) → Prop
  | [] => True
  | next :: rest => next.Spares s p ∧ Spares p (s.turn next) rest

/-- An access to a scope at rest gives its keys, writes nothing and draws nothing. -/
theorem Rests.answer (rests : s.Rests c keys) {answer : Answer} (h : s.Access c answer t) :
    answer = c.answer (.ok keys) ∧ t.world.volume = s.world.volume ∧
      t.world.entropy = s.world.entropy := by
  cases h with
  | held cached _ world _ =>
    rw [rests.slot _ cached, world]
    exact ⟨rfl, rfl, rfl⟩
  | loads _ runs _ _ =>
    obtain ⟨secrets, v, -, given, hushed⟩ := rests.current.run (Scope.reliable s.vault c)
    obtain ⟨rfl, left⟩ := Prod.mk.inj (runs.symm.trans given)
    rw [left]
    exact ⟨rfl, hushed.volume.symm, hushed.entropy.symm⟩

section

variable (laws : Retentive σ)

include laws

/-- An access that gives keys, and has to load them, leaves the scope at rest. -/
theorem rests_of_access {answer : Answer} (h : s.Access c answer t)
    (empty : (s.slotAt? c).getD .empty = none)
    (writable : ∀ bytes, (Volume.write (c.file s.path) bytes s.world.volume).1 = .ok ())
    (served : answer = c.answer (.ok keys)) : t.Rests c keys := by
  cases h with
  | held cached =>
    rw [cached] at empty
    cases empty
  | loads _ runs beside left filled =>
    obtain rfl := Scope.answer_injective served
    have current := Load.Current.of_load laws (Scope.reliable s.vault c) writable runs
    rw [← beside.vault, ← beside.path] at current
    refine ⟨current, fun loaded cached => ?_⟩
    exact (Except.ok.inj (filled loaded (Option.some.inj (left.symm.trans cached)))).symm

/-- The document stays current: a load of another scope reads a text of the same version in it, and
so has no reason to write there, should both scopes have one file. -/
theorem Rests.current_of_access (rests : s.Rests c keys) {answer : Answer}
    (h : s.Access other answer t) : Load.Current t.vault.hosting (c.form t.vault)
      (fun find => Scope.values find c) (c.file t.path) t.world keys := by
  have current := rests.current
  rw [h.beside.vault, h.beside.path]
  cases h with
  | held _ _ world _ =>
    rw [world]
    exact current
  | loads _ runs _ _ =>
    obtain ⟨onward, -⟩ := Load.onward_of_load (Scope.reliable s.vault other) runs
    refine current.of_textAt_eq (fun text found => ?_) onward.find
    apply Load.textAt_of_load laws (Scope.reliable s.vault other) found ?_ runs
    intro d' read'
    obtain ⟨text', d, found', read, fresh, -⟩ := current
    obtain rfl := Option.some.inj (Except.ok.inj (found'.symm.trans found))
    rw [Document.Decoded.isOutdated, ← Scope.version_eq s.vault read read']
    exact fresh

omit laws in
/-- The slot holds no other keys: it is untouched, or filled with what a load of the document
gives. -/
theorem Rests.slot_of_access (rests : s.Rests c keys) {answer : Answer}
    (h : s.Access other answer t) {loaded : Loaded c.Keys}
    (cached : t.slotAt? c = some (some loaded)) : loaded.value = keys := by
  by_cases eq : other = c
  · subst eq
    cases h with
    | held before _ _ kept =>
      rw [kept] at cached
      cases cached
      exact rests.slot _ before
    | loads _ runs _ left filled =>
      obtain ⟨secrets, v, -, given, -⟩ := rests.current.run (Scope.reliable s.vault other)
      obtain ⟨rfl, -⟩ := Prod.mk.inj (runs.symm.trans given)
      exact (Except.ok.inj (filled loaded (Option.some.inj (left.symm.trans cached)))).symm
  · rw [h.beside.slots c (Ne.symm eq)] at cached
    exact rests.slot loaded cached

/-- An access to any scope leaves one at rest that was. -/
theorem Rests.of_access (rests : s.Rests c keys) {answer : Answer} (h : s.Access other answer t) :
    t.Rests c keys :=
  ⟨rests.current_of_access laws h, fun _ cached => rests.slot_of_access h cached⟩

/-- Nothing that leaves the environment and the file alone disturbs a scope at rest. -/
theorem rests_turn (rests : s.Rests c keys) {next : Turn σ}
    (spares : next.Spares s (c.file s.path)) :
    (s.turn next).Rests c keys := by
  cases next with
  | environment env => exact spares.elim
  | step next =>
    cases next with
    | host => exact rests.of_access laws (access_hostKeys s)
    | function name =>
      cases usable : Scope.ofFunction name with
      | ok n => exact rests.of_access laws (access_functionKeys s usable)
      | error e =>
        show (s.functionKeys name).2.Rests c keys
        rw [functionKeys_of_refused usable]
        exact rests
    | purge root => exact spares.elim
    | invalidate p =>
      obtain ⟨path, vault, -, alike⟩ := world_invalidate s p
      show (s.invalidate p).Rests c keys
      refine ⟨?_, fun loaded cached => rests.slot loaded ((shrinks_invalidate s p).slotAt? cached)⟩
      have alike := alike s.vault.hosting
      rw [path, vault]
      exact rests.current.of_textAt_eq (fun _ found => alike.volume ▸ found) alike.find
    | change n f =>
      refine ⟨?_, fun loaded cached =>
        rests.slot loaded ((slotAt?_of_eq rfl rfl c).symm.trans cached)⟩
      refine rests.current.of_textAt_eq (fun text found => ?_) rfl
      exact Load.textAt_eq_some_iff.2 (spares.trans (Load.textAt_eq_some_iff.1 found))

/-- Nor do many such things, one after another. -/
theorem rests_journey (rests : s.Rests c keys) {turns : List (Turn σ)}
    (spares : Spares (c.file s.path) s turns) : (s.journey turns).Rests c keys := by
  induction turns generalizing s with
  | nil => exact rests
  | cons next rest ih =>
    obtain ⟨first, later⟩ := spares
    rw [← (keeps_turn s next).path] at later
    exact ih (rests_turn laws rests first) later

end

/-! ## The whole -/

/-- A scope has settled: its file holds a current document, and every load and every access gives
its keys, writes no file and draws nothing. -/
structure Settles (s : Store σ) (c : Scope) (keys : c.Keys) : Prop where
  document : ∃ text d, Load.textAt s.world.volume (c.file s.path) = .ok (some text) ∧
    (c.form s.vault : Load.Form σ c.Records).read text = .ok d ∧ d.version = .current
  /-- The load goes from reading the file to reading its keys, past all that writes or draws. -/
  load : ∃ secrets w,
    (Load.Stage.advance (c.form s.vault) (c.file s.path) (c.resolve s.vault) .reading).run.run
      s.world = (.ok (.inl (.resolving secrets)), s.world) ∧
    (Load.opened (c.form s.vault) (c.file s.path) (c.resolve s.vault)).run.run s.world =
      (.ok keys, w) ∧ w.volume = s.world.volume ∧ w.entropy = s.world.entropy
  access : ∀ next : Step σ, next.Accesses c → (s.step next).1 = c.answer (.ok keys) ∧
    (s.step next).2.world.volume = s.world.volume ∧
    (s.step next).2.world.entropy = s.world.entropy

theorem Rests.settles (rests : s.Rests c keys) : s.Settles c keys := by
  constructor
  · obtain ⟨text, d, found, read, fresh, -⟩ := rests.current
    refine ⟨text, d, found, read, ?_⟩
    obtain ⟨version, secrets⟩ := d
    cases version with
    | flat => cases fresh
    | structured => rfl
  · obtain ⟨secrets, w, advances, runs, hushed⟩ := rests.current.run (Scope.reliable s.vault c)
    exact ⟨secrets, w, advances, runs, hushed.volume.symm, hushed.entropy.symm⟩
  · exact fun next accesses => rests.answer (access_step accesses)

/-- An access that loads keys and gives them leaves its scope settled, and so it stays whatever
happens that leaves the environment and its file alone: accesses to any scope, with the writes that
come of them, and notices of any file. -/
theorem loads_settle (laws : Retentive σ) {first : Step σ} {between : List (Turn σ)}
    (accesses : first.Accesses c) (empty : (s.slotAt? c).getD .empty = none)
    (writable : ∀ bytes, (Volume.write (c.file s.path) bytes s.world.volume).1 = .ok ())
    (served : (s.step first).1 = c.answer (.ok keys))
    (spares : Spares (c.file s.path) (s.step first).2 between) :
    ((s.step first).2.journey between).Settles c keys := by
  have rests := rests_of_access laws (access_step accesses) empty writable served
  have path : (s.step first).2.path = s.path := (keeps_turn s (.step first)).path
  rw [← path] at spares
  exact (rests_journey laws rests spares).settles

/-- An outdated document is brought up to date once, whatever is noticed and accessed then. -/
theorem loads_settle_flat :
    ((flatStore (flatTree Tree.fileMode)).step (.function "Foo")).1 =
        .function (.ok [("", "X")]) ∧
      (((flatStore (flatTree Tree.fileMode)).step (.function "Foo")).2.journey
        [.step (.invalidate fooFile), .step .host, .step (.function "foo"),
          .step (.invalidate hostFile)]).Settles (.function "foo") [("", "X")] := by
  have served : ((flatStore (flatTree Tree.fileMode)).step (.function "Foo")).1 =
      .function (.ok [("", "X")]) :=
    congrArg Answer.function (served_flatTree Tree.fileMode (by decide))
  have usable : Scope.ofFunction "Foo" = .ok "foo" := rfl
  refine ⟨served, loads_settle (c := .function "foo") Tree.retentive usable rfl
    (fun _ => rfl) served
    ⟨trivial, trivial, trivial, trivial, trivial⟩⟩

end Store

end Lockbox
