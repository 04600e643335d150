import Lockbox.Proofs.Scope
import Lockbox.Proofs.Store.Load
import Lockbox.Proofs.Volume.Atomic

/-!
# Loads in stages

A load goes in stages, each of which touches the surroundings once: reading the file, generating
secrets, writing them or the document in its present form, and resolving the secrets (`advance`).
Taken one after another the stages are the load:

    rest_eq : rest form p finish stage = advance form p finish stage >>= …
    rest_reading : rest form p finish .reading = opened form p finish

Others may act between two stages. What a stage has learned of the file (`Knows`) is passed on to
the next, and in the end to the value, as long as the content of the file is the same.
-/

namespace Lockbox

namespace Load

/-- How far a load is. -/
inductive Stage (α : Type) where
  | reading
  | making
  | writing (secrets : α)
  | upgrading (d : Document.Decoded α)
  | resolving (secrets : α)

namespace Stage

variable {σ α β : Type} [Volume σ] (form : Form σ α) (p : Path) (finish : α → Action σ β)

/-- Do what a stage is about, which leads to another one or to the value. -/
def advance : Stage α → Action σ (Stage α ⊕ β)
  | .reading => do
    match ← readIfThere p with
    | some text =>
      let d ← liftFormat (form.read text)
      return .inl (if d.isOutdated then .upgrading d else .resolving d.secrets)
    | none => return .inl .making
  | .making => do
    let secrets ← form.generate
    return .inl (.writing secrets)
  | .writing secrets => do
    writeText p (← liftFormat (form.write secrets))
    Action.report (form.generated secrets)
    return .inl (.resolving secrets)
  | .upgrading d => do
    upgrade p d.version (form.write d.secrets)
    return .inl (.resolving d.secrets)
  | .resolving secrets => do
    let b ← finish secrets
    return .inr b

/-- What is left to do of a load. -/
def rest : Stage α → Action σ β
  | .reading => opened form p finish
  | .making => do
    let secrets ← form.generate
    writeText p (← liftFormat (form.write secrets))
    Action.report (form.generated secrets)
    finish secrets
  | .writing secrets => do
    writeText p (← liftFormat (form.write secrets))
    Action.report (form.generated secrets)
    finish secrets
  | .upgrading d => do
    upgrade p d.version (form.write d.secrets)
    finish d.secrets
  | .resolving secrets => finish secrets

/-- At the start all of the load is left to do. -/
theorem rest_reading : rest form p finish .reading = opened form p finish := rfl

/-- The stages make up the load. -/
theorem rest_eq (stage : Stage α) :
    rest form p finish stage = advance form p finish stage >>= fun
      | .inl next => rest form p finish next
      | .inr b => pure b := by
  -- stage by stage; only reading may lead to more than one other
  cases stage with
  | reading =>
    simp only [rest, advance, opened, document, bind_assoc]
    congr 1
    funext text
    cases text with
    | none => simp [bind_assoc]
    | some text =>
      simp only [bind_assoc]
      congr 1
      funext d
      cases d.isOutdated <;> simp
  | making => simp [rest, advance]
  | writing secrets => simp [rest, advance, bind_assoc]
  | upgrading d => simp [rest, advance]
  | resolving secrets => simp [rest, advance]

/-- A bound on the stages that are left. -/
def height : Stage α → Nat
  | .reading => 4
  | .making => 3
  | .writing _ => 2
  | .upgrading _ => 2
  | .resolving _ => 1

/-- How a stage can go, from the given surroundings: what it leads to and leaves. -/
inductive Goes (w : World σ) : Stage α → Except Error (Stage α ⊕ β) → World σ → Prop
  | unreadable (e : Error) : Goes w .reading (.error e) w
  | missing (absent : textAt w.volume p = .ok none) : Goes w .reading (.ok (.inl .making)) w
  | current {text : String} {d : Document.Decoded α} (found : textAt w.volume p = .ok (some text))
    (read : form.read text = .ok d) : Goes w .reading (.ok (.inl (.resolving d.secrets))) w
  | outdated {text : String} {d : Document.Decoded α} (found : textAt w.volume p = .ok (some text))
    (read : form.read text = .ok d) : Goes w .reading (.ok (.inl (.upgrading d))) w
  | barren {e : Error} {v : World σ} (fails : form.generate.run.run w = (.error e, v)) :
    Goes w .making (.error e) v
  | made {secrets : α} {v : World σ} (generates : form.generate.run.run w = (.ok secrets, v)) :
    Goes w .making (.ok (.inl (.writing secrets))) v
  | unwritable {secrets : α} {text : String} {fault : OsFault}
    (writes : form.write secrets = .ok text)
    (fails : (Volume.write p (Utf8.encode text) w.volume).1 = .error fault) :
    Goes w (.writing secrets) (.error (.file p fault)) (stored p text w.log w)
  | written {secrets : α} {text : String} {log : List Event}
    (writes : form.write secrets = .ok text)
    (done : (Volume.write p (Utf8.encode text) w.volume).1 = .ok ()) :
    Goes w (.writing secrets) (.ok (.inl (.resolving secrets))) (stored p text log w)
  /-- Whether the file could be written makes no difference here. -/
  | upgraded {d : Document.Decoded α} {text : String} {log : List Event}
    (writes : form.write d.secrets = .ok text) :
    Goes w (.upgrading d) (.ok (.inl (.resolving d.secrets))) (stored p text log w)
  | unresolved {secrets : α} {e : Error} {v : World σ}
    (fails : (finish secrets).run.run w = (.error e, v)) : Goes w (.resolving secrets) (.error e) v
  | resolved {secrets : α} {b : β} {v : World σ}
    (finishes : (finish secrets).run.run w = (.ok b, v)) :
    Goes w (.resolving secrets) (.ok (.inr b)) v

variable {form p finish}

theorem Goes.height_lt {stage next : Stage α} {w v : World σ}
    (h : Goes form p finish w stage (.ok (.inl next)) v) : next.height < stage.height := by
  cases h <;> simp [height]

/-- Reading leads on by what is at the path. -/
theorem goes_reading (w : World σ) :
    Goes form p finish w .reading ((advance form p finish .reading).run.run w).1
      ((advance form p finish .reading).run.run w).2 := by
  have reads := run_readIfThere p w
  cases text_eq : textAt w.volume p with
  | error e =>
    rw [text_eq] at reads
    rw [advance, Action.run_bind_of_error reads]
    exact .unreadable e
  | ok text =>
    rw [text_eq] at reads
    rw [advance, Action.run_bind_of_ok reads]
    cases text with
    | none => exact .missing text_eq
    | some text =>
      dsimp only
      cases read : form.read text with
      | error fault => exact .unreadable (.format fault)
      | ok d =>
        rw [Action.run_bind_of_ok (run_liftFormat d w)]
        cases d.isOutdated with
        | true => exact .outdated text_eq read
        | false => exact .current text_eq read

/-- Making secrets leads to writing them. -/
theorem goes_making (w : World σ) :
    Goes form p finish w .making ((advance form p finish .making).run.run w).1
      ((advance form p finish .making).run.run w).2 := by
  cases generates : form.generate.run.run w with
  | mk answer v =>
    cases answer with
    | error e =>
      rw [advance, Action.run_bind_of_error generates]
      exact .barren generates
    | ok secrets =>
      rw [advance, Action.run_bind_of_ok generates]
      exact .made generates

/-- Writing leads to resolving, or fails. -/
theorem goes_writing {secrets : α} {text : String} (writes : form.write secrets = .ok text)
    (w : World σ) :
    Goes form p finish w (.writing secrets) ((advance form p finish (.writing secrets)).run.run w).1
      ((advance form p finish (.writing secrets)).run.run w).2 := by
  have runs := run_writeText p text w
  rw [advance, writes, Action.run_bind_of_ok (run_liftFormat text w)]
  cases done : (Volume.write p (Utf8.encode text) w.volume).1 with
  | ok _ =>
    rw [done] at runs
    rw [Action.run_bind_of_ok runs]
    exact .written writes done
  | error fault =>
    rw [done] at runs
    rw [Action.run_bind_of_error runs]
    exact .unwritable writes done

theorem goes_upgrading {d : Document.Decoded α} {text : String}
    (writes : form.write d.secrets = .ok text) (w : World σ) :
    Goes form p finish w (.upgrading d) ((advance form p finish (.upgrading d)).run.run w).1
      ((advance form p finish (.upgrading d)).run.run w).2 := by
  obtain ⟨log, runs⟩ := run_upgrade p d.version text w
  rw [advance, writes, Action.run_bind_of_ok runs]
  exact .upgraded writes

/-- Resolving gives the value, or fails. -/
theorem goes_resolving (secrets : α) (w : World σ) :
    Goes form p finish w (.resolving secrets)
      ((advance form p finish (.resolving secrets)).run.run w).1
      ((advance form p finish (.resolving secrets)).run.run w).2 := by
  cases finishes : (finish secrets).run.run w with
  | mk answer v =>
    cases answer with
    | error e =>
      rw [advance, Action.run_bind_of_error finishes]
      exact .unresolved finishes
    | ok b =>
      rw [advance, Action.run_bind_of_ok finishes]
      exact .resolved finishes

/-- A stage goes in one of these ways, if all secrets can be written. -/
theorem goes_advance {stage : Stage α} {w v : World σ} {answer : Except Error (Stage α ⊕ β)}
    (writes : ∀ secrets, ∃ text, form.write secrets = .ok text)
    (h : (advance form p finish stage).run.run w = (answer, v)) :
    Goes form p finish w stage answer v := by
  have goes : Goes form p finish w stage ((advance form p finish stage).run.run w).1
      ((advance form p finish stage).run.run w).2 := by
    cases stage with
    | reading => exact goes_reading w
    | making => exact goes_making w
    | writing secrets =>
      obtain ⟨text, written⟩ := writes secrets
      exact goes_writing written w
    | upgrading d =>
      obtain ⟨text, written⟩ := writes d.secrets
      exact goes_upgrading written w
    | resolving secrets => exact goes_resolving secrets w
  rw [h] at goes
  exact goes

variable (form p)

/-- Whether a text, if there is one, can be written at present. -/
def takes (p : Path) (volume : σ) (text : Except FormatFault String) : Bool :=
  match text with
  | .ok text =>
    match (Volume.write p (Utf8.encode text) volume).1 with
    | .ok _ => true
    | .error _ => false
  | .error _ => false

/-- Whether a stage replaces its file at present. -/
def writes (volume : σ) : Stage α → Bool
  | .writing secrets => takes p volume (form.write secrets)
  | .upgrading d => takes p volume (form.write d.secrets)
  | _ => false

end Stage

/-! ## What a stage knows -/

section

variable {σ α β : Type} [Volume σ] {dir : Path} (atomic : Atomic σ dir) (form : Form σ α)
  (finish : α → Action σ β) (n : FileName)

/-- The file of a name holds a document with some secrets. -/
def Holds (v : σ) (secrets : α) : Prop :=
  ∃ bytes text d, atomic.content v n = some bytes ∧ Utf8.decode bytes = some text ∧
    form.read text = .ok d ∧ d.secrets = secrets

/-- The file of a name holds a document that gives a value. -/
def Shows (w : World σ) (b : β) : Prop :=
  ∃ secrets u, Holds atomic form n w.volume secrets ∧ (finish secrets).run.run w = (.ok b, u)

/-- The secrets that a stage has in hand, if it has not made them itself, are those in the file. -/
def Stage.Knows (v : σ) : Stage α → Prop
  | .upgrading d => Holds atomic form n v d.secrets
  | .resolving secrets => Holds atomic form n v secrets
  | _ => True

/-- What a stage leads to is in keeping with the file. -/
def Stage.Leads (w : World σ) : Except Error (Stage α ⊕ β) → Prop
  | .ok (.inl next) => next.Knows atomic form n w.volume
  | .ok (.inr b) => Shows atomic form finish n w b
  | .error _ => True

end

/-- Where ids lead tells whether secrets resolve to a value. -/
theorem exists_run_iff {σ α β : Type} {hosting : Hosting} {form : Form σ α}
    {finish : α → Action σ β} {values : Key.Lookup → α → Except Error β} {w : World σ} {secrets : α}
    {b : β} (reliable : Reliable hosting form finish values) :
    (∃ u, (finish secrets).run.run w = (.ok b, u)) ↔ values (w.find hosting) secrets = .ok b := by
  obtain ⟨v, -, runs⟩ : ∃ v, w.Hushed hosting v ∧
      (finish secrets).run.run w = (values (w.find hosting) secrets, v) :=
    reliable.finishes secrets w
  rw [runs]
  constructor
  · rintro ⟨u, eq⟩
    exact congrArg Prod.fst eq
  · intro given
    exact ⟨v, by rw [given]⟩

variable {σ α β : Type} [Volume σ] {dir : Path} {atomic : Atomic σ dir} {hosting : Hosting}
  {form : Form σ α} {finish : α → Action σ β} {values : Key.Lookup → α → Except Error β}
  {n : FileName} {w v : World σ} {secrets : α} {stage : Stage α}

theorem Holds.of_content_eq {v u : σ} (h : Holds atomic form n v secrets)
    (content : atomic.content u n = atomic.content v n) : Holds atomic form n u secrets := by
  obtain ⟨bytes, text, d, stored, decoded, read, eq⟩ := h
  exact ⟨bytes, text, d, content.trans stored, decoded, read, eq⟩

theorem content_of_textAt {v : σ} {text : String} (fit : atomic.Fit v) (proper : n.IsProper)
    (found : textAt v (dir.join n) = .ok (some text)) :
    ∃ bytes, atomic.content v n = some bytes ∧ Utf8.decode bytes = some text := by
  unfold textAt at found
  split at found
  · next bytes read =>
    split at found
    · next decoded =>
      cases found
      exact ⟨bytes, atomic.content_of_read fit proper read, decoded⟩
    · cases found
  · cases found
  · cases found

/-- A value is shown as long as the file has its content and ids lead where they led. -/
theorem Shows.of_content_eq (reliable : Reliable hosting form finish values) {b : β}
    (h : Shows atomic form finish n w b)
    (content : atomic.content v.volume n = atomic.content w.volume n)
    (find : w.find hosting = v.find hosting) : Shows atomic form finish n v b := by
  obtain ⟨secrets, u, holds, runs⟩ := h
  have given := (exists_run_iff reliable).1 ⟨u, runs⟩
  rw [find] at given
  obtain ⟨u', runs'⟩ := (exists_run_iff reliable).2 given
  exact ⟨secrets, u', holds.of_content_eq content, runs'⟩

namespace Stage

theorem Knows.of_content_eq {v u : σ} (h : stage.Knows atomic form n v)
    (content : atomic.content u n = atomic.content v n) : stage.Knows atomic form n u := by
  cases stage with
  | upgrading d => exact Holds.of_content_eq h content
  | resolving secrets => exact Holds.of_content_eq h content
  | _ => trivial

/-! ## What a stage does -/

variable (atomic n) in
/-- What one stage does: ids lead where they led, and no other file is touched. If its own file was
not replaced, then it has its content, and what the stage knew is passed on. -/
structure Step (hosting : Hosting) (form : Form σ α) (finish : α → Action σ β) (stage : Stage α)
    (w : World σ) (answer : Except Error (Stage α ⊕ β)) (v : World σ) : Prop where
  onward : w.Onward hosting v
  spares : atomic.Spares n w.volume v.volume
  retains : stage.writes form (dir.join n) w.volume = false → atomic.Retains w.volume v.volume
  leads : stage.writes form (dir.join n) w.volume = false → stage.Knows atomic form n w.volume →
    Leads atomic form finish n v answer

/-- A stage that touches no file. -/
theorem Step.of_quiet (fit : atomic.Fit w.volume) (quiet : w.Quiet hosting v)
    {answer : Except Error (Stage α ⊕ β)}
    (leads : stage.Knows atomic form n w.volume → Leads atomic form finish n v answer) :
    Step atomic n hosting form finish stage w answer v := by
  refine ⟨quiet.toOnward, ?_, fun _ => ?_, fun _ => leads⟩
  · rw [← quiet.volume]
    exact ⟨fit, fun _ _ _ => rfl⟩
  · rw [← quiet.volume]
    exact .refl fit

/-- A write, told by whether the file was replaced. -/
theorem step_of_write (fit : atomic.Fit w.volume) (proper : n.IsProper) {text : String}
    {log : List Event} {answer : Except Error (Stage α ⊕ β)}
    (writes : stage.writes form (dir.join n) w.volume =
      takes (dir.join n) w.volume (.ok text))
    (leads : ∀ fault, (Volume.write (dir.join n) (Utf8.encode text) w.volume).1 = .error fault →
      stage.Knows atomic form n (stored (dir.join n) text log w).volume →
      Leads atomic form finish n (stored (dir.join n) text log w) answer) :
    Step atomic n hosting form finish stage w answer (stored (dir.join n) text log w) := by
  have failed : stage.writes form (dir.join n) w.volume = false →
      ∃ fault, (Volume.write (dir.join n) (Utf8.encode text) w.volume).1 = .error fault := by
    rw [writes, takes]
    cases (Volume.write (dir.join n) (Utf8.encode text) w.volume).1 with
    | ok _ => nofun
    | error fault => exact fun _ => ⟨fault, rfl⟩
  refine ⟨⟨rfl, rfl, id⟩, Atomic.spares_write fit proper _, ?_, ?_⟩
  · intro unwritten
    obtain ⟨fault, fails⟩ := failed unwritten
    exact Atomic.retains_of_write_failed fit proper fails
  · intro unwritten knows
    obtain ⟨fault, fails⟩ := failed unwritten
    exact leads fault fails (knows.of_content_eq (atomic.write_failed fit proper fails))

/-- Every stage does one thing to one file, or nothing. -/
theorem step_of_goes (reliable : Reliable hosting form finish values) (fit : atomic.Fit w.volume)
    (proper : n.IsProper) {answer : Except Error (Stage α ⊕ β)}
    (goes : Goes form (dir.join n) finish w stage answer v) :
    Step atomic n hosting form finish stage w answer v := by
  -- by how the stage goes: three of the ways write, and all others are quiet
  cases goes with
  | unreadable e => exact .of_quiet fit (.refl hosting w) fun _ => trivial
  | missing absent => exact .of_quiet fit (.refl hosting w) fun _ => trivial
  | current found read =>
    obtain ⟨bytes, content, decoded⟩ := content_of_textAt fit proper found
    exact .of_quiet fit (.refl hosting w) fun _ => ⟨bytes, _, _, content, decoded, read, rfl⟩
  | outdated found read =>
    obtain ⟨bytes, content, decoded⟩ := content_of_textAt fit proper found
    exact .of_quiet fit (.refl hosting w) fun _ => ⟨bytes, _, _, content, decoded, read, rfl⟩
  | barren fails => exact .of_quiet fit (reliable.orderly.quiet_of_run fails) fun _ => trivial
  | made generates => exact .of_quiet fit (reliable.orderly.quiet_of_run generates) fun _ => trivial
  | unwritable writes _ =>
    exact step_of_write fit proper (by rw [Stage.writes, writes]) fun _ _ _ => trivial
  | written writes done =>
    refine step_of_write fit proper (by rw [Stage.writes, writes]) ?_
    intro fault fails
    rw [done] at fails
    cases fails
  | upgraded writes =>
    -- where the write failed, the file still holds what was read of it
    exact step_of_write fit proper (by rw [Stage.writes, writes]) fun _ _ knows => knows
  | @unresolved secrets e v fails =>
    have quiet := (reliable.finishes secrets).orderly.quiet_of_run fails
    exact .of_quiet fit quiet fun _ => trivial
  | @resolved secrets b v finishes =>
    have quiet := (reliable.finishes secrets).orderly.quiet_of_run finishes
    refine .of_quiet fit quiet fun holds => ?_
    -- the value is what the secrets give, afterwards as before
    have given := (exists_run_iff reliable).1 ⟨v, finishes⟩
    rw [quiet.find] at given
    obtain ⟨u, again⟩ := (exists_run_iff reliable).2 given
    refine ⟨secrets, u, ?_, again⟩
    show Holds atomic form n v.volume secrets
    rw [← quiet.volume]
    exact holds

end Stage

end Load

end Lockbox
