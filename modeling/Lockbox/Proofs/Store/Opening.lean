import Lockbox.Proofs.World
import Lockbox.Store.Load

/-!
# Opening a document

What happens when the document of a scope is opened, case by case (`Opening`): it cannot be read, it
is current, it is brought up to date, or it is missing and then made, if keys can be generated and
the file can be written. Of a volume, only what is read at the path of the document matters, and
only a write to that path is done.
-/

namespace Lockbox.Load

variable {σ α : Type} [Volume σ] {hosting : Hosting} {form : Form σ α} {p : Path}

/-! ## Single steps -/

/-- The text of a file of a volume, if there is a file. -/
def textAt (volume : σ) (p : Path) : Except Error (Option String) :=
  match Volume.read volume p with
  | .ok bytes =>
    match Utf8.decode bytes with
    | some text => .ok (some text)
    | none => .error (.file p .notText)
  | .error .notFound => .ok none
  | .error fault => .error (.file p fault)

/-- A file has a text if its bytes are those of the text. -/
theorem textAt_eq_some_iff {volume : σ} {text : String} :
    textAt volume p = .ok (some text) ↔ Volume.read volume p = .ok (Utf8.encode text) := by
  rw [textAt]
  cases Volume.read volume p with
  | error fault =>
    constructor <;> intro h
    · cases fault <;> cases h
    · cases h
  | ok bytes =>
    rw [Except.ok.injEq, ← Utf8.decode_eq_some_iff]
    dsimp only
    cases Utf8.decode bytes with
    | none => constructor <;> intro h <;> cases h
    | some other => rw [Except.ok.injEq]

/-- Only a file that is not there has none; all else is a failure. -/
theorem textAt_eq_none_iff {volume : σ} :
    textAt volume p = .ok none ↔ Volume.read volume p = .error .notFound := by
  rw [textAt]
  cases Volume.read volume p with
  | error fault => cases fault <;> simp
  | ok bytes =>
    dsimp only
    cases Utf8.decode bytes with
    | none => simp
    | some text => simp

/-- The surroundings after a file was written and something was reported. -/
def stored (p : Path) (text : String) (log : List Event) (w : World σ) : World σ :=
  { w with volume := (Volume.write p (Utf8.encode text) w.volume).2, log := log }

theorem run_readIfThere (p : Path) (w : World σ) :
    (readIfThere p).run.run w = (textAt w.volume p, w) := by
  rw [readIfThere, Action.run_bind_of_ok (Action.run_get w), textAt]
  cases Volume.read w.volume p with
  | ok bytes =>
    dsimp only
    cases Utf8.decode bytes with
    | some text => rfl
    | none => rfl
  | error fault => cases fault <;> rfl

theorem run_liftFormat {τ : Type} (a : α) (w : World τ) :
    (liftFormat (.ok a)).run.run w = (.ok a, w) := rfl

theorem run_writeText (p : Path) (text : String) (w : World σ) :
    (writeText p text).run.run w =
      ((Volume.write p (Utf8.encode text) w.volume).1.mapError (Error.file p),
        stored p text w.log w) := by
  rw [writeText, Action.run_bind_of_ok (Action.run_get w), stored]
  cases Volume.write p (Utf8.encode text) w.volume with
  | mk done volume =>
    cases done with
    | ok _ => rfl
    | error fault => rfl

/-- Bringing a file up to date never fails, and writes the file once. -/
theorem run_upgrade (p : Path) (version : Version) (text : String) (w : World σ) :
    ∃ log, (upgrade p version (.ok text)).run.run w = (.ok (), stored p text log w) := by
  rw [upgrade, Action.run_tryCatch]
  rw [Action.run_bind_of_ok (run_liftFormat text w)]
  have runs := run_writeText p text w
  cases done : (Volume.write p (Utf8.encode text) w.volume).1 with
  | ok _ =>
    rw [done] at runs
    rw [Action.run_bind_of_ok runs]
    exact ⟨_, rfl⟩
  | error fault =>
    -- a write that fails is reported and passed over
    rw [done] at runs
    rw [Action.run_bind_of_error runs]
    exact ⟨_, rfl⟩

/-! ## Alike surroundings -/

theorem respects_liftFormat {τ : Type} (a : Except FormatFault α) :
    Action.Respects hosting (liftFormat a : Action τ α) := by
  cases a with
  | ok a => exact .pure a
  | error fault => exact .throw (.format fault)

theorem respects_readIfThere (p : Path) :
    Action.Respects hosting (readIfThere p : Action σ (Option String)) := by
  intro w v alike
  rw [run_readIfThere, run_readIfThere, alike.volume]
  exact ⟨rfl, alike⟩

theorem respects_writeText (p : Path) (text : String) :
    Action.Respects hosting (writeText p text : Action σ Unit) := by
  intro w v alike
  rw [run_writeText, run_writeText, stored, stored, alike.volume]
  exact ⟨rfl, alike.environment, alike.entropy, rfl, alike.find⟩

theorem respects_upgrade (p : Path) (version : Version) (text : Except FormatFault String) :
    Action.Respects hosting (upgrade p version text : Action σ Unit) := by
  apply Action.Respects.tryCatch
  · refine (respects_liftFormat text).bind fun text => ?_
    exact (respects_writeText p text).bind fun _ => .report _
  · exact fun e => .report _

/-- Opening a document looks at the volume and looks up keys. -/
theorem respects_document (generates : Action.Respects hosting form.generate) (p : Path) :
    Action.Respects hosting (document form p) := by
  refine (respects_readIfThere p).bind fun there => ?_
  -- alike worlds have the same text at the path
  cases there with
  | some text =>
    refine (respects_liftFormat (form.read text)).bind fun d => ?_
    dsimp only
    split
    · exact (respects_upgrade p _ _).bind fun _ => .pure _
    · exact .pure _
  | none =>
    refine generates.bind fun secrets => ?_
    refine (respects_liftFormat (form.write secrets)).bind fun text => ?_
    exact (respects_writeText p text).bind fun _ => (Action.Respects.report _).bind fun _ => .pure _

/-! ## The whole -/

/-- How opening a document can go, from the given surroundings: what it answers and leaves. -/
inductive Opening (form : Form σ α) (p : Path) (w : World σ) : Except Error α → World σ → Prop
  /-- The file cannot be read, or holds no document. -/
  | unreadable (e : Error) : Opening form p w (.error e) w
  | current {text : String} {d : Document.Decoded α} (found : textAt w.volume p = .ok (some text))
    (read : form.read text = .ok d) (fresh : d.isOutdated = false) :
    Opening form p w (.ok d.secrets) w
  /-- The file is written once, which may fail. -/
  | outdated {text rewritten : String} {d : Document.Decoded α} {log : List Event}
    (found : textAt w.volume p = .ok (some text)) (read : form.read text = .ok d)
    (old : d.isOutdated = true) (rewrites : form.write d.secrets = .ok rewritten) :
    Opening form p w (.ok d.secrets) (stored p rewritten log w)
  /-- There is no file, and no keys can be generated. -/
  | barren {e : Error} {v : World σ} (missing : textAt w.volume p = .ok none)
    (fails : form.generate.run.run w = (.error e, v)) : Opening form p w (.error e) v
  /-- There is no file, and none can be written. -/
  | unwritable {text : String} {secrets : α} {v : World σ} {fault : OsFault}
    (missing : textAt w.volume p = .ok none)
    (generates : form.generate.run.run w = (.ok secrets, v))
    (writes : form.write secrets = .ok text)
    (fails : (Volume.write p (Utf8.encode text) v.volume).1 = .error fault) :
    Opening form p w (.error (.file p fault)) (stored p text v.log v)
  | made {text : String} {secrets : α} {v : World σ} {log : List Event}
    (missing : textAt w.volume p = .ok none)
    (generates : form.generate.run.run w = (.ok secrets, v))
    (writes : form.write secrets = .ok text)
    (done : (Volume.write p (Utf8.encode text) v.volume).1 = .ok ()) :
    Opening form p w (.ok secrets) (stored p text log v)

/-- A current document is only read. -/
theorem run_document_of_current {text : String} {d : Document.Decoded α} {w : World σ}
    (found : textAt w.volume p = .ok (some text)) (read : form.read text = .ok d)
    (fresh : d.isOutdated = false) : (document form p).run.run w = (.ok d.secrets, w) := by
  rw [document, Action.run_bind_of_ok ((run_readIfThere p w).trans (by rw [found]))]
  dsimp only
  rw [read, Action.run_bind_of_ok (run_liftFormat d w), fresh]
  rfl

/-- An outdated document gives its secrets, whether or not it can be rewritten. -/
theorem run_document_of_outdated {text rewritten : String} {d : Document.Decoded α} {w : World σ}
    (found : textAt w.volume p = .ok (some text)) (read : form.read text = .ok d)
    (old : d.isOutdated = true) (rewrites : form.write d.secrets = .ok rewritten) :
    ∃ log, (document form p).run.run w = (.ok d.secrets, stored p rewritten log w) := by
  obtain ⟨log, runs⟩ := run_upgrade p d.version rewritten w
  refine ⟨log, ?_⟩
  rw [document, Action.run_bind_of_ok ((run_readIfThere p w).trans (by rw [found]))]
  dsimp only
  rw [read, Action.run_bind_of_ok (run_liftFormat d w), old, rewrites]
  exact Action.run_bind_of_ok runs _

/-- Where there is no file, keys are generated and written. -/
theorem opening_of_missing (writes : ∀ secrets, ∃ text, form.write secrets = .ok text)
    {w : World σ} (missing : textAt w.volume p = .ok none) :
    Opening form p w ((document form p).run.run w).1 ((document form p).run.run w).2 := by
  rw [document, Action.run_bind_of_ok ((run_readIfThere p w).trans (by rw [missing]))]
  dsimp only
  cases generates : form.generate.run.run w with
  | mk answer v =>
    cases answer with
    | error e =>
      rw [Action.run_bind_of_error generates]
      exact .barren missing generates
    | ok secrets =>
      obtain ⟨text, written⟩ := writes secrets
      have runs := run_writeText p text v
      rw [Action.run_bind_of_ok generates, written, Action.run_bind_of_ok (run_liftFormat text v)]
      -- the keys were generated, and are given only if they could be written
      cases done : (Volume.write p (Utf8.encode text) v.volume).1 with
      | ok _ =>
        rw [done] at runs
        rw [Action.run_bind_of_ok runs]
        exact .made missing generates written done
      | error fault =>
        rw [done] at runs
        rw [Action.run_bind_of_error runs]
        exact .unwritable missing generates written done

/-- Every document that can be written is opened in one of these ways. -/
theorem opening (writes : ∀ secrets, ∃ text, form.write secrets = .ok text) (p : Path)
    (w : World σ) :
    Opening form p w ((document form p).run.run w).1 ((document form p).run.run w).2 := by
  have starts := run_readIfThere p w
  -- by what is at the path, then by whether it can be read, then by its age
  cases text_eq : textAt w.volume p with
  | error e =>
    rw [text_eq] at starts
    rw [document, Action.run_bind_of_error starts]
    exact .unreadable e
  | ok text =>
    cases text with
    | some text =>
      cases read : form.read text with
      | error fault =>
        rw [text_eq] at starts
        rw [document, Action.run_bind_of_ok starts]
        dsimp only
        rw [read]
        exact .unreadable (.format fault)
      | ok d =>
        cases age : d.isOutdated with
        | false =>
          rw [run_document_of_current text_eq read age]
          exact .current text_eq read age
        | true =>
          obtain ⟨rewritten, rewrites⟩ := writes d.secrets
          obtain ⟨log, runs⟩ := run_document_of_outdated text_eq read age rewrites
          rw [runs]
          exact .outdated text_eq read age rewrites
    | none => exact opening_of_missing writes text_eq

end Lockbox.Load
