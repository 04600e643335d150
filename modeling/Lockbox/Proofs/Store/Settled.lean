import Lockbox.Proofs.Scope
import Lockbox.Proofs.Store.Load
import Lockbox.Proofs.Volume.Steady

/-!
# Settled values

A value is settled if the file of its scope holds a document that gives it, and if that document is
outdated, then it cannot be brought up to date at present. A load gives a value that is settled
afterwards (`settled_of_load`); a load of what is settled gives it again and changes nothing but the
log and what is remembered of keys (`run_of_settled`); and a value stays settled while the file
stays in its state and ids lead where they led (`Settled.of_state_eq`).
-/

namespace Lockbox.Load

variable {σ α β : Type} [Volume σ] {hosting : Hosting} {form : Form σ α}
  {finish : α → Action σ β} {values : Key.Lookup → α → Except Error β} {p : Path}

/-- The document at a path gives a value, and there is nothing to do about its version. -/
def Settled (hosting : Hosting) (form : Form σ α) (values : Key.Lookup → α → Except Error β)
    (p : Path) (w : World σ) (b : β) : Prop :=
  ∃ text d, textAt w.volume p = .ok (some text) ∧ form.read text = .ok d ∧
    values (w.find hosting) d.secrets = .ok b ∧
    (d.isOutdated = true → ∃ rewritten fault, form.write d.secrets = .ok rewritten ∧
      (Volume.write p (Utf8.encode rewritten) w.volume).1 = .error fault ∧
      (Volume.write p (Utf8.encode rewritten) w.volume).2 = w.volume)

/-- Loading what is settled gives it again, and all is as before. -/
theorem run_of_settled (reliable : Reliable hosting form finish values) {w : World σ} {b : β}
    (settled : Settled hosting form values p w b) :
    ∃ v, w.Hushed hosting v ∧ (opened form p finish).run.run w = (.ok b, v) := by
  obtain ⟨text, d, found, read, given, upgrade⟩ := settled
  cases age : d.isOutdated with
  | false =>
    obtain ⟨v, hushed, runs⟩ :=
      run_opened_of_ok reliable (run_document_of_current found read age)
    exact ⟨v, hushed, by rw [runs, given]⟩
  | true =>
    obtain ⟨rewritten, fault, rewrites, -, eq⟩ := upgrade age
    obtain ⟨log, opens⟩ := run_document_of_outdated found read age rewrites
    obtain ⟨v, hushed, runs⟩ := run_opened_of_ok reliable opens
    -- the write fails once more, and the file is as it was
    have quiet : w.Hushed hosting (stored p rewritten log w) :=
      ⟨⟨⟨rfl, rfl, id⟩, eq.symm⟩, rfl⟩
    refine ⟨v, quiet.trans hushed, ?_⟩
    rw [runs, ← quiet.find, given]

/-! ## What a load leaves -/

/-- A load writes nothing but the document that it opens. -/
theorem Opening.volume_cases (orderly : Action.Orderly hosting form.generate) {w u : World σ}
    {answer : Except Error α} (opens : Opening form p w answer u) :
    u.volume = w.volume ∨ ∃ bytes, u.volume = (Volume.write p bytes w.volume).2 := by
  cases opens with
  | unreadable => exact .inl rfl
  | current => exact .inl rfl
  | outdated => exact .inr ⟨_, rfl⟩
  | barren _ fails => exact .inl (orderly.quiet_of_run fails).volume.symm
  | unwritable _ generates =>
    rw [(orderly.quiet_of_run generates).volume]
    exact .inr ⟨_, rfl⟩
  | made _ generates =>
    rw [(orderly.quiet_of_run generates).volume]
    exact .inr ⟨_, rfl⟩

theorem Opening.onward (orderly : Action.Orderly hosting form.generate) {w u : World σ}
    {answer : Except Error α} (opens : Opening form p w answer u) : w.Onward hosting u := by
  cases opens with
  | unreadable => exact .refl hosting w
  | current => exact .refl hosting w
  | outdated => exact ⟨rfl, rfl, id⟩
  | barren _ fails => exact (orderly.quiet_of_run fails).toOnward
  | unwritable _ generates =>
    have quiet := orderly.quiet_of_run generates
    exact ⟨quiet.environment, quiet.find, quiet.sound⟩
  | made _ generates =>
    have quiet := orderly.quiet_of_run generates
    exact ⟨quiet.environment, quiet.find, quiet.sound⟩

theorem respects_opened (reliable : Reliable hosting form finish values) (p : Path) :
    Action.Respects hosting (opened form p finish) :=
  (respects_document reliable.orderly.respects p).bind fun secrets =>
    (reliable.finishes secrets).respects

/-- What a load leaves: ids lead where they led, and only the document was written. -/
theorem onward_of_load (reliable : Reliable hosting form finish values) {w v : World σ}
    {answer : Except Error β} (h : (opened form p finish).run.run w = (answer, v)) :
    w.Onward hosting v ∧
      (v.volume = w.volume ∨ ∃ bytes, v.volume = (Volume.write p bytes w.volume).2) := by
  obtain ⟨given, u, opens, hushed, -⟩ := exists_opening_of_load reliable h
  rw [← hushed.volume]
  exact ⟨(opens.onward reliable.orderly).trans hushed.toOnward, opens.volume_cases reliable.orderly⟩

/-! ## In a steady directory -/

variable {dir : Path} {steady : Steady σ dir} {n : FileName}

/-- A load leaves the files of all other names as they were. -/
theorem spares_of_load (reliable : Reliable hosting form finish values) {w v : World σ}
    {answer : Except Error β} (fit : steady.Fit w.volume) (proper : n.IsProper)
    (h : (opened form (dir.join n) finish).run.run w = (answer, v)) :
    steady.Spares n w.volume v.volume := by
  obtain ⟨-, unchanged | ⟨bytes, written⟩⟩ := onward_of_load reliable h
  · rw [unchanged]
    exact .refl n fit
  · rw [written]
    exact Steady.spares_write fit proper bytes

theorem textAt_of_state_eq {v u : σ} (hv : steady.Fit v) (hu : steady.Fit u) (proper : n.IsProper)
    (unchanged : steady.state v n = steady.state u n) :
    textAt v (dir.join n) = textAt u (dir.join n) := by
  rw [textAt, textAt, steady.read_congr hv hu proper unchanged]

/-- A value stays settled while its file stays in its state and ids lead where they led. -/
theorem Settled.of_state_eq {w v : World σ} {b : β}
    (settled : Settled hosting form values (dir.join n) w b) (hw : steady.Fit w.volume)
    (hv : steady.Fit v.volume) (proper : n.IsProper)
    (unchanged : steady.state v.volume n = steady.state w.volume n)
    (find : w.find hosting = v.find hosting) :
    Settled hosting form values (dir.join n) v b := by
  obtain ⟨text, d, found, read, given, upgrade⟩ := settled
  refine ⟨text, d, ?_, read, ?_, ?_⟩
  · rw [textAt_of_state_eq hv hw proper unchanged, found]
  · rw [← find, given]
  · intro old
    obtain ⟨rewritten, fault, rewrites, fails, -⟩ := upgrade old
    have again : (Volume.write (dir.join n) (Utf8.encode rewritten) v.volume).1 = .error fault := by
      rw [steady.write_congr _ hv hw proper unchanged, fails]
    exact ⟨rewritten, fault, rewrites, again, steady.write_failed hv proper again⟩

theorem read_of_textAt {v : σ} {text : Option String} (h : textAt v p = .ok text) :
    (∃ old, Volume.read v p = .ok old) ∨ Volume.read v p = .error .notFound := by
  unfold textAt at h
  split at h
  · next bytes read => exact .inl ⟨bytes, read⟩
  · next missing => exact .inr missing
  · cases h

/-- What was written is read as a document of the current version. -/
theorem textAt_written {v : σ} {text : Option String} {rewritten : String} (fit : steady.Fit v)
    (proper : n.IsProper) (found : textAt v (dir.join n) = .ok text)
    (done : (Volume.write (dir.join n) (Utf8.encode rewritten) v).1 = .ok ()) :
    textAt (Volume.write (dir.join n) (Utf8.encode rewritten) v).2 (dir.join n) =
      .ok (some rewritten) := by
  rw [textAt, steady.read_written fit proper (read_of_textAt found) done]
  dsimp only
  rw [Utf8.decode_encode]

/-- Secrets that were written are settled, if they can be read. -/
theorem settled_of_written (reliable : Reliable hosting form finish values) {w : World σ} {b : β}
    {text : Option String} {rewritten : String} {secrets : α} (fit : steady.Fit w.volume)
    (proper : n.IsProper) (found : textAt w.volume (dir.join n) = .ok text)
    (rewrites : form.write secrets = .ok rewritten)
    (done : (Volume.write (dir.join n) (Utf8.encode rewritten) w.volume).1 = .ok ())
    (log : List Event) (given : values (w.find hosting) secrets = .ok b) :
    Settled hosting form values (dir.join n) (stored (dir.join n) rewritten log w) b := by
  have reads := textAt_written fit proper found done
  refine ⟨rewritten, ⟨.structured, secrets⟩, reads, reliable.reads_of_written rewrites, given, ?_⟩
  intro old
  rw [Document.isOutdated_structured] at old
  cases old

/-- An outdated document that could not be brought up to date is as it was. -/
theorem settled_of_unwritten {w : World σ} {b : β} {text rewritten : String}
    {d : Document.Decoded α} {fault : OsFault} (fit : steady.Fit w.volume) (proper : n.IsProper)
    (found : textAt w.volume (dir.join n) = .ok (some text)) (read : form.read text = .ok d)
    (rewrites : form.write d.secrets = .ok rewritten)
    (fails : (Volume.write (dir.join n) (Utf8.encode rewritten) w.volume).1 = .error fault)
    (log : List Event) (given : values (w.find hosting) d.secrets = .ok b) :
    Settled hosting form values (dir.join n) (stored (dir.join n) rewritten log w) b := by
  have unchanged : (stored (dir.join n) rewritten log w).volume = w.volume :=
    steady.write_failed fit proper fails
  refine ⟨text, d, ?_, read, given, ?_⟩
  · rw [unchanged, found]
  · intro _
    refine ⟨rewritten, fault, rewrites, ?_, ?_⟩
    · rw [unchanged, fails]
    · rw [unchanged]
      exact unchanged

theorem settled_of_opening (reliable : Reliable hosting form finish values) {w u : World σ}
    {secrets : α} {b : β} (fit : steady.Fit w.volume) (proper : n.IsProper)
    (opens : Opening form (dir.join n) w (.ok secrets) u)
    (given : values (u.find hosting) secrets = .ok b) :
    Settled hosting form values (dir.join n) u b := by
  cases opens with
  | @current text d found read fresh =>
    refine ⟨text, d, found, read, given, ?_⟩
    intro old
    exact absurd (fresh.symm.trans old) Bool.false_ne_true
  | @outdated text rewritten d log found read old rewrites =>
    cases done : (Volume.write (dir.join n) (Utf8.encode rewritten) w.volume).1 with
    | ok _ => exact settled_of_written reliable fit proper found rewrites done log given
    | error fault => exact settled_of_unwritten fit proper found read rewrites done log given
  | @made text _ v log missing generates writes done =>
    -- keys are generated without a file being touched
    have quiet := reliable.orderly.quiet_of_run generates
    rw [quiet.volume] at fit missing
    exact settled_of_written reliable fit proper missing writes done log given

theorem Settled.of_alike {w v : World σ} {b : β} (settled : Settled hosting form values p w b)
    (alike : w.Alike hosting v) : Settled hosting form values p v b := by
  obtain ⟨text, d, found, read, given, upgrade⟩ := settled
  rw [alike.volume] at found upgrade
  rw [alike.find] at given
  exact ⟨text, d, found, read, given, upgrade⟩

/-- What a load gives is settled afterwards. -/
theorem settled_of_load (reliable : Reliable hosting form finish values) {w v : World σ} {b : β}
    (fit : steady.Fit w.volume) (proper : n.IsProper)
    (h : (opened form (dir.join n) finish).run.run w = (.ok b, v)) :
    Settled hosting form values (dir.join n) v b := by
  obtain ⟨given, u, opens, hushed, told⟩ := exists_opening_of_load reliable h
  obtain ⟨secrets, rfl, given⟩ := exists_of_bind_eq_ok told.symm
  exact (settled_of_opening reliable fit proper opens given).of_alike hushed.alike

end Lockbox.Load
