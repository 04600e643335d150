import Lockbox.Proofs.Store.Coherence
import Lockbox.Proofs.Store.Settled
import Lockbox.Proofs.Store.Transparency

/-!
# One load at a time

Each slot has a lock of its own, and so a scope has one load at most under way while all calls of it
go by one slot (`Exclusive`). Nothing but a purge takes a slot out of the map. If that waits, as all
that is done to the file of the scope, until no call of it is under way (`Undisturbed`), then loads
go one at a time, keys are made only where there is no file, and a load ends with what the file
holds:

    single_load : (opened dir vault w).Undisturbed steady c moves →
      ((opened dir vault w).after moves).SingleLoad c

A purge does not wait, and then none of this need hold (`loads_cross`).
-/

namespace Lockbox

namespace Load

variable {σ α β : Type} [Volume σ]

/-! ## What a stage sees -/

section

variable (form : Form σ α) (finish : α → Action σ β) (p : Path)

/-- A file holds a document with some secrets. -/
def Reads (v : σ) (secrets : α) : Prop :=
  ∃ text d, textAt v p = .ok (some text) ∧ form.read text = .ok d ∧ d.secrets = secrets

/-- A file holds a document that gives a value. -/
def Gives (w : World σ) (b : β) : Prop :=
  ∃ secrets u, Reads form p w.volume secrets ∧ (finish secrets).run.run w = (.ok b, u)

def Stage.IsMaking : Stage α → Prop
  | .making => True
  | .writing _ => True
  | _ => False

/-- There is no file while secrets are made, and afterwards it is the one that holds them. -/
def Stage.Sees (v : σ) : Stage α → Prop
  | .reading => True
  | .making => textAt v p = .ok none
  | .writing _ => textAt v p = .ok none
  | .upgrading d => Reads form p v d.secrets
  | .resolving secrets => Reads form p v secrets

/-- What a stage leads to is what the file holds. -/
def Stage.Brings (w : World σ) : Except Error (Stage α ⊕ β) → Prop
  | .ok (.inl next) => next.Sees form p w.volume
  | .ok (.inr b) => Gives form finish p w b
  | .error _ => True

end

variable {form : Form σ α} {finish : α → Action σ β} {p : Path} {hosting : Hosting}
  {values : Key.Lookup → α → Except Error β} {stage : Stage α} {secrets : α} {v u : σ}
  {w w' : World σ}

theorem Reads.of_textAt_eq (h : Reads form p v secrets) (unchanged : textAt u p = textAt v p) :
    Reads form p u secrets := by
  obtain ⟨text, d, found, read, holds⟩ := h
  exact ⟨text, d, unchanged.trans found, read, holds⟩

theorem Gives.of_textAt_eq (reliable : Reliable hosting form finish values) {b : β}
    (h : Gives form finish p w b) (unchanged : textAt w'.volume p = textAt w.volume p)
    (find : w.find hosting = w'.find hosting) : Gives form finish p w' b := by
  obtain ⟨secrets, u, reads, runs⟩ := h
  have given := (exists_run_iff reliable).1 ⟨u, runs⟩
  rw [find] at given
  obtain ⟨u', runs'⟩ := (exists_run_iff reliable).2 given
  exact ⟨secrets, u', reads.of_textAt_eq unchanged, runs'⟩

theorem Stage.Sees.of_textAt_eq (h : stage.Sees form p v) (unchanged : textAt u p = textAt v p) :
    stage.Sees form p u := by
  cases stage with
  | reading => trivial
  | making => exact unchanged.trans h
  | writing secrets => exact unchanged.trans h
  | upgrading d => exact Reads.of_textAt_eq h unchanged
  | resolving secrets => exact Reads.of_textAt_eq h unchanged

/-- A stage writes its file or none. -/
theorem Stage.Goes.volume_eq (reliable : Reliable hosting form finish values)
    {answer : Except Error (Stage α ⊕ β)} (goes : stage.Goes form p finish w answer w') :
    w'.volume = w.volume ∨ ∃ text, w'.volume = (Volume.write p (Utf8.encode text) w.volume).2 := by
  cases goes with
  | unreadable => exact .inl rfl
  | missing => exact .inl rfl
  | current => exact .inl rfl
  | outdated => exact .inl rfl
  | barren fails => exact .inl (reliable.orderly.quiet_of_run fails).volume.symm
  | made generates => exact .inl (reliable.orderly.quiet_of_run generates).volume.symm
  | unwritable => exact .inr ⟨_, rfl⟩
  | written => exact .inr ⟨_, rfl⟩
  | upgraded => exact .inr ⟨_, rfl⟩
  | @unresolved secrets _ _ fails =>
    exact .inl ((reliable.finishes secrets).orderly.quiet_of_run fails).volume.symm
  | @resolved secrets _ _ finishes =>
    exact .inl ((reliable.finishes secrets).orderly.quiet_of_run finishes).volume.symm

variable {dir : Path} {steady : Steady σ dir} {n : FileName}

theorem reads_written (reliable : Reliable hosting form finish values) (fit : steady.Fit v)
    (proper : n.IsProper) {text : Option String} {written : String}
    (found : textAt v (dir.join n) = .ok text) (writes : form.write secrets = .ok written)
    (done : (Volume.write (dir.join n) (Utf8.encode written) v).1 = .ok ()) :
    Reads form (dir.join n) (Volume.write (dir.join n) (Utf8.encode written) v).2 secrets :=
  ⟨written, _, textAt_written fit proper found done, reliable.reads_of_written writes, rfl⟩

/-- A touched file is the only one that reads differently afterwards. -/
theorem textAt_of_spares (fit : steady.Fit v) (spares : steady.Spares n v u) {m : FileName}
    (proper : m.IsProper) (apart : m ≠ n) : textAt u (dir.join m) = textAt v (dir.join m) :=
  textAt_of_state_eq spares.fit fit proper (spares.state m proper apart)

/-- As long as a stage sees what the file holds, so does the next. -/
theorem Stage.Goes.brings (reliable : Reliable hosting form finish values)
    (fit : steady.Fit w.volume) (proper : n.IsProper) {answer : Except Error (Stage α ⊕ β)}
    (goes : stage.Goes form (dir.join n) finish w answer w')
    (sees : stage.Sees form (dir.join n) w.volume) :
    Stage.Brings form finish (dir.join n) w' answer := by
  cases goes with
  | unreadable => trivial
  | missing absent => exact absent
  | @current text d found read => exact ⟨text, d, found, read, rfl⟩
  | @outdated text d found read => exact ⟨text, d, found, read, rfl⟩
  | barren => trivial
  | made generates =>
    show textAt w'.volume (dir.join n) = .ok none
    -- secrets are made without a look at the volume
    rw [← (reliable.orderly.quiet_of_run generates).volume]
    exact sees
  | unwritable => trivial
  | written writes done => exact reads_written reliable fit proper sees writes done
  | @upgraded d written log writes =>
    obtain ⟨text, d', found, read, holds⟩ := sees
    cases done : (Volume.write (dir.join n) (Utf8.encode written) w.volume).1 with
    | ok _ => exact reads_written reliable fit proper found writes done
    | error fault =>
      -- what was not written is as it was read
      have unchanged : (stored (dir.join n) written log w).volume = w.volume :=
        steady.write_failed fit proper done
      show Reads form (dir.join n) (stored (dir.join n) written log w).volume d.secrets
      rw [unchanged]
      exact ⟨text, d', found, read, holds⟩
  | unresolved => trivial
  | @resolved secrets b _ finishes =>
    -- the keys were found in the world before; they have to be found again in the one afterwards
    have quiet := (reliable.finishes secrets).orderly.quiet_of_run finishes
    have given := (exists_run_iff reliable).1 ⟨w', finishes⟩
    rw [quiet.find] at given
    obtain ⟨u, again⟩ := (exists_run_iff reliable).2 given
    refine ⟨secrets, u, ?_, again⟩
    rw [← quiet.volume]
    exact sees

end Load

namespace Store

variable {σ : Type} {c : Scope} {k : Nat}

namespace Shared

/-- No call of a scope is under way. -/
def IsQuiet (s : Shared σ) (c : Scope) : Prop := ∀ k, (s.slots c k).IsQuiet

end Shared

variable [Volume σ] {dir : Path}

/-- A move that leaves the file and the slot of a scope alone while a call for it is under way,
unless it is a move of such a call. -/
def Move.Spares (steady : Steady σ dir) (c : Scope) (s : Shared σ) : Move σ → Prop
  | .remove _ _ entry _ _ => entry.name = c.fileName → s.IsQuiet c
  | .forget _ name => c = .function name → s.IsQuiet c
  | .change n f _ => (∀ v, steady.Fit v → steady.Spares n v (f v)) ∧
    (n = c.fileName → s.IsQuiet c)
  | _ => True

namespace Shared

/-- Whether all moves of a run leave a scope alone. -/
def Undisturbed (steady : Steady σ dir) (c : Scope) (s : Shared σ) : List (Move σ) → Prop
  | [] => True
  | m :: rest => m.Spares steady c s ∧ (m.next s).Undisturbed steady c rest

/-- Those who load by a slot see what the file holds. -/
def Sees (s : Shared σ) (c : Scope) (slot : ScopeSlot c) : Prop :=
  slot.Informed (Load.Gives (c.form s.vault) (c.resolve s.vault) (c.file s.path) s.world)
    (Load.Stage.Sees (c.form s.vault) (c.file s.path) s.world.volume)

/-- All calls of a scope go by its slot in the map, and see what the file holds. -/
structure Exclusive (c : Scope) (s : Shared σ) : Prop where
  quiet : ∀ k, s.current c ≠ some k → (s.slots c k).IsQuiet
  sees : ∀ k, s.Sees c (s.slots c k)

variable {steady : Steady σ dir} {s t : Shared σ}

/-- While no call of a scope is under way there is nobody to see anything. -/
theorem IsQuiet.exclusive (h : s.IsQuiet c) : s.Exclusive c :=
  ⟨fun k _ => h k, fun k => (h k).informed⟩

/-- Nobody loads by a slot other than the one in the map. -/
theorem Exclusive.quiet_of_ne (h : s.Exclusive c) {k' : Nat} (current : s.current c = some k)
    (apart : k' ≠ k) : (s.slots c k').IsQuiet := by
  refine h.quiet k' fun mapped => apart ?_
  exact Option.some.inj (mapped.symm.trans current)

/-- Who loads goes by the slot in the map. -/
theorem Exclusive.current_of_loading (h : s.Exclusive c) {i : Nat}
    (loading : ((s.slots c k).task i).IsLoading) : s.current c = some k := by
  by_contra detached
  exact ((h.quiet k detached).task i).not_hasMissed loading.hasMissed

theorem Exclusive.congr (h : s.Exclusive c) (path : t.path = s.path) (vault : t.vault = s.vault)
    (slots : t.slots c = s.slots c) (current : t.current c = s.current c)
    (unchanged : Load.textAt t.world.volume (c.file s.path) =
      Load.textAt s.world.volume (c.file s.path))
    (find : s.world.find s.vault.hosting = t.world.find s.vault.hosting) : t.Exclusive c := by
  refine ⟨?_, ?_⟩
  · rw [slots, current]
    exact h.quiet
  · intro k
    rw [Sees, slots, path, vault]
    refine (h.sees k).mono ?_ ?_
    · exact fun value gives => gives.of_textAt_eq (c.reliable s.vault) unchanged find
    · exact fun stage sees => sees.of_textAt_eq unchanged

theorem Exclusive.report (h : s.Exclusive c) (event : Event) : (s.report event).Exclusive c :=
  h.congr rfl rfl rfl rfl rfl rfl

theorem Exclusive.turn (h : s.Exclusive c) (q : Clearer) (errand : Errand) :
    (s.turn q errand).Exclusive c :=
  h.congr rfl rfl rfl rfl rfl rfl

theorem Exclusive.notify (h : s.Exclusive c) (p : Path) (kind : ChangeKind) :
    (s.notify p kind).Exclusive c :=
  h.congr rfl rfl rfl rfl rfl rfl

theorem Exclusive.use (h : s.Exclusive c) {c' : Scope} {k : Nat}
    {m : Slot.Move (Load.Stage c'.Records) Clearer c'.Keys} (enabled : m.Enabled (s.slots c' k))
    (foreign : ∀ i, m ≠ .call i)
    (upholds : m.Upholds
      (Load.Gives (c'.form s.vault) (c'.resolve s.vault) (c'.file s.path) s.world)
      (Load.Stage.Sees (c'.form s.vault) (c'.file s.path) s.world.volume)) :
    (s.use c' k m).Exclusive c := by
  refine ⟨fun k' => ?_, fun k' => ?_⟩
  -- the lock of one slot is all that can change, and only if the slot is one of the scope
  · refine forall_put (P := fun c' k' slot => c' = c → s.current c' ≠ some k' → slot.IsQuiet)
      ?_ ?_ c k' rfl
    · rintro rfl detached
      exact (h.quiet k detached).next enabled foreign
    · rintro c'' k'' - rfl
      exact h.quiet k''
  · refine forall_put (P := fun c' _ slot => c' = c → s.Sees c' slot) ?_ ?_ c k' rfl
    · rintro rfl
      exact (h.sees k).next enabled upholds
    · rintro c'' k'' - rfl
      exact h.sees k''

/-- A new call goes by the slot in the map, or by a fresh one that is put there. Either way the
other slots of the scope stay quiet. -/
theorem Exclusive.call (h : s.Exclusive c) {c' : Scope} {k i : Nat} (offers : s.Offers c' k)
    (absent : (s.slots c' k).caller i = .absent) : (s.call c' k i).Exclusive c := by
  by_cases eq : c' = c
  · subst eq
    -- all other slots of the scope are not in the map, and were not before
    have others : ∀ k', k' ≠ k → (s.slots c' k').IsQuiet := by
      intro k' ne
      rcases offers with mapped | ⟨missing, -⟩
      · exact h.quiet_of_ne mapped ne
      · exact h.quiet k' (by rw [missing]; exact nofun)
    refine ⟨fun k' detached => ?_, fun k' => ?_⟩
    -- a slot that is not in the map now is none that was called
    · have ne : k' ≠ k := by
        rintro rfl
        exact detached (Function.update_self c' _ _)
      show ((s.use c' k (.call i)).slots c' k').IsQuiet
      rw [Shared.use, slots_put_other s fun _ => ne]
      exact others k' ne
    · refine forall_put (P := fun c _ slot => c = c' → s.Sees c slot) ?_ ?_ c' k' rfl
      · exact fun _ => (h.sees k).next absent trivial
      · rintro c'' k'' - rfl
        exact h.sees k''
  · exact h.congr rfl rfl (slots_put_of_ne s (Ne.symm eq) _)
      (Function.update_of_ne (Ne.symm eq) _ _) rfl rfl

theorem Exclusive.seek (h : s.Exclusive c) {q : Clearer} {c' : Scope}
    (absent : ∀ k, (s.slots c' k).clearing q = .absent) : (s.seek q c').Exclusive c := by
  unfold Shared.seek
  cases s.current c' with
  | none => exact h.turn q .idle
  | some k => exact (h.use (m := .wantClear q) (absent k) nofun trivial).turn q _

omit [Volume σ] in
theorem IsQuiet.seek (h : s.IsQuiet c) {q : Clearer}
    (absent : ∀ k, (s.slots c k).clearing q = .absent) : (s.seek q c).IsQuiet c := by
  unfold Shared.seek
  cases s.current c with
  | none => exact h
  | some k =>
    intro k'
    refine forall_put (P := fun c' _ slot => c' = c → slot.IsQuiet) ?_ ?_ c k' rfl
    · exact fun _ => (h k).next (absent k) nofun
    · rintro c' k'' - rfl
      exact h k''

/-- While one task of a slot loads, what is known of it is what is known of the slot. -/
theorem informed_outcome {α β : Type} {slot : Slot.Shared (Load.Stage α) Clearer β} {i : Nat}
    {form : Load.Form σ α} {finish : α → Action σ β} {p : Path} {w : World σ}
    (guarded : slot.Guarded) (loading : (slot.task i).IsLoading)
    {answer : Except Error (Load.Stage α ⊕ β)} (brings : Load.Stage.Brings form finish p w answer) :
    ((outcome i answer).next slot).Informed (Load.Gives form finish p w)
      (Load.Stage.Sees form p w.volume) := by
  -- the lock keeps everybody else out, so nobody else has missed or loads
  have others : ∀ j, j ≠ i → ¬ (slot.task j).HasMissed := fun j ne missed =>
    ne (guarded.eq_of_isInside missed.isInside loading.hasMissed.isInside)
  have elsewhere : ∀ j, j ≠ i → ((outcome i answer).next slot).task j = slot.task j := by
    intro j ne
    rcases answer with e | next | keys <;> exact Function.update_of_ne ne _ _
  refine ⟨?_, ?_⟩
  -- what the loader ends with
  · intro j value loaded
    by_cases eq : j = i
    · subst eq
      rcases answer with e | next | keys <;>
        simp only [outcome, Slot.Move.next, Function.update_self] at loaded <;> cases loaded
      exact brings
    · rw [elsewhere j eq] at loaded
      exact absurd (loaded ▸ trivial) (others j eq)
  -- what it goes on with
  · intro j stage running
    by_cases eq : j = i
    · subst eq
      rcases answer with e | next | keys <;>
        simp only [outcome, Slot.Move.next, Function.update_self] at running <;> cases running
      exact brings
    · rw [elsewhere j eq] at running
      exact absurd (running ▸ trivial) (others j eq)

/-- The scope of a stage sees what the stage leaves of its file. -/
theorem Exclusive.work_here (h : s.Exclusive c) (sound : s.Sound steady.atomic) {i : Nat}
    {stage : Load.Stage c.Records} {answer : Except Error (Load.Stage c.Records ⊕ c.Keys)}
    {world : World σ} (loading : (s.slots c k).task i = .loading stage)
    (goes : stage.Goes (c.form s.vault) (c.file s.path) (c.resolve s.vault) s.world answer world) :
    Exclusive c { s.use c k (outcome i answer) with world := world } := by
  obtain rfl := sound.path
  have named := sound.isNamed_of_loading loading
  have current := h.current_of_loading ⟨stage, loading⟩
  have brings := goes.brings (c.reliable s.vault) sound.fit (Scope.isProper_fileName named)
    ((h.sees k).loading i stage loading)
  have elsewhere : ∀ k', k' ≠ k →
      (s.use c k (outcome i answer)).slots c k' = s.slots c k' := by
    intro k' ne
    rw [Shared.use, slots_put_other s fun _ => ne]
  refine ⟨fun k' detached => ?_, fun k' => ?_⟩
  · have ne : k' ≠ k := by
      rintro rfl
      exact detached current
    show ((s.use c k (outcome i answer)).slots c k').IsQuiet
    rw [elsewhere k' ne]
    exact h.quiet_of_ne current ne
  · show Sees { s.use c k (outcome i answer) with world := world } c
      ((s.use c k (outcome i answer)).slots c k')
    by_cases eq : k' = k
    · subst eq
      rw [Shared.use, slots_put_self]
      exact informed_outcome (sound.guarded c k') ⟨stage, loading⟩ brings
    · rw [elsewhere k' eq]
      exact (h.quiet_of_ne current eq).informed

/-- Other scopes see nothing of a stage. -/
theorem Exclusive.work_elsewhere (h : s.Exclusive c) (sound : s.Sound steady.atomic)
    (named : c.IsNamed) {c' : Scope} {i : Nat} {stage : Load.Stage c'.Records}
    {answer : Except Error (Load.Stage c'.Records ⊕ c'.Keys)} {world : World σ} (apart : c' ≠ c)
    (loading : (s.slots c' k).task i = .loading stage)
    (goes : stage.Goes (c'.form s.vault) (c'.file s.path) (c'.resolve s.vault) s.world answer
      world) :
    Exclusive c { s.use c' k (outcome i answer) with world := world } := by
  obtain rfl := sound.path
  have named' := sound.isNamed_of_loading loading
  have find := (Load.Stage.step_of_goes (c'.reliable s.vault) sound.fit
    (Scope.isProper_fileName named') goes).onward.find
  -- at most one file is written, and that is the file of the other scope
  have spares : steady.Spares c'.fileName s.world.volume world.volume := by
    rcases goes.volume_eq (c'.reliable s.vault) with unchanged | ⟨text, written⟩
    · rw [unchanged]
      exact .refl _ sound.fit
    · rw [written]
      exact Steady.spares_write sound.fit (Scope.isProper_fileName named') _
  have files : c.fileName ≠ c'.fileName := fun eq =>
    apart (Scope.fileName_injective named named' eq).symm
  exact h.congr rfl rfl (slots_put_of_ne s (Ne.symm apart) _) rfl
    (Load.textAt_of_spares sound.fit spares (Scope.isProper_fileName named) files) find

theorem Exclusive.work (h : s.Exclusive c) (sound : s.Sound steady.atomic) (named : c.IsNamed)
    {c' : Scope} {i : Nat} {stage : Load.Stage c'.Records}
    (loading : (s.slots c' k).task i = .loading stage) (kind : ChangeKind) :
    (s.work c' k i stage kind).Exclusive c := by
  unfold Shared.work
  dsimp only
  cases runs : (stage.advance (c'.form s.vault) (c'.file s.path) (c'.resolve s.vault)).run.run
      s.world with
  | mk answer world =>
    have goes := Load.Stage.goes_advance (c'.reliable s.vault).exists_text runs
    have worked : Exclusive c { s.use c' k (outcome i answer) with world := world } := by
      by_cases eq : c' = c
      · subst eq
        exact h.work_here sound loading goes
      · exact h.work_elsewhere sound named eq loading goes
    dsimp only
    split
    · exact worked.notify _ _
    · exact worked

/-- A file is touched, while no call of its scope is under way. -/
theorem Exclusive.touch (h : s.Exclusive c) (sound : s.Sound steady.atomic) (named : c.IsNamed)
    {n : FileName} {volume : σ} (spares : steady.Spares n s.world.volume volume)
    (rests : n = c.fileName → s.IsQuiet c) :
    Exclusive c { s with world := { s.world with volume := volume } } := by
  by_cases eq : n = c.fileName
  -- the file of the scope itself, of which nobody has read anything yet
  · exact IsQuiet.exclusive (rests eq)
  · obtain rfl := sound.path
    exact h.congr rfl rfl rfl rfl (Load.textAt_of_spares sound.fit spares
      (Scope.isProper_fileName named) (Ne.symm eq)) rfl

/-- A purge that waits for the calls of the scope may remove its file. -/
theorem Exclusive.remove (h : s.Exclusive c) (sound : s.Sound steady.atomic) (named : c.IsNamed)
    {i : Nat} {n : FileName} (proper : n.IsProper) (rests : n = c.fileName → s.IsQuiet c)
    (name : String) (kind : ChangeKind) :
    (s.remove i (s.path.join n) name kind).Exclusive c := by
  obtain rfl := sound.path
  have touched := h.touch sound named (Steady.spares_remove sound.fit proper) rests
  unfold Shared.remove
  cases removes : Volume.remove (s.path.join n) s.world.volume with
  | mk done volume =>
    rw [removes] at touched
    cases done with
    | ok _ => exact ((touched.report _).notify _ _).turn _ _
    | error fault => exact touched.report _

/-- A purge that waits for them may take its slot away too. -/
theorem Exclusive.forget (h : s.Exclusive c) (sound : s.Sound steady.atomic) {i : Nat}
    {name : String} (errand : s.errand (.purge i) = .forgetting name)
    (rests : c = .function name → s.IsQuiet c) : (s.forget i name).Exclusive c := by
  have free : (s.errand (.purge i)).IsFree := by
    rw [errand]
    exact Errand.isFree_forgetting name
  have absent := sound.absent free (.function name)
  by_cases eq : c = .function name
  · subst eq
    -- the slot that goes out of the map is quiet, and that is all that is asked of it
    have sought : (s.seek (.purge i) (.function name)).IsQuiet (.function name) :=
      (rests rfl).seek absent
    exact IsQuiet.exclusive sought
  · refine (h.seek absent).congr rfl rfl rfl ?_ rfl rfl
    rw [current_seek]
    exact Function.update_of_ne eq _ _

/-- The end of a clearing leaves the lock to others, and no load has begun by that. -/
theorem Exclusive.settle (h : s.Exclusive c) {q : Clearer} {c' : Scope} {k : Nat}
    (cleared : (s.slots c' k).clearing q = .cleared) : (s.settle q c' k).Exclusive c := by
  unfold Shared.settle
  rw [foldl_report]
  exact (h.use (m := .leaveClear q) cleared nofun trivial).congr rfl rfl rfl rfl rfl rfl

/-- The loop that takes a change touches no slot yet. -/
theorem Exclusive.take (h : s.Exclusive c) : s.take.Exclusive c := by
  unfold Shared.take
  split
  · exact h
  · dsimp only
    split
    · exact h.congr rfl rfl rfl rfl rfl rfl
    · exact h.congr rfl rfl rfl rfl rfl rfl

theorem Exclusive.find (h : s.Exclusive c) (sound : s.Sound steady.atomic) {q : Clearer} {p : Path}
    (errand : s.errand q = .looking p) : (s.find q p).Exclusive c := by
  have free : (s.errand q).IsFree := by
    rw [errand]
    exact Errand.isFree_looking p
  unfold Shared.find
  cases Scope.ofPath? p with
  | none => exact h.turn q .idle
  | some c' => exact h.seek (sound.absent free c')

/-! ## Runs -/

/-- **The step.** Every move that spares the scope keeps its calls at one slot and what they see
true. -/
theorem Exclusive.next (h : s.Exclusive c) (sound : s.Sound steady.atomic) (named : c.IsNamed)
    {m : Move σ} (enabled : m.Enabled steady.atomic s) (spares : m.Spares steady c s) :
    (m.next s).Exclusive c := by
  cases m with
  | host k i => exact h.call enabled.1 enabled.2
  | function name k i =>
    obtain ⟨n, usable, offers, absent⟩ := enabled
    rw [Move.next, usable]
    exact h.call offers absent
  | use c' k m =>
    obtain ⟨inward, enabled⟩ := enabled
    refine h.use enabled ?_ (inward.upholds trivial)
    rintro i rfl
    exact inward
  | work c' k i stage kind => exact h.work sound named enabled kind
  | take => exact h.take
  | invalidate i p => exact h.turn _ _
  | find q p => exact h.find sound enabled
  | settle q c' k => exact h.settle enabled.2
  | remove i functions entry name kind =>
    exact h.remove sound named enabled.2.1 spares name kind
  | forget i name => exact h.forget sound enabled spares
  | change n f kind =>
    exact (h.touch sound named (spares.1 _ sound.fit) spares.2).notify _ kind
  | rumour p kind => exact h.notify p kind
  | report event => exact h.report event

/-- **The run.** Coherence is carried along, as it tells which clearings are under way. -/
theorem exclusive_after (h : s.Exclusive c) (coherent : s.Coherent steady.atomic)
    (named : c.IsNamed) {moves : List (Move σ)} (allowed : s.Allowed steady.atomic moves)
    (undisturbed : s.Undisturbed steady c moves) : (s.after moves).Exclusive c := by
  -- on the moves, with coherence as the second invariant
  induction moves generalizing s with
  | nil => exact h
  | cons m rest ih =>
    exact ih (h.next coherent.toSound named allowed.1 undisturbed.1) (coherent.next allowed.1)
      allowed.2 undisturbed.2

/-- Of a scope there is one load at most under way; while it makes keys there is no file; and the
keys that it ends with are those in the file. -/
structure SingleLoad (s : Shared σ) (c : Scope) : Prop where
  one : ∀ k i k' i', ((s.slots c k).task i).IsLoading → ((s.slots c k').task i').IsLoading →
    k = k' ∧ i = i'
  missing : ∀ k i stage, (s.slots c k).task i = .loading stage → stage.IsMaking →
    Load.textAt s.world.volume (c.file s.path) = .ok none
  given : ∀ k i keys, (s.slots c k).task i = .loaded keys →
    Load.Gives (c.form s.vault) (c.resolve s.vault) (c.file s.path) s.world keys

/-- What a load must not do follows from one slot, the lock in it and what its loader sees. -/
theorem Exclusive.singleLoad (h : s.Exclusive c) (sound : s.Sound steady.atomic) :
    s.SingleLoad c := by
  refine ⟨?_, ?_, fun k i keys loaded => (h.sees k).loaded i keys loaded⟩
  · intro k i k' i' first second
    -- both go by the slot in the map, and there the lock lets one in
    obtain rfl := Option.some.inj
      ((h.current_of_loading first).symm.trans (h.current_of_loading second))
    exact ⟨rfl, (sound.guarded c k).eq_of_isInside first.hasMissed.isInside
      second.hasMissed.isInside⟩
  · intro k i stage loading making
    have sees := (h.sees k).loading i stage loading
    cases stage with
    | making => exact sees
    | writing secrets => exact sees
    | _ => exact making.elim

/-- As long as nobody takes the file of a scope away, or its slot, while a call for it is under
way, its loads go one at a time. -/
theorem single_load (steady : Steady σ dir) (vault : Vault) {w : World σ}
    (fit : steady.Fit w.volume) (c : Scope) {moves : List (Move σ)}
    (allowed : (opened dir vault w).Allowed steady.atomic moves)
    (undisturbed : (opened dir vault w).Undisturbed steady c moves) :
    ((opened dir vault w).after moves).SingleLoad c := by
  have start : (opened dir vault w).Coherent steady.atomic := coherent_opened fit
  have coherent := coherent_after start allowed
  by_cases named : c.IsNamed
  -- nobody has called anything when the store is opened
  · have quiet : (opened dir vault w).IsQuiet c := fun _ => Slot.Shared.isQuiet_fresh
    exact (exclusive_after quiet.exclusive start named allowed undisturbed).singleLoad
      coherent.toSound
  · -- nobody asks for what has no name
    have fresh := fun k => coherent.unnamed c k named
    refine Exclusive.singleLoad (IsQuiet.exclusive fun k => ?_) coherent.toSound
    rw [fresh k]
    exact Slot.Shared.isQuiet_fresh

/-- The secrets that a plain store makes for a function, where random bytes are counted and some
were drawn before, and the keys in them. -/
def madeSecrets (drawn : Nat) : List Secret :=
  [.plaintext defaultKeyName
    (Generation.valueOf ((Entropy.counting.advance drawn).peek Generation.valueBytes))]

def madeKeys (drawn : Nat) : KeyTable := (madeSecrets drawn).map fun s => (s.name, s.value)

def twoCalls : List (Move Tree) :=
  let inside := Move.use (.function "alpha") 0
  let work := fun stage => Move.work (.function "alpha") 0 0 stage .created
  [.function "alpha" 0 0, .function "ALPHA" 0 1, inside (.miss 0), inside (.miss 1),
    inside (.spawn 0), inside (.spawn 1), inside (.enter 0), inside (.confirm 0),
    inside (.start 0 .reading), work .reading, work .making, work (.writing (madeSecrets 0)),
    work (.resolving (madeSecrets 0))]

theorem allowed_twoCalls :
    (opened (.ofText "secrets") ⟨.onPremises, false⟩ unkeyed).Allowed
      (Tree.steady (.ofText "secrets") 1).atomic twoCalls :=
  ⟨⟨"alpha", rfl, .inr ⟨rfl, rfl⟩, rfl⟩, ⟨"alpha", rfl, .inl rfl, rfl⟩, ⟨trivial, rfl, rfl⟩,
    ⟨trivial, rfl, rfl⟩, ⟨trivial, rfl⟩, ⟨trivial, rfl⟩, ⟨trivial, rfl, rfl⟩, ⟨trivial, rfl, rfl⟩,
    ⟨rfl, rfl⟩, rfl, rfl, rfl, rfl, trivial⟩

/-- Among the moves of the two calls there is neither a purge nor a change by others. -/
theorem undisturbed_twoCalls :
    (opened (.ofText "secrets") ⟨.onPremises, false⟩ unkeyed).Undisturbed
      (Tree.steady (.ofText "secrets") 1) (.function "alpha") twoCalls :=
  ⟨trivial, trivial, trivial, trivial, trivial, trivial, trivial, trivial, trivial, trivial,
    trivial, trivial, trivial, trivial⟩

/-- The first call has made keys, which are those in the file. -/
theorem single_load_twoCalls :
    let s := (opened (.ofText "secrets") ⟨.onPremises, false⟩ unkeyed).after twoCalls
    ((s.slots (.function "alpha") 0).task 0 = .loaded (madeKeys 0) ∧
      (s.slots (.function "alpha") 0).task 1 = .waiting) ∧ s.SingleLoad (.function "alpha") :=
  ⟨⟨rfl, rfl⟩, single_load (Tree.steady (.ofText "secrets") 1) ⟨.onPremises, false⟩
    plain_unkeyed (.function "alpha") allowed_twoCalls undisturbed_twoCalls⟩

/-! ## A slot that is taken away

A purge takes a slot out of the map without regard to the calls that go by it. They load all the
same, and so do those that come later, by a slot of their own with a lock of its own. -/

/-- A secrets file of a function that is gone. -/
def orphan : Entry := ⟨(Scope.function "alpha").fileName, .ok .file⟩

/-- Surroundings with that file, and with a script root without functions. -/
def orphaned : World Tree :=
  { unkeyed with
    volume := ⟨#[.directory Tree.directoryMode Tree.root
        [(Utf8.encode "secrets", 1), (Utf8.encode "functions", 2)],
      .directory Tree.directoryMode Tree.root [(orphan.name, 3)],
      .directory Tree.directoryMode Tree.root [], .file Tree.fileMode []], []⟩ }

/-- A call that has its slot comes to load, and finds no file. -/
def onset (k : Nat) : List (Move Tree) :=
  let inside := Move.use (.function "alpha") k
  [inside (.miss 0), inside (.spawn 0), inside (.enter 0), inside (.confirm 0),
    inside (.start 0 .reading), .work (.function "alpha") k 0 .reading .created]

/-- A call looks up its slot; a purge removes the file and takes the slot away; another call comes
by a new slot. -/
def overlap : List (Move Tree) :=
  [.function "alpha" 0 0, .remove 0 [] orphan "alpha" .deleted, .forget 0 "alpha",
    .function "Alpha" 1 0] ++ onset 0 ++ onset 1

/-- Both calls make keys and write them, and the first one ends. -/
def crossing : List (Move Tree) :=
  let work := fun k stage => Move.work (.function "alpha") k 0 stage .created
  [work 0 .making, work 0 (.writing (madeSecrets 0)), work 1 .making,
    work 1 (.writing (madeSecrets Generation.valueBytes)), work 0 (.resolving (madeSecrets 0))]

def untouched : Shared Tree := opened (.ofText "secrets") ⟨.onPremises, false⟩ orphaned

def overlapped : Shared Tree := untouched.after overlap

def crossed : Shared Tree := overlapped.after crossing

theorem allowed_overlap :
    untouched.Allowed (Tree.steady (.ofText "secrets") 1).atomic overlap :=
  ⟨⟨"alpha", rfl, .inr ⟨rfl, rfl⟩, rfl⟩, ⟨rfl, Scope.isProper_fileName isNamed_alpha, rfl, nofun⟩,
    rfl, ⟨"alpha", rfl, .inr ⟨rfl, rfl⟩, rfl⟩,
    ⟨trivial, rfl, rfl⟩, ⟨trivial, rfl⟩, ⟨trivial, rfl, rfl⟩, ⟨trivial, rfl, rfl⟩, ⟨rfl, rfl⟩, rfl,
    ⟨trivial, rfl, rfl⟩, ⟨trivial, rfl⟩, ⟨trivial, rfl, rfl⟩, ⟨trivial, rfl, rfl⟩, ⟨rfl, rfl⟩, rfl,
    trivial⟩

theorem allowed_crossing :
    overlapped.Allowed (Tree.steady (.ofText "secrets") 1).atomic crossing :=
  ⟨rfl, rfl, rfl, rfl, rfl, trivial⟩

set_option maxRecDepth 1000 in
theorem read_crossed :
    Volume.read crossed.world.volume ((Scope.function "alpha").file (.ofText "secrets")) =
      match Document.writeFunction (madeSecrets Generation.valueBytes) with
      | .ok text => .ok (Utf8.encode text)
      | .error _ => .error .notFound := rfl

/-- A file that holds the secrets made for a function gives the keys in them. -/
theorem eq_madeKeys_of_gives {vault : Vault} {p : Path} {w : World Tree} {drawn : Nat}
    {text : String} (writes : Document.writeFunction (madeSecrets drawn) = .ok text)
    (stored : Volume.read w.volume p = .ok (Utf8.encode text)) {keys : KeyTable}
    (gives : Load.Gives (Load.functionForm vault "alpha") (Load.resolveKeys vault) p w keys) :
    keys = madeKeys drawn := by
  obtain ⟨secrets, u, ⟨read, d, found, reads, rfl⟩, runs⟩ := gives
  obtain ⟨text', again, reread⟩ := Document.readFunction_writeFunction (madeSecrets drawn)
  obtain rfl : text = text' := Except.ok.inj (writes.symm.trans again)
  rw [Load.textAt, stored] at found
  dsimp only at found
  rw [Utf8.decode_encode] at found
  -- both texts are the bytes of the one file
  obtain rfl : text = read := Option.some.inj (Except.ok.inj found)
  obtain rfl : ⟨.structured, madeSecrets drawn⟩ = d := Except.ok.inj (reread.symm.trans reads)
  have given := (Load.exists_run_iff (Load.reliable_function vault "alpha")).1 ⟨u, runs⟩
  have value := Load.tableAfter_singleton
    (Vault.plainValue_plaintext (w.find vault.hosting) defaultKeyName
      (Generation.valueOf ((Entropy.counting.advance drawn).peek Generation.valueBytes)))
  exact Except.ok.inj (given.symm.trans value)

/-- The first call has keys that are not in the file. -/
theorem not_gives_crossed :
    ¬ Load.Gives (Load.functionForm ⟨.onPremises, false⟩ "alpha")
      (Load.resolveKeys ⟨.onPremises, false⟩)
      ((Scope.function "alpha").file (.ofText "secrets")) crossed.world (madeKeys 0) := by
  intro gives
  obtain ⟨text, writes, -⟩ :=
    Document.readFunction_writeFunction (madeSecrets Generation.valueBytes)
  have stored := read_crossed
  rw [writes] at stored
  have eq := eq_madeKeys_of_gives writes stored gives
  exact absurd eq (by decide)

/-- Two loads of a function are under way at once, both make keys, and the first one ends with keys
that its file does not hold. The purge had reason to remove the file. -/
theorem loads_cross :
    (functionNames? untouched.world.volume (.ofText "functions") = .ok (some []) ∧
      Volume.list untouched.world.volume untouched.path = .ok [.ok orphan]) ∧
    (untouched.Allowed (Tree.steady (.ofText "secrets") 1).atomic overlap ∧
      overlapped.Allowed (Tree.steady (.ofText "secrets") 1).atomic crossing) ∧
    ((overlapped.slots (.function "alpha") 0).task 0 = .loading .making ∧
      (overlapped.slots (.function "alpha") 1).task 0 = .loading .making) ∧
    ¬ overlapped.SingleLoad (.function "alpha") ∧
    (crossed.slots (.function "alpha") 0).task 0 = .loaded (madeKeys 0) ∧
    ¬ crossed.SingleLoad (.function "alpha") := by
  have ends : (crossed.slots (.function "alpha") 0).task 0 = .loaded (madeKeys 0) := rfl
  refine ⟨⟨rfl, rfl⟩, ⟨allowed_overlap, allowed_crossing⟩, ⟨rfl, rfl⟩, ?_, ends, ?_⟩
  · intro single
    -- the loaders have different slots
    have both := single.one 0 0 1 0 ⟨.making, rfl⟩ ⟨.making, rfl⟩
    exact absurd both.1 (by decide)
  · intro single
    exact not_gives_crossed (single.given 0 0 (madeKeys 0) ends)

end Shared

end Store

end Lockbox
