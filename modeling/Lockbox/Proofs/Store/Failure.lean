import Lockbox.Proofs.Store.Access
import Lockbox.Volume.Tree

/-!
# Failed accesses leave no trace

An access that fails leaves every file as it was and the slot of its scope empty, whatever the files
hold and whatever is remembered of keys, also of keys that were found in other environments
(`failed_access_leaves_no_trace`). It is assumed of the volume that a write that fails changes
nothing (`Load.Kept`), as is so for trees.
-/

namespace Lockbox

/-- A write to a tree fails where the file cannot be opened, and then nothing was done. -/
theorem Tree.kept : Load.Kept Tree := by
  intro p bytes t fault h
  unfold Volume.write at h ⊢
  cases created : Tree.create t p with
  | error other =>
    simp only [Volume.create, created]
  | ok opened =>
    simp only [Volume.create, created, Volume.fill] at h
    cases h

namespace Store

variable {σ : Type} [Volume σ] {s s' : Store σ} {c : Scope} {e : Error}

/-- A slot that is filled by loads alone is empty where the load failed. -/
theorem eq_none_of_failed {α : Type} {slot : Slot α} {e : Error}
    (filled : ∀ held, slot = some held → (.error e : Except Error α) = .ok held.value) :
    slot = none := by
  -- a failed load has nothing to fill a slot with
  cases slot with
  | none => rfl
  | some held => cases filled held rfl

/-- An access fails because its load does, and a load that fails has written nothing. -/
theorem volume_of_failed_access (kept : Load.Kept σ) (sound : s.world.keys.Sound)
    {answer : Answer} (h : s.Access c answer s') (failed : answer = c.answer (.error e)) :
    s'.world.volume = s.world.volume ∧ s'.slotAt? c = some .empty ∧ s'.path = s.path ∧
      s'.vault = s.vault := by
  cases h with
  | held => cases Scope.answer_injective failed
  | loads _ runs beside left filled =>
    obtain rfl := Scope.answer_injective failed
    rw [left, eq_none_of_failed filled]
    exact ⟨Load.volume_of_error (c.reliable s.vault) kept sound runs, rfl, beside.path,
      beside.vault⟩

/-- An access to a slot that is empty is answered by a load. -/
theorem answer_of_empty {answer : Answer} (h : s.Access c answer s')
    (empty : (s.slotAt? c).getD .empty = none) :
    answer = c.answer ((Load.opened (c.form s.vault) (c.file s.path) (c.resolve s.vault)).run.run
      s.world).1 := by
  cases h with
  | held cached =>
    rw [cached] at empty
    cases empty
  | loads _ runs => rw [runs]

theorem volume_of_failed_hostKeys (kept : Load.Kept σ) (sound : s.world.keys.Sound)
    (h : s.hostKeys = (.error e, s')) :
    s'.world.volume = s.world.volume ∧ s'.host = .empty ∧ s'.path = s.path ∧
      s'.vault = s.vault := by
  have access := access_hostKeys s
  rw [h] at access
  obtain ⟨volume, empty, both⟩ := volume_of_failed_access kept sound access rfl
  exact ⟨volume, Option.some.inj empty, both⟩

theorem volume_of_failed_functionKeys (kept : Load.Kept σ) (sound : s.world.keys.Sound)
    {name n : String} (usable : Scope.ofFunction name = .ok n)
    (h : s.functionKeys name = (.error e, s')) :
    s'.world.volume = s.world.volume ∧ s'.slot? n = some .empty ∧ s'.path = s.path ∧
      s'.vault = s.vault := by
  have access := access_functionKeys s usable
  rw [h] at access
  exact volume_of_failed_access kept sound access rfl

theorem value_hostKeys_of_empty (h : s.host = none) :
    s.hostKeys.1.map Loaded.value = ((Load.host s.vault s.path).run.run s.world).1 :=
  Answer.host.inj (answer_of_empty (access_hostKeys s) h)

theorem value_functionKeys_of_empty {name n : String} (usable : Scope.ofFunction name = .ok n)
    (h : (s.slot? n).getD .empty = none) :
    (s.functionKeys name).1.map Loaded.value =
      ((Load.function s.vault s.path n).run.run s.world).1 :=
  Answer.function.inj (answer_of_empty (access_functionKeys s usable) h)

/-- A failed access leaves every file as it was and its slot empty, so that the next access loads
again. No load fails once it has generated keys and kept them, or where the document was
outdated. -/
theorem failed_access_leaves_no_trace (kept : Load.Kept σ)
    {history : List (Environment × Option String)}
    (remembered : s.world.keys = Key.remembered s.vault.hosting history) :
    (∀ e s', s.hostKeys = (.error e, s') →
      s'.world.volume = s.world.volume ∧ s'.host = .empty ∧
        s'.hostKeys.1.map Loaded.value =
          ((Load.host s.vault s.path).run.run s'.world).1) ∧
    (∀ name n e s', Scope.ofFunction name = .ok n → s.functionKeys name = (.error e, s') →
      s'.world.volume = s.world.volume ∧ s'.slot? n = some .empty ∧
        (s'.functionKeys name).1.map Loaded.value =
          ((Load.function s.vault s.path n).run.run s'.world).1) ∧
    (∀ name fault, Scope.ofFunction name = .error fault →
      s.functionKeys name = (.error fault, s)) ∧
    (∀ secrets w, Load.textAt s.world.volume (Scope.host.file s.path) = .ok none →
      (Load.document (Load.hostForm s.vault) (Scope.host.file s.path)).run.run s.world =
        (.ok secrets, w) →
      ∃ keys v, (Load.host s.vault s.path).run.run s.world = (.ok keys, v)) ∧
    (∀ text d, Load.textAt s.world.volume (Scope.host.file s.path) = .ok (some text) →
      Document.readHost text = .ok d → d.isOutdated = true →
      ∃ keys v, (Load.host s.vault s.path).run.run s.world = (.ok keys, v)) ∧
    (∀ n secrets w,
      Load.textAt s.world.volume ((Scope.function n).file s.path) = .ok none →
      (Load.document (Load.functionForm s.vault n) ((Scope.function n).file s.path)).run.run
        s.world = (.ok secrets, w) →
      ∃ keys v, (Load.function s.vault s.path n).run.run s.world = (.ok keys, v)) ∧
    (∀ n text d, Load.textAt s.world.volume ((Scope.function n).file s.path) = .ok (some text) →
      Document.readFunction text = .ok d → d.isOutdated = true →
      ∃ keys v, (Load.function s.vault s.path n).run.run s.world = (.ok keys, v)) := by
  have sound : s.world.keys.Sound := by
    rw [remembered]
    exact Key.sound_remembered s.vault.hosting history
  refine ⟨?_, ?_, ?_, ?_, ?_, ?_, ?_⟩
  · intro e s' fails
    obtain ⟨volume, empty, path, vault⟩ := volume_of_failed_hostKeys kept sound fails
    refine ⟨volume, empty, ?_⟩
    rw [value_hostKeys_of_empty empty, path, vault]
  · intro name n e s' usable fails
    obtain ⟨volume, empty, path, vault⟩ := volume_of_failed_functionKeys kept sound usable fails
    refine ⟨volume, empty, ?_⟩
    rw [value_functionKeys_of_empty usable (by rw [empty]; rfl), path, vault]
  · intro name fault refused
    exact functionKeys_of_refused refused
  · intro secrets w missing opens
    exact Load.ok_of_missing (Load.reliable_host s.vault) sound missing opens
  · intro text d found read old
    exact Load.ok_of_outdated (Load.reliable_host s.vault) found read old
  · intro n secrets w missing opens
    exact Load.ok_of_missing (Load.reliable_function s.vault n) sound missing opens
  · intro n text d found read old
    exact Load.ok_of_outdated (Load.reliable_function s.vault n) found read old

/-- A store that is to encipher and has no key, over a tree without a secrets directory. -/
def keyless : Store Tree :=
  ofWorld (.ofText "secrets") ⟨.onPremises, true⟩
    { environment := fun _ => none
      entropy := .counting
      keys := .empty
      log := []
      volume := .empty }

theorem hostKeys_keyless :
    keyless.hostKeys = (.error (.keyMissing Key.defaultId), keyless.hostKeys.2) := rfl

/-- Without a key nothing is generated. -/
theorem failed_access_without_key :
    keyless.hostKeys = (.error (.keyMissing Key.defaultId), keyless.hostKeys.2) ∧
      keyless.hostKeys.2.world.volume = .empty ∧ keyless.hostKeys.2.host = .empty := by
  have unused : keyless.world.keys = Key.remembered .onPremises [] := rfl
  have trace := failed_access_leaves_no_trace (s := keyless) Tree.kept unused
  obtain ⟨volume, slot, -⟩ := trace.1 _ _ hostKeys_keyless
  exact ⟨hostKeys_keyless, volume, slot⟩

end Store

end Lockbox
