import Lockbox.Proofs.Document.Likeness
import Lockbox.Store.Generation

/-!
# Runs in lockstep

Two worlds are twins if they have the same log, ids lead where they lead in the other, and their
volumes are alike (`Bond.Twins`); random bytes may differ. Two actions are in lockstep if in twin
worlds both fail or both give something, in ways that are related, and the worlds are twins again
(`Bond.Lockstep`), whatever became of them. Steps in lockstep make up actions in lockstep. Looking
up a key is in lockstep with itself, as are reading and writing of secrets that are alike:

    lockstep_read : s.Alike bond.find t →
      bond.Lockstep Anyhow Anyhow (bond.vault.read s) (bond.vault.read t)
-/

namespace Lockbox

/-- What two runs have in common: the vault, where ids lead, and how volumes are alike. -/
structure Bond (σ : Type) where
  vault : Vault
  find : Key.Lookup
  Like : σ → σ → Prop

/-- Ids lead where they are said to lead, and what is remembered of keys is sound. -/
structure World.Knows {σ : Type} (hosting : Hosting) (find : Key.Lookup) (w : World σ) : Prop where
  sound : w.keys.Sound
  find : w.find hosting = find

/-- What was looked up does not matter. -/
theorem World.Knows.of_eq {σ : Type} {hosting : Hosting} {find : Key.Lookup} {w v : World σ}
    (h : w.Knows hosting find) (environment : v.environment = w.environment)
    (keys : v.keys = w.keys) : v.Knows hosting find := by
  refine ⟨keys ▸ h.sound, ?_⟩
  rw [← h.find]
  funext id
  rw [World.find, World.find, environment, keys]

/-- Looking up a key leaves what is known of ids. -/
theorem World.Knows.resolve {σ : Type} {hosting : Hosting} {find : Key.Lookup} {w : World σ}
    (h : w.Knows hosting find) (id : Option String) :
    World.Knows hosting find
      { w with keys := (Key.resolve w.environment hosting w.keys id).2 } := by
  have hushed := Action.hushed_resolve hosting id w []
  have moved : World.Knows hosting find { w with
      keys := (Key.resolve w.environment hosting w.keys id).2, log := w.log ++ [] } :=
    ⟨hushed.sound h.sound, hushed.find.symm.trans h.find⟩
  exact moved.of_eq rfl rfl

namespace Bond

open Lockbox.Action

variable {σ α β : Type} {bond : Bond σ}

/-- Worlds whose logs are the same and whose volumes are alike. -/
structure Twins (bond : Bond σ) (w v : World σ) : Prop where
  log : w.log = v.log
  volume : bond.Like w.volume v.volume
  left : w.Knows bond.vault.hosting bond.find
  right : v.Knows bond.vault.hosting bond.find

theorem Twins.report {w v : World σ} (h : bond.Twins w v) (events : List Event) :
    bond.Twins { w with log := w.log ++ events } { v with log := v.log ++ events } :=
  ⟨congrArg (· ++ events) h.log, h.volume, h.left.of_eq rfl rfl, h.right.of_eq rfl rfl⟩

/-- Volumes may change in both, if they stay alike. -/
theorem Twins.change {w v : World σ} {after after' : σ} (h : bond.Twins w v)
    (like : bond.Like after after') :
    bond.Twins { w with volume := after } { v with volume := after' } :=
  ⟨h.log, like, h.left.of_eq rfl rfl, h.right.of_eq rfl rfl⟩

/-- Two actions that fail together or succeed together, in ways that are related, and leave twin
worlds as twins. -/
def Lockstep (bond : Bond σ) (fails : Error → Error → Prop) (gives : α → α → Prop)
    (a b : Action σ α) : Prop :=
  ∀ w v : World σ, bond.Twins w v →
    Together fails gives (a.run.run w).1 (b.run.run v).1 ∧
      bond.Twins (a.run.run w).2 (b.run.run v).2

variable {fails fails' : Error → Error → Prop} {gives : α → α → Prop} {gives' : β → β → Prop}
  {a b : Action σ α}

/-! ## Steps -/

theorem lockstep_pure {x y : α} (h : gives x y) :
    bond.Lockstep fails gives (pure x) (pure y) := by
  intro w v twins
  exact ⟨.ok h, twins⟩

/-- They may fail in ways that are related. -/
theorem lockstep_throw {e f : Error} (h : fails e f) :
    bond.Lockstep fails gives (throw e) (throw f) := by
  intro w v twins
  exact ⟨.error h, twins⟩

/-- Why they fail may be left open. -/
theorem Lockstep.loosen (h : bond.Lockstep fails gives a b) :
    bond.Lockstep Anyhow gives a b := by
  intro w v twins
  obtain ⟨together, after⟩ := h w v twins
  exact ⟨together.mono (fun _ _ _ => trivial) (fun _ _ given => given), after⟩

/-- What comes next may depend on what was given, as long as that is related. -/
theorem Lockstep.bind {f g : α → Action σ β} (h : bond.Lockstep fails gives a b)
    (hf : ∀ x y, gives x y → bond.Lockstep fails gives' (f x) (g y)) :
    bond.Lockstep fails gives' (a >>= f) (b >>= g) := by
  intro w v twins
  obtain ⟨together, after⟩ := h w v twins
  rw [run_bind, run_bind]
  generalize a.run.run w = first at together after ⊢
  generalize b.run.run v = second at together after ⊢
  obtain ⟨x, w'⟩ := first
  obtain ⟨y, v'⟩ := second
  -- both have failed, or both go on with what is related
  cases together with
  | error failed => exact ⟨.error failed, after⟩
  | ok given => exact hf _ _ given w' v' after

/-- Failures that are related are handled alike. -/
theorem Lockstep.tryCatch {handle handle' : Error → Action σ α}
    (h : bond.Lockstep fails gives a b)
    (hh : ∀ e f, fails e f → bond.Lockstep fails' gives (handle e) (handle' f)) :
    bond.Lockstep fails' gives (tryCatch a handle) (tryCatch b handle') := by
  intro w v twins
  obtain ⟨together, after⟩ := h w v twins
  rw [run_tryCatch, run_tryCatch]
  generalize a.run.run w = first at together after ⊢
  generalize b.run.run v = second at together after ⊢
  obtain ⟨x, w'⟩ := first
  obtain ⟨y, v'⟩ := second
  cases together with
  | error failed => exact hh _ _ failed w' v' after
  | ok given => exact ⟨.ok given, after⟩

/-- Whatever is reported, it has to be the same. -/
theorem lockstep_report (event : Event) :
    bond.Lockstep fails Anyhow (report event) (report event) := by
  intro w v twins
  exact ⟨.ok trivial, twins.report [event]⟩

/-- Random bytes are related in number only. -/
theorem lockstep_draw (n : Nat) :
    bond.Lockstep fails (fun x y => x.length = n ∧ y.length = n) (draw n) (draw n) := by
  intro w v twins
  rw [run_draw, run_draw]
  refine ⟨.ok ⟨Entropy.length_peek _ _, Entropy.length_peek _ _⟩, twins.log, twins.volume, ?_, ?_⟩
  · exact twins.left.of_eq rfl rfl
  · exact twins.right.of_eq rfl rfl

/-! ## Keys -/

/-- Both find the key that the id leads to, or report the same of it. -/
theorem lockstep_resolveKey (id : Option String) :
    bond.Lockstep Eq (fun k l => k = l ∧ bond.find id = .ok k) (resolveKey bond.vault.hosting id)
      (resolveKey bond.vault.hosting id) := by
  intro w v twins
  have left := twins.left.resolve id
  have right := twins.right.resolve id
  have eq : bond.find id = (Key.resolve w.environment bond.vault.hosting w.keys id).1 :=
    (congrFun twins.left.find id).symm
  have equal : bond.find id = (Key.resolve v.environment bond.vault.hosting v.keys id).1 :=
    (congrFun twins.right.find id).symm
  generalize found : Key.resolve w.environment bond.vault.hosting w.keys id = x at left eq
  generalize found' : Key.resolve v.environment bond.vault.hosting v.keys id = y at right equal
  obtain ⟨answer, keys⟩ := x
  obtain ⟨answer', keys'⟩ := y
  obtain rfl : answer = answer' := eq.symm.trans equal
  -- the same key is given, or the same events are reported
  cases answer with
  | ok key =>
    rw [run_resolveKey_of_ok found, run_resolveKey_of_ok found']
    exact ⟨.ok ⟨rfl, eq⟩, twins.log, twins.volume, left, right⟩
  | error fault =>
    rw [run_resolveKey_of_error found, run_resolveKey_of_error found']
    have after : bond.Twins { w with keys := keys } { v with keys := keys' } :=
      ⟨twins.log, twins.volume, left, right⟩
    exact ⟨.error rfl, after.report fault.events⟩

/-- A key that was found, which can be used, and is found under its own id. -/
structure Found (bond : Bond σ) (id : Option String) (key : Key) : Prop where
  found : bond.find id = .ok (some key)
  named : key.id ≠ ""
  proper : key.bytes.length ∈ Aes.keyLengths
  again : bond.find (some key.id) = .ok (some key)

/-- Whoever asks for a key gets it in both, and can use it, or is told the same fault in both. -/
theorem lockstep_keyFor (id : Option String) :
    bond.Lockstep Eq (fun k l => k = l ∧ bond.Found id k)
      (Converter.keyFor bond.vault.hosting id) (Converter.keyFor bond.vault.hosting id) := by
  have looked : bond.Lockstep Eq (fun k l => k = l ∧ ∀ key, k = some key → bond.Found id key)
      (resolveKey bond.vault.hosting id) (resolveKey bond.vault.hosting id) := by
    intro w v twins
    obtain ⟨together, after⟩ := lockstep_resolveKey id w v twins
    refine ⟨together.mono (fun _ _ eq => eq) ?_, after⟩
    rintro k l ⟨eq, found⟩
    refine ⟨eq, ?_⟩
    rintro key rfl
    -- a world is needed to tell that what ids lead to is sound
    have finds : w.find bond.vault.hosting id = .ok (some key) := by rw [twins.left.find, found]
    obtain ⟨named, proper, again⟩ := World.find_id_of_found twins.left.sound finds
    rw [twins.left.find] at again
    exact ⟨found, named, proper, again⟩
  refine looked.bind ?_
  rintro k l ⟨rfl, found⟩
  cases k with
  | none => exact lockstep_throw rfl
  | some key => exact lockstep_pure ⟨rfl, found key rfl⟩

/-! ## Secrets -/

/-- A blob that can be deciphered. -/
def Opens (key : List UInt8) (blob : String) : Prop := ∃ text, Blob.decrypt blob key = .ok text

/-- Whatever is enciphered under a proper key can be deciphered. -/
theorem lockstep_encrypt {key : List UInt8} (proper : key.length ∈ Aes.keyLengths)
    (text other : String) :
    bond.Lockstep fails (fun x y => Opens key x ∧ Opens key y) (encrypt key text)
      (encrypt key other) := by
  refine (lockstep_draw Cbc.blockLength).bind ?_
  rintro iv iv' ⟨block, block'⟩
  obtain ⟨blob, made⟩ := Blob.exists_encrypt proper iv text
  obtain ⟨blob', made'⟩ := Blob.exists_encrypt proper iv' other
  rw [made, made']
  exact lockstep_pure ⟨⟨_, Blob.decrypt_encrypt block made⟩, ⟨_, Blob.decrypt_encrypt block' made'⟩⟩

/-- Of an enciphered secret the value can be had if its blob opens under the key that it names. -/
theorem opens_iff_of_found {find : Key.Lookup} {s : Secret} {id : String} {key : Key}
    (enciphered : s.isEncrypted = true) (named : s.keyId? = some id)
    (found : find (some id) = .ok (some key)) :
    (∃ value, Vault.plainValue find s = .ok value) ↔ Opens key.bytes s.value := by
  rw [Vault.plainValue_of_found enciphered named found, Opens]
  cases Blob.decrypt s.value key.bytes with
  | ok text => exact ⟨fun _ => ⟨text, rfl⟩, fun _ => ⟨text, rfl⟩⟩
  | error fault =>
    constructor
    · rintro ⟨_, opened⟩
      cases opened
    · rintro ⟨_, opened⟩
      cases opened

/-- Secrets that are alike are read, both of them, or neither. -/
theorem lockstep_read {s t : Secret} (alike : s.Alike bond.find t) :
    bond.Lockstep Anyhow Anyhow (bond.vault.read s) (bond.vault.read t) := by
  unfold Vault.read Vault.converter
  rw [alike.isEncrypted]
  cases enciphered : t.isEncrypted with
  | false => exact lockstep_pure trivial
  | true =>
    have eq : s.keyId? = t.keyId? := by rw [Secret.keyId?, Secret.keyId?, alike.keyId]
    show bond.Lockstep _ _ (Converter.decipherValue _ s) (Converter.decipherValue _ t)
    rw [Converter.decipherValue, Converter.decipherValue, eq]
    cases named : t.keyId? with
    | none => exact lockstep_throw trivial
    | some id =>
      refine (lockstep_keyFor (some id)).loosen.bind ?_
      rintro key _ ⟨rfl, found⟩
      have both := alike.opens
      rw [opens_iff_of_found (alike.isEncrypted.trans enciphered) (eq.trans named) found.found,
        opens_iff_of_found enciphered named found.found] at both
      rw [decrypt, decrypt]
      -- both blobs open under the key, or neither does
      cases left : Blob.decrypt s.value key.bytes with
      | ok text =>
        obtain ⟨text', right⟩ := both.1 ⟨text, left⟩
        rw [right]
        exact lockstep_pure trivial
      | error fault =>
        cases right : Blob.decrypt t.value key.bytes with
        | ok text' =>
          obtain ⟨text, opened⟩ := both.2 ⟨text', right⟩
          rw [left] at opened
          cases opened
        | error fault' => exact lockstep_throw trivial

/-- Of plain secrets of one name alike secrets are made, whatever their values. -/
theorem lockstep_write (name value other : String) :
    bond.Lockstep Eq (Secret.Alike bond.find) (bond.vault.write (.plaintext name value))
      (bond.vault.write (.plaintext name other)) := by
  unfold Vault.write Vault.converter
  cases bond.vault.encrypts with
  | false =>
    refine lockstep_pure ⟨rfl, rfl, rfl, ?_⟩
    exact ⟨fun _ => ⟨other, rfl⟩, fun _ => ⟨value, rfl⟩⟩
  | true =>
    refine (lockstep_keyFor none).bind ?_
    rintro key _ ⟨rfl, found⟩
    refine (lockstep_encrypt found.proper value other).bind ?_
    rintro blob blob' ⟨opens, opens'⟩
    -- the record names the key that was found, which is found again by that name
    refine lockstep_pure ⟨rfl, rfl, rfl, ?_⟩
    rw [opens_iff_of_found rfl (Secret.keyId?_encrypted found.named) found.again,
      opens_iff_of_found rfl (Secret.keyId?_encrypted found.named) found.again]
    exact ⟨fun _ => opens', fun _ => opens⟩

/-! ## Generated secrets -/

/-- A key is made of random bytes, so that it may differ in its value. -/
theorem lockstep_secret (name : String) :
    bond.Lockstep Eq (Secret.Alike bond.find) (Generation.secret bond.vault name)
      (Generation.secret bond.vault name) := by
  have drawn : bond.Lockstep Eq Anyhow (Generation.value : Action σ String)
      Generation.value :=
    (lockstep_draw _).bind fun _ _ _ => lockstep_pure trivial
  exact drawn.bind fun value other _ => lockstep_write name value other

theorem lockstep_generateHost :
    bond.Lockstep Eq (HostSecrets.Alike bond.find) (Generation.host bond.vault)
      (Generation.host bond.vault) :=
  (lockstep_secret masterKeyName).bind fun _ _ master =>
    (lockstep_secret hostFunctionKeyName).bind fun _ _ function =>
      lockstep_pure ⟨master, .cons function .nil⟩

theorem lockstep_generateFunction :
    bond.Lockstep Eq (List.Forall₂ (Secret.Alike bond.find)) (Generation.function bond.vault)
      (Generation.function bond.vault) :=
  (lockstep_secret defaultKeyName).bind fun _ _ key => lockstep_pure (.cons key .nil)

end Bond

end Lockbox
