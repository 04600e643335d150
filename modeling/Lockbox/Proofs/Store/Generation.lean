import Lockbox.Proofs.Store.Load
import Lockbox.Proofs.Vault.Concealment

/-!
# Making keys

Where keys are enciphered they are made one after another, and making them stops at the first that
cannot be enciphered (`Refused`): the default key is not found, or is not one to encipher with.
Nothing else goes wrong, and what is made is encrypted:

    answer_host_eq_error_iff : ((host vault).run.run w).1 = .error e ↔
      Refused vault [masterKeyName, hostFunctionKeyName] w e
-/

namespace Lockbox

namespace Action

variable {σ : Type}

/-- What fails as a whole fails in its first step or after it. -/
theorem run_bind_eq_error_iff {α β : Type} {a : Action σ α} {f : α → Action σ β} {w : World σ}
    {e : Error} : ((a >>= f).run.run w).1 = .error e ↔ (a.run.run w).1 = .error e ∨
      ∃ x v, a.run.run w = (.ok x, v) ∧ ((f x).run.run v).1 = .error e := by
  cases started : a.run.run w with
  | mk answer v =>
    cases answer with
    | error other =>
      rw [run_bind_of_error started]
      constructor
      · intro fails
        cases fails
        exact .inl rfl
      · rintro (fails | ⟨x, u, made, -⟩)
        · cases fails
          rfl
        · cases made
    | ok x =>
      rw [run_bind_of_ok started]
      constructor
      · exact fun fails => .inr ⟨x, v, rfl, fails⟩
      · rintro (eq | ⟨y, u, made, fails⟩)
        · cases eq
        · cases made
          exact fails

end Action

namespace Generation

variable {σ : Type} {vault : Vault} {w v : World σ} {name : String} {names : List String}
  {e : Error}

def nextValue (w : World σ) : String := valueOf (w.entropy.peek valueBytes)

def nextBlock (w : World σ) : List UInt8 := (w.entropy.advance valueBytes).peek Cbc.blockLength

/-- How keys of some names fail to be made one after another where keys are enciphered: no key is
found to encipher one of them with, or it is not one to encipher with. -/
inductive Refused (vault : Vault) : List String → World σ → Error → Prop
  | fault {name : String} {names : List String} {w : World σ} {fault : Key.Fault}
    (found : w.find vault.hosting none = .error fault) :
    Refused vault (name :: names) w fault.error
  | absent {name : String} {names : List String} {w : World σ}
    (found : w.find vault.hosting none = .ok none) :
    Refused vault (name :: names) w (.keyMissing Key.defaultId)
  | cipher {name : String} {names : List String} {w : World σ} {key : Key} {fault : CipherFault}
    (found : w.find vault.hosting none = .ok (some key))
    (fails : Blob.encrypt (nextBlock w) key.bytes (nextValue w) = .error fault) :
    Refused vault (name :: names) w (.cipher fault)
  | later {name : String} {names : List String} {w v : World σ} {s : Secret} {e : Error}
    (made : (secret vault name).run.run w = (.ok s, v)) (fails : Refused vault names v e) :
    Refused vault (name :: names) w e

/-! ## One key -/

/-- What making a key answers where keys are enciphered. -/
theorem answer_secret (encrypts : vault.encrypts = true) (name : String) (w : World σ) :
    ((secret vault name).run.run w).1 = match w.find vault.hosting none with
      | .error fault => .error fault.error
      | .ok none => .error (.keyMissing Key.defaultId)
      | .ok (some key) =>
        ((Blob.encrypt (nextBlock w) key.bytes (nextValue w)).mapError Error.cipher).map
          fun blob => .encrypted name blob key.id := by
  have drawn : (value : Action σ String).run.run w =
      (.ok (nextValue w), { w with entropy := w.entropy.advance valueBytes }) := rfl
  obtain ⟨u, hushed, runs⟩ := Converter.told_keyFor none
    { w with entropy := w.entropy.advance valueBytes }
  have finds : World.find vault.hosting { w with entropy := w.entropy.advance valueBytes } =
      w.find vault.hosting := rfl
  rw [finds] at runs
  dsimp only at runs
  rw [Converter.keyAt] at runs
  rw [secret, Action.run_bind_of_ok drawn, Vault.write, Vault.converter, encrypts]
  show ((Converter.encipherValue vault.hosting (.plaintext name (nextValue w))).run.run
    { w with entropy := w.entropy.advance valueBytes }).1 = _
  rw [Converter.encipherValue]
  cases found : w.find vault.hosting none with
  | error fault =>
    rw [found] at runs
    exact congrArg Prod.fst (Action.run_bind_of_error runs _)
  | ok key =>
    cases key with
    | none =>
      rw [found] at runs
      exact congrArg Prod.fst (Action.run_bind_of_error runs _)
    | some key =>
      rw [found] at runs
      -- looking up the key has drawn nothing
      have block : u.entropy.peek Cbc.blockLength = nextBlock w := by
        rw [← hushed.entropy]
        rfl
      have enciphered := Action.run_encrypt key.bytes (nextValue w) u
      rw [block] at enciphered
      refine (congrArg Prod.fst (Action.run_bind_of_ok runs _)).trans ?_
      dsimp only
      cases made : Blob.encrypt (nextBlock w) key.bytes (nextValue w) with
      | error fault =>
        rw [made] at enciphered
        exact congrArg Prod.fst (Action.run_bind_of_error enciphered _)
      | ok blob =>
        rw [made] at enciphered
        exact congrArg Prod.fst (Action.run_bind_of_ok enciphered _)

theorem answer_secret_eq_error_iff (encrypts : vault.encrypts = true) :
    ((secret vault name).run.run w).1 = .error e ↔ Refused vault [name] w e := by
  constructor
  · intro fails
    rw [answer_secret encrypts] at fails
    split at fails
    · next fault found =>
      cases fails
      exact .fault found
    · next found =>
      cases fails
      exact .absent found
    · next key found =>
      cases made : Blob.encrypt (nextBlock w) key.bytes (nextValue w) with
      | error fault =>
        rw [made] at fails
        cases fails
        exact .cipher found made
      | ok blob =>
        rw [made] at fails
        cases fails
  · intro refused
    rw [answer_secret encrypts]
    cases refused with
    | fault found => rw [found]
    | absent found => rw [found]
    | cipher found fails =>
      rw [found]
      dsimp only
      rw [fails]
      rfl
    | later _ fails => cases fails

theorem isEncrypted_of_secret (encrypts : vault.encrypts = true) {t : Secret}
    (made : (secret vault name).run.run w = (.ok t, v)) : t.isEncrypted = true := by
  obtain ⟨value, u, -, written⟩ := Action.run_bind_eq_ok made
  rcases Vault.write_eq_ok written with ⟨plain, -⟩ | ⟨_, _, _, -, -, -, -, rfl⟩
  · exact absurd (plain.symm.trans encrypts) Bool.false_ne_true
  · rfl

/-- A key is made if the default key is found. -/
theorem not_refused_of_found {names : List String} (sound : w.keys.Sound) {key : Key}
    (found : w.find vault.hosting none = .ok (some key)) : ¬ Refused vault names w e := by
  intro refused
  induction refused generalizing key with
  | fault fails => cases fails.symm.trans found
  | absent absent => cases absent.symm.trans found
  | @cipher _ _ w key _ finds fails =>
    obtain ⟨-, proper, -⟩ := World.find_id_of_found sound finds
    obtain ⟨blob, made⟩ := Blob.exists_encrypt proper (nextBlock w) (nextValue w)
    cases made.symm.trans fails
  | @later name _ _ _ _ _ made _ ih =>
    have quiet := (Load.orderly_secret vault name).quiet_of_run made
    rw [quiet.find] at found
    exact ih (quiet.sound sound) found

/-! ## All keys of a scope -/

/-- Keys are refused if the first of them is, or if it is made and the others are refused. -/
theorem refused_cons_iff (encrypts : vault.encrypts = true) :
    Refused vault (name :: names) w e ↔ ((secret vault name).run.run w).1 = .error e ∨
      ∃ s v, (secret vault name).run.run w = (.ok s, v) ∧ Refused vault names v e := by
  rw [answer_secret_eq_error_iff encrypts]
  constructor
  · intro refused
    cases refused with
    | fault found => exact .inl (.fault found)
    | absent found => exact .inl (.absent found)
    | cipher found fails => exact .inl (.cipher found fails)
    | later made fails => exact .inr ⟨_, _, made, fails⟩
  · rintro (refused | ⟨s, v, made, fails⟩)
    · cases refused with
      | fault found => exact .fault found
      | absent found => exact .absent found
      | cipher found fails => exact .cipher found fails
      | later _ fails => cases fails
    · exact .later made fails

theorem answer_host_eq_error_iff (encrypts : vault.encrypts = true) :
    ((host vault).run.run w).1 = .error e ↔
      Refused vault [masterKeyName, hostFunctionKeyName] w e := by
  rw [refused_cons_iff encrypts, host, Action.run_bind_eq_error_iff]
  refine or_congr_right (exists_congr fun s => exists_congr fun v => and_congr_right fun _ => ?_)
  rw [Action.run_bind_eq_error_iff, ← answer_secret_eq_error_iff encrypts]
  constructor
  · rintro (fails | ⟨t, u, -, done⟩)
    · exact fails
    · cases done
  · exact .inl

theorem answer_function_eq_error_iff (encrypts : vault.encrypts = true) :
    ((function vault).run.run w).1 = .error e ↔ Refused vault [defaultKeyName] w e := by
  rw [function, Action.run_bind_eq_error_iff, ← answer_secret_eq_error_iff encrypts]
  constructor
  · rintro (fails | ⟨t, u, -, done⟩)
    · exact fails
    · cases done
  · exact .inl

theorem isEncrypted_of_host (encrypts : vault.encrypts = true) {secrets : HostSecrets}
    (made : (host vault).run.run w = (.ok secrets, v)) :
    secrets.masterKey.isEncrypted = true ∧ ∀ s ∈ secrets.functionKeys, s.isEncrypted = true := by
  obtain ⟨master, u, first, made⟩ := Action.run_bind_eq_ok made
  obtain ⟨function, u', second, made⟩ := Action.run_bind_eq_ok made
  cases made
  refine ⟨isEncrypted_of_secret encrypts first, ?_⟩
  intro s mem
  rw [List.mem_singleton.1 mem]
  exact isEncrypted_of_secret encrypts second

theorem isEncrypted_of_function (encrypts : vault.encrypts = true) {secrets : List Secret}
    (made : (function vault).run.run w = (.ok secrets, v)) :
    ∀ s ∈ secrets, s.isEncrypted = true := by
  obtain ⟨key, u, first, made⟩ := Action.run_bind_eq_ok made
  cases made
  intro s mem
  rw [List.mem_singleton.1 mem]
  exact isEncrypted_of_secret encrypts first

end Generation

end Lockbox
