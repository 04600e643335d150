import Lockbox.Proofs.Lockstep
import Lockbox.Proofs.Store.Opening
import Lockbox.Proofs.Volume.Likeness

/-!
# Loads in lockstep

Over volumes that differ in documents that are alike, loads are in lockstep: documents are read,
brought up to date or made in both, what is reported tells no value, and either every secret can be
read in both or one cannot in both:

    lockstep_host path : (bond vault likeness).Lockstep … (host vault path) (host vault path)

Loads are given by a form of documents, which has to make nothing of values (`Discreet`).
-/

namespace Lockbox

/-! ## Loads -/

namespace Load

open Document (Bytes)

variable {σ α : Type} [Volume σ] {find : Key.Lookup}

/-- What runs over volumes have in common that differ in documents that are alike. -/
def bond (vault : Vault) (likeness : Likeness σ (Bytes (Document.Alike find))) : Bond σ :=
  ⟨vault, find, likeness.Like⟩

variable {vault : Vault} {likeness : Likeness σ (Bytes (Document.Alike find))}

/-- Both files hold texts that are alike, or neither holds one, for the same reason. -/
theorem lockstep_readIfThere (p : Path) :
    (bond vault likeness).Lockstep Eq (Option.Rel (Document.Alike find)) (readIfThere p)
      (readIfThere p) := by
  intro w v twins
  rw [run_readIfThere, run_readIfThere]
  refine ⟨?_, twins⟩
  have read := likeness.read p twins.volume
  rw [textAt, textAt]
  generalize Volume.read w.volume p = x at read
  generalize Volume.read v.volume p = y at read
  -- neither can be read, or both are bytes that are alike
  cases read with
  | @error fault _ eq =>
    cases eq
    cases fault with
    | notFound => exact .ok .none
    | _ => exact .error rfl
  | @ok bytes other contents =>
    have texts := Bytes.decode (Document.Alike.refl find) contents
    dsimp only
    generalize Utf8.decode bytes = t at texts
    generalize Utf8.decode other = u at texts
    cases texts with
    | none => exact .error rfl
    | some alike => exact .ok (.some alike)

omit [Volume σ] in
theorem lockstep_liftFormat {like : α → α → Prop} {bond : Bond σ} {x y : Except FormatFault α}
    (h : Together Anyhow like x y) : bond.Lockstep Anyhow like (liftFormat x) (liftFormat y) := by
  cases h with
  | error _ => exact Bond.lockstep_throw trivial
  | ok given => exact Bond.lockstep_pure given

theorem lockstep_writeText (p : Path) {text other : String}
    (alike : Document.Alike find text other) :
    (bond vault likeness).Lockstep Eq Anyhow (writeText p text) (writeText p other) := by
  intro w v twins
  obtain ⟨eq, like⟩ := likeness.write p twins.volume (Bytes.encode alike)
  rw [run_writeText, run_writeText, eq]
  refine ⟨?_, twins.change like⟩
  exact .refl (fun _ => rfl) (fun _ => trivial) _

/-- Whether a document was brought up to date is reported of both alike. -/
theorem lockstep_upgrade (p : Path) (version : Version) {text other : String}
    (alike : Document.Alike find text other) :
    (bond vault likeness).Lockstep Anyhow Anyhow (upgrade p version (.ok text))
      (upgrade p version (.ok other)) := by
  have lifted : (bond vault likeness).Lockstep Eq (Document.Alike find) (liftFormat (.ok text))
      (liftFormat (.ok other)) := Bond.lockstep_pure alike
  have written := lifted.bind fun x y given => (lockstep_writeText p given).bind fun _ _ _ =>
    Bond.lockstep_report (upgraded p version)
  refine written.tryCatch ?_
  -- the message is that of the fault, which is the same
  rintro e _ rfl
  exact Bond.lockstep_report (notUpgraded p version e)

/-- A form of documents that makes nothing of values: of documents that are alike it reads what is
alike, of what is alike it writes documents that are alike and reports the same. -/
structure Discreet (bond : Bond σ) (form : Form σ α) (like : α → α → Prop) : Prop where
  read : ∀ {t u : String}, Document.Alike bond.find t u →
    Together Anyhow (Document.Decoded.Alike like) (form.read t) (form.read u)
  write : ∀ {a b : α}, like a b → ∃ t u, form.write a = .ok t ∧ form.write b = .ok u ∧
    Document.Alike bond.find t u
  generate : bond.Lockstep Eq like form.generate form.generate
  generated : ∀ {a b : α}, like a b → form.generated a = form.generated b

/-- The form of the host reports whether the keys were enciphered, which is the same in both. -/
theorem discreet_host :
    Discreet (bond vault likeness) (hostForm vault) (HostSecrets.Alike find) where
  read := fun alike => alike.host
  write := fun alike => ⟨_, _, rfl, rfl, Document.alike_writeHost alike⟩
  generate := Bond.lockstep_generateHost
  generated := by
    intro a b alike
    rw [hostForm]
    dsimp only
    rw [alike.masterKey.isEncrypted]

theorem any_isEncrypted {a b : List Secret} (alike : List.Forall₂ (Secret.Alike find) a b) :
    a.any (·.isEncrypted) = b.any (·.isEncrypted) := by
  induction alike with
  | nil => rfl
  | cons first _ ih => rw [List.any_cons, List.any_cons, first.isEncrypted, ih]

theorem discreet_function (name : String) :
    Discreet (bond vault likeness) (functionForm vault name)
      (List.Forall₂ (Secret.Alike find)) where
  read := fun alike => alike.function
  write := fun alike => ⟨_, _, rfl, rfl, Document.alike_writeFunction alike⟩
  generate := Bond.lockstep_generateFunction
  generated := by
    intro a b alike
    rw [functionForm]
    dsimp only
    rw [any_isEncrypted alike]

/-- Whether a document is there, and of which version, is the same in both. -/
theorem lockstep_document {form : Form σ α} {like : α → α → Prop}
    (discreet : Discreet (bond vault likeness) form like) (p : Path) :
    (bond vault likeness).Lockstep Anyhow like (document form p) (document form p) := by
  refine (lockstep_readIfThere p).loosen.bind fun x y texts => ?_
  -- both documents are there, or neither is
  cases texts with
  | some alike =>
    refine (lockstep_liftFormat (discreet.read alike)).bind fun d e decoded => ?_
    have outdated : d.isOutdated = e.isOutdated := by
      rw [Document.Decoded.isOutdated, Document.Decoded.isOutdated, decoded.version]
    obtain ⟨t, u, left, right, written⟩ := discreet.write decoded.secrets
    -- both are brought up to date, or neither is
    dsimp only
    rw [outdated, decoded.version, left, right]
    split
    · exact (lockstep_upgrade p _ written).bind fun _ _ _ => Bond.lockstep_pure decoded.secrets
    · exact Bond.lockstep_pure decoded.secrets
  | none =>
    refine discreet.generate.loosen.bind fun a b alike => ?_
    obtain ⟨t, u, left, right, written⟩ := discreet.write alike
    rw [left, right, discreet.generated alike]
    refine (lockstep_writeText p written).loosen.bind fun _ _ _ => ?_
    exact (Bond.lockstep_report _).bind fun _ _ _ => Bond.lockstep_pure alike

/-- Secrets that are alike one by one have the same names. -/
theorem lockstep_resolveKeys {a b : List Secret} (alike : List.Forall₂ (Secret.Alike find) a b) :
    (bond vault likeness).Lockstep Anyhow Anyhow (resolveKeys vault a) (resolveKeys vault b) := by
  unfold resolveKeys
  generalize ([] : List String) = seen
  -- on the secrets, whose names are the same in both
  induction alike generalizing seen with
  | nil => exact Bond.lockstep_pure trivial
  | cons first _ ih =>
    unfold resolveAfter
    dsimp only
    rw [first.name]
    split
    · exact Bond.lockstep_throw trivial
    · refine (Bond.lockstep_read first).bind fun _ _ _ => ?_
      exact (ih _).bind fun _ _ _ => Bond.lockstep_pure trivial

/-- Loads of the host fail together or succeed together. -/
theorem lockstep_host (path : Path) :
    (bond vault likeness).Lockstep Anyhow Anyhow (host vault path) (host vault path) := by
  refine (lockstep_document discreet_host _).bind fun a b alike => ?_
  refine (Bond.lockstep_read alike.masterKey).bind fun _ _ _ => ?_
  exact (lockstep_resolveKeys alike.functionKeys).bind fun _ _ _ => Bond.lockstep_pure trivial

theorem lockstep_function (path : Path) (name : String) :
    (bond vault likeness).Lockstep Anyhow Anyhow (function vault path name)
      (function vault path name) :=
  (lockstep_document (discreet_function name) _).bind fun _ _ alike => lockstep_resolveKeys alike

end Load

end Lockbox
