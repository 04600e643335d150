import Lockbox.Proofs.Basic
import Lockbox.Volume

/-!
# Volumes that do not look into files

What can be relied on of two volumes that differ in the contents of files alone: they answer alike,
and stay alike whatever is done to both, as long as what is written to both is alike. Where contents
are of any concern to a volume, as on a disk that gets full, nothing of the kind can be said.
-/

namespace Lockbox

/-- The laws of volumes that are alike but for contents of files, which are alike in the given
way. -/
structure Likeness (σ : Type) [Volume σ] (alike : List UInt8 → List UInt8 → Prop) where
  Like : σ → σ → Prop
  read : ∀ {v u : σ} (p : Path), Like v u →
    Together Eq alike (Volume.read v p) (Volume.read u p)
  list : ∀ {v u : σ} (p : Path), Like v u → Volume.list v p = Volume.list u p
  isDirectory : ∀ {v u : σ} (p : Path), Like v u →
    Volume.isDirectory v p = Volume.isDirectory u p
  write : ∀ {v u : σ} {bytes other : List UInt8} (p : Path), Like v u → alike bytes other →
    (Volume.write p bytes v).1 = (Volume.write p other u).1 ∧
      Like (Volume.write p bytes v).2 (Volume.write p other u).2
  remove : ∀ {v u : σ} (p : Path), Like v u →
    (Volume.remove p v).1 = (Volume.remove p u).1 ∧
      Like (Volume.remove p v).2 (Volume.remove p u).2
  makeDirectory : ∀ {v u : σ} (p : Path), Like v u →
    (Volume.makeDirectory p v).1 = (Volume.makeDirectory p u).1 ∧
      Like (Volume.makeDirectory p v).2 (Volume.makeDirectory p u).2

namespace Likeness

variable {σ : Type} [Volume σ] {alike : List UInt8 → List UInt8 → Prop}
  (likeness : Likeness σ alike) {v u : σ}

theorem leadsToDirectory (h : likeness.Like v u) (p : Path) :
    Volume.leadsToDirectory v p = Volume.leadsToDirectory u p := by
  rw [Volume.leadsToDirectory, Volume.leadsToDirectory, likeness.isDirectory p h]

theorem makeLast (h : likeness.Like v u) (p : Path) :
    (Volume.makeLast p v).1 = (Volume.makeLast p u).1 ∧
      likeness.Like (Volume.makeLast p v).2 (Volume.makeLast p u).2 := by
  have made := likeness.makeDirectory p h
  rw [Volume.makeLast, Volume.makeLast]
  generalize Volume.makeDirectory p v = x at made ⊢
  generalize Volume.makeDirectory p u = y at made ⊢
  obtain ⟨done, v'⟩ := x
  obtain ⟨done', u'⟩ := y
  obtain ⟨rfl, like⟩ := made
  cases done with
  | ok _ => exact ⟨rfl, like⟩
  | error fault =>
    dsimp only
    rw [likeness.leadsToDirectory like]
    split
    · exact ⟨rfl, like⟩
    · exact ⟨rfl, like⟩

/-- The directories above are made in both, or the same fault is met. -/
theorem makeDirectoriesTo (height : Nat) (h : likeness.Like v u) (p : Path) :
    (Volume.makeDirectoriesTo p height v).1 = (Volume.makeDirectoriesTo p height u).1 ∧
      likeness.Like (Volume.makeDirectoriesTo p height v).2
        (Volume.makeDirectoriesTo p height u).2 := by
  induction height generalizing p v u with
  | zero => exact ⟨rfl, h⟩
  | succ height ih =>
    have made := likeness.makeDirectory p h
    rw [Volume.makeDirectoriesTo, Volume.makeDirectoriesTo]
    generalize Volume.makeDirectory p v = x at made ⊢
    generalize Volume.makeDirectory p u = y at made ⊢
    obtain ⟨done, v'⟩ := x
    obtain ⟨done', u'⟩ := y
    obtain ⟨rfl, like⟩ := made
    have lead := likeness.leadsToDirectory like p
    cases done with
    | ok _ => exact ⟨rfl, like⟩
    | error fault =>
      cases fault with
      | notFound =>
        -- what is missing above is made first, and may be so in part
        dsimp only
        cases p.parent? with
        | none => exact ⟨rfl, like⟩
        | some above =>
          have higher := ih like above
          dsimp only
          generalize Volume.makeDirectoriesTo above height v' = x at higher ⊢
          generalize Volume.makeDirectoriesTo above height u' = y at higher ⊢
          obtain ⟨done, v''⟩ := x
          obtain ⟨done', u''⟩ := y
          obtain ⟨rfl, like⟩ := higher
          cases done with
          | error fault => exact ⟨rfl, like⟩
          | ok _ => exact likeness.makeLast like p
      | _ =>
        dsimp only
        rw [lead]
        split
        · exact ⟨rfl, like⟩
        · exact ⟨rfl, like⟩

theorem makeDirectories (h : likeness.Like v u) (p : Path) :
    (Volume.makeDirectories p v).1 = (Volume.makeDirectories p u).1 ∧
      likeness.Like (Volume.makeDirectories p v).2 (Volume.makeDirectories p u).2 :=
  likeness.makeDirectoriesTo p.components.length h p

end Likeness

end Lockbox
