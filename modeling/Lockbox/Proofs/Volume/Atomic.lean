import Lockbox.Proofs.Volume.Steady

/-!
# Directories of files that change at once

What can be relied on of the files of a directory where a file is replaced or removed at once or not
at all: each file has a content, which a successful read gives; and a call touches no content but
that of its own file, and not even that if it fails. Calls may fail for any reason. A steady
directory is of this kind (`Steady.atomic`).
-/

namespace Lockbox

/-- The laws of the contents of files in a directory, for volumes that are fit. -/
structure Atomic (σ : Type) [Volume σ] (dir : Path) where
  /-- The bytes of the file of a name, if there is a file. -/
  content : σ → FileName → Option (List UInt8)
  Fit : σ → Prop
  content_of_read : ∀ {v : σ} {n : FileName} {bytes : List UInt8}, Fit v → n.IsProper →
    Volume.read v (dir.join n) = .ok bytes → content v n = some bytes
  fit_write : ∀ {v : σ} {n : FileName} (bytes : List UInt8), Fit v → n.IsProper →
    Fit (Volume.write (dir.join n) bytes v).2
  content_write : ∀ {v : σ} {m n : FileName} (bytes : List UInt8), Fit v → m.IsProper →
    n.IsProper → m ≠ n → content (Volume.write (dir.join n) bytes v).2 m = content v m
  write_failed : ∀ {v : σ} {n : FileName} {bytes : List UInt8} {fault : OsFault}, Fit v →
    n.IsProper → (Volume.write (dir.join n) bytes v).1 = .error fault →
    content (Volume.write (dir.join n) bytes v).2 n = content v n
  fit_remove : ∀ {v : σ} {n : FileName}, Fit v → n.IsProper →
    Fit (Volume.remove (dir.join n) v).2
  content_remove : ∀ {v : σ} {m n : FileName}, Fit v → m.IsProper → n.IsProper → m ≠ n →
    content (Volume.remove (dir.join n) v).2 m = content v m
  remove_failed : ∀ {v : σ} {n : FileName} {fault : OsFault}, Fit v → n.IsProper →
    (Volume.remove (dir.join n) v).1 = .error fault →
    content (Volume.remove (dir.join n) v).2 n = content v n

namespace Atomic

variable {σ : Type} [Volume σ] {dir : Path} (atomic : Atomic σ dir)

/-- A volume that is fit, with the contents of all files but one as they were. -/
structure Spares (n : FileName) (v u : σ) : Prop where
  fit : atomic.Fit u
  content : ∀ m : FileName, m.IsProper → m ≠ n → atomic.content u m = atomic.content v m

/-- A volume that is fit, with the contents of all files as they were. -/
structure Retains (v u : σ) : Prop where
  fit : atomic.Fit u
  content : ∀ m : FileName, m.IsProper → atomic.content u m = atomic.content v m

variable {atomic} {n : FileName} {v u : σ}

theorem Retains.refl (fit : atomic.Fit v) : atomic.Retains v v := ⟨fit, fun _ _ => rfl⟩

theorem Spares.retains (h : atomic.Spares n v u)
    (unchanged : atomic.content u n = atomic.content v n) : atomic.Retains v u := by
  refine ⟨h.fit, ?_⟩
  intro m proper
  by_cases eq : m = n
  · rw [eq, unchanged]
  · exact h.content m proper eq

theorem spares_write (fit : atomic.Fit v) (proper : n.IsProper) (bytes : List UInt8) :
    atomic.Spares n v (Volume.write (dir.join n) bytes v).2 :=
  ⟨atomic.fit_write bytes fit proper, fun _ proper' distinct =>
    atomic.content_write bytes fit proper' proper distinct⟩

theorem retains_of_write_failed (fit : atomic.Fit v) (proper : n.IsProper) {bytes : List UInt8}
    {fault : OsFault} (fails : (Volume.write (dir.join n) bytes v).1 = .error fault) :
    atomic.Retains v (Volume.write (dir.join n) bytes v).2 :=
  (spares_write fit proper bytes).retains (atomic.write_failed fit proper fails)

theorem spares_remove (fit : atomic.Fit v) (proper : n.IsProper) :
    atomic.Spares n v (Volume.remove (dir.join n) v).2 :=
  ⟨atomic.fit_remove fit proper, fun _ proper' distinct =>
    atomic.content_remove fit proper' proper distinct⟩

theorem retains_of_remove_failed (fit : atomic.Fit v) (proper : n.IsProper) {fault : OsFault}
    (fails : (Volume.remove (dir.join n) v).1 = .error fault) :
    atomic.Retains v (Volume.remove (dir.join n) v).2 :=
  (spares_remove fit proper).retains (atomic.remove_failed fit proper fails)

end Atomic

namespace Steady

variable {σ : Type} [Volume σ] {dir : Path} (steady : Steady σ dir)

/-- The bytes that are read of a file, if it can be read. -/
def readable (dir : Path) (v : σ) (n : FileName) : Option (List UInt8) :=
  (Volume.read v (dir.join n)).toOption

variable {steady}

theorem readable_congr {v u : σ} {n : FileName} (hv : steady.Fit v) (hu : steady.Fit u)
    (proper : n.IsProper) (unchanged : steady.state v n = steady.state u n) :
    readable dir v n = readable dir u n := by
  rw [readable, readable, steady.read_congr hv hu proper unchanged]

/-- In a steady directory a file's state is one with what is read of it. -/
def atomic (steady : Steady σ dir) : Atomic σ dir where
  content := readable dir
  Fit := steady.Fit
  content_of_read fit proper read := by rw [readable, read]; rfl
  fit_write bytes fit proper := steady.fit_write bytes fit proper
  content_write bytes fit proper' proper distinct :=
    readable_congr (steady.fit_write bytes fit proper) fit proper'
      (steady.state_write bytes fit proper' proper distinct)
  write_failed fit proper fails := by rw [steady.write_failed fit proper fails]
  fit_remove fit proper := steady.fit_remove fit proper
  content_remove fit proper' proper distinct :=
    readable_congr (steady.fit_remove fit proper) fit proper'
      (steady.state_remove fit proper' proper distinct)
  remove_failed fit proper fails :=
    readable_congr (steady.fit_remove fit proper) fit proper
      (steady.remove_failed fit proper fails)

end Steady

end Lockbox
