import Lockbox.Proofs.Path
import Lockbox.Volume

/-!
# Steady directories

What can be relied on of the files of a directory, where nothing fails for a passing reason and no
file is a link to another: each file has a state, which alone decides what is read and whether the
file can be written; a call touches no state but that of its own file, and not even that if it
fails; and what was written is there to be read.
-/

namespace Lockbox

/-- The laws of the files of a directory, for volumes that are fit. -/
structure Steady (σ : Type) [Volume σ] (dir : Path) where
  /-- All that there is to tell of one file. -/
  State : Type
  /-- The present state of the file of a name. -/
  state : σ → FileName → State
  Fit : σ → Prop
  read_congr : ∀ {v u : σ} {n : FileName}, Fit v → Fit u → n.IsProper → state v n = state u n →
    Volume.read v (dir.join n) = Volume.read u (dir.join n)
  write_congr : ∀ {v u : σ} {n : FileName} (bytes : List UInt8), Fit v → Fit u → n.IsProper →
    state v n = state u n →
    (Volume.write (dir.join n) bytes v).1 = (Volume.write (dir.join n) bytes u).1
  write_failed : ∀ {v : σ} {n : FileName} {bytes : List UInt8} {fault : OsFault}, Fit v →
    n.IsProper → (Volume.write (dir.join n) bytes v).1 = .error fault →
    (Volume.write (dir.join n) bytes v).2 = v
  /-- A file that could be read, or was made, holds what was written. -/
  read_written : ∀ {v : σ} {n : FileName} {bytes : List UInt8}, Fit v → n.IsProper →
    ((∃ old, Volume.read v (dir.join n) = .ok old) ∨
      Volume.read v (dir.join n) = .error .notFound) →
    (Volume.write (dir.join n) bytes v).1 = .ok () →
    Volume.read (Volume.write (dir.join n) bytes v).2 (dir.join n) = .ok bytes
  fit_write : ∀ {v : σ} {n : FileName} (bytes : List UInt8), Fit v → n.IsProper →
    Fit (Volume.write (dir.join n) bytes v).2
  state_write : ∀ {v : σ} {m n : FileName} (bytes : List UInt8), Fit v → m.IsProper →
    n.IsProper → m ≠ n → state (Volume.write (dir.join n) bytes v).2 m = state v m
  fit_remove : ∀ {v : σ} {n : FileName}, Fit v → n.IsProper →
    Fit (Volume.remove (dir.join n) v).2
  state_remove : ∀ {v : σ} {m n : FileName}, Fit v → m.IsProper → n.IsProper → m ≠ n →
    state (Volume.remove (dir.join n) v).2 m = state v m
  remove_failed : ∀ {v : σ} {n : FileName} {fault : OsFault}, Fit v → n.IsProper →
    (Volume.remove (dir.join n) v).1 = .error fault →
    state (Volume.remove (dir.join n) v).2 n = state v n
  /-- A listing gives names of files. -/
  isProper_of_list : ∀ {v : σ} {entries : List (Except OsFault Entry)} {entry : Entry}, Fit v →
    Volume.list v dir = .ok entries → .ok entry ∈ entries → entry.name.IsProper

namespace Steady

variable {σ : Type} [Volume σ] {dir : Path} (steady : Steady σ dir)

/-- A volume that is fit, with all files but one in the state that they were in. -/
structure Spares (n : FileName) (v u : σ) : Prop where
  fit : steady.Fit u
  state : ∀ m : FileName, m.IsProper → m ≠ n → steady.state u m = steady.state v m

variable {steady} {n : FileName} {v u : σ}

theorem Spares.refl (n : FileName) (fit : steady.Fit v) : steady.Spares n v v :=
  ⟨fit, fun _ _ _ => rfl⟩

theorem spares_write (fit : steady.Fit v) (proper : n.IsProper) (bytes : List UInt8) :
    steady.Spares n v (Volume.write (dir.join n) bytes v).2 :=
  ⟨steady.fit_write bytes fit proper, fun _ proper' distinct =>
    steady.state_write bytes fit proper' proper distinct⟩

theorem spares_remove (fit : steady.Fit v) (proper : n.IsProper) :
    steady.Spares n v (Volume.remove (dir.join n) v).2 :=
  ⟨steady.fit_remove fit proper, fun _ proper' distinct =>
    steady.state_remove fit proper' proper distinct⟩

end Steady

end Lockbox
