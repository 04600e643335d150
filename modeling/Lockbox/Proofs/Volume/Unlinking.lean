import Lockbox.Proofs.Path
import Lockbox.Volume

/-!
# Directories from which files are removed

What can be relied on of a directory that is listed and from which regular files are removed, of
which some may fail to be: a file that is removed is no longer listed, one that is not is as it was,
and all other entries, all other files and all that there is elsewhere stay as they are.
-/

namespace Lockbox

/-- A directory is listed, and every entry of it can be read. -/
def Volume.Lists {σ : Type} [Volume σ] (v : σ) (dir : Path) (entries : List Entry) : Prop :=
  Volume.list v dir = .ok (entries.map .ok)

def Entry.IsFile (e : Entry) : Prop := e.kind = .ok .file

open Volume (Lists)

/-- The laws of removals from a directory, for volumes that are fit. -/
structure Unlinking (σ : Type) [Volume σ] (dir : Path) where
  /-- All that there is besides the names in the directory. -/
  Rest : Type
  rest : σ → Rest
  Fit : σ → Prop
  proper : ∀ {v : σ} {entries : List Entry}, Fit v → Lists v dir entries →
    ∀ e ∈ entries, e.name.IsProper
  nodup : ∀ {v : σ} {entries : List Entry}, Fit v → Lists v dir entries →
    (entries.map Entry.name).Nodup
  fit_remove : ∀ {v : σ} {entries : List Entry} {e : Entry}, Fit v → Lists v dir entries →
    e ∈ entries → e.IsFile → Fit (Volume.remove (dir.join e.name) v).2
  rest_remove : ∀ {v : σ} {entries : List Entry} {e : Entry}, Fit v → Lists v dir entries →
    e ∈ entries → e.IsFile → rest (Volume.remove (dir.join e.name) v).2 = rest v
  /-- Other files are read as before. -/
  read_remove : ∀ {v : σ} {entries : List Entry} {e f : Entry}, Fit v → Lists v dir entries →
    e ∈ entries → e.IsFile → f ∈ entries → f.IsFile → f.name ≠ e.name →
    Volume.read (Volume.remove (dir.join e.name) v).2 (dir.join f.name) =
      Volume.read v (dir.join f.name)
  /-- A file that was removed is no longer listed. -/
  list_removed : ∀ {v : σ} {entries : List Entry} {e : Entry}, Fit v → Lists v dir entries →
    e ∈ entries → e.IsFile → (Volume.remove (dir.join e.name) v).1 = .ok () →
    ∃ left, Lists (Volume.remove (dir.join e.name) v).2 dir left ∧
      ∀ f, f ∈ left ↔ f ∈ entries ∧ f.name ≠ e.name
  /-- A file that could not be removed is still listed, and read as before. -/
  remove_failed : ∀ {v : σ} {entries : List Entry} {e : Entry} {fault : OsFault}, Fit v →
    Lists v dir entries → e ∈ entries → e.IsFile →
    (Volume.remove (dir.join e.name) v).1 = .error fault →
    (∃ left, Lists (Volume.remove (dir.join e.name) v).2 dir left ∧ ∀ f, f ∈ left ↔ f ∈ entries) ∧
      Volume.read (Volume.remove (dir.join e.name) v).2 (dir.join e.name) =
        Volume.read v (dir.join e.name)

namespace Unlinking

variable {σ : Type} [Volume σ] {dir : Path} (laws : Unlinking σ dir)

/-- One volume after another, in which files of a directory with given entries are gone and nothing
else has changed. -/
structure Lost (entries : List Entry) (gone : List FileName) (v u : σ) : Prop where
  fit : laws.Fit u
  listed : ∃ left, Lists u dir left ∧ ∀ e, e ∈ left ↔ e ∈ entries ∧ e.name ∉ gone
  read : ∀ e ∈ entries, e.IsFile → e.name ∉ gone →
    Volume.read u (dir.join e.name) = Volume.read v (dir.join e.name)
  rest : laws.rest u = laws.rest v

variable {laws} {v u w : σ} {entries left : List Entry} {gone : List FileName} {e : Entry}

theorem Lost.refl (fit : laws.Fit v) (listed : Lists v dir entries) :
    laws.Lost entries [] v v := by
  refine ⟨fit, ⟨entries, listed, ?_⟩, ?_, rfl⟩
  · intro e
    exact (and_iff_left List.not_mem_nil).symm
  · intro _ _ _ _
    rfl

/-- A removal and then others. -/
theorem Lost.trans {first : List FileName} (lost : laws.Lost entries first v u)
    (within : ∀ e, e ∈ left ↔ e ∈ entries ∧ e.name ∉ first)
    (more : laws.Lost left gone u w) : laws.Lost entries (first ++ gone) v w := by
  obtain ⟨after, listed, after'⟩ := more.listed
  have apart : ∀ n : FileName, n ∉ first ++ gone ↔ n ∉ first ∧ n ∉ gone := by
    intro n
    rw [List.mem_append, not_or]
  refine ⟨more.fit, ⟨after, listed, ?_⟩, ?_, more.rest.trans lost.rest⟩
  · intro e
    rw [after', within, apart, and_assoc]
  · intro e he file kept
    obtain ⟨not_mem, kept⟩ := (apart e.name).1 kept
    rw [more.read e ((within e).2 ⟨he, not_mem⟩) file kept, lost.read e he file not_mem]

theorem lost_of_ok (fit : laws.Fit v) (listed : Lists v dir entries) (he : e ∈ entries)
    (file : e.IsFile) (done : (Volume.remove (dir.join e.name) v).1 = .ok ()) :
    laws.Lost entries [e.name] v (Volume.remove (dir.join e.name) v).2 := by
  obtain ⟨left, after, within⟩ := laws.list_removed fit listed he file done
  refine ⟨laws.fit_remove fit listed he file, ⟨left, after, ?_⟩, ?_,
    laws.rest_remove fit listed he file⟩
  · intro f
    rw [within, List.mem_singleton]
  · intro f hf file' kept
    exact laws.read_remove fit listed he file hf file' fun eq => kept (List.mem_singleton.2 eq)

theorem lost_of_error {fault : OsFault} (fit : laws.Fit v) (listed : Lists v dir entries)
    (he : e ∈ entries) (file : e.IsFile)
    (fails : (Volume.remove (dir.join e.name) v).1 = .error fault) :
    laws.Lost entries [] v (Volume.remove (dir.join e.name) v).2 := by
  obtain ⟨⟨left, after, within⟩, eq⟩ := laws.remove_failed fit listed he file fails
  refine ⟨laws.fit_remove fit listed he file, ⟨left, after, ?_⟩, ?_,
    laws.rest_remove fit listed he file⟩
  · intro f
    rw [within]
    exact (and_iff_left List.not_mem_nil).symm
  · intro f hf file' _
    by_cases equal : f.name = e.name
    · rw [equal, eq]
    · exact laws.read_remove fit listed he file hf file' equal

end Unlinking

/-! ## Files that cannot be removed -/

/-- A volume that refuses to remove some of its files. -/
structure Guarded (σ : Type) where
  volume : σ
  refused : List Path

namespace Guarded

variable {σ : Type}

/-- What comes of a call on the volume that is guarded. -/
def lift (g : Guarded σ) (r : α × σ) : α × Guarded σ := (r.1, { g with volume := r.2 })

variable [Volume σ] {dir : Path}

instance : Volume (Guarded σ) where
  read g p := Volume.read g.volume p
  list g p := Volume.list g.volume p
  isDirectory g p := Volume.isDirectory g.volume p
  create p g := g.lift (Volume.create p g.volume)
  fill file bytes g := g.lift (Volume.fill file bytes g.volume)
  remove p g := if p ∈ g.refused then (.error .denied, g) else g.lift (Volume.remove p g.volume)
  makeDirectory p g := g.lift (Volume.makeDirectory p g.volume)

theorem remove_of_mem {g : Guarded σ} {p : Path} (h : p ∈ g.refused) :
    Volume.remove p g = (.error .denied, g) := if_pos h

theorem remove_of_not_mem {g : Guarded σ} {p : Path} (h : p ∉ g.refused) :
    Volume.remove p g = g.lift (Volume.remove p g.volume) := if_neg h

/-- A directory keeps the laws of removals if some are refused. -/
def unlinking (laws : Unlinking σ dir) : Unlinking (Guarded σ) dir where
  Rest := laws.Rest × List Path
  rest g := (laws.rest g.volume, g.refused)
  Fit g := laws.Fit g.volume
  proper fit listed := laws.proper fit listed
  nodup fit listed := laws.nodup fit listed
  fit_remove := by
    intro g entries e fit listed he file
    by_cases refused : dir.join e.name ∈ g.refused
    · rw [remove_of_mem refused]
      exact fit
    · rw [remove_of_not_mem refused]
      exact laws.fit_remove fit listed he file
  rest_remove := by
    intro g entries e fit listed he file
    by_cases refused : dir.join e.name ∈ g.refused
    · rw [remove_of_mem refused]
    · rw [remove_of_not_mem refused]
      exact Prod.ext (laws.rest_remove fit listed he file) rfl
  read_remove := by
    intro g entries e f fit listed he file hf file' ne
    by_cases refused : dir.join e.name ∈ g.refused
    · rw [remove_of_mem refused]
    · rw [remove_of_not_mem refused]
      exact laws.read_remove fit listed he file hf file' ne
  list_removed := by
    intro g entries e fit listed he file done
    by_cases refused : dir.join e.name ∈ g.refused
    · rw [remove_of_mem refused] at done
      cases done
    · rw [remove_of_not_mem refused] at done ⊢
      exact laws.list_removed fit listed he file done
  remove_failed := by
    intro g entries e fault fit listed he file fails
    by_cases refused : dir.join e.name ∈ g.refused
    · rw [remove_of_mem refused]
      exact ⟨⟨entries, listed, fun _ => .rfl⟩, rfl⟩
    · rw [remove_of_not_mem refused] at fails ⊢
      exact laws.remove_failed fit listed he file fails

end Guarded

end Lockbox
