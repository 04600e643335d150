import Lockbox.Proofs.Volume.Tree.Creation
import Lockbox.Proofs.Volume.Tree.Likeness

/-!
# Files that other writes leave alone

What can be relied on of files that may have several names, be links or hold links on the way to
them: what was written is there to be read, and a write changes no file but the one that its path
leads to, so that whatever reads otherwise than that path is as it was (`Retentive`). All trees are
so, without any condition:

    retentive : Retentive Tree
-/

namespace Lockbox

/-- The laws of writing to one of many paths, whatever files they lead to. -/
structure Retentive (σ : Type) [Volume σ] : Prop where
  /-- A file that could be read, or was made, holds what was written. -/
  read_written : ∀ {v : σ} {p : Path} {bytes : List UInt8},
    ((∃ old, Volume.read v p = .ok old) ∨ Volume.read v p = .error .notFound) →
    (Volume.write p bytes v).1 = .ok () → Volume.read (Volume.write p bytes v).2 p = .ok bytes
  /-- Two paths of one file read alike, and so a path that reads otherwise is of another file. -/
  read_apart : ∀ {v : σ} {p q : Path} {old : List UInt8} (bytes : List UInt8),
    Volume.read v q = .ok old → Volume.read v p ≠ .ok old →
    Volume.read (Volume.write p bytes v).2 q = .ok old

namespace Tree

variable {t u : Tree} {d j k mode : Nat} {n : FileName} {p q : Path} {old bytes : List UInt8}

/-- What is read is the content of a file that the path leads to. -/
theorem exists_file_of_read (h : t.read p = .ok old) :
    ∃ k mode, t.resolve p = .ok k ∧ t.node? k = some (.file mode old) ∧ mayRead mode = true := by
  obtain ⟨k, resolved, h⟩ := exists_of_bind_eq_ok h
  split at h
  · next mode content node =>
    split at h
    · next readable =>
      obtain rfl := Except.ok.inj h
      exact ⟨k, mode, resolved, node, readable⟩
    · cases h
  · cases h
  · cases h

theorem alike_rewritten (node : t.node? k = some (.file mode old)) (d : FileNumber) (n : FileName)
    (bytes : List UInt8) : Alike (fun _ _ => True) t (t.rewritten d n k mode bytes) := by
  refine ⟨?_, fun i => ?_⟩
  · rw [rewritten, setNode, touch, setNode]
    simp only [Array.size_setIfInBounds]
  · rw [node?_rewritten node]
    by_cases eq : k = i
    · rw [if_pos eq, ← eq]
      exact .inr ⟨mode, old, bytes, trivial, node, rfl⟩
    · rw [if_neg eq]
      exact .inl rfl

/-- What a path leads to stays what it leads to when a free name is taken. -/
theorem Gained.resolve (h : Gained d n k t u) (resolved : t.resolve p = .ok j) :
    u.resolve p = .ok j := by
  obtain ⟨place, located, resolved⟩ := exists_of_bind_eq_ok resolved
  obtain ⟨_, checked, followed⟩ := exists_of_bind_eq_ok located
  have follows := follows_of_follow followed
  have directory : u.isDirectoryNode j = t.isDirectoryNode j := by
    obtain ⟨own, parent, entries, before, after⟩ := h.directory
    obtain ⟨own', content, file⟩ := h.file
    by_cases eq : j = d
    · rw [eq, isDirectoryNode, isDirectoryNode, before, after]
    · by_cases new : j = k
      · rw [new, isDirectoryNode, isDirectoryNode, h.fresh, file]
      · rw [isDirectoryNode, isDirectoryNode, h.others j eq new]
  cases node_eq : place.node with
  | none =>
    rw [node_eq] at resolved
    cases resolved
  | some i =>
    -- a lookup that ended at a node did not end at the free name
    have lands : (place.gaining d n k).node = some i := by
      have ne : ¬(place.directory = d ∧ place.name = some n) := by
        rintro ⟨rfl, named⟩
        have free := follows.node_eq named
        rw [h.free, node_eq] at free
        cases free
      rw [Place.gaining, if_neg ne]
      exact node_eq
    rw [node_eq] at resolved
    dsimp only at resolved
    split at resolved
    · cases resolved
    · next allowed =>
      obtain rfl := Except.ok.inj resolved
      have located' : u.locate p = .ok (place.gaining d n k) := by
        rw [locate, checked]
        exact (h.follows follows).follow
      rw [Tree.resolve, located']
      simp only [bind, Except.bind, lands, directory]
      exact if_neg allowed

/-- What was made leaves every file as it was. -/
theorem Gained.read (h : Gained d n k t u) (stored : t.read q = .ok old) : u.read q = .ok old := by
  obtain ⟨j, mode, resolved, node, readable⟩ := exists_file_of_read stored
  have apart : j ≠ d := by
    rintro rfl
    obtain ⟨_, _, _, before, -⟩ := h.directory
    cases before.symm.trans node
  have older : j ≠ k := by
    rintro rfl
    cases h.fresh.symm.trans node
  rw [← h.others j apart older] at node
  rw [read_of_resolve (h.resolve resolved) node, if_pos readable]

/-- A file written anew is another than one that reads otherwise. -/
theorem read_of_rewritten (resolved : t.resolve p = .ok k)
    (node : t.node? k = some (.file mode bytes)) (stored : t.read q = .ok old)
    (apart : t.read p ≠ .ok old) (d : FileNumber) (n : FileName) (new : List UInt8) :
    (t.rewritten d n k mode new).read q = .ok old := by
  obtain ⟨j, own, leads, file, readable⟩ := exists_file_of_read stored
  have ne : k ≠ j := by
    rintro rfl
    obtain ⟨rfl, rfl⟩ := Node.file.inj (Option.some.inj (node.symm.trans file))
    exact apart (by rw [read_of_resolve resolved node, if_pos readable])
  rw [(alike_rewritten node d n new).resolve] at leads
  have kept : (t.rewritten d n k mode new).node? j = some (.file own old) := by
    rw [node?_rewritten node, if_neg ne, file]
  rw [read_of_resolve leads kept, if_pos readable]

/-- A file that could be read is read as it was written, whatever the way to it. -/
theorem read_of_overwritten (stored : t.read p = .ok old)
    (written : Volume.write p bytes t = (.ok (), u)) : u.read p = .ok bytes := by
  obtain ⟨j, own, leads, file, readable⟩ := exists_file_of_read stored
  rcases write_cases_of_any t p bytes with ⟨fault, fails⟩ | ⟨place, targets, cases⟩
  · rw [fails] at written
    cases written
  · have resolved := targets.resolve
    rw [leads] at resolved
    rcases cases with ⟨k, mode, content, ends, node, done⟩ | ⟨n, absent, -, -, done⟩
    · rw [ends] at resolved
      obtain rfl := Except.ok.inj resolved
      obtain ⟨rfl, rfl⟩ := Node.file.inj (Option.some.inj (node.symm.trans file))
      rw [done] at written
      cases written
      rw [(alike_rewritten node place.directory (place.name.getD []) bytes).resolve] at leads
      have kept : (t.rewritten place.directory (place.name.getD []) j mode bytes).node? j =
          some (.file mode bytes) := by
        rw [node?_rewritten node, if_pos rfl]
      rw [read_of_resolve leads kept, if_pos readable]
    · rw [absent] at resolved
      cases resolved

/-- In any tree a file that was written is read as it was written, and files apart from it as
before. -/
theorem retentive : Retentive Tree where
  read_written := by
    rintro t p bytes before done
    have written : Volume.write p bytes t = (.ok (), (Volume.write p bytes t).2) :=
      Prod.ext done rfl
    rcases before with ⟨old, stored⟩ | missing
    · exact read_of_overwritten stored written
    · exact read_of_written missing written
  read_apart := by
    intro t p q old bytes stored apart
    rcases write_cases_of_any t p bytes with ⟨fault, fails⟩ | ⟨place, targets, cases⟩
    · rw [fails]
      exact stored
    · rcases cases with ⟨k, mode, content, target, node, done⟩ | ⟨n, absent, named, directory, done⟩
      · have resolved := targets.resolve
        rw [target] at resolved
        rw [done]
        exact read_of_rewritten resolved node stored apart _ _ bytes
      · have free : t.entry? place.directory n = none :=
          (targets.follows.node_eq named).symm.trans absent
        rw [done]
        exact (gained_made directory free bytes).read stored

end Tree

end Lockbox
