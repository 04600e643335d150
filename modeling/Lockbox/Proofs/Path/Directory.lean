import Lockbox.Proofs.Path

/-!
# Where paths lead

Links aside, a path leads where its components do when dots are dropped and every name that two dots
follow is taken back (`reduced`), behind those of the current directory if it is relative. Different
paths may lead to one directory (`SameDirectory`). They do not if they have a beginning in common
and go on from there by names alone (`Branches`):

    eq_of_sameDirectory : p.Branches q → SameDirectory cwd p q → p.components = q.components
-/

namespace Lockbox.Path

variable {cwd p q : Path} {cs : List Component}

/-- Go on from components, the last of them first, by one more. -/
def Component.onto (before : List Component) : Component → List Component
  | .here => before
  | .up =>
    match before with
    | .name _ :: rest => rest
    | _ => .up :: before
  | c => c :: before

/-- Components less dots and names that are taken back, the last of them first. -/
def reduced (cs : List Component) : List Component := cs.foldl Component.onto []

/-- The components of a path in a current directory. -/
def componentsFrom (cwd p : Path) : List Component :=
  if p.isAbsolute then p.components else cwd.components ++ p.components

/-- Two paths lead to one directory. -/
def SameDirectory (cwd p q : Path) : Prop :=
  reduced (componentsFrom cwd p) = reduced (componentsFrom cwd q)

/-- Behind a beginning that they have in common, two paths consist of names. -/
def Branches (p q : Path) : Prop :=
  ∃ (front : List Component) (m n : List FileName),
    p.components = front ++ m.map .name ∧ q.components = front ++ n.map .name

/-! ## Going on by names -/

/-- What stands in a path behind its beginning goes up or is a name. -/
theorem up_or_name_of_mem {c : Component} (h : c ∈ p.segments.filterMap component?) :
    c = .up ∨ ∃ n, c = .name n := by
  obtain ⟨segment, -, stands⟩ := List.mem_filterMap.1 h
  unfold component? at stands
  split at stands
  · cases stands
  · split at stands
    · exact .inl (Option.some.inj stands).symm
    · exact .inr ⟨segment, (Option.some.inj stands).symm⟩

/-- Nothing takes back the names at the end. -/
theorem reduced_append_names (cs : List Component) (names : List FileName) :
    reduced (cs ++ names.map .name) = (names.map .name).reverse ++ reduced cs := by
  have fold : ∀ before, (names.map Component.name).foldl Component.onto before =
      (names.map .name).reverse ++ before := by
    induction names with
    | nil => exact fun _ => rfl
    | cons n rest ih =>
      intro before
      rw [List.map_cons, List.foldl_cons, ih, List.reverse_cons, List.append_assoc]
      rfl
  rw [reduced, List.foldl_append, fold]
  rfl

theorem isAbsolute_iff_root_mem : p.isAbsolute = true ↔ .root ∈ p.components := by
  have inside : .root ∉ p.segments.filterMap component? := by
    intro mem
    rcases up_or_name_of_mem mem with eq | ⟨n, eq⟩
    · cases eq
    · cases eq
  rw [components, List.mem_append, or_iff_left inside]
  split
  · next absolute => simp [absolute]
  · next relative =>
    rw [Bool.not_eq_true] at relative
    rw [relative]
    split <;> simp

theorem Branches.isAbsolute_eq (h : p.Branches q) : p.isAbsolute = q.isAbsolute := by
  obtain ⟨front, m, n, left, right⟩ := h
  have behind : ∀ names : List FileName, .root ∉ names.map Component.name := by
    intro names mem
    obtain ⟨_, -, eq⟩ := List.mem_map.1 mem
    cases eq
  rw [Bool.eq_iff_iff, isAbsolute_iff_root_mem, isAbsolute_iff_root_mem, left, right,
    List.mem_append, List.mem_append, or_iff_left (behind m), or_iff_left (behind n)]

/-- Paths that branch lead to one directory only if they are the same up to what does not matter in
a path. -/
theorem eq_of_sameDirectory (branches : p.Branches q) (meets : SameDirectory cwd p q) :
    p.components = q.components := by
  have absolute := branches.isAbsolute_eq
  obtain ⟨front, m, n, left, right⟩ := branches
  -- whatever stands before the names is the same in both paths
  have common : ∃ before, componentsFrom cwd p = before ++ m.map .name ∧
      componentsFrom cwd q = before ++ n.map .name := by
    unfold componentsFrom
    rw [absolute, left, right]
    cases q.isAbsolute with
    | true => exact ⟨front, rfl, rfl⟩
    | false => exact ⟨cwd.components ++ front, (List.append_assoc _ _ _).symm,
        (List.append_assoc _ _ _).symm⟩
  obtain ⟨before, left', right'⟩ := common
  rw [SameDirectory, left', right', reduced_append_names, reduced_append_names] at meets
  rw [left, right, List.reverse_inj.1 (List.append_cancel_right meets)]

theorem exists_names {cs : List Component} (h : ∀ c ∈ cs, ∃ n, c = .name n) :
    ∃ names : List FileName, cs = names.map .name := by
  induction cs with
  | nil => exact ⟨[], rfl⟩
  | cons c rest ih =>
    obtain ⟨n, rfl⟩ := h c List.mem_cons_self
    obtain ⟨names, rfl⟩ := ih fun c hc => h c (List.mem_cons_of_mem _ hc)
    exact ⟨n :: names, rfl⟩

/-- Paths that do not go up branch if both begin in the same way, at the root, with a dot or with
neither. -/
theorem branches_of_up_not_mem (up : .up ∉ p.components ∧ .up ∉ q.components)
    (absolute : p.isAbsolute = q.isAbsolute)
    (dotted : (split p.bytes).head? = some [dot] ↔ (split q.bytes).head? = some [dot]) :
    p.Branches q := by
  have names : ∀ r : Path, .up ∉ r.components →
      ∃ n : List FileName, r.segments.filterMap component? = n.map .name := by
    intro r up
    apply exists_names
    intro c hc
    rcases up_or_name_of_mem hc with rfl | name
    · exact absurd (List.mem_append_right _ hc) up
    · exact name
  obtain ⟨m, left⟩ := names p up.1
  obtain ⟨n, right⟩ := names q up.2
  refine ⟨_, m, n, by rw [components, left], ?_⟩
  rw [components, right, absolute]
  simp only [dotted]

end Lockbox.Path
