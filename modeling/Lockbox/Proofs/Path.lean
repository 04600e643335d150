import Lockbox.Path

/-!
# Names in directories

A name that can stand for a file in a directory (`IsProper`) is the file name of its path there, and
is cut at its last dot into stem and extension.
-/

namespace Lockbox

/-- A name that stands for a file in a directory. -/
structure FileName.IsProper (n : FileName) : Prop where
  ne_nil : n ≠ []
  slash_not_mem : slash ∉ n
  ne_dot : n ≠ [dot]
  ne_dots : n ≠ [dot, dot]

namespace Path

/-! ## Segments -/

theorem split_ne_nil (bytes : List UInt8) : split bytes ≠ [] := by
  cases bytes with
  | nil => exact List.cons_ne_nil _ _
  | cons b rest =>
    rw [split]
    split
    · exact List.cons_ne_nil _ _
    · split
      · exact List.cons_ne_nil _ _
      · exact List.cons_ne_nil _ _

/-- A name without a slash is one segment. -/
theorem split_of_slash_not_mem {n : List UInt8} (h : slash ∉ n) : split n = [n] := by
  induction n with
  | nil => rfl
  | cons b rest ih =>
    rw [List.mem_cons, not_or] at h
    rw [split, if_neg (Ne.symm h.1), ih h.2]

/-- What follows the last slash is the last segment. -/
theorem split_append (before : List UInt8) {n : List UInt8} (h : slash ∉ n) :
    split (before ++ slash :: n) = split before ++ [n] := by
  -- on what stands before the slash
  induction before with
  | nil =>
    show split (slash :: n) = [[], n]
    rw [split, if_pos rfl, split_of_slash_not_mem h]
  | cons b rest ih =>
    rw [List.cons_append, split, split, ih]
    by_cases eq : b = slash
    · rw [if_pos eq, if_pos eq]
      rfl
    · rw [if_neg eq, if_neg eq]
      cases parts : split rest with
      | nil => exact absurd parts (split_ne_nil rest)
      | cons part parts => rfl

/-- The steps to a file in a directory are those to the directory and the name. -/
theorem segments_join (p : Path) {n : FileName} (h : n.IsProper) :
    (p.join n).segments = p.segments ++ [n] := by
  have last : [n].filter (· ≠ []) = [n] := by
    rw [List.filter_cons, if_pos (decide_eq_true h.ne_nil), List.filter_nil]
  have plain := h.slash_not_mem
  unfold join
  split
  · next direct =>
    -- the directory has no name, or a slash behind it, or the slash is added
    rcases direct with empty | slashed
    · rw [segments, segments, empty, List.nil_append, split_of_slash_not_mem plain, last]
      rfl
    · rw [endsInSlash, beq_iff_eq] at slashed
      obtain ⟨front, bytes⟩ := List.getLast?_eq_some_iff.1 slashed
      rw [segments, segments, bytes, List.append_assoc, List.singleton_append,
        split_append front plain, split_append front List.not_mem_nil, List.filter_append,
        List.filter_append, last]
      simp
  · rw [segments, segments, split_append p.bytes plain, List.filter_append, last]

/-- A path to a file does not call for a directory. -/
theorem endsInSlash_join (p : Path) {n : FileName} (h : n.IsProper) :
    (p.join n).endsInSlash = false := by
  have last : ∀ front : List UInt8, (front ++ n).getLast? ≠ some slash := by
    intro front eq
    rw [List.getLast?_append, List.getLast?_eq_some_getLast h.ne_nil] at eq
    have ends : n.getLast h.ne_nil = slash := Option.some.inj eq
    exact h.slash_not_mem (ends ▸ List.getLast_mem h.ne_nil)
  unfold join
  split
  · exact beq_eq_false_iff_ne.2 (last p.bytes)
  · have moved : p.bytes ++ slash :: n = (p.bytes ++ [slash]) ++ n := by simp
    rw [endsInSlash, moved]
    exact beq_eq_false_iff_ne.2 (last _)

theorem component?_of_isProper {n : FileName} (h : n.IsProper) : component? n = some (.name n) := by
  rw [component?, if_neg h.ne_dot, if_neg h.ne_dots]

/-- Whether a path starts at the root does not depend on what is in its directory. -/
theorem isAbsolute_join (p : Path) {n : FileName} (h : n.IsProper) :
    (p.join n).isAbsolute = p.isAbsolute := by
  have relative : n.head? ≠ some slash := fun eq => h.slash_not_mem (List.mem_of_head? eq)
  rw [isAbsolute, isAbsolute, join]
  split
  · cases bytes : p.bytes with
    | nil => simp [relative]
    | cons b rest => rfl
  · next inside =>
    obtain ⟨filled, -⟩ := not_or.1 inside
    obtain ⟨b, rest, bytes⟩ := List.exists_cons_of_ne_nil filled
    simp [bytes]

theorem head?_split_append (bytes : List UInt8) (more : List FileName) :
    (split bytes ++ more).head? = (split bytes).head? := by
  obtain ⟨part, parts, eq⟩ := List.exists_cons_of_ne_nil (split_ne_nil bytes)
  simp [eq]

/-- A path begins with a dot of its own exactly if it does so before a name is joined to it. -/
theorem head?_split_join (p : Path) {n : FileName} (h : n.IsProper) :
    (split (p.join n).bytes).head? = some [dot] ↔ (split p.bytes).head? = some [dot] := by
  have plain := h.slash_not_mem
  -- what is first before the slash is first in all
  have front : ∀ before : List UInt8,
      (split (before ++ slash :: n)).head? = (split before).head? := by
    intro before
    rw [split_append before plain, head?_split_append]
  unfold join
  split
  · next direct =>
    rcases direct with empty | slashed
    · rw [empty, List.nil_append, split_of_slash_not_mem plain]
      simp [split, h.ne_dot]
    · rw [endsInSlash, beq_iff_eq] at slashed
      obtain ⟨before, bytes⟩ := List.getLast?_eq_some_iff.1 slashed
      rw [bytes, List.append_assoc, List.singleton_append, front,
        split_append before List.not_mem_nil, head?_split_append]
  · rw [front]

/-- A file is a direct child of its directory. -/
theorem components_join (p : Path) {n : FileName} (h : n.IsProper) :
    (p.join n).components = p.components ++ [.name n] := by
  rw [components, components, isAbsolute_join p h, segments_join p h, List.filterMap_append,
    List.filterMap_cons, component?_of_isProper h, List.filterMap_nil, ← List.append_assoc]
  simp only [head?_split_join p h]

/-- A proper name is the file name of its path in a directory. -/
theorem fileName?_join (p : Path) {n : FileName} (h : n.IsProper) :
    (p.join n).fileName? = some n := by
  rw [fileName?, components_join p h, List.getLast?_concat]

/-! ## Extensions -/

/-- A name is cut at its last dot, unless nothing stands before it. -/
theorem cutAtDot_append {stem extension : FileName} (filled : stem ≠ []) (plain : dot ∉ extension) :
    cutAtDot (stem ++ dot :: extension) = (stem, some extension) := by
  have reversed : (stem ++ dot :: extension).reverse =
      extension.reverse ++ dot :: stem.reverse := by
    rw [List.reverse_append, List.reverse_cons, List.append_assoc]
    rfl
  have after : (extension.reverse ++ dot :: stem.reverse).takeWhile (· ≠ dot) =
      extension.reverse := by
    rw [List.takeWhile_append_of_pos, List.takeWhile_cons_of_neg, List.append_nil]
    · exact fun ne => of_decide_eq_true ne rfl
    · intro b hb
      refine decide_eq_true ?_
      rintro rfl
      exact plain (List.mem_reverse.1 hb)
  have before : ((extension.reverse ++ dot :: stem.reverse).drop
      (extension.reverse.length + 1)).reverse = stem := by
    rw [← List.drop_drop, List.drop_left]
    exact List.reverse_reverse stem
  have shorter : extension.reverse.length ≠ (stem ++ dot :: extension).length := by
    rw [List.length_reverse, List.length_append, List.length_cons]
    omega
  rw [cutAtDot, reversed, after, before, if_neg (not_or.2 ⟨shorter, filled⟩), List.reverse_reverse]

/-- A name is cut at the last dot in it, which is not its first byte. -/
theorem of_cutAtDot {n stem extension : FileName} (h : cutAtDot n = (stem, some extension)) :
    stem ≠ [] ∧ dot ∉ extension ∧ n = stem ++ dot :: extension := by
  have parts := @List.takeWhile_append_dropWhile _ (· ≠ dot) n.reverse
  have head := List.head?_dropWhile_not (· ≠ dot) n.reverse
  have plain : dot ∉ n.reverse.takeWhile (· ≠ dot) := fun mem =>
    of_decide_eq_true (List.all_eq_true.1 List.all_takeWhile dot mem) rfl
  unfold cutAtDot at h
  dsimp only at h
  generalize n.reverse.takeWhile (· ≠ dot) = after at h parts plain
  split at h
  · cases h
  · next cut =>
    obtain ⟨within, filled⟩ := not_or.1 cut
    obtain ⟨rfl, found⟩ := Prod.mk.inj h
    obtain rfl := Option.some.inj found
    refine ⟨filled, fun mem => plain (List.mem_reverse.1 mem), ?_⟩
    cases rest : n.reverse.dropWhile (· ≠ dot) with
    | nil =>
      -- there is no dot at all
      rw [rest, List.append_nil] at parts
      rw [parts, List.length_reverse] at within
      exact absurd rfl within
    | cons b before =>
      rw [rest] at head parts
      obtain rfl : b = dot := by simpa using head
      have whole : n = before.reverse ++ dot :: after.reverse := by
        rw [← List.reverse_reverse n, ← parts]
        simp
      have behind : (n.reverse.drop (after.length + 1)).reverse = before.reverse := by
        rw [← parts, ← List.drop_drop, List.drop_left]
        rfl
      rw [behind]
      exact whole

theorem stem?_join (p : Path) {n stem : FileName} {extension : Option FileName} (h : n.IsProper)
    (cut : cutAtDot n = (stem, extension)) : (p.join n).stem? = some stem := by
  rw [stem?, fileName?_join p h, Option.map_some, cut]

theorem extension?_join (p : Path) {n stem : FileName} {extension : Option FileName}
    (h : n.IsProper) (cut : cutAtDot n = (stem, extension)) :
    (p.join n).extension? = extension := by
  rw [extension?, fileName?_join p h, Option.bind_some, cut]

end Path

end Lockbox
