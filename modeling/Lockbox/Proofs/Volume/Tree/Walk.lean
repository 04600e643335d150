import Lockbox.Proofs.Basic
import Lockbox.Volume.Tree

/-!
# Lookups that succeed

The ways in which a walk gets to its end or to a link (`Walks`), and in which links are followed to
where a path leads (`Follows`). Both are what the lookup computes:

    walk_eq_ok_iff : t.walk start names = .ok progress ↔ t.Walks start names progress
    follow_eq_ok_iff : t.follow start names links = .ok place ↔ t.Follows start names links place
-/

namespace Lockbox.Tree

/-- A name that leads down, if anything has it. -/
structure IsDown (name : FileName) : Prop where
  not_here : isHere name = false
  not_up : isUp name = false
  short : ¬maxName < name.length

/-- A walk up to the end or to the first link. -/
inductive Walks (t : Tree) : FileNumber → List FileName → Progress → Prop
  | nil {start : FileNumber} : Walks t start [] (.arrived ⟨start, none, some start, false⟩)
  | here {start parent : FileNumber} {entries : List (FileName × FileNumber)} {name : FileName}
    {rest : List FileName} {progress : Progress} (entered : t.enter start = .ok (parent, entries))
    (named : isHere name = true) (more : Walks t start rest progress) :
    Walks t start (name :: rest) progress
  | up {start parent : FileNumber} {entries : List (FileName × FileNumber)} {name : FileName}
    {rest : List FileName} {progress : Progress} (entered : t.enter start = .ok (parent, entries))
    (not_here : isHere name = false) (named : isUp name = true)
    (more : Walks t parent rest progress) : Walks t start (name :: rest) progress
  | missing {start parent : FileNumber} {entries : List (FileName × FileNumber)} {name : FileName}
    (entered : t.enter start = .ok (parent, entries)) (down : IsDown name)
    (absent : entries.find? (·.1 == name) = none) :
    Walks t start [name] (.arrived ⟨start, some name, none, false⟩)
  | link {start parent : FileNumber} {entries : List (FileName × FileNumber)} {name : FileName}
    {rest : List FileName} {e : FileName × FileNumber} {target : Path}
    (entered : t.enter start = .ok (parent, entries)) (down : IsDown name)
    (found : entries.find? (·.1 == name) = some e) (node : t.node? e.2 = some (.link target)) :
    Walks t start (name :: rest) (.detour start target rest)
  | last {start parent : FileNumber} {entries : List (FileName × FileNumber)} {name : FileName}
    {e : FileName × FileNumber} (entered : t.enter start = .ok (parent, entries))
    (down : IsDown name) (found : entries.find? (·.1 == name) = some e)
    (unlinked : ∀ target, t.node? e.2 ≠ some (.link target)) :
    Walks t start [name] (.arrived ⟨start, some name, some e.2, false⟩)
  | on {start parent : FileNumber} {entries : List (FileName × FileNumber)} {name : FileName}
    {rest : List FileName} {e : FileName × FileNumber} {progress : Progress}
    (entered : t.enter start = .ok (parent, entries)) (down : IsDown name)
    (found : entries.find? (·.1 == name) = some e)
    (unlinked : ∀ target, t.node? e.2 ≠ some (.link target)) (left : rest ≠ [])
    (more : Walks t e.2 rest progress) : Walks t start (name :: rest) progress

variable {t : Tree} {d start parent : FileNumber} {names rest : List FileName} {name n : FileName}
  {entries : List (FileName × FileNumber)} {progress : Progress} {place : Place} {links : Nat}

section Steps

variable (entered : t.enter start = .ok (parent, entries))

include entered

theorem walk_here (named : isHere name = true) :
    t.walk start (name :: rest) = t.walk start rest := by
  rw [walk, entered]
  exact if_pos named

theorem walk_up (not_here : isHere name = false) (named : isUp name = true) :
    t.walk start (name :: rest) = t.walk parent rest := by
  rw [walk, entered]
  simp only [bind, Except.bind, not_here, named, Bool.false_eq_true, if_false, if_true]

theorem walk_long (not_here : isHere name = false) (not_up : isUp name = false)
    (long : maxName < name.length) : t.walk start (name :: rest) = .error .nameTooLong := by
  rw [walk, entered]
  simp only [bind, Except.bind, not_here, not_up, long, Bool.false_eq_true, if_false, if_true]
  rfl

/-- A name that nothing has ends a walk if it is the last one. -/
theorem walk_missing (down : IsDown name) (absent : entries.find? (·.1 == name) = none) :
    t.walk start (name :: rest) =
      if rest.isEmpty then .ok (.arrived ⟨start, some name, none, false⟩)
      else .error .notFound := by
  rw [walk, entered]
  simp only [bind, Except.bind, down.not_here, down.not_up, down.short, absent,
    Bool.false_eq_true, if_false]
  rfl

/-- A link ends a walk at any point, with what is left of the names. -/
theorem walk_link {e : FileName × FileNumber} {target : Path} (down : IsDown name)
    (found : entries.find? (·.1 == name) = some e) (node : t.node? e.2 = some (.link target)) :
    t.walk start (name :: rest) = .ok (.detour start target rest) := by
  rw [walk, entered]
  simp only [bind, Except.bind, down.not_here, down.not_up, down.short, found, node,
    Bool.false_eq_true, if_false]
  rfl

/-- Any other node is walked on from, or the walk ends there. -/
theorem walk_on {e : FileName × FileNumber} (down : IsDown name)
    (found : entries.find? (·.1 == name) = some e)
    (unlinked : ∀ target, t.node? e.2 ≠ some (.link target)) :
    t.walk start (name :: rest) =
      if rest.isEmpty then .ok (.arrived ⟨start, some name, some e.2, false⟩)
      else t.walk e.2 rest := by
  obtain ⟨_, next⟩ := e
  rw [walk, entered]
  simp only [bind, Except.bind, down.not_here, down.not_up, down.short, found,
    Bool.false_eq_true, if_false]
  rfl

end Steps

theorem Walks.walk (h : t.Walks start names progress) : t.walk start names = .ok progress := by
  induction h with
  | nil => rfl
  | here entered named _ ih => rw [walk_here entered named, ih]
  | up entered not_here named _ ih => rw [walk_up entered not_here named, ih]
  | missing entered down absent => exact walk_missing entered down absent
  | link entered down found node => exact walk_link entered down found node
  | last entered down found unlinked => exact walk_on entered down found unlinked
  | on entered down found unlinked left _ ih =>
    rw [walk_on entered down found unlinked, if_neg (by simpa using left), ih]

theorem walks_of_walk (h : t.walk start names = .ok progress) : t.Walks start names progress := by
  -- on the names, in the order of the tests that a step makes
  induction names generalizing start with
  | nil =>
    obtain rfl := Except.ok.inj h
    exact .nil
  | cons name rest ih =>
    have opened : ∃ above, t.enter start = .ok above := by
      rw [walk] at h
      obtain ⟨above, entered, -⟩ := exists_of_bind_eq_ok h
      exact ⟨above, entered⟩
    obtain ⟨⟨parent, entries⟩, entered⟩ := opened
    by_cases eq : isHere name = true
    · rw [walk_here entered eq] at h
      exact .here entered eq (ih h)
    · have not_here := eq_false_of_ne_true eq
      by_cases up : isUp name = true
      · rw [walk_up entered not_here up] at h
        exact .up entered not_here up (ih h)
      · have not_up := eq_false_of_ne_true up
        by_cases long : maxName < name.length
        · rw [walk_long entered not_here not_up long] at h
          cases h
        · have down : IsDown name := ⟨not_here, not_up, long⟩
          cases found : entries.find? (·.1 == name) with
          | none =>
            rw [walk_missing entered down found] at h
            cases rest with
            | nil =>
              obtain rfl := Except.ok.inj h
              exact .missing entered down found
            | cons => cases h
          | some e =>
            by_cases linked : ∃ target, t.node? e.2 = some (.link target)
            · obtain ⟨target, node⟩ := linked
              rw [walk_link entered down found node] at h
              obtain rfl := Except.ok.inj h
              exact .link entered down found node
            · have unlinked := not_exists.1 linked
              rw [walk_on entered down found unlinked] at h
              cases rest with
              | nil =>
                obtain rfl := Except.ok.inj h
                exact .last entered down found unlinked
              | cons => exact .on entered down found unlinked (List.cons_ne_nil _ _) (ih h)

/-- A walk comes to something exactly if it goes one of the ways described. -/
theorem walk_eq_ok_iff : t.walk start names = .ok progress ↔ t.Walks start names progress :=
  ⟨walks_of_walk, Walks.walk⟩

/-! ## Following links -/

/-- Where a link leads from a directory. -/
def origin (start : FileNumber) (target : Path) : FileNumber :=
  if target.isAbsolute then root else start

/-- A walk to the end, following at most the given number of links. -/
inductive Follows (t : Tree) : FileNumber → List FileName → Nat → Place → Prop
  | arrived {start : FileNumber} {names : List FileName} {links : Nat} {place : Place}
    (walks : t.Walks start names (.arrived place)) : Follows t start names links place
  | detour {start here : FileNumber} {names rest : List FileName} {links : Nat} {target : Path}
    {place : Place} (walks : t.Walks start names (.detour here target rest))
    (more : Follows t (origin here target) (target.segments ++ rest) links place) :
    Follows t start names (links + 1)
      { place with
        callsForDirectory := place.callsForDirectory || (rest.isEmpty && target.endsInSlash) }

/-- A walk that has no link on it needs none to be followed. -/
theorem follow_of_arrived (walked : t.walk start names = .ok (.arrived place)) :
    t.follow start names links = .ok place := by
  cases links with
  | zero =>
    rw [follow, walked]
    rfl
  | succ links =>
    rw [follow, walked]
    rfl

/-- At a link the lookup goes on with its target and what is left, and one link less. -/
theorem follow_of_detour {here : FileNumber} {target : Path}
    (walked : t.walk start names = .ok (.detour here target rest)) :
    t.follow start names (links + 1) =
      (t.follow (origin here target) (target.segments ++ rest) links).map fun place =>
        { place with
          callsForDirectory := place.callsForDirectory ||
            (rest.isEmpty && target.endsInSlash) } := by
  rw [follow, walked]
  show (t.follow (origin here target) (target.segments ++ rest) links >>= fun place => _) = _
  cases t.follow (origin here target) (target.segments ++ rest) links with
  | error fault => rfl
  | ok place => rfl

theorem Follows.follow (h : t.Follows start names links place) :
    t.follow start names links = .ok place := by
  induction h with
  | arrived walks => exact follow_of_arrived walks.walk
  | detour walks _ ih =>
    rw [follow_of_detour walks.walk, ih]
    rfl

theorem follows_of_follow (h : t.follow start names links = .ok place) :
    t.Follows start names links place := by
  -- on the links that may still be followed
  induction links generalizing start names place with
  | zero =>
    rw [follow] at h
    obtain ⟨progress, walked, h⟩ := exists_of_bind_eq_ok h
    cases progress with
    | arrived place =>
      obtain rfl := Except.ok.inj h
      exact .arrived (walks_of_walk walked)
    | detour => cases h
  | succ links ih =>
    rw [follow] at h
    obtain ⟨progress, walked, h⟩ := exists_of_bind_eq_ok h
    cases progress with
    | arrived place =>
      obtain rfl := Except.ok.inj h
      exact .arrived (walks_of_walk walked)
    | detour here target rest =>
      obtain ⟨place, followed, h⟩ := exists_of_bind_eq_ok h
      obtain rfl := Except.ok.inj h
      exact .detour (walks_of_walk walked) (ih followed)

/-- A lookup succeeds exactly if it goes one of the ways described, whatever links are on it. -/
theorem follow_eq_ok_iff :
    t.follow start names links = .ok place ↔ t.Follows start names links place :=
  ⟨follows_of_follow, Follows.follow⟩

/-! ## Where lookups end -/

/-- The entries that a walk sees are those that names are looked up among. -/
theorem entry?_of_enter (entered : t.enter start = .ok (parent, entries)) (n : FileName) :
    t.entry? start n = (entries.find? (·.1 == n)).map (·.2) := by
  unfold enter at entered
  split at entered
  · next mode above own node =>
    split at entered
    · obtain ⟨rfl, rfl⟩ := Prod.mk.inj (Except.ok.inj entered)
      unfold entry?
      rw [entriesOf, node]
    · cases entered
  · cases entered
  · cases entered

/-- A walk that ends under a name in a directory ends at what the directory holds there. -/
theorem Walks.node_eq (h : t.Walks start names (.arrived place)) (named : place.name = some n) :
    place.node = t.entry? place.directory n := by
  -- the end is a place of that name, and the induction has to keep that
  generalize ends : Progress.arrived place = progress at h
  induction h with
  | nil =>
    obtain rfl := Progress.arrived.inj ends
    cases named
  | here _ _ _ ih => exact ih ends
  | up _ _ _ _ ih => exact ih ends
  | missing entered _ absent =>
    obtain rfl := Progress.arrived.inj ends
    obtain rfl := Option.some.inj named
    rw [entry?_of_enter entered, absent, Option.map_none]
  | link => cases ends
  | last entered _ found _ =>
    obtain rfl := Progress.arrived.inj ends
    obtain rfl := Option.some.inj named
    rw [entry?_of_enter entered, found, Option.map_some]
  | on _ _ _ _ _ _ ih => exact ih ends

theorem Follows.node_eq (h : t.Follows start names links place) (named : place.name = some n) :
    place.node = t.entry? place.directory n := by
  induction h with
  | arrived walks => exact walks.node_eq named
  | detour _ _ ih => exact ih named

/-! ## One name more -/

/-- A walk to a directory goes on from there. -/
theorem Walks.walk_append (h : t.Walks start names (.arrived place)) (lands : place.node = some d)
    (directory : t.isDirectoryNode d = true) (n : FileName) :
    t.walk start (names ++ [n]) = t.walk d [n] := by
  -- as above, for an end with a node
  generalize ends : Progress.arrived place = progress at h
  induction h with
  | nil =>
    obtain rfl := Progress.arrived.inj ends
    obtain rfl := Option.some.inj lands
    rfl
  | here entered named _ ih => rw [List.cons_append, walk_here entered named, ih ends]
  | up entered not_here named _ ih =>
    rw [List.cons_append, walk_up entered not_here named, ih ends]
  | missing =>
    obtain rfl := Progress.arrived.inj ends
    cases lands
  | link => cases ends
  | last entered down found unlinked =>
    obtain rfl := Progress.arrived.inj ends
    obtain rfl := Option.some.inj lands
    exact walk_on entered down found unlinked
  | on entered down found unlinked _ _ ih =>
    rw [List.cons_append, walk_on entered down found unlinked, if_neg (by simp), ih ends]

/-- A walk to a link ends there whatever comes after. -/
theorem Walks.detour_append {here : FileNumber} {target : Path}
    (h : t.Walks start names (.detour here target rest)) (n : FileName) :
    t.Walks start (names ++ [n]) (.detour here target (rest ++ [n])) := by
  generalize ends : Progress.detour here target rest = progress at h
  induction h with
  | nil => cases ends
  | here entered named _ ih => exact .here entered named (ih ends)
  | up entered not_here named _ ih => exact .up entered not_here named (ih ends)
  | missing => cases ends
  | link entered down found node =>
    obtain ⟨rfl, rfl, rfl⟩ := Progress.detour.inj ends
    exact .link entered down found node
  | last => cases ends
  | on entered down found unlinked _ _ ih =>
    exact .on entered down found unlinked (by simp) (ih ends)

/-- A lookup that reached a directory goes on from there, if not to a link. -/
theorem Follows.follow_append (h : t.Follows start names links place) (lands : place.node = some d)
    (directory : t.isDirectoryNode d = true) {r : Except OsFault Place}
    (step : t.walk d [n] = r.map .arrived) : t.follow start (names ++ [n]) links = r := by
  induction h with
  | @arrived start names links place walks =>
    have walked := walks.walk_append lands directory n
    rw [step] at walked
    cases r with
    | error fault =>
      cases links <;> (rw [Tree.follow, walked]; rfl)
    | ok arrival => exact follow_of_arrived walked
  | @detour start here names rest links target place walks _ ih =>
    -- with a name left, no link ends the path, and none can call for a directory
    have open' : (rest ++ [n]).isEmpty = false := by simp
    rw [follow_of_detour (walks.detour_append n).walk, ← List.append_assoc, ih lands, open']
    cases r with
    | error fault => rfl
    | ok arrival =>
      simp only [Except.map, Bool.false_and, Bool.or_false]

end Lockbox.Tree
