import Mathlib.Control.Monad.Basic

/-!
# Keyed lists and outcomes

Lists of values under keys, as directories hold nodes and stores hold slots: taking out one key, or
putting another value under it, leaves what is found under all others. An outcome of two steps is
taken apart into theirs, and the outcomes of two runs are put beside each other (`Together`).
-/

namespace Lockbox

theorem exists_of_bind_eq_ok {ε α β : Type} {x : Except ε α} {f : α → Except ε β} {b : β}
    (h : x >>= f = .ok b) : ∃ a, x = .ok a ∧ f a = .ok b := by
  cases x with
  | error e => cases h
  | ok a => exact ⟨a, rfl, h⟩

theorem exists_ok_of_map_eq_ok {ε α β : Type} {x : Except ε α} {f : α → β} {b : β}
    (h : x.map f = .ok b) : ∃ a, x = .ok a := by
  cases x with
  | error e => cases h
  | ok a => exact ⟨a, rfl⟩

/-- Two outcomes go together: both fail, or both give something, in ways that are related. -/
inductive Together {ε α : Type} (fails : ε → ε → Prop) (gives : α → α → Prop) :
    Except ε α → Except ε α → Prop
  | error {e f : ε} (failed : fails e f) : Together fails gives (.error e) (.error f)
  | ok {a b : α} (given : gives a b) : Together fails gives (.ok a) (.ok b)

/-- The relation in which all things are. -/
abbrev Anyhow {α : Type} (_ _ : α) : Prop := True

theorem Together.refl {ε α : Type} {fails : ε → ε → Prop} {gives : α → α → Prop}
    (he : ∀ e, fails e e) (ha : ∀ a, gives a a) (x : Except ε α) : Together fails gives x x := by
  cases x with
  | error e => exact .error (he e)
  | ok a => exact .ok (ha a)

theorem Together.mono {ε α : Type} {fails fails' : ε → ε → Prop} {gives gives' : α → α → Prop}
    {x y : Except ε α} (h : Together fails gives x y) (he : ∀ e f, fails e f → fails' e f)
    (ha : ∀ a b, gives a b → gives' a b) : Together fails' gives' x y := by
  cases h with
  | error failed => exact .error (he _ _ failed)
  | ok given => exact .ok (ha _ _ given)

/-- What goes on from the same outcome in ways that go together. -/
theorem Together.bind_same {ε α β : Type} {fails : ε → ε → Prop} {gives : β → β → Prop}
    {f g : α → Except ε β} (he : ∀ e, fails e e) (x : Except ε α)
    (h : ∀ a, Together fails gives (f a) (g a)) : Together fails gives (x >>= f) (x >>= g) := by
  cases x with
  | error e => exact .error (he e)
  | ok a => exact h a

/-- What becomes the same under a map goes together as it is related before. -/
theorem Together.of_map_eq {ε α β : Type} {fails : ε → ε → Prop} {gives : α → α → Prop}
    {f : α → β} {x y : Except ε α} (h : x.map f = y.map f) (he : ∀ e, fails e e)
    (ha : ∀ a b, f a = f b → gives a b) : Together fails gives x y := by
  cases x with
  | error e =>
    cases y with
    | error e' =>
      cases h
      exact .error (he e)
    | ok b => cases h
  | ok a =>
    cases y with
    | error e => cases h
    | ok b => exact .ok (ha a b (Except.ok.inj h))

variable {κ α : Type} [BEq κ] [LawfulBEq κ] [DecidableEq κ] {key other : κ}

theorem find?_filter_ne (l : List (κ × α)) (h : other ≠ key) :
    (l.filter (·.1 ≠ key)).find? (·.1 == other) = l.find? (·.1 == other) := by
  rw [List.find?_filter]
  congr 1
  funext e
  by_cases eq : e.1 = other
  · simp [eq, h]
  · simp [eq]

theorem find?_replace_of_ne (l : List (κ × α)) (value : α) (h : other ≠ key) :
    (l.filter (·.1 ≠ key) ++ [(key, value)]).find? (·.1 == other) =
      l.find? (·.1 == other) := by
  have missed : ([(key, value)] : List (κ × α)).find? (·.1 == other) = none := by
    rw [List.find?_cons_of_neg, List.find?_nil]
    simpa using h.symm
  rw [List.find?_append, find?_filter_ne l h, missed, Option.or_none]

theorem find?_replace_self (l : List (κ × α)) (key : κ) (value : α) :
    (l.filter (·.1 ≠ key) ++ [(key, value)]).find? (·.1 == key) = some (key, value) := by
  have gone : (l.filter (·.1 ≠ key)).find? (·.1 == key) = none := by
    rw [List.find?_eq_none]
    intro e he
    simpa using (List.mem_filter.1 he).2
  rw [List.find?_append, gone, Option.none_or, List.find?_cons_of_pos]
  simp

omit [DecidableEq κ] in
/-- Under keys that differ, each value is found. -/
theorem find?_of_mem {l : List (κ × α)} {e : κ × α} (nodup : (l.map (·.1)).Nodup) (h : e ∈ l) :
    l.find? (·.1 == e.1) = some e := by
  induction l with
  | nil => cases h
  | cons first rest ih =>
    obtain ⟨apart, nodup⟩ := List.nodup_cons.1 nodup
    rcases List.mem_cons.1 h with rfl | later
    · exact List.find?_cons_of_pos (beq_self_eq_true _)
    · rw [List.find?_cons_of_neg, ih nodup later]
      rw [beq_iff_eq]
      intro eq
      exact apart (List.mem_map.2 ⟨e, later, eq.symm⟩)

end Lockbox
