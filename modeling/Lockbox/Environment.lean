/-!
# Environments

An environment gives values to names. Where it comes from matters for odd names: a table holds any
name, while the block of `NAME=VALUE` entries that a process is given is searched for the text
`name=`, so that a name with an equals sign can reach into a value.
-/

namespace Lockbox

/-- What the variables of an environment hold. -/
abbrev Environment := String → Option String

/-- Variables and their values, each name once. -/
abbrev Variables := List (String × String)

namespace Variables

def set (name value : String) : Variables → Variables
  | [] => [(name, value)]
  | (other, old) :: rest =>
    if other = name then (name, value) :: rest else (other, old) :: set name value rest

def unset (name : String) (vars : Variables) : Variables := vars.filter (·.1 ≠ name)

def table (vars : Variables) : Environment := fun name =>
  (vars.find? (·.1 == name)).map (·.2)

/-- What follows `start` in a text that begins with it. -/
def after? : List Char → List Char → Option (List Char)
  | [], cs => some cs
  | _ :: _, [] => none
  | s :: start, c :: cs => if s = c then after? start cs else none

/-- The variables as the block that a process is given. The empty name and names with a NUL are
held by no entry. -/
def process (vars : Variables) : Environment := fun name =>
  if name = "" ∨ '\x00' ∈ name.toList then none
  else
    vars.findSome? fun v =>
      (after? (name ++ "=").toList (v.1 ++ "=" ++ v.2).toList).map String.ofList

/-- The variable of an entry. One without an equals sign or without a name is none. -/
def ofEntry? (entry : String) : Option (String × String) :=
  let name := entry.toList.takeWhile (· ≠ '=')
  match entry.toList.drop name.length with
  | _ :: value =>
    if name.isEmpty then none else some (String.ofList name, String.ofList value)
  | [] => none

/-- The variables of a block of entries, each ended by a NUL. -/
def ofBlock (block : String) : Variables := (block.splitOn "\x00").filterMap ofEntry?

/-! ### Tables -/

theorem table_set_self (name value : String) (vars : Variables) :
    (vars.set name value).table name = some value := by
  induction vars with
  | nil => simp [set, table]
  | cons v rest ih =>
    unfold set
    split
    · simp [table]
    · next ne => simpa [table, ne] using ih

theorem table_set_of_ne {name other : String} (h : name ≠ other) (value : String)
    (vars : Variables) : (vars.set name value).table other = vars.table other := by
  induction vars with
  | nil => simp [set, table, h]
  | cons v rest ih =>
    unfold set
    split
    · next e => simp [table, e, h]
    · simp only [table, List.find?_cons] at ih ⊢
      split
      · rfl
      · exact ih

theorem table_unset_self (name : String) (vars : Variables) :
    (vars.unset name).table name = none := by
  simp [unset, table]

theorem table_unset_of_ne {name other : String} (h : name ≠ other) (vars : Variables) :
    (vars.unset name).table other = vars.table other := by
  simp only [unset, table, List.find?_filter]
  congr 2
  funext v
  by_cases e : v.1 = other
  · simp [e, Ne.symm h]
  · simp [e]

end Variables

end Lockbox
