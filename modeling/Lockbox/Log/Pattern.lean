import Lockbox.Text.Alphanumeric
import Lockbox.Text.Hex

/-!
# Patterns

A filter may ask for fields whose value matches a regular expression. No event is ever admitted for
that reason, so all that counts of a pattern is whether it is well formed: its groups and sets are
closed, each sign of repetition stands behind something to repeat, the bounds of a range are in
order, and escapes and flags are known. What would need the properties of code points is refused:
classes such as `\d`, word boundaries, and matching without regard to case.
-/

namespace Lockbox.Pattern

/-- What a character that is written as an escape stands for: a term of its own, an element of a
set, or the upper bound of a range in a set. Sets are nested `depth` deep. -/
inductive Place where
  | term
  | element (depth : Nat)
  | bound (depth : Nat) (low : Char)

/-- What the next character of a pattern is read as. -/
inductive Spot where
  /-- A term, or a sign of repetition if there is something to repeat. -/
  | term (isRepeatable : Bool)
  /-- Behind a sign of repetition. -/
  | repeated
  /-- Behind the bracket of a group. -/
  | group
  /-- Behind the question mark of a group. -/
  | asked
  /-- Before the bracket of a name. -/
  | nameMark
  /-- In a name, given in reverse. -/
  | name (read : List Char)
  /-- Among flags, given in reverse. -/
  | flags (read : List Char)
  /-- Behind the bracket of a set. -/
  | set (depth : Nat)
  /-- At the first element of a set. -/
  | first (depth : Nat)
  /-- Behind hyphens that a set begins with. -/
  | hyphens (depth : Nat)
  /-- At any element of a set. -/
  | element (depth : Nat)
  /-- Behind an element of a set. -/
  | behind (depth : Nat) (last : Char)
  /-- Behind an element of a set and a hyphen. -/
  | range (depth : Nat) (low : Char)
  /-- Behind a backslash. -/
  | escape (place : Place)
  /-- Among the digits of a code point, `left` more of them. -/
  | digits (place : Place) (left value : Nat)

/-- How far a pattern has been read: the open groups, the names given and what comes next. -/
structure Reading where
  groups : Nat
  names : List (List Char)
  spot : Spot

def start : Reading := ⟨0, [], .term false⟩

/-- After a character that stands for itself. -/
def literal (c : Char) : Place → Option Spot
  | .term => some (.term true)
  | .element depth => some (.behind depth c)
  | .bound depth low => if low.toNat ≤ c.toNat then some (.element depth) else none

/-- The control characters that have a letter. -/
def lettered : List (Char × Char) :=
  [('a', '\x07'), ('f', '\x0c'), ('t', '\t'), ('n', '\n'), ('r', '\r'), ('v', '\x0b')]

/-- The letters before code points and the count of digits. -/
def numbered : List (Char × Nat) := [('x', 2), ('u', 4), ('U', 8)]

/-- The letters for the start and the end of a text. -/
def edges : List Char := ['A', 'z']

def isSign (c : Char) : Bool := c.toNat < 0x80 && !c.isAlphanum && c != '<' && c != '>'

/-- After a backslash and `c`. -/
def escaped (c : Char) (place : Place) : Option Spot :=
  match lettered.find? (·.1 == c), numbered.find? (·.1 == c) with
  | some (_, control), _ => literal control place
  | none, some (_, count) => some (.digits place count 0)
  | none, none =>
    if isSign c then literal c place
    else
      match place with
      | .term => if c ∈ edges then some (.term true) else none
      | _ => none

def digit? (c : Char) : Option Nat :=
  if c.toNat < 0x80 then Hex.value? (UInt8.ofNat c.toNat) else none

/-- After one more digit of a code point, of which `left` were to come. -/
def digit (c : Char) (place : Place) (left value : Nat) : Option Spot :=
  match digit? c with
  | none => none
  | some d =>
    let value := value * 16 + d
    if 1 < left then some (.digits place (left - 1) value)
    else if value.isValidChar then literal (Char.ofNat value) place
    else none

/-- After an element of a set, or after its end. -/
def element (c : Char) (depth : Nat) : Spot :=
  if c = '[' then .set (depth + 1)
  else if c = ']' then (if depth = 0 then .term true else .element (depth - 1))
  else if c = '\\' then .escape (.element depth)
  else .behind depth c

/-- The characters that, written twice, join two sets. -/
def joints : List Char := ['&', '~', '-']

/-- After one more character of a set that is read on from `spot`. -/
def inSet (c : Char) : Spot → Option Spot
  | .set depth => some (if c = '^' then .first depth else if c = '-' then .hyphens depth
      else if c = ']' then .element depth else element c depth)
  | .first depth => some (if c = '-' then .hyphens depth
      else if c = ']' then .element depth else element c depth)
  | .hyphens depth => some (if c = '-' then .hyphens depth else element c depth)
  | .behind depth last =>
    some (if c = last ∧ c ∈ joints then .element depth
      else if c = '-' then .range depth last else element c depth)
  | .range depth low =>
    if c = ']' then some (element c depth)
    else if c = '-' then some (.element depth)
    else if c = '\\' then some (.escape (.bound depth low))
    else literal c (.bound depth low)
  | .element depth => some (element c depth)
  | _ => none

/-- The flags that may be set or, behind a hyphen, unset. -/
def knownFlags : List Char := ['i', 'm', 's', 'U', 'u', 'R', 'x']

/-- After one more character among flags: a colon opens a group to which they apply. -/
def flag (c : Char) (read : List Char) (r : Reading) : Option Reading :=
  if c = ':' then
    if read.head? = some '-' then none else some ⟨r.groups + 1, r.names, .term false⟩
  else if c = ')' then
    if read.isEmpty ∨ read.head? = some '-' then none else some { r with spot := .term false }
  else if c ∈ read ∨ (c = 'i' ∧ '-' ∉ read) then none
  else if c = '-' ∨ c ∈ knownFlags then some { r with spot := .flags (c :: read) }
  else none

/-- What a name of a group may have besides letters, digits and the underscore. -/
def nameSigns : List Char := ['.', '[', ']']

/-- After one more character of the name of a group. No two groups have one name. -/
def named (c : Char) (read : List Char) (r : Reading) : Option Reading :=
  if c = '>' then
    if read.isEmpty ∨ read ∈ r.names then none
    else some ⟨r.groups + 1, read :: r.names, .term false⟩
  else if c = '_' ∨ (Text.isAlphanumeric c ∧ !(read.isEmpty && c.isDigit)) ∨
      (c ∈ nameSigns ∧ !read.isEmpty) then
    some { r with spot := .name (c :: read) }
  else none

/-- After a term or part of one. A brace is never closed in a filter. -/
def term (c : Char) (isRepeatable : Bool) (r : Reading) : Option Reading :=
  if c = '(' then some { r with spot := .group }
  else if c = ')' then
    if r.groups = 0 then none else some ⟨r.groups - 1, r.names, .term true⟩
  else if c = '|' then some { r with spot := .term false }
  else if c = '[' then some { r with spot := .set 0 }
  else if c = '\\' then some { r with spot := .escape .term }
  else if c = '*' ∨ c = '+' ∨ c = '?' then
    if isRepeatable then some { r with spot := .repeated } else none
  else if c = '\x7b' then none
  else some { r with spot := .term true }

/-- After one more character, unless the pattern is ill formed. -/
def step (r : Reading) (c : Char) : Option Reading :=
  match r.spot with
  | .term isRepeatable => term c isRepeatable r
  | .repeated => if c = '?' then some { r with spot := .term true } else term c true r
  | .group =>
    if c = '?' then some { r with spot := .asked }
    else term c false { r with groups := r.groups + 1 }
  | .asked =>
    if c = 'P' then some { r with spot := .nameMark }
    else if c = '<' then some { r with spot := .name [] }
    else flag c [] r
  | .nameMark => if c = '<' then some { r with spot := .name [] } else none
  | .name read => named c read r
  | .flags read => flag c read r
  | .escape place => (escaped c place).map fun spot => { r with spot }
  | .digits place left value => (digit c place left value).map fun spot => { r with spot }
  | spot => (inSet c spot).map fun spot => { r with spot }

def isWellFormed (s : String) : Bool :=
  match s.toList.foldlM step start with
  | some ⟨0, _, .term _⟩ => true
  | some ⟨0, _, .repeated⟩ => true
  | _ => false

end Lockbox.Pattern
