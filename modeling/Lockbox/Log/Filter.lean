import Lockbox.Log.Directive

/-!
# Log filters

A filter is a list of directives with commas between them. An event is admitted by the most specific
of the directives that are for it. A filter in which every directive must be one may be empty, and
then admits nothing; a filter that passes over what is no directive admits errors if nothing is
left.
-/

namespace Lockbox

/-- Directives in the order in which they were given. -/
abbrev Filter := List Directive

namespace Filter

def errors : Filter := [⟨none, none, Level.rank .error, false⟩]

def pieces (s : String) : List String :=
  ((s.splitOn ",").filter (· ≠ ""))

def parse? (s : String) : Option Filter :=
  (pieces s).mapM fun piece => (Directive.parse piece).toOption

/-- The filter that a text spells and what is said about the directives that are none. -/
def parseLossy (s : String) : Filter × List String :=
  let read := (pieces s).map fun piece => (piece, Directive.parse piece)
  let directives := read.filterMap fun r => r.2.toOption
  (if directives.isEmpty then errors else directives,
    read.filterMap fun r =>
      match r.2 with
      | .ok _ => none
      | .error fault => some ("ignoring `" ++ r.1 ++ "`: " ++ fault.message))

/-- The more specific of two directives, the later one if they are alike. -/
def moreSpecific (best : Option Directive) (d : Directive) : Option Directive :=
  match best with
  | none => some d
  | some b => if d.outweighs b then some d else some b

def admits (f : Filter) (e : Event) : Bool :=
  match (f.filter (·.covers e)).foldl moreSpecific none with
  | none => false
  | some d => e.level.rank ≤ d.rank

end Filter

end Lockbox
