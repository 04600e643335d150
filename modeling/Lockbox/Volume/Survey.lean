import Lockbox.Text.Hex
import Lockbox.Volume.Tree

/-!
# Surveys

A survey lists every path below the root of a tree with what is there: the text of a file, or its
bytes in hexadecimal digits, the target of a link, a directory. What may not be read, or not be
reached, is said to be unreadable, and what is below a directory that may not be listed is left out.
Two surveys differ in what was added, changed and removed.
-/

namespace Lockbox

/-- Paths and what is there. -/
abbrev Survey := List (String × String)

namespace Survey

def content (bytes : List UInt8) : String :=
  (Utf8.decode bytes).getD ("<hex> " ++ Hex.encode bytes)

def below (path : String) (name : FileName) : String :=
  if path = "" then Utf8.lossy name else path ++ "/" ++ Utf8.lossy name

/-- What stands for anything that may not be read. -/
def unreadable : String := "<unreadable>"

/-- What is at a path and below it, at most `height` levels. It can be read only if the directory
that it is in may be walked through. -/
def ofNode (t : Tree) : Nat → Bool → String → FileNumber → Survey
  | 0, _, _, _ => []
  | height + 1, isReachable, path, n =>
    match t.node? n with
    | some (.file mode bytes) =>
      [(path, if isReachable && Tree.mayRead mode then content bytes else unreadable)]
    | some (.link target) =>
      [(path, if isReachable then "<link> " ++ target.display else unreadable)]
    | some (.directory mode _ entries) =>
      (path, "<dir>") ::
        if isReachable && Tree.mayRead mode then
          entries.flatMap fun (name, n) =>
            ofNode t height (Tree.mayEnter mode) (below path name) n
        else []
    | none => []

def ofTree (t : Tree) : Survey := (ofNode t (t.nodes.size + 1) true "" Tree.root).drop 1

def at? (s : Survey) (path : String) : Option String := (s.find? (·.1 == path)).map (·.2)

/-- The paths at which the second survey differs from the first, with what is there now. -/
def changes (before after : Survey) : List (String × Option String) :=
  (after.filter fun e => before.at? e.1 ≠ some e.2).map (fun e => (e.1, some e.2)) ++
    (before.filter fun e => (after.at? e.1).isNone).map fun e => (e.1, none)

end Survey

end Lockbox
