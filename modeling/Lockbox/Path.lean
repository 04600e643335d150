import Lockbox.Text.Utf8

/-!
# Paths

A path is a sequence of bytes, since file names need not be text. Slashes separate its segments.
Two views matter: the segments, which a lookup walks along, and the components, by which paths are
compared and file names are taken apart.
-/

namespace Lockbox

abbrev FileName := List UInt8

def slash : UInt8 := 0x2f

def dot : UInt8 := 0x2e

structure Path where
  bytes : List UInt8
  deriving DecidableEq

namespace Path

def ofText (s : String) : Path := ⟨Utf8.encode s⟩

def display (p : Path) : String := Utf8.lossy p.bytes

/-- The parts of a byte sequence between slashes, empty ones included. -/
def split : List UInt8 → List FileName
  | [] => [[]]
  | b :: rest =>
    if b = slash then [] :: split rest
    else
      match split rest with
      | [] => [[b]]
      | part :: parts => (b :: part) :: parts

def isAbsolute (p : Path) : Bool := p.bytes.head? == some slash

/-- Whether the path ends in a slash, so that it can only lead to a directory. -/
def endsInSlash (p : Path) : Bool := p.bytes.getLast? == some slash

def segments (p : Path) : List FileName := (split p.bytes).filter (· ≠ [])

inductive Component where
  | root
  | here
  | up
  | name (name : FileName)
  deriving DecidableEq

def component? (segment : FileName) : Option Component :=
  if segment = [dot] then none
  else if segment = [dot, dot] then some .up
  else some (.name segment)

/-- The components of a path. Only a dot at the very front counts. -/
def components (p : Path) : List Component :=
  (if p.isAbsolute then [.root]
   else if (split p.bytes).head? = some [dot] then [.here]
   else []) ++ p.segments.filterMap component?

def same (p q : Path) : Bool := p.components == q.components

def fileName? (p : Path) : Option FileName :=
  match p.components.getLast? with
  | some (.name n) => some n
  | _ => none

/-- A file name cut at its last dot, if it has one that is not its first byte. -/
def cutAtDot (n : FileName) : FileName × Option FileName :=
  let after := n.reverse.takeWhile (· ≠ dot)
  let before := (n.reverse.drop (after.length + 1)).reverse
  if after.length = n.length ∨ before = [] then (n, none) else (before, some after.reverse)

def stem? (p : Path) : Option FileName := p.fileName?.map fun n => (cutAtDot n).1

def extension? (p : Path) : Option FileName := p.fileName?.bind fun n => (cutAtDot n).2

def join (p : Path) (n : FileName) : Path :=
  if p.bytes = [] ∨ p.endsInSlash then ⟨p.bytes ++ n⟩ else ⟨p.bytes ++ slash :: n⟩

def Component.bytes : Component → List UInt8
  | .root => []
  | .here => [dot]
  | .up => [dot, dot]
  | .name n => n

def ofComponents : List Component → Path
  | [.root] => ⟨[slash]⟩
  | cs => ⟨[slash].intercalate (cs.map Component.bytes)⟩

/-- The path less its last component. The empty path and the root have no parent. -/
def parent? (p : Path) : Option Path :=
  match p.components.reverse with
  | [] => none
  | .root :: _ => none
  | _ :: rest => some (ofComponents rest.reverse)

end Path

end Lockbox
