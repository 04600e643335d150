import Lockbox.Volume.Notification

/-!
# Nodes of a tree

A volume held in memory: numbered files, directories and symbolic links with the permissions of
their owner, and the traces of what was done to them.
-/

namespace Lockbox

/-- A file, a directory or a link. A directory knows the one above it. -/
inductive Node where
  | file (mode : Nat) (content : List UInt8)
  | directory (mode : Nat) (parent : FileNumber) (entries : List (FileName × FileNumber))
  | link (target : Path)

/-- Numbered nodes, the root first, and the traces of what was done, in order. -/
structure Tree where
  nodes : Array Node
  touches : List Touch

namespace Tree

def root : FileNumber := 0

def fileMode : Nat := 0o644

def directoryMode : Nat := 0o755

/-- The tree with nothing but the root. -/
def empty : Tree := ⟨#[.directory directoryMode root []], []⟩

def mayRead (mode : Nat) : Bool := mode &&& 0o400 != 0

def mayWrite (mode : Nat) : Bool := mode &&& 0o200 != 0

def mayEnter (mode : Nat) : Bool := mode &&& 0o100 != 0

def node? (t : Tree) (n : FileNumber) : Option Node := t.nodes[n]?

def setNode (t : Tree) (n : FileNumber) (node : Node) : Tree :=
  { t with nodes := t.nodes.setIfInBounds n node }

def addNode (t : Tree) (node : Node) : FileNumber × Tree :=
  (t.nodes.size, { t with nodes := t.nodes.push node })

def isDirectoryNode (t : Tree) (n : FileNumber) : Bool :=
  match t.node? n with
  | some (.directory _ _ _) => true
  | _ => false

def kindOf (t : Tree) (n : FileNumber) : EntryKind :=
  match t.node? n with
  | some (.directory _ _ _) => .directory
  | some (.link _) => .link
  | _ => .file

def parentOf (t : Tree) (n : FileNumber) : FileNumber :=
  match t.node? n with
  | some (.directory _ parent _) => parent
  | _ => root

def entriesOf (t : Tree) (n : FileNumber) : List (FileName × FileNumber) :=
  match t.node? n with
  | some (.directory _ _ entries) => entries
  | _ => []

def entry? (t : Tree) (directory : FileNumber) (name : FileName) : Option FileNumber :=
  ((t.entriesOf directory).find? (·.1 == name)).map (·.2)

def setEntries (t : Tree) (n : FileNumber) (entries : List (FileName × FileNumber)) : Tree :=
  match t.node? n with
  | some (.directory mode parent _) => t.setNode n (.directory mode parent entries)
  | _ => t

def setParent (t : Tree) (n parent : FileNumber) : Tree :=
  match t.node? n with
  | some (.directory mode _ entries) => t.setNode n (.directory mode parent entries)
  | _ => t

def detach (t : Tree) (directory : FileNumber) (name : FileName) : Tree :=
  t.setEntries directory ((t.entriesOf directory).filter (·.1 ≠ name))

/-- Put a name into a directory, in place of any that is there. -/
def attach (t : Tree) (directory : FileNumber) (name : FileName) (n : FileNumber) : Tree :=
  t.setEntries directory (((t.entriesOf directory).filter (·.1 ≠ name)) ++ [(name, n)])

/-- Leave a trace. -/
def touch (t : Tree) (directory : FileNumber) (name : FileName) (n : FileNumber)
    (notification : Notification) : Tree :=
  { t with touches := t.touches ++ [⟨directory, name, n, notification⟩] }

def mayList (t : Tree) (n : FileNumber) : Bool :=
  match t.node? n with
  | some (.directory mode _ _) => mayRead mode
  | _ => false

def mayWalk (t : Tree) (n : FileNumber) : Bool :=
  match t.node? n with
  | some (.directory mode _ _) => mayEnter mode
  | _ => false

end Tree

end Lockbox
