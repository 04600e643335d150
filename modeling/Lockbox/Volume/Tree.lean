import Lockbox.Volume.Tree.Removal

/-!
# Trees

A tree is a volume. Each operation finds its faults in the order in which a lookup meets them, and
one that fails changes nothing; what succeeds leaves a trace for those who watch a directory.
-/

namespace Lockbox

namespace Tree

/-! ### Looking -/

def read (t : Tree) (p : Path) : Except OsFault (List UInt8) := do
  match t.node? (← t.resolve p) with
  | some (.file mode content) => if mayRead mode then return content else throw .denied
  | some (.directory mode _ _) => throw (if mayRead mode then .isDirectory else .denied)
  | _ => throw .notFound

/-- The entries of a directory, oldest first. -/
def list (t : Tree) (p : Path) : Except OsFault (List (Except OsFault Entry)) := do
  match t.node? (← t.resolve p) with
  | some (.directory mode _ entries) =>
    if mayRead mode then
      return entries.map fun (name, n) => .ok ⟨name, .ok (t.kindOf n)⟩
    else throw .denied
  | _ => throw .notDirectory

def isDirectory (t : Tree) (p : Path) : Except OsFault Bool := do
  return t.isDirectoryNode (← t.resolve p)

/-! ### Changing -/

/-- Open a file for writing, made new or emptied. -/
def create (t : Tree) (p : Path) : Except OsFault (FileNumber × Tree) := do
  if p.endsInSlash then
    let _ ← t.directoryOf p
    throw .isDirectory
  checkPath p
  let place ← t.followNew root p.segments maxLinks
  match place.node, place.name with
  | some n, name =>
    match t.node? n with
    | some (.file mode _) =>
      if mayWrite mode then
        return (n, (t.setNode n (.file mode [])).touch place.directory (name.getD []) n .modified)
      else throw .denied
    | _ => throw .isDirectory
  | none, none => throw .notFound
  | none, some name =>
    t.checkWritable place.directory
    let (n, t) := t.addNode (.file fileMode [])
    return (n, (t.attach place.directory name n).touch place.directory name n .created)

def fill (t : Tree) (n : FileNumber) (bytes : List UInt8) : Tree :=
  match t.node? n with
  | some (.file mode _) => t.setNode n (.file mode bytes)
  | _ => t

def remove (t : Tree) (p : Path) : Except OsFault Tree := do
  let (directory, name) ← t.directoryOf p
  match name with
  | none => throw .isDirectory
  | some name =>
    match ← t.lookUp directory name with
    | none => throw .notFound
    | some n =>
      if p.endsInSlash then throw (if t.isDirectoryNode n then .isDirectory else .notDirectory)
      t.checkWritable directory
      if t.isDirectoryNode n then throw .isDirectory
      return (t.detach directory name).touch directory name n .removed

def addEntry (t : Tree) (directory : FileNumber) (name : FileName) (node : Node) :
    Except OsFault Tree := do
  t.checkWritable directory
  let (n, t) := t.addNode node
  return (t.attach directory name n).touch directory name n .created

def makeDirectory (t : Tree) (p : Path) : Except OsFault Tree := do
  let (directory, name) ← t.directoryOf p
  match name with
  | none => throw .exists
  | some name =>
    match ← t.lookUp directory name with
    | some _ => throw .exists
    | none => t.addEntry directory name (.directory directoryMode directory [])

def makeLink (t : Tree) (p target : Path) : Except OsFault Tree := do
  checkPath target
  let (directory, name) ← t.directoryOf p
  match name with
  | none => throw .exists
  | some name =>
    match ← t.lookUp directory name with
    | some _ => throw .exists
    | none =>
      if p.endsInSlash then throw .notFound
      t.addEntry directory name (.link target)

def setMode (t : Tree) (p : Path) (mode : Nat) : Except OsFault Tree := do
  let place ← t.locate p
  let n ← t.resolve p
  let changed := match t.node? n with
    | some (.file _ content) => t.setNode n (.file mode content)
    | some (.directory _ parent entries) => t.setNode n (.directory mode parent entries)
    | _ => t
  return match place.name with
    | some name => changed.touch place.directory name n .modified
    | none => changed

/-- Whether a directory is `n` or below it, looking at most `height` levels up. -/
def isWithin (t : Tree) (n directory : FileNumber) : Nat → Bool
  | 0 => n == directory
  | height + 1 =>
    n == directory ||
      (directory != root && t.isWithin n (t.parentOf directory) height)

/-- Refuse to put a node of one kind in the place of another. -/
def checkReplaced (t : Tree) (source : FileNumber) : Option FileNumber → Except OsFault Unit
  | none => .ok ()
  | some old =>
    if t.isDirectoryNode source then
      if !t.isDirectoryNode old then .error .notDirectory else .ok ()
    else if t.isDirectoryNode old then .error .isDirectory else .ok ()

/-- Give a node another name, in place of any that has it. -/
def rename (t : Tree) (p q : Path) : Except OsFault Tree := do
  checkPath p
  checkPath q
  let (source, name) ← t.directoryOf p
  let (target, newName) ← t.directoryOf q
  match name, newName with
  | some name, some newName =>
    let some n ← t.lookUp source name | throw .notFound
    let old ← t.lookUp target newName
    let height := t.nodes.size
    if !t.isDirectoryNode n && (p.endsInSlash || q.endsInSlash) then throw .notDirectory
    if t.isDirectoryNode n && t.isWithin n target height then throw .invalid
    if old.any fun o => t.isDirectoryNode o && t.isWithin o source height then throw .notEmpty
    if old = some n then return t
    t.checkWritable source
    t.checkWritable target
    t.checkReplaced n old
    if t.isDirectoryNode n && source != target then t.checkWritable n
    if old.any fun o => !(t.entriesOf o).isEmpty then throw .notEmpty
    let moved := ((t.detach source name).attach target newName n).setParent n target
    return (moved.touch source name n .renamed).touch target newName n .renamed
  | _, _ => throw .busy

/-- The outcome of a change that is made as a whole or not at all. -/
def attempt (t : Tree) : Except OsFault Tree → Except OsFault Unit × Tree
  | .ok changed => (.ok (), changed)
  | .error fault => (.error fault, t)

instance : Volume Tree where
  read := Tree.read
  list := Tree.list
  isDirectory := Tree.isDirectory
  create p t :=
    match t.create p with
    | .ok (n, changed) => (.ok n, changed)
    | .error fault => (.error fault, t)
  fill n bytes t := (.ok (), t.fill n bytes)
  remove p t := t.attempt (t.remove p)
  makeDirectory p t := t.attempt (t.makeDirectory p)

end Tree

end Lockbox
