import Lockbox.Store
import Lockbox.Volume.Tree

/-!
# Watching

A watch on the secrets directory of a store in a tree. It watches directories by number: the secrets
directory and all below it, links followed when the watch begins, and directories that are made or
brought there later. A directory must be readable to be watched: one that is not keeps a watch from
beginning, and is left out later. Whatever is done to an entry of a watched directory, by anyone, is
delivered to the store by name.
-/

namespace Lockbox

/-- A watched directory and the path by which it was found. -/
structure Watched where
  number : FileNumber
  path : Path

/-- A running watch: the watched directories and how many traces were delivered. -/
structure Watch where
  directories : List Watched
  delivered : Nat

namespace Watch

def isWatched (directories : List Watched) (n : FileNumber) : Bool :=
  directories.any (·.number == n)

/-- Where a path below a directory leads, links followed. -/
def target? (t : Tree) (directory : FileNumber) (name : FileName) : Option FileNumber :=
  match t.follow directory [name] Tree.maxLinks with
  | .ok place => place.node
  | .error _ => none

/-- Add a directory and those below it, at most `height` levels, that are not yet in the list. What
is below a directory that may not be listed is not found. -/
def addBelow (t : Tree) : Nat → List Watched → Watched → List Watched
  | 0, known, _ => known
  | height + 1, known, d =>
    if t.isDirectoryNode d.number && !isWatched known d.number then
      (if t.mayList d.number then t.entriesOf d.number else []).foldl
        (fun known e =>
          match target? t d.number e.1 with
          | some n => addBelow t height known ⟨n, d.path.join e.1⟩
          | none => known)
        (known ++ [d])
    else known

/-- The directories below a directory and itself. -/
def closure (t : Tree) (known : List Watched) (d : Watched) : List Watched :=
  addBelow t (t.nodes.size + 1) known d

/-- Why a directory cannot be watched, in words. -/
def faultText : OsFault → String
  | .notFound => "No path was found."
  | fault => fault.message

/-- The path of a directory of which a fault tells. -/
def about (p : Path) : String := " about [" ++ Text.quoted p.display ++ "]"

/-- Begin to watch a directory. What was done before is not delivered. -/
def start (t : Tree) (p : Path) : Except Error Watch :=
  match t.resolve p with
  | .error fault => .error (.watch (p.display ++ ": " ++ faultText fault))
  | .ok n =>
    let directories := closure t [] ⟨n, p⟩
    match directories.find? fun d => !t.mayList d.number with
    | some d =>
      .error (.watch (p.display ++ ": " ++ faultText .denied ++ about d.path))
    | none => .ok ⟨directories, t.touches.length⟩

/-- The watched directories after an entry of one of them was touched: a directory that is there now
is watched with all below it, one that went away no longer is. -/
def follow (t : Tree) (directories : List Watched) (touch : Touch) : List Watched :=
  match directories.find? (·.number == touch.directory) with
  | none => directories
  | some d =>
    if !t.isDirectoryNode touch.number then directories
    else if t.entry? touch.directory touch.name = some touch.number then
      directories ++ ((closure t directories ⟨touch.number, d.path.join touch.name⟩).drop
        directories.length).filter fun d => t.mayList d.number
    else directories.filter fun d => !t.isWithin touch.number d.number t.nodes.size

end Watch

namespace Store

/-- Take notice of a change of a file. -/
def notice (s : Store Tree) (p : Path) (kind : ChangeKind) : Store Tree :=
  if Scope.isSecretsFile p then
    (s.report ⟨.debug, .watcher, "secrets file changed",
      [("path", .text p.display), ("kind", .text kind.message)]⟩).invalidate p
  else s

def deliver (directories : List Watched) (s : Store Tree) (touch : Touch) : Store Tree :=
  match touch.notification.kind?, directories.find? (·.number == touch.directory) with
  | some kind, some d => s.notice (d.path.join touch.name) kind
  | _, _ => s

def watch (s : Store Tree) : Except Error Watch × Store Tree :=
  match Watch.start s.world.volume s.path with
  | .error e => (.error e, s)
  | .ok w =>
    (.ok w, s.report ⟨.info, .watcher, "watching secrets directory",
      [("path", .text s.path.display)]⟩)

/-- Deliver the traces that a watch has not delivered yet. -/
def catchUp (s : Store Tree) (w : Watch) : Watch × Store Tree :=
  let touches := s.world.volume.touches
  (touches.drop w.delivered).foldl
    (fun (w, s) touch =>
      (⟨Watch.follow s.world.volume w.directories touch, w.delivered⟩,
        s.deliver w.directories touch))
    (⟨w.directories, touches.length⟩, s)

def describeWatch : String := Text.record "SecretsWatcher" [("finished", Text.truth false)]

end Store

end Lockbox
