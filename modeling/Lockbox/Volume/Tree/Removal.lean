import Lockbox.Volume.Tree.Lookup

/-!
# Removal from a tree

Removing a directory with all that is below it, entry by entry. What was removed before a fault
stays removed.
-/

namespace Lockbox

namespace Tree

/-- Remove entries one after another by `removeOne`, up to the first fault. -/
def removeEach (removeOne : Tree → FileName × FileNumber → Except OsFault Unit × Tree) :
    Tree → List (FileName × FileNumber) → Except OsFault Unit × Tree
  | t, [] => (.ok (), t)
  | t, e :: rest =>
    match removeOne t e with
    | (.error fault, t) => (.error fault, t)
    | (.ok (), t) => removeEach removeOne t rest

def removeEntry (t : Tree) (directory : FileNumber) (name : FileName) (n : FileNumber) :
    Except OsFault Unit × Tree :=
  match t.checkWritable directory with
  | .error fault => (.error fault, t)
  | .ok () => (.ok (), (t.detach directory name).touch directory name n .removed)

/-- Remove an entry and all that is below it, at most `height` levels. -/
def removeBelow (directory : FileNumber) : Nat → Tree → FileName × FileNumber →
    Except OsFault Unit × Tree
  | 0, t, _ => (.error .notEmpty, t)
  | height + 1, t, (name, n) =>
    if t.isDirectoryNode n then
      if t.mayWalk directory && t.mayList n then
        match removeEach (removeBelow n height) t (t.entriesOf n) with
        | (.error fault, t) => (.error fault, t)
        | (.ok (), t) => t.removeEntry directory name n
      else (.error .denied, t)
    else t.removeEntry directory name n

/-- Remove all that is below a directory. -/
def clear (t : Tree) (n : FileNumber) : Except OsFault Unit × Tree :=
  if t.mayList n then removeEach (removeBelow n t.nodes.size) t (t.entriesOf n)
  else (.error .denied, t)

/-- Empty a directory that cannot itself be removed for the reason that `left` gives. -/
def clearFor (t : Tree) (n : FileNumber) (left : Tree → OsFault) : Except OsFault Unit × Tree :=
  match t.clear n with
  | (.error fault, t) => (.error fault, t)
  | (.ok (), t) => (.error (left t), t)

/-- Remove what is under a name in a directory: a directory and all that is below it, or a link. A
slash behind the name of a link leads on to the directory, which is emptied while the link stays. -/
def removeNamed (t : Tree) (p : Path) (directory : FileNumber) (name : FileName) :
    Except OsFault Unit × Tree :=
  match t.lookUp directory name with
  | .error fault => (.error fault, t)
  | .ok none => (.error .notFound, t)
  | .ok (some n) =>
    match t.kindOf n, p.endsInSlash with
    | .file, _ => (.error .notDirectory, t)
    | .link, true =>
      match t.resolve p with
      | .error fault => (.error fault, t)
      | .ok target =>
        t.clearFor target fun t =>
          if (t.entry? directory name).isSome then .notDirectory else .notFound
    | _, _ => removeBelow directory (t.nodes.size + 1) t (name, n)

/-- Remove a directory and all that is below it, or a link. What was removed before a fault stays
removed; a directory that is named by a dot is emptied and stays. -/
def removeAll (p : Path) (t : Tree) : Except OsFault Unit × Tree :=
  match t.directoryOf p with
  | .error fault => (.error fault, t)
  | .ok (directory, some name) => t.removeNamed p directory name
  | .ok (directory, none) =>
    if p.segments.getLast?.any isHere then t.clearFor directory fun _ => .invalid
    else (.error .invalid, t)

end Tree

end Lockbox
