import Lockbox.Volume.Tree.Basic

/-!
# Lookup in a tree

Where a path leads. Paths start at the root, which is also the current directory. Every directory on
the way must be one that may be walked through; links are followed up to a limit, and a slash at the
end of a path or of a link calls for a directory.
-/

namespace Lockbox

namespace Tree

def maxName : Nat := 255

/-- The longest path and the byte that ends it. -/
def maxPath : Nat := 4096

def maxLinks : Nat := 40

/-- Refuse a path that no lookup is started for. -/
def checkPath (p : Path) : Except OsFault Unit :=
  if 0 ∈ p.bytes then .error .nulInPath
  else if p.bytes = [] then .error .notFound
  else if maxPath ≤ p.bytes.length then .error .nameTooLong
  else .ok ()

/-- A directory that may be walked through: the one above it and its entries. -/
def enter (t : Tree) (n : FileNumber) :
    Except OsFault (FileNumber × List (FileName × FileNumber)) :=
  match t.node? n with
  | some (.directory mode parent entries) =>
    if mayEnter mode then .ok (parent, entries) else .error .denied
  | some _ => .error .notDirectory
  | none => .error .notFound

/-- Where a lookup ends: in a directory, under a name unless the path names the directory itself,
and at a node if there is one. A link that leads there with a slash at its end calls for a
directory. -/
structure Place where
  directory : FileNumber
  name : Option FileName
  node : Option FileNumber
  callsForDirectory : Bool

/-- A lookup that reached its end, or a link that leads elsewhere, with what is left to walk. -/
inductive Progress where
  | arrived (place : Place)
  | detour (start : FileNumber) (target : Path) (rest : List FileName)

def isHere (name : FileName) : Bool := name == [dot]

def isUp (name : FileName) : Bool := name == [dot, dot]

/-- Walk up to the end or to the first link. -/
def walk (t : Tree) (start : FileNumber) : List FileName → Except OsFault Progress
  | [] => .ok (.arrived ⟨start, none, some start, false⟩)
  | name :: rest => do
    let (parent, entries) ← t.enter start
    if isHere name then t.walk start rest
    else if isUp name then t.walk parent rest
    else if maxName < name.length then throw .nameTooLong
    else
      match entries.find? (·.1 == name) with
      | none =>
        if rest.isEmpty then return .arrived ⟨start, some name, none, false⟩ else throw .notFound
      | some (_, n) =>
        match t.node? n with
        | some (.link target) => return .detour start target rest
        | _ =>
          if rest.isEmpty then return .arrived ⟨start, some name, some n, false⟩ else t.walk n rest

/-- Walk to the end, following at most `links` links. -/
def follow (t : Tree) (start : FileNumber) (names : List FileName) :
    Nat → Except OsFault Place
  | 0 => do
    match ← t.walk start names with
    | .arrived place => return place
    | .detour _ _ _ => throw .tooManyLinks
  | links + 1 => do
    match ← t.walk start names with
    | .arrived place => return place
    | .detour start target rest =>
      let place ←
        t.follow (if target.isAbsolute then root else start) (target.segments ++ rest) links
      return { place with
        callsForDirectory := place.callsForDirectory || (rest.isEmpty && target.endsInSlash) }

/-- Where a path leads, links followed. -/
def locate (t : Tree) (p : Path) : Except OsFault Place := do
  checkPath p
  t.follow root p.segments maxLinks

def resolve (t : Tree) (p : Path) : Except OsFault FileNumber := do
  let place ← t.locate p
  match place.node with
  | none => throw .notFound
  | some n =>
    if (p.endsInSlash || place.callsForDirectory) && !t.isDirectoryNode n then throw .notDirectory
    else return n

/-- The directory that holds the last of the given names, and that name unless it stands for a
directory by itself. -/
def holder (t : Tree) (start : FileNumber) (names : List FileName) (links : Nat) :
    Except OsFault (FileNumber × Option FileName) := do
  match names.getLast? with
  | none => return (start, none)
  | some last =>
    match (← t.follow start names.dropLast links).node with
    | none => throw .notFound
    | some directory =>
      let _ ← t.enter directory
      if isHere last || isUp last then return (directory, none) else return (directory, some last)

/-- The directory that holds the last name of a path, and that name unless the path names a
directory by itself. -/
def directoryOf (t : Tree) (p : Path) : Except OsFault (FileNumber × Option FileName) := do
  checkPath p
  t.holder root p.segments maxLinks

/-- Walk to where a file can be made, following at most `links` links. A slash at the end of the
last link refuses it as soon as the directory before it is reached. -/
def followNew (t : Tree) (start : FileNumber) (names : List FileName) :
    Nat → Except OsFault Place
  | 0 => t.follow start names 0
  | links + 1 => do
    match ← t.walk start names with
    | .arrived place => return place
    | .detour start target rest =>
      let start := if target.isAbsolute then root else start
      if rest.isEmpty && target.endsInSlash then
        let _ ← t.holder start target.segments links
        throw .isDirectory
      else t.followNew start (target.segments ++ rest) links

def lookUp (t : Tree) (directory : FileNumber) (name : FileName) :
    Except OsFault (Option FileNumber) :=
  if maxName < name.length then .error .nameTooLong else .ok (t.entry? directory name)

/-- Refuse to change the entries of a directory that may not be written. -/
def checkWritable (t : Tree) (directory : FileNumber) : Except OsFault Unit :=
  match t.node? directory with
  | some (.directory mode _ _) =>
    if mayWrite mode && mayEnter mode then .ok () else .error .denied
  | _ => .error .notDirectory

end Tree

end Lockbox
