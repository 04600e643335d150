import Lockbox.Path

/-!
# Volumes

A volume is what keeps files: anything that can read, list, create, fill and remove them, and fail
at it. Reading looks at a state; the other operations give a new one, also when they fail. Files are
replaced in two steps, by emptying and then filling them, and each step can fail on its own.
-/

namespace Lockbox

/-- Why a file operation fails. -/
inductive OsFault where
  | notFound
  | denied
  | busy
  | exists
  | notDirectory
  | isDirectory
  | invalid
  | nameTooLong
  | notEmpty
  | tooManyLinks
  | nulInPath
  | notText
  | other (text : String)
  deriving DecidableEq

def OsFault.message : OsFault → String
  | .notFound => "No such file or directory (os error 2)"
  | .denied => "Permission denied (os error 13)"
  | .busy => "Device or resource busy (os error 16)"
  | .exists => "File exists (os error 17)"
  | .notDirectory => "Not a directory (os error 20)"
  | .isDirectory => "Is a directory (os error 21)"
  | .invalid => "Invalid argument (os error 22)"
  | .nameTooLong => "File name too long (os error 36)"
  | .notEmpty => "Directory not empty (os error 39)"
  | .tooManyLinks => "Too many levels of symbolic links (os error 40)"
  | .nulInPath => "file name contained an unexpected NUL byte"
  | .notText => "stream did not contain valid UTF-8"
  | .other text => text

/-- What a directory holds under a name. -/
inductive EntryKind where
  | file
  | directory
  | link
  deriving DecidableEq

/-- An entry of a directory. Its kind may be impossible to tell. -/
structure Entry where
  name : FileName
  kind : Except OsFault EntryKind

/-- The number by which an open file is known. -/
abbrev FileNumber := Nat

/-- The operations of a volume in state `σ`. -/
class Volume (σ : Type) where
  /-- The bytes of a file. -/
  read : σ → Path → Except OsFault (List UInt8)
  /-- The entries of a directory in the order of the volume; reading each may fail. -/
  list : σ → Path → Except OsFault (List (Except OsFault Entry))
  /-- Whether a path leads to a directory, links followed. -/
  isDirectory : σ → Path → Except OsFault Bool
  /-- Open a file for writing, made new or emptied. -/
  create : Path → σ → Except OsFault FileNumber × σ
  /-- Write the bytes of an open, empty file. -/
  fill : FileNumber → List UInt8 → σ → Except OsFault Unit × σ
  /-- Remove a file. -/
  remove : Path → σ → Except OsFault Unit × σ
  /-- Make one directory. -/
  makeDirectory : Path → σ → Except OsFault Unit × σ

namespace Volume

variable {σ : Type} [Volume σ]

def write (p : Path) (bytes : List UInt8) (s : σ) : Except OsFault Unit × σ :=
  match create p s with
  | (.error e, s) => (.error e, s)
  | (.ok file, s) => fill file bytes s

/-- Whether a path is known to lead to a directory. -/
def leadsToDirectory (s : σ) (p : Path) : Bool :=
  match isDirectory s p with
  | .ok answer => answer
  | .error _ => false

/-- Make a directory whose parent is there, unless it is there itself. -/
def makeLast (p : Path) (s : σ) : Except OsFault Unit × σ :=
  match makeDirectory p s with
  | (.ok (), s) => (.ok (), s)
  | (.error e, s) => if leadsToDirectory s p then (.ok (), s) else (.error e, s)

/-- Make a directory and those above it that are missing; at most `height` of them. -/
def makeDirectoriesTo (p : Path) : Nat → σ → Except OsFault Unit × σ
  | 0, s => (.ok (), s)
  | height + 1, s =>
    match makeDirectory p s with
    | (.error .notFound, s) =>
      match p.parent? with
      | none => (.error (.other "failed to create whole tree"), s)
      | some above =>
        match makeDirectoriesTo above height s with
        | (.error e, s) => (.error e, s)
        | (.ok (), s) => makeLast p s
    | (.ok (), s) => (.ok (), s)
    | (.error e, s) => if leadsToDirectory s p then (.ok (), s) else (.error e, s)

/-- Make a directory and those above it that are missing. The empty path needs none. -/
def makeDirectories (p : Path) (s : σ) : Except OsFault Unit × σ :=
  makeDirectoriesTo p p.components.length s

end Volume

end Lockbox
