import Lockbox.Document.Flat
import Lockbox.Document.Structured
import Lockbox.Json.Parser

/-!
# Secrets documents

A document tells its version, and is read as that version says and no other. Writing uses the
current version, so that a document that is read and written again has been brought up to date.
-/

namespace Lockbox

/-- The versions of a document. -/
inductive Version where
  | flat
  | structured
  deriving DecidableEq

namespace Version

def number : Version → Nat
  | .flat => 0
  | .structured => 1

def all : List Version := [.flat, .structured]

/-- The version that is written: the one with the highest number. -/
def current : Version := all.foldl (fun best v => if best.number < v.number then v else best) .flat

def ofNumber (n : Nat) : Except FormatFault Version :=
  match all.find? (·.number == n) with
  | some v => .ok v
  | none => .error (.unknownVersion n)

theorem current_eq : current = .structured := rfl

theorem number_injective {v w : Version} (h : v.number = w.number) : v = w := by
  cases v <;> cases w <;> simp_all [number]

theorem ofNumber_number (v : Version) : ofNumber v.number = .ok v := by
  cases v <;> rfl

theorem number_of_ofNumber {n : Nat} {v : Version} (h : ofNumber n = .ok v) : v.number = n := by
  unfold ofNumber at h
  split at h
  · next w found =>
    cases h
    simpa using List.find?_some found
  · cases h

def readHost : Version → List (String × Json) → Except FormatFault HostSecrets
  | .flat => Flat.readHost
  | .structured => Structured.readHost

def readFunction : Version → List (String × Json) → Except FormatFault (List Secret)
  | .flat => Flat.readFunction
  | .structured => Structured.readFunction

def writeHost : Version → HostSecrets → Except FormatFault String
  | .flat, host => Flat.writeHost host
  | .structured, host => .ok (Structured.writeHost host)

def writeFunction : Version → List Secret → Except FormatFault String
  | .flat, keys => Flat.writeFunction keys
  | .structured, keys => .ok (Structured.writeFunction keys)

end Version

namespace Document

/-- Secrets and the version of the document that they were read from. -/
structure Decoded (α : Type) where
  version : Version
  secrets : α

def Decoded.isOutdated (d : Decoded α) : Bool := d.version.number < Version.current.number

/-- The largest number that a version member may hold. -/
def maxVersion : Int := 0xffffffff

/-- The number that the version member of a document tells; none is zero. -/
def versionNumber (members : List (String × Json)) : Except FormatFault Nat :=
  match Json.member? "version" members with
  | none => .ok 0
  | some .null => .ok 0
  | some (.integer n) =>
    if 0 ≤ n ∧ n ≤ maxVersion then .ok n.toNat
    else .error (.badVersion (Json.integer n).compact)
  | some j => .error (.badVersion j.compact)

def membersOf (text : String) : Except FormatFault (List (String × Json)) :=
  match Json.parse? text with
  | none => .error .notJson
  | some (.object members) => .ok members
  | some _ => .error .notObject

def read (readAs : Version → List (String × Json) → Except FormatFault α) (text : String) :
    Except FormatFault (Decoded α) := do
  let members ← membersOf text
  let number ← versionNumber members
  let version ← Version.ofNumber number
  let secrets ← readAs version members
  return ⟨version, secrets⟩

def readHost : String → Except FormatFault (Decoded HostSecrets) := read Version.readHost

def readFunction : String → Except FormatFault (Decoded (List Secret)) :=
  read Version.readFunction

def writeHost (host : HostSecrets) : Except FormatFault String := Version.current.writeHost host

def writeFunction (keys : List Secret) : Except FormatFault String :=
  Version.current.writeFunction keys

end Document

end Lockbox
