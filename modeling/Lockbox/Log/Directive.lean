import Lockbox.Log.Event
import Lockbox.Log.Pattern
import Lockbox.Settings.Value
import Lockbox.Text.Blank

/-!
# Directives

A directive of a log filter is a level, a target, or both (`target=level`), and may name in brackets
a span, a field or both (`target[span\x7bfield\x7d]=level`). Without a level everything is admitted.

A directive is taken apart by its signs, for which the blanks at its ends do not count; but its
parts are cut out of the text with the blanks, at the distances from the front that the signs have
without them. So a blank in front, where anything is cut, spoils what stands behind it.
-/

namespace Lockbox

/-- Which events are admitted: those of a target that have a field, up to a rank, none for rank
zero. -/
structure Directive where
  /-- Without a target the directive is for all events. -/
  target : Option String
  /-- A field that events must have. -/
  field : Option String
  rank : Nat
  /-- Whether the directive is for events inside a span, known by its name or by the value of a
  field. -/
  isSpanned : Bool
  deriving DecidableEq

/-- Why a text is not a directive. -/
inductive DirectiveFault where
  | malformed
  | badLevel
  | badPattern
  deriving DecidableEq

def DirectiveFault.message : DirectiveFault → String
  | .malformed => "invalid filter directive"
  | .badLevel =>
    "error parsing level filter: expected one of \"off\", \"error\", \"warn\", \"info\", " ++
      "\"debug\", \"trace\", or a number 0-5"
  | .badPattern => "invalid field filter: error building NFA"

namespace Directive

/-! ### Levels -/

/-- The rank that admits every event. -/
def everything : Nat := Level.rank .trace

def namedRanks : List (String × Nat) :=
  ("off", 0) :: [Level.error, .warn, .info, .debug, .trace].map fun l =>
    (Text.lowerAscii l.name, l.rank)

/-- The rank that a number of one or more digits gives. -/
def numberedRank? (s : String) : Option Nat :=
  match Digits.span (Digits.sign s.toList).2, (Digits.sign s.toList).1 with
  | (d :: ds, []), false =>
    if Digits.toNat (d :: ds) ≤ everything then some (Digits.toNat (d :: ds)) else none
  | _, _ => none

def rank? (s : String) : Option Nat :=
  match numberedRank? s with
  | some n => some n
  | none => (namedRanks.find? (·.1 == Text.lowerAscii s)).map (·.2)

/-! ### Signs and parts -/

/-- A sign of a directive and the bytes that are cut out where it stands. -/
structure Mark where
  sign : Char
  bytes : List UInt8

/-- Lay signs along the bytes of a text. The bytes left over stand behind the last sign. -/
def align : List Char → List UInt8 → List Mark × List UInt8
  | [], bytes => ([], bytes)
  | c :: cs, bytes =>
    let (marks, tail) := align cs (bytes.drop c.utf8Size)
    (⟨c, bytes.take c.utf8Size⟩ :: marks, tail)

def part (marks : List Mark) : String := Utf8.lossy (marks.flatMap (·.bytes))

/-- The text that is cut out from the marks to the end. -/
def lastPart (marks : List Mark) (tail : List UInt8) : String :=
  Utf8.lossy (marks.flatMap (·.bytes) ++ tail)

/-! ### Reading -/

/-- The rank after an equals sign; nothing there means everything. -/
def rankAfter (s : String) : Except DirectiveFault Nat :=
  if s = "" then .ok everything
  else
    match rank? s with
    | some n => .ok n
    | none => .error .badLevel

/-- What may begin a target: a letter, a digit or one of three signs. -/
def isStart (c : Char) : Bool := Text.isAlphanumeric c || c = '-' || c = ':' || c = '_'

/-- Whether a text can be the value of a field: a number or a pattern. -/
def isFieldValue (s : String) : Bool :=
  (SettingValue.readReal? s).isSome || Pattern.isWellFormed s

/-- The field that stands between braces and whether it has a value. -/
def fieldOf (s : String) : Except DirectiveFault (String × Bool) :=
  match s.splitOn "=" with
  | name :: value :: _ => if isFieldValue value then .ok (name, true) else .error .badPattern
  | _ => if s = "" then .error .malformed else .ok (s, false)

/-- Give a directive the rank that stands at its end. -/
def withRank (d : Directive) (marks : List Mark) (tail : List UInt8) :
    Except DirectiveFault Directive :=
  match marks with
  | [] => .ok d
  | m :: rest =>
    if m.sign = '=' then (rankAfter (lastPart rest tail)).map fun rank => { d with rank }
    else .error .malformed

/-- The directive for a target whose span stands behind a bracket, its field perhaps behind a
brace. -/
def spanned (target : Option String) (marks : List Mark) (tail : List UInt8) :
    Except DirectiveFault Directive := do
  let name := marks.takeWhile fun m => m.sign ≠ ']' ∧ m.sign ≠ '\x7b'
  match marks.drop name.length with
  | [] => throw .malformed
  | m :: rest =>
    if m.sign = ']' then withRank ⟨target, none, everything, true⟩ rest tail
    else
      let inner := rest.takeWhile (·.sign ≠ '\x7d')
      match rest.drop inner.length with
      | [] => throw .malformed
      | _ :: rest =>
        let (field, hasValue) ← fieldOf (part inner)
        match rest with
        | [] => throw .malformed
        | m :: rest =>
          if m.sign = ']' then
            withRank ⟨target, some field, everything, !name.isEmpty || hasValue⟩ rest tail
          else throw .malformed

/-- The directive of a level or a target alone. -/
def bare (s : String) : Directive :=
  match rank? s with
  | some rank => ⟨none, none, rank, false⟩
  | none => ⟨some s, none, everything, false⟩

def parse (s : String) : Except DirectiveFault Directive :=
  let (marks, tail) := align (Text.trim s).toList (Utf8.encode s)
  let target := marks.takeWhile fun m => m.sign ≠ '=' ∧ m.sign ≠ '['
  match marks, marks.drop target.length with
  | [], _ => .error .malformed
  | first :: _, behind =>
    if first.sign ≠ '[' ∧ !isStart first.sign then .error .malformed
    else
      match behind with
      | [] => .ok (bare (lastPart marks tail))
      | m :: rest =>
        if m.sign = '=' then withRank ⟨some (part target), none, everything, false⟩ behind tail
        else spanned (if target.isEmpty then none else some (part target)) rest tail

/-! ### Admitting -/

def covers (d : Directive) (e : Event) : Bool :=
  !d.isSpanned && (d.target.getD "").toList.isPrefixOf e.component.target.toList &&
    d.field.all (· ∈ e.fieldNames)

def weight (d : Directive) : Nat :=
  match d.target with
  | none => 0
  | some t => t.utf8ByteSize + 1

/-- Whether a field is at least as specific as another: one is more than none, and of two that
whose name comes later in the order of code points. -/
def fieldOutweighs : Option String → Option String → Bool
  | _, none => true
  | none, some _ => false
  | some f, some g => !f.toList.lex g.toList fun a b => a.toNat < b.toNat

/-- Whether a directive is at least as specific as another. -/
def outweighs (d other : Directive) : Bool :=
  if d.weight = other.weight then fieldOutweighs d.field other.field else other.weight < d.weight

end Directive

end Lockbox
