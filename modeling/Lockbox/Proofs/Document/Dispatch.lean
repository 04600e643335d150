import Lockbox.Proofs.Document.RoundTrip
import Lockbox.Proofs.Json.Literal

/-!
# Which version a document is read as

A text declares a version if it is an object whose version member is missing or null, which stands
for the flat version, or the number of a version (`Declares`). It is then read as that version says,
and by no other reader. Any other text is refused for one of four reasons (`Refused`), whatever the
readers could make of it:

    read_of_declares : Declares text members v →
      Document.read readAs text = (readAs v members).map (Decoded.mk v)
    read_of_refused : Refused text fault → Document.read readAs text = .error fault
-/

namespace Lockbox

/-- The digit that a version is written with in a document. -/
def Version.digit : Version → Char
  | .flat => '0'
  | .structured => '1'

theorem Version.toDigits_number (v : Version) : Nat.toDigits 10 v.number = [v.digit] := by
  cases v <;> rfl

namespace Document

variable {α : Type} {text : String} {members : List (String × Json)} {v : Version}
  {fault : FormatFault} {readAs : Version → List (String × Json) → Except FormatFault α}

/-! ## Versions that are declared -/

/-- A text is an object that declares a version. -/
inductive Declares (text : String) (members : List (String × Json)) : Version → Prop
  | absent (parsed : Json.parse? text = some (.object members))
    (nothing : Json.member? "version" members = none) : Declares text members .flat
  | null (parsed : Json.parse? text = some (.object members))
    (declared : Json.member? "version" members = some .null) : Declares text members .flat
  | number {v : Version} (parsed : Json.parse? text = some (.object members))
    (declared : Json.member? "version" members = some (.integer v.number)) : Declares text members v

theorem Declares.parsed (h : Declares text members v) :
    Json.parse? text = some (.object members) := by
  cases h <;> assumption

theorem Declares.versionNumber (h : Declares text members v) :
    versionNumber members = .ok v.number := by
  unfold Document.versionNumber
  cases h with
  | absent _ nothing =>
    rw [nothing]
    rfl
  | null _ declared =>
    rw [declared]
    rfl
  | number _ declared =>
    rw [declared]
    cases v <;> rfl

/-- A text that declares a version is read as that version, and its members are read as a whole. -/
theorem read_of_declares (h : Declares text members v) :
    Document.read readAs text = (readAs v members).map (Decoded.mk v) := by
  rw [Document.read, membersOf, h.parsed]
  simp only [bind, Except.bind, h.versionNumber, Version.ofNumber_number]
  cases readAs v members <;> rfl

/-- A text declares one version at most. -/
theorem Declares.version_eq {others : List (String × Json)} {w : Version}
    (h : Declares text members v) (h' : Declares text others w) : v = w := by
  have eq : Json.object members = .object others :=
    Option.some.inj (h.parsed.symm.trans h'.parsed)
  cases eq
  exact Version.number_injective (Except.ok.inj (h.versionNumber.symm.trans h'.versionNumber))

/-! ## Texts that are refused -/

/-- Why a text declares no version. -/
inductive Refused (text : String) : FormatFault → Prop
  | notJson (bad : Json.parse? text = none) : Refused text .notJson
  | notObject {j : Json} (parsed : Json.parse? text = some j)
    (foreign : ∀ members, j ≠ .object members) : Refused text .notObject
  /-- The version member is no number of 32 bits. -/
  | badVersion {members : List (String × Json)} {j : Json}
    (parsed : Json.parse? text = some (.object members))
    (declared : Json.member? "version" members = some j) (set : j ≠ .null)
    (bad : ∀ n : Nat, n < 0x100000000 → j ≠ .integer n) : Refused text (.badVersion j.compact)
  | unknownVersion {members : List (String × Json)} {n : Nat}
    (parsed : Json.parse? text = some (.object members))
    (declared : Json.member? "version" members = some (.integer n)) (small : n < 0x100000000)
    (unknown : ∀ v : Version, v.number ≠ n) : Refused text (.unknownVersion n)

theorem ofNumber_of_unknown {n : Nat} (unknown : ∀ v : Version, v.number ≠ n) :
    Version.ofNumber n = .error (.unknownVersion n) := by
  unfold Version.ofNumber
  split
  · next v found =>
    have eq : v.number = n := by simpa using List.find?_some found
    exact absurd eq (unknown v)
  · rfl

theorem versionNumber_of_small {n : Nat}
    (declared : Json.member? "version" members = some (.integer n)) (small : n < 0x100000000) :
    versionNumber members = .ok n := by
  have within : (0 : Int) ≤ n ∧ (n : Int) ≤ maxVersion := by
    rw [maxVersion]
    omega
  rw [versionNumber, declared]
  exact if_pos within

theorem versionNumber_of_bad {j : Json} (declared : Json.member? "version" members = some j)
    (set : j ≠ .null) (bad : ∀ n : Nat, n < 0x100000000 → j ≠ .integer n) :
    versionNumber members = .error (.badVersion j.compact) := by
  rw [versionNumber, declared]
  cases j with
  | null => exact absurd rfl set
  | integer n =>
    refine if_neg ?_
    rintro ⟨nonnegative, small⟩
    obtain ⟨k, rfl⟩ := Int.eq_ofNat_of_zero_le nonnegative
    rw [maxVersion] at small
    exact bad k (by omega) rfl
  | _ => rfl

/-- No reader is asked about a text that is refused. -/
theorem read_of_refused (h : Refused text fault) : Document.read readAs text = .error fault := by
  rw [Document.read, membersOf]
  cases h with
  | notJson bad =>
    rw [bad]
    rfl
  | @notObject j parsed foreign =>
    rw [parsed]
    cases j with
    | object members => exact absurd rfl (foreign members)
    | _ => rfl
  | badVersion parsed declared set bad =>
    rw [parsed]
    simp only [bind, Except.bind, versionNumber_of_bad declared set bad]
  | unknownVersion parsed declared small unknown =>
    rw [parsed]
    simp only [bind, Except.bind, versionNumber_of_small declared small,
      ofNumber_of_unknown unknown]

/-- A text declares a version, or there is a reason to refuse it. -/
theorem declares_or_refused (text : String) :
    (∃ members v, Declares text members v) ∨ ∃ fault, Refused text fault := by
  cases parsed : Json.parse? text with
  | none => exact .inr ⟨_, .notJson parsed⟩
  | some j =>
    by_cases object : ∃ members, j = .object members
    · obtain ⟨members, rfl⟩ := object
      cases member_eq : Json.member? "version" members with
      | none => exact .inl ⟨members, .flat, .absent parsed member_eq⟩
      | some j =>
        by_cases unset : j = .null
        · exact .inl ⟨members, .flat, .null parsed (unset ▸ member_eq)⟩
        · by_cases small : ∃ n : Nat, n < 0x100000000 ∧ j = .integer n
          · obtain ⟨n, small, rfl⟩ := small
            by_cases known : ∃ v : Version, v.number = n
            · obtain ⟨v, rfl⟩ := known
              exact .inl ⟨members, v, .number parsed member_eq⟩
            · exact .inr ⟨_, .unknownVersion parsed member_eq small (not_exists.1 known)⟩
          · exact .inr ⟨_, .badVersion parsed member_eq unset fun n within eq =>
              small ⟨n, within, eq⟩⟩
    · exact .inr ⟨_, .notObject parsed (not_exists.1 object)⟩

/-! ## The whole -/

/-- Reading succeeds if the text declares a version and its reader succeeds. -/
theorem read_eq_ok_iff {d : Decoded α} :
    Document.read readAs text = .ok d ↔
      ∃ members, Declares text members d.version ∧ readAs d.version members = .ok d.secrets := by
  constructor
  · intro h
    rcases declares_or_refused text with ⟨members, v, declares⟩ | ⟨fault, refused⟩
    · rw [read_of_declares declares] at h
      cases held : readAs v members with
      | error fault =>
        rw [held] at h
        cases h
      | ok secrets =>
        rw [held] at h
        cases h
        exact ⟨members, declares, held⟩
    · rw [read_of_refused refused] at h
      cases h
  · rintro ⟨members, declares, held⟩
    rw [read_of_declares declares, held]
    rfl

/-- The version that is told does not depend on who reads. -/
theorem version_eq_of_read {β : Type} {d : Decoded α} {d' : Decoded β}
    {readAs' : Version → List (String × Json) → Except FormatFault β}
    (h : Document.read readAs text = .ok d) (h' : Document.read readAs' text = .ok d') :
    d.version = d'.version := by
  obtain ⟨members, declares, -⟩ := read_eq_ok_iff.1 h
  obtain ⟨others, declares', -⟩ := read_eq_ok_iff.1 h'
  exact declares.version_eq declares'

/-- A version is read from its digit alone. -/
theorem value?_eq_version_iff {depth : Nat} {cs rest : List Char} :
    Json.value? depth cs = some (.integer v.number, rest) ↔
      Json.skipGap cs = v.digit :: rest ∧ Json.Stops rest := by
  have fits : v.number < Word.unsignedBound := by cases v <;> decide
  rw [Json.value?_eq_integer_iff, v.toDigits_number, List.singleton_append]
  exact and_iff_right fits

/-- A document is read as the version that it declares and as no other. A text that declares none is
refused, whatever the readers of the versions could make of it. In the text of a document, the
number of a version is the digit of that version, and no other literal. -/
theorem version_is_never_guessed (text : String) :
    (∀ d, readHost text = .ok d ↔ ∃ members, Declares text members d.version ∧
      d.version.readHost members = .ok d.secrets) ∧
    (∀ d, readFunction text = .ok d ↔ ∃ members, Declares text members d.version ∧
      d.version.readFunction members = .ok d.secrets) ∧
    ((¬∃ members v, Declares text members v) ↔ ∃ fault, Refused text fault ∧
      ∀ (α : Type) (readAs : Version → List (String × Json) → Except FormatFault α),
        Document.read readAs text = .error fault) ∧
    ∀ (v : Version) (depth : Nat) (cs rest : List Char),
      Json.value? depth cs = some (.integer v.number, rest) ↔
        Json.skipGap cs = v.digit :: rest ∧ Json.Stops rest := by
  refine ⟨fun d => read_eq_ok_iff, fun d => read_eq_ok_iff, ?_, fun _ _ _ _ =>
    value?_eq_version_iff⟩
  constructor
  · intro undeclared
    obtain ⟨fault, refused⟩ := (declares_or_refused text).resolve_left undeclared
    exact ⟨fault, refused, fun _ _ => read_of_refused refused⟩
  · rintro ⟨fault, -, fails⟩ ⟨members, v, declares⟩
    -- a reader that takes everything would not fail
    have reads : Document.read (fun _ members => .ok members) text = .ok ⟨v, members⟩ :=
      read_of_declares declares
    rw [fails] at reads
    cases reads

/-- Zero with a sign is no integer. -/
example : Json.value? 0 ['-', '0'] = some (.real (.zero true), []) := rfl

end Document

end Lockbox
