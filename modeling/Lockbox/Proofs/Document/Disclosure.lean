import Lockbox.Proofs.Document.Masking
import Lockbox.Proofs.Text.Quoted

/-!
# What messages about documents disclose

Blanking the value in a record is a mask (`masks_blankRecord`), so that of a document without the
values of its keys is read what is read of the document, without the values, faults included. The
one exception is a structured document of the host with a text in place of the record of its master
key (`Misplaces`), which the message shows. Texts that are shown differ (`Text.quoted_injective`),
so that two documents that differ in key values only are refused with the same message or both
accepted exactly if they are not of this kind (`messages_hide_values`).
-/

namespace Lockbox

def Secret.blank (s : Secret) : Secret := { s with value := "" }

namespace Document

open Json (member?)

/-! ## Documents without values -/

def blankField (name : String) (j : Json) : Json := if name = "value" then blankText j else j

def blankRecord : Json → Json
  | .object members => .object (members.map fun m => (m.1, blankField m.1 m.2))
  | .array items => .array (items.modify 1 blankText)
  | j => j

/-- The same JSON document except for the values of keys, which `masked blankRecord` leaves out. -/
def SameButValues (t u : String) : Prop := SameUnder blankRecord t u

/-! ## Records -/

/-- A text is read from what is blank if it could be read before. -/
theorem readText_blankText (o : Option Json) :
    Schema.readOr "" Schema.readText (o.map blankText) =
      (Schema.readOr "" Schema.readText o).map fun _ => "" := by
  cases o with
  | none => rfl
  | some j => cases j <;> rfl

theorem readMembers_blank (members : List (String × Json)) :
    Schema.readMembers (members.map fun m => (m.1, blankField m.1 m.2)) =
      (Schema.readMembers members).map Secret.blank := by
  have kept : ∀ n, n ≠ "value" →
      member? n (members.map fun m => (m.1, blankField m.1 m.2)) = member? n members := by
    intro n hn
    have eq : blankField n = id := funext fun j => if_neg hn
    rw [member?_map, eq, Option.map_id, id]
  have value : member? "value" (members.map fun m => (m.1, blankField m.1 m.2)) =
      (member? "value" members).map blankText := by
    have eq : blankField "value" = blankText := funext fun j => if_pos rfl
    rw [member?_map, eq]
  have keyId : Schema.readKeyId (members.map fun m => (m.1, blankField m.1 m.2)) =
      Schema.readKeyId members := by
    rw [Schema.readKeyId, kept _ (by decide), kept _ (by decide), ← Schema.readKeyId]
  rw [Schema.readMembers, Schema.readMembers, kept _ (by decide), kept _ (by decide), keyId, value,
    readText_blankText]
  cases Schema.readOr false Schema.readTruth (member? "encrypted" members) with
  | error e => rfl
  | ok isEncrypted =>
    cases Schema.readKeyId members with
    | error e => rfl
    | ok keyId =>
      cases Schema.readOr "" Schema.readText (member? "name" members) with
      | error e => rfl
      | ok name =>
        cases Schema.readOr "" Schema.readText (member? "value" members) with
        | error e => rfl
        | ok value => rfl

theorem readItems_blank (items : List Json) :
    Schema.readItems (items.modify 1 blankText) = (Schema.readItems items).map Secret.blank := by
  have kept : ∀ i, i ≠ 1 → (items.modify 1 blankText)[i]? = items[i]? := by
    intro i hi
    rw [List.getElem?_modify_ne _ _ hi.symm]
  have value : (items.modify 1 blankText)[1]? = items[1]?.map blankText := by
    rw [List.getElem?_modify_eq]
    rfl
  rw [Schema.readItems, Schema.readItems, kept 0 (by decide), kept 2 (by decide),
    kept 3 (by decide), value, List.length_modify, readText_blankText]
  cases Schema.readOr "" Schema.readText items[0]? with
  | error e => rfl
  | ok name =>
    cases Schema.readOr "" Schema.readText items[1]? with
    | error e => rfl
    | ok value =>
      cases Schema.readOr false Schema.readTruth items[2]? with
      | error e => rfl
      | ok isEncrypted =>
        cases Schema.readOr none Schema.readOptionalText items[3]? with
        | error e => rfl
        | ok keyId =>
          by_cases long : 4 < items.length
          · simp only [long]
            rfl
          · simp only [long]
            rfl

/-- What a record says but for its value, and why it is none, does not depend on the value. -/
theorem readSecret_blankRecord (j : Json) :
    Schema.readSecret (blankRecord j) = (Schema.readSecret j).map Secret.blank := by
  cases j with
  | object members => exact readMembers_blank members
  | array items => exact readItems_blank items
  | _ => rfl

/-- Leaving out values is a mask: it hides them, and nothing else. -/
theorem masks_blankRecord : Masks blankRecord Secret.blank where
  readSecret := readSecret_blankRecord
  text := fun _ => rfl
  record := by
    intro j s h
    cases j with
    | string _ => exact h
    | _ => cases h
  plaintext := fun _ => rfl

/-! ## Messages -/

/-- Both are accepted, or both refused with the same message. -/
def Agree {α : Type} : Except FormatFault α → Except FormatFault α → Prop
  | .ok _, .ok _ => True
  | .error e, .error f => (Error.format e).message = (Error.format f).message
  | _, _ => False

theorem agree_of_map_eq {α β : Type} {x y : Except FormatFault α} {f : α → β}
    (h : x.map f = y.map f) : Agree x y := by
  cases x with
  | error e =>
    cases y with
    | error e' =>
      cases h
      exact rfl
    | ok b => cases h
  | ok a =>
    cases y with
    | error e => cases h
    | ok b => trivial

theorem message_wrongType_injective {s s' : String}
    (h : (Error.format (.schema (.wrongType (.string s) .secret))).message =
      (Error.format (.schema (.wrongType (.string s') .secret))).message) : s = s' := by
  have cancel : ∀ a b c d e x y : String, a ++ (b ++ (c ++ x) ++ d ++ e) =
      a ++ (b ++ (c ++ y) ++ d ++ e) → x = y := by
    intro a b c d e x y eq
    simpa only [String.append_right_inj, String.append_left_inj] using eq
  exact Text.quoted_injective (cancel _ _ _ _ _ _ _ h)

/-! ## Two documents -/

/-- The keys of a function are read of two documents alike, messages included, if only key values
differ. The secrets of the host are unless both documents have a text in place of the record of the
master key, and not the same. -/
theorem messages_hide_values {t u : String} (same : SameButValues t u) :
    Agree (readFunction t) (readFunction u) ∧
      (Agree (readHost t) (readHost u) ↔ ¬∃ s s', Misplaces t s ∧ Misplaces u s' ∧ s ≠ s') := by
  have blanked : SameUnder blankRecord t u := same
  refine ⟨?_, ?_, ?_⟩
  · exact agree_of_map_eq (readFunction_sameUnder masks_blankRecord blanked)
  · rintro agree ⟨s, s', left, right, apart⟩
    rw [readHost_of_misplaces left, readHost_of_misplaces right] at agree
    exact apart (message_wrongType_injective agree)
  · intro hidden
    by_cases misplaced : ∃ s, Misplaces t s
    · obtain ⟨s, left⟩ := misplaced
      obtain ⟨s', right⟩ := misplaces_of_sameUnder masks_blankRecord blanked left
      have equal : s = s' := Classical.byContradiction fun apart =>
        hidden ⟨s, s', left, right, apart⟩
      rw [readHost_of_misplaces left, readHost_of_misplaces right, equal]
      exact rfl
    · have none : ∀ s, ¬Misplaces t s := fun s shows => misplaced ⟨s, shows⟩
      exact agree_of_map_eq (readHost_sameUnder masks_blankRecord blanked none)

/-- A document of a given version with a text for the master key, and no more. -/
def masterDocument (v : Version) (s : String) : String :=
  (Json.object [(Structured.masterField, .string s), ("version", .integer v.number)]).pretty

theorem parse?_masterDocument (v : Version) (s : String) :
    Json.parse? (masterDocument v s) =
      some (.object [(Structured.masterField, .string s), ("version", .integer v.number)]) := by
  have legible : Json.Legible Json.maxDepth
      (.object [(Structured.masterField, .string s), ("version", .integer v.number)]) := by
    apply Json.Legible.object
    intro m hm
    simp only [List.mem_cons, List.not_mem_nil, or_false] at hm
    rcases hm with rfl | rfl
    · exact .string s
    · exact .integer (by cases v <;> decide)
  have apart : "version" ≠ "masterKey" := by decide
  have after : ¬"version" < "masterKey" := by decide
  rw [masterDocument, Json.parse?_pretty legible, Json.sorted, Json.sortedMembers_eq_map]
  simp only [List.map_cons, List.map_nil, Json.sorted, Json.sortMembers, List.foldl_cons,
    List.foldl_nil, Json.insertMember, Structured.masterField, apart, after, if_false]

theorem sameButValues_masterDocument (v : Version) (s s' : String) :
    SameButValues (masterDocument v s) (masterDocument v s') :=
  ⟨_, _, parse?_masterDocument v s, parse?_masterDocument v s', rfl⟩

theorem misplaces_masterDocument (s : String) : Misplaces (masterDocument .structured s) s := by
  have found : membersOf (masterDocument .structured s) =
      .ok [(Structured.masterField, .string s), ("version", .integer 1)] := by
    rw [membersOf, parse?_masterDocument]
    rfl
  exact ⟨_, found, rfl, rfl, [], rfl⟩

/-- Of two flat documents whose master keys differ, one message says that there is no function
key. -/
theorem messages_hide_values_flat :
    Agree (readFunction (masterDocument .flat "A")) (readFunction (masterDocument .flat "B")) ∧
      Agree (readHost (masterDocument .flat "A")) (readHost (masterDocument .flat "B")) ∧
      readHost (masterDocument .flat "A") = .error (.noText Flat.hostFunctionField) := by
  have reads : ∀ s, membersOf (masterDocument .flat s) =
      .ok [(Structured.masterField, .string s), ("version", .integer 0)] := by
    intro s
    rw [membersOf, parse?_masterDocument]
    rfl
  obtain ⟨functions, host⟩ := messages_hide_values (sameButValues_masterDocument .flat "A" "B")
  refine ⟨functions, host.2 ?_, ?_⟩
  · rintro ⟨s, s', ⟨members, found, current, -⟩, -⟩
    rw [reads "A"] at found
    cases found
    cases current
  · rw [readHost, Document.read, reads "A"]
    rfl

/-- Of two structured documents with texts for master keys, each is refused with a message that
shows its key. -/
theorem messages_show_misplaced_values :
    SameButValues (masterDocument .structured "A") (masterDocument .structured "B") ∧
      ¬Agree (readHost (masterDocument .structured "A"))
        (readHost (masterDocument .structured "B")) ∧
      readHost (masterDocument .structured "A") =
        .error (.schema (.wrongType (.string "A") .secret)) ∧
      (Error.format (.schema (.wrongType (.string "A") .secret))).message =
        "invalid secrets file format: invalid type: string \"A\", expected struct Secret" := by
  have left := readHost_of_misplaces (misplaces_masterDocument "A")
  have right := readHost_of_misplaces (misplaces_masterDocument "B")
  refine ⟨sameButValues_masterDocument .structured "A" "B", ?_, left, by decide⟩
  rw [left, right]
  intro agree
  exact absurd (message_wrongType_injective agree) (by decide)

end Document

end Lockbox
