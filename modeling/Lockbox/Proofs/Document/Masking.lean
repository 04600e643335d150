import Lockbox.Proofs.Document.RoundTrip

/-!
# Documents with values hidden

Key values stand in documents at places of their own: as a text or in a record under the name of a
key, and in the records of a list of keys. A mask hides what a record holds (`Masks`): of a masked
record is read what is read of the record, with something hidden. Masking the records of a document
and blanking the keys that are texts (`masked`) does the same to the document:

    readFunction_maskMembers :
      v.readFunction (maskMembers mask members) = (v.readFunction members).map (·.map hide)

and so for the host, faults included, unless a structured document of the host has a text in place
of the record of its master key (`Misplaces`).
-/

namespace Lockbox

def HostSecrets.map (f : Secret → Secret) (host : HostSecrets) : HostSecrets :=
  ⟨f host.masterKey, host.functionKeys.map f⟩

namespace Document

open Json (member?)

def Decoded.map {α β : Type} (f : α → β) (d : Decoded α) : Decoded β := ⟨d.version, f d.secrets⟩

/-! ## Masks -/

def blankText : Json → Json
  | .string _ => .string ""
  | j => j

/-- Of a masked record is read what is read of the record, with something hidden. Texts are no
records. Of a plain key without a name nothing but the value is hidden. -/
structure Masks (mask : Json → Json) (hide : Secret → Secret) : Prop where
  readSecret : ∀ j, Schema.readSecret (mask j) = (Schema.readSecret j).map hide
  text : ∀ s, mask (.string s) = .string s
  record : ∀ j s, mask j = .string s → j = .string s
  plaintext : ∀ value, hide (.plaintext "" value) = .plaintext "" ""

def maskRecords (mask : Json → Json) : Json → Json
  | .array items => .array (items.map mask)
  | j => j

def maskMember (mask : Json → Json) (name : String) (j : Json) : Json :=
  if name ∈ [Flat.masterField, Flat.hostFunctionField, Flat.functionField] then mask (blankText j)
  else if name ∈ [Structured.hostFunctionsField, Structured.keysField] then maskRecords mask j
  else j

/-- The members of a document with the values in them masked. -/
def maskMembers (mask : Json → Json) (members : List (String × Json)) : List (String × Json) :=
  members.map fun m => (m.1, maskMember mask m.1 m.2)

/-- A document with the values of keys masked. -/
def masked (mask : Json → Json) : Json → Json
  | .object members => .object (maskMembers mask members)
  | j => j

def SameUnder (mask : Json → Json) (t u : String) : Prop :=
  ∃ j k, Json.parse? t = some j ∧ Json.parse? u = some k ∧ masked mask j = masked mask k

variable {mask : Json → Json} {hide : Secret → Secret} {members others : List (String × Json)}

theorem SameUnder.symm {t u : String} (h : SameUnder mask t u) : SameUnder mask u t := by
  obtain ⟨j, k, ht, hu, eq⟩ := h
  exact ⟨k, j, hu, ht, eq.symm⟩

/-- Changing members leaves their names. -/
theorem member?_map (f : String → Json → Json) (n : String) (members : List (String × Json)) :
    member? n (members.map fun m => (m.1, f m.1 m.2)) = (member? n members).map (f n) := by
  -- on the members, which keep their order
  induction members with
  | nil => rfl
  | cons m rest ih =>
    obtain ⟨name, j⟩ := m
    rw [List.map_cons, Json.member?_cons, Json.member?_cons, ih]
    by_cases eq : name = n
    · rw [if_pos eq, if_pos eq, Option.map_some, eq]
    · rw [if_neg eq, if_neg eq]

theorem member?_maskMembers (mask : Json → Json) (n : String) (members : List (String × Json)) :
    member? n (maskMembers mask members) = (member? n members).map (maskMember mask n) :=
  member?_map (maskMember mask) n members

/-- Under the name of a key stands a text or a record. -/
theorem member?_maskMembers_of_key {name : String} (mask : Json → Json)
    (members : List (String × Json))
    (key : name ∈ [Flat.masterField, Flat.hostFunctionField, Flat.functionField]) :
    member? name (maskMembers mask members) =
      (member? name members).map fun j => mask (blankText j) := by
  have covered : maskMember mask name = fun j => mask (blankText j) := funext fun j => if_pos key
  rw [member?_maskMembers, covered]

/-- Under the name of a list of keys stand records. -/
theorem member?_maskMembers_of_records {name : String} (mask : Json → Json)
    (members : List (String × Json))
    (records : name ∈ [Structured.hostFunctionsField, Structured.keysField]) :
    member? name (maskMembers mask members) = (member? name members).map (maskRecords mask) := by
  have covered : maskMember mask name = maskRecords mask := by
    funext j
    have not_mem : name ∉ [Flat.masterField, Flat.hostFunctionField, Flat.functionField] := by
      have all : ∀ n ∈ [Structured.hostFunctionsField, Structured.keysField],
          n ∉ [Flat.masterField, Flat.hostFunctionField, Flat.functionField] := by decide
      exact all name records
    rw [maskMember, if_neg not_mem, if_pos records]
  rw [member?_maskMembers, covered]

/-- The version is not masked. -/
theorem versionNumber_maskMembers (mask : Json → Json) (members : List (String × Json)) :
    versionNumber (maskMembers mask members) = versionNumber members := by
  have eq : maskMember mask "version" = id := by
    funext j
    rw [maskMember, if_neg (by decide), if_neg (by decide), id]
  rw [versionNumber, member?_maskMembers, eq, Option.map_id, id, ← versionNumber]

/-! ## Reading under a mask -/

section

variable (masks : Masks mask hide)
include masks

/-- What is a text under a mask was one before. -/
theorem Masks.text_of_blankText {j : Json} {s : String} (h : mask (blankText j) = .string s) :
    ∃ s', j = .string s' := by
  have blanked := masks.record _ _ h
  cases j with
  | string s' => exact ⟨s', rfl⟩
  | _ => cases blanked

/-- Where a text is called for, it is found whether or not it is blanked. -/
theorem textMember_maskMembers {name : String} (members : List (String × Json))
    (key : name ∈ [Flat.masterField, Flat.hostFunctionField, Flat.functionField]) :
    Flat.textMember (maskMembers mask members) name =
      (Flat.textMember members name).map fun _ => "" := by
  rw [Flat.textMember, Flat.textMember, member?_maskMembers_of_key mask members key]
  cases member? name members with
  | none => rfl
  | some j =>
    -- a text is blanked and stays a text, and nothing else becomes one
    cases j with
    | string s =>
      have covered : (some (Json.string s)).map (fun j => mask (blankText j)) =
          some (.string "") := congrArg some (masks.text "")
      rw [covered]
      rfl
    | _ =>
      rw [Option.map_some]
      split
      · next text =>
        obtain ⟨s', eq⟩ := masks.text_of_blankText (Option.some.inj text)
        cases eq
      · rfl

/-- Records are masked one by one, and read one by one. -/
theorem readSecrets_maskRecords (j : Json) :
    Schema.readSecrets (maskRecords mask j) = (Schema.readSecrets j).map (·.map hide) := by
  cases j with
  | array items =>
    show (items.map mask).mapM Schema.readSecret = _
    show _ = (items.mapM Schema.readSecret).map (·.map hide)
    -- on the items, up to the first that is no record
    induction items with
    | nil => rfl
    | cons item rest ih =>
      rw [List.map_cons, List.mapM_cons, List.mapM_cons, ih, masks.readSecret]
      cases Schema.readSecret item with
      | error e => rfl
      | ok secret =>
        cases rest.mapM Schema.readSecret with
        | error e => rfl
        | ok secrets => rfl
  | _ => rfl

theorem readOr_maskRecords (o : Option Json) :
    Schema.readOr [] Schema.readSecrets (o.map (maskRecords mask)) =
      (Schema.readOr [] Schema.readSecrets o).map (·.map hide) := by
  cases o with
  | none => rfl
  | some j => exact readSecrets_maskRecords masks j

/-- The keys of a function, and why there are none, do not depend on what is hidden of them. -/
theorem readFunction_maskMembers (v : Version) (members : List (String × Json)) :
    v.readFunction (maskMembers mask members) = (v.readFunction members).map (·.map hide) := by
  cases v with
  | flat =>
    show Flat.readFunction _ = (Flat.readFunction _).map _
    rw [Flat.readFunction, Flat.readFunction, textMember_maskMembers masks members (by decide)]
    cases Flat.textMember members Flat.functionField with
    | error e => rfl
    | ok key => exact congrArg (fun s => Except.ok [s]) (masks.plaintext key).symm
  | structured =>
    show Structured.readFunction _ = (Structured.readFunction _).map _
    rw [Structured.readFunction, Structured.readFunction, Structured.keysOfMembers,
      Structured.keysOfMembers, member?_maskMembers_of_records mask members (by decide)]
    cases member? Structured.keysField members with
    | none => rfl
    | some j =>
      show (Schema.readSecrets (maskRecords mask j)).mapError _ = _
      show _ = ((Schema.readSecrets j).mapError _).map _
      rw [readSecrets_maskRecords masks]
      cases Schema.readSecrets j <;> rfl

/-- The master key is read under the mask, unless a text stands in its place. -/
theorem masterKey_maskMembers
    (fits : ∀ s, member? Structured.masterField members ≠ some (.string s)) :
    Structured.required Structured.masterField Schema.readSecret
        (member? Structured.masterField (maskMembers mask members)) =
      (Structured.required Structured.masterField Schema.readSecret
        (member? Structured.masterField members)).map hide := by
  rw [member?_maskMembers_of_key mask members (by decide)]
  cases found : member? Structured.masterField members with
  | none => rfl
  | some j =>
    have record : blankText j = j := by
      cases j with
      | string s => exact absurd found (fits s)
      | _ => rfl
    show Schema.readSecret (mask (blankText j)) = (Schema.readSecret j).map hide
    rw [record, masks.readSecret]

end

/-- A structured document of the host has a text in place of the record of its master key, and can
be read that far. -/
def MisplacesMember (members : List (String × Json)) (s : String) : Prop :=
  member? Structured.masterField members = some (.string s) ∧
    ∃ keys, Schema.readOr [] Schema.readSecrets (member? Structured.hostFunctionsField members) =
      .ok keys

section

variable (masks : Masks mask hide)
include masks

/-- The secrets of the host, and why there are none, do not depend on what is hidden of them, unless
a value is misplaced. -/
theorem readHost_maskMembers {v : Version} {members : List (String × Json)}
    (fits : v = .structured → ∀ s, ¬MisplacesMember members s) :
    v.readHost (maskMembers mask members) = (v.readHost members).map (·.map hide) := by
  cases v with
  | flat =>
    show Flat.readHost _ = (Flat.readHost _).map _
    rw [Flat.readHost, Flat.readHost, textMember_maskMembers masks members (by decide),
      textMember_maskMembers masks members (by decide)]
    cases Flat.textMember members Flat.masterField with
    | error e => rfl
    | ok master =>
      cases Flat.textMember members Flat.hostFunctionField with
      | error e => rfl
      | ok function =>
        show Except.ok (HostSecrets.mk _ [_]) = Except.ok (HostSecrets.mk (hide _) [hide _])
        rw [masks.plaintext, masks.plaintext]
  | structured =>
    show Structured.readHost _ = (Structured.readHost _).map _
    rw [Structured.readHost, Structured.readHost, Structured.hostOfMembers,
      Structured.hostOfMembers, member?_maskMembers_of_records mask members (by decide),
      readOr_maskRecords masks]
    cases read : Schema.readOr [] Schema.readSecrets
        (member? Structured.hostFunctionsField members) with
    | error e => rfl
    | ok keys =>
      rw [masterKey_maskMembers masks fun s text => fits rfl s ⟨text, keys, read⟩]
      cases Structured.required Structured.masterField Schema.readSecret
          (member? Structured.masterField members) <;> rfl

/-- A text stays a text under a mask. -/
theorem misplacesMember_of_maskMembers {s : String}
    (agree : maskMembers mask members = maskMembers mask others) (h : MisplacesMember members s) :
    ∃ s', MisplacesMember others s' := by
  obtain ⟨text, keys, read⟩ := h
  have master : (member? Structured.masterField members).map (fun j => mask (blankText j)) =
      (member? Structured.masterField others).map fun j => mask (blankText j) := by
    rw [← member?_maskMembers_of_key mask members (by decide), agree,
      member?_maskMembers_of_key mask others (by decide)]
  have functions := readOr_maskRecords masks (member? Structured.hostFunctionsField others)
  rw [← member?_maskMembers_of_records mask others (by decide), ← agree,
    member?_maskMembers_of_records mask members (by decide), readOr_maskRecords masks,
    read] at functions
  have text' : ∃ s', member? Structured.masterField others = some (.string s') := by
    rw [text, Option.map_some] at master
    obtain ⟨j, found, blanked⟩ := Option.map_eq_some_iff.1 master.symm
    obtain ⟨s', rfl⟩ := masks.text_of_blankText (blanked.trans (masks.text ""))
    exact ⟨s', found⟩
  -- the records before it can be read in one if they can in the other
  have read' : ∃ keys', Schema.readOr [] Schema.readSecrets
      (member? Structured.hostFunctionsField others) = .ok keys' :=
    exists_ok_of_map_eq_ok functions.symm
  obtain ⟨s', text'⟩ := text'
  exact ⟨s', text', read'⟩

end

/-! ## Two documents -/

/-- Documents that are the same under a mask are no objects, both of them, or have the same members
under it. -/
theorem members_of_sameUnder {t u : String} (agree : SameUnder mask t u) :
    (membersOf t = .error .notObject ∧ membersOf u = .error .notObject) ∨
      ∃ members others, membersOf t = .ok members ∧ membersOf u = .ok others ∧
        maskMembers mask members = maskMembers mask others := by
  obtain ⟨j, k, ht, hu, agree⟩ := agree
  rw [membersOf, membersOf, ht, hu]
  cases j with
  | object members =>
    cases k with
    | object others => exact .inr ⟨members, others, rfl, rfl, Json.object.inj agree⟩
    | _ => cases agree
  | _ =>
    cases k with
    | object others => cases agree
    | _ => exact .inl ⟨rfl, rfl⟩

/-- A text is a structured document of the host with a text in place of the record of its master
key, and can be read that far. -/
def Misplaces (t s : String) : Prop :=
  ∃ members, membersOf t = .ok members ∧ versionNumber members = .ok 1 ∧ MisplacesMember members s

/-- The misplaced text is shown. -/
theorem readHost_of_misplaces {t s : String} (h : Misplaces t s) :
    readHost t = .error (.schema (.wrongType (.string s) .secret)) := by
  obtain ⟨members, found, number, text, keys, read⟩ := h
  have version : Version.ofNumber 1 = .ok .structured := rfl
  rw [readHost, Document.read, found]
  simp only [bind, Except.bind]
  rw [number]
  dsimp only
  rw [version]
  dsimp only [Version.readHost]
  rw [Structured.readHost, Structured.hostOfMembers, text, read]
  rfl

theorem not_misplaces_of_notObject {t s : String} (h : membersOf t = .error .notObject) :
    ¬Misplaces t s := by
  rintro ⟨members, found, -⟩
  rw [h] at found
  cases found

/-- What is misplaced in a document stands at the same place in one that is the same under a
mask. -/
theorem misplaces_of_sameUnder (masks : Masks mask hide) {t u s : String}
    (agree : SameUnder mask t u) (h : Misplaces t s) : ∃ s', Misplaces u s' := by
  rcases members_of_sameUnder agree with ⟨ht, -⟩ | ⟨members, others, ht, hu, covered⟩
  · exact absurd h (not_misplaces_of_notObject ht)
  · obtain ⟨found, hf, current, misplaced⟩ := h
    obtain rfl : members = found := Except.ok.inj (ht.symm.trans hf)
    obtain ⟨s', shows⟩ := misplacesMember_of_maskMembers masks covered misplaced
    refine ⟨s', others, hu, ?_, shows⟩
    rw [← versionNumber_maskMembers mask, ← covered, versionNumber_maskMembers, current]

/-- Two documents that are the same under a mask are read alike by a reader that goes on under the
mask as it does without. -/
theorem read_sameUnder {α : Type} {cover : α → α} {t u : String}
    {readAs : Version → List (String × Json) → Except FormatFault α} (agree : SameUnder mask t u)
    (blind : ∀ w ∈ [t, u], ∀ members v, membersOf w = .ok members →
      versionNumber members = .ok v.number →
      readAs v (maskMembers mask members) = (readAs v members).map cover) :
    (Document.read readAs t).map (Decoded.map cover) =
      (Document.read readAs u).map (Decoded.map cover) := by
  rcases members_of_sameUnder agree with ⟨ht, hu⟩ | ⟨members, others, ht, hu, covered⟩
  · rw [Document.read, Document.read, ht, hu]
  · have number : versionNumber others = versionNumber members := by
      rw [← versionNumber_maskMembers mask, ← covered, versionNumber_maskMembers]
    rw [Document.read, Document.read, ht, hu]
    simp only [bind, Except.bind, number]
    cases told : versionNumber members with
    | error e => rfl
    | ok n =>
      dsimp only
      cases known : Version.ofNumber n with
      | error e => rfl
      | ok v =>
        rw [← Version.number_of_ofNumber known] at told
        have left := blind t (.head _) members v ht told
        have right := blind u (.tail _ (.head _)) others v hu (number.trans told)
        have last : ∀ x : Except FormatFault α,
            (x >>= fun secrets => pure (Decoded.mk v secrets)).map (Decoded.map cover) =
              (x.map cover).map (Decoded.mk v) := by
          intro x
          cases x <;> rfl
        show (readAs v members >>= fun secrets => pure (Decoded.mk v secrets)).map _ =
          (readAs v others >>= fun secrets => pure (Decoded.mk v secrets)).map _
        rw [last, last, ← left, covered, right]

/-- The keys of a function are read of both alike but for what is hidden. -/
theorem readFunction_sameUnder (masks : Masks mask hide) {t u : String}
    (agree : SameUnder mask t u) :
    (readFunction t).map (Decoded.map (·.map hide)) =
      (readFunction u).map (Decoded.map (·.map hide)) :=
  read_sameUnder agree fun _ _ members v _ _ => readFunction_maskMembers masks v members

/-- The secrets of the host are read of both alike but for what is hidden, unless a value is
misplaced in one of them. -/
theorem readHost_sameUnder (masks : Masks mask hide) {t u : String} (agree : SameUnder mask t u)
    (fits : ∀ s, ¬Misplaces t s) :
    (readHost t).map (Decoded.map (·.map hide)) = (readHost u).map (Decoded.map (·.map hide)) := by
  -- what is misplaced in either would be misplaced in both
  have none : ∀ w ∈ [t, u], ∀ s, ¬Misplaces w s := by
    intro w hw s misplaced
    rw [List.mem_cons, List.mem_singleton] at hw
    rcases hw with rfl | rfl
    · exact fits s misplaced
    · obtain ⟨s', shows⟩ := misplaces_of_sameUnder masks agree.symm misplaced
      exact fits s' shows
  refine read_sameUnder agree fun w hw members v found told => readHost_maskMembers masks ?_
  rintro rfl s misplaced
  exact none w hw s ⟨members, found, told, misplaced⟩

end Document

end Lockbox
