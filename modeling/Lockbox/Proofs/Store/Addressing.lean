import Lockbox.Proofs.Scope
import Lockbox.Proofs.Store.Access

/-!
# Names, files and notices

A function goes by its name in lower case, and its keys are in the file of that name in the secrets
directory. Who says that a file changed gives its path, and what is forgotten is what came from that
file and nothing else (`Emptied`):

    emptied_invalidate : Scope.ofPath? p = some scope → Emptied scope s (s.invalidate p)

So a path of the file of a function, with an extension in any case, empties the slot of that
function (`ofPath?_cased`), and no path empties more than one slot
(`names_files_and_notices_agree`).
-/

namespace Lockbox

namespace Scope

/-! ## File names with an extension in any case -/

/-- The name of the file of a scope with its extension spelled in some way. -/
def casedName (s : Scope) (spelled : String) : FileName :=
  Utf8.encode (s.stemText ++ "." ++ spelled)

variable {s : Scope} {spelled stem : String}

theorem encode_stem_append (stem spelled : String) :
    Utf8.encode (stem ++ "." ++ spelled) = Utf8.encode stem ++ dot :: Utf8.encode spelled := by
  rw [Utf8.encode_append, Utf8.encode_append, List.append_assoc]
  rfl

/-- A spelling of the extension has letters only. -/
theorem toLower_mem_of_spelled (any : Text.lowerAscii spelled = extension) {c : Char}
    (mem : c ∈ spelled.toList) : c.toLower ∈ extension.toList := by
  rw [← any, Text.lowerAscii, String.toList_ofList]
  exact List.mem_map_of_mem mem

/-- A byte that is no letter of the extension is not in it, however it is spelled. -/
theorem not_mem_encode_spelled (any : Text.lowerAscii spelled = extension) {b : UInt8} {c : Char}
    (ascii : b.toNat < 0x80) (code : c.toNat = b.toNat) (outside : c.toLower ∉ extension.toList) :
    b ∉ Utf8.encode spelled := by
  intro mem
  obtain ⟨d, hd, number⟩ := Utf8.exists_of_mem_encode mem ascii
  obtain rfl : c = d := Char.toNat_inj.1 (code.trans number.symm)
  exact outside (toLower_mem_of_spelled any hd)

theorem ne_empty_of_spelled (any : Text.lowerAscii spelled = extension) : spelled ≠ "" := by
  rintro rfl
  exact absurd any (by decide)

theorem dot_not_mem_encode_spelled (any : Text.lowerAscii spelled = extension) :
    dot ∉ Utf8.encode spelled :=
  not_mem_encode_spelled (c := '.') any (by decide) rfl (by decide)

/-- The name is cut in front of the extension, since that has no dot. -/
theorem cutAtDot_casedName (h : s.IsNamed) (any : Text.lowerAscii spelled = extension) :
    Path.cutAtDot (s.casedName spelled) = (Utf8.encode s.stemText, some (Utf8.encode spelled)) := by
  rw [casedName, encode_stem_append]
  apply Path.cutAtDot_append
  · intro empty
    exact stemText_ne_empty h (Utf8.encode_injective empty)
  · exact dot_not_mem_encode_spelled any

/-- Whatever the case of its extension, it is a name within a directory. -/
theorem isProper_casedName (h : s.IsNamed) (any : Text.lowerAscii spelled = extension) :
    (s.casedName spelled).IsProper := by
  have name := encode_stem_append s.stemText spelled
  have filled : Utf8.encode spelled ≠ [] := fun empty =>
    ne_empty_of_spelled any (Utf8.encode_injective empty)
  -- it does not end in a dot
  have ends : (s.casedName spelled).getLast? ≠ some dot := by
    rw [casedName, name, List.getLast?_append, List.getLast?_cons_of_ne_nil filled,
      List.getLast?_eq_some_getLast filled]
    intro last
    apply dot_not_mem_encode_spelled any
    rw [← Option.some.inj last]
    exact List.getLast_mem filled
  -- it is not empty, has no slash, and is neither of the names with dots
  refine ⟨?_, ?_, ?_, ?_⟩
  · simp [casedName, name]
  · rw [casedName, name, List.mem_append, List.mem_cons, not_or, not_or]
    refine ⟨?_, by decide, not_mem_encode_spelled (c := '/') any (by decide) rfl (by decide)⟩
    intro mem
    obtain ⟨c, hc, number⟩ := Utf8.exists_of_mem_encode mem (by decide)
    obtain rfl : c = '/' := Char.toNat_inj.1 number
    exact slash_not_mem_stemText h hc
  · intro short
    exact ends (by rw [short]; rfl)
  · intro short
    exact ends (by rw [short]; rfl)

theorem lowerAscii_append (a b : String) :
    Text.lowerAscii (a ++ b) = Text.lowerAscii a ++ Text.lowerAscii b := by
  rw [Text.lowerAscii, String.toList_append, List.map_append, String.ofList_append]
  rfl

/-- The case of the extension apart, the name of a file is the one that the scope gives it. -/
theorem lowerAscii_casedText (h : s.IsNamed) (any : Text.lowerAscii spelled = extension) :
    Text.lowerAscii (s.stemText ++ "." ++ spelled) = s.fileText := by
  have plain := lowerAscii_fileText h
  rw [fileText_eq, lowerAscii_append] at plain
  rw [lowerAscii_append, any, fileText_eq]
  have low : Text.lowerAscii extension = extension := by decide
  rw [low] at plain
  exact plain

variable {secrets p : Path}

/-- A path with the name of the file of a scope leads back to that scope, however the extension is
spelled. -/
theorem ofPath?_cased (h : s.IsNamed) (any : Text.lowerAscii spelled = extension) :
    ofPath? (secrets.join (s.casedName spelled)) = some s := by
  have proper := isProper_casedName h any
  have cut := cutAtDot_casedName h any
  have isFile : isSecretsFile (secrets.join (s.casedName spelled)) = true := by
    rw [isSecretsFile, Path.extension?_join secrets proper cut, Option.bind_some,
      Utf8.decode_encode]
    simp [Text.sameIgnoringCase, any, (by decide : Text.lowerAscii extension = extension)]
  have name : (secrets.join (s.casedName spelled)).fileName?.bind Utf8.decode =
      some (s.stemText ++ "." ++ spelled) := by
    rw [Path.fileName?_join secrets proper, Option.bind_some, casedName, Utf8.decode_encode]
  have stem : (secrets.join (s.casedName spelled)).stem?.bind Utf8.decode = some s.stemText := by
    rw [Path.stem?_join secrets proper cut, Option.bind_some, Utf8.decode_encode]
  -- the name of the host's file is told without regard to case
  have alike : Text.sameIgnoringCase (s.stemText ++ "." ++ spelled) hostFile =
      Text.sameIgnoringCase s.fileText hostFile := by
    rw [Text.sameIgnoringCase, Text.sameIgnoringCase, lowerAscii_casedText h any,
      lowerAscii_fileText h]
  rw [ofPath?, if_pos isFile, name, stem]
  show (if Text.sameIgnoringCase (s.stemText ++ "." ++ spelled) hostFile = true then some host
    else some (function (Text.lowerCase s.stemText))) = _
  rw [alike]
  cases s with
  | host => exact if_pos (beq_self_eq_true _)
  | function n =>
    rw [sameIgnoringCase_fileText h, if_neg Bool.false_ne_true]
    exact congrArg (some ∘ function) (Text.lowerCase_eq_self h.2)

/-- Files of different scopes are different, as paths are compared. -/
theorem same_file_iff {s t : Scope} (hs : s.IsNamed) (ht : t.IsNamed) :
    (s.file secrets).same (t.file secrets) = true ↔ s = t := by
  rw [Path.same, beq_iff_eq, file_eq_join, file_eq_join,
    Path.components_join secrets (isProper_fileName hs),
    Path.components_join secrets (isProper_fileName ht)]
  constructor
  · intro eq
    have last := List.append_cancel_left eq
    simp only [List.cons.injEq, Path.Component.name.injEq, and_true] at last
    exact fileName_injective hs ht last
  · rintro rfl
    rfl

/-! ## Paths of no scope -/

theorem eq_of_cutAtDot_none {n stem : FileName} (cut : Path.cutAtDot n = (stem, none)) :
    n = stem := by
  unfold Path.cutAtDot at cut
  dsimp only at cut
  split at cut
  · exact (Prod.mk.inj cut).1
  · cases cut

/-- A file name that is a text has a stem that is one. -/
theorem exists_decode_stem? {text : String} (named : p.fileName?.bind Utf8.decode = some text) :
    ∃ stem, p.stem?.bind Utf8.decode = some stem := by
  obtain ⟨n, file, read⟩ := Option.bind_eq_some_iff.1 named
  rw [Path.stem?, file, Option.map_some, Option.bind_some]
  -- the stem is the whole name, or what stands before the dot, which is a byte of its own
  cases cut : Path.cutAtDot n with
  | mk stem after =>
    cases after with
    | none =>
      obtain rfl := eq_of_cutAtDot_none cut
      exact ⟨text, read⟩
    | some after =>
      obtain ⟨-, -, rfl⟩ := Path.of_cutAtDot cut
      exact Utf8.exists_decode_front (by decide) read

/-- A path is of no scope unless its extension is the right one and its name is a text. -/
theorem ofPath?_eq_none (foreign : (∀ e, p.extension?.bind Utf8.decode = some e →
      Text.lowerAscii e ≠ extension) ∨ p.fileName?.bind Utf8.decode = none ∨
      p.stem?.bind Utf8.decode = none) : ofPath? p = none := by
  rw [ofPath?]
  split
  · next isFile =>
    cases named : p.fileName?.bind Utf8.decode with
    | none => rfl
    | some text =>
      exfalso
      obtain ⟨stem, read⟩ := exists_decode_stem? named
      simp only [named, read, reduceCtorEq, or_false] at foreign
      rw [isSecretsFile] at isFile
      split at isFile
      · next e ending =>
        apply foreign e ending
        rw [Text.sameIgnoringCase, beq_iff_eq] at isFile
        rw [isFile]
        decide
      · cases isFile
  · rfl

end Scope

namespace Store

variable {σ : Type} {s : Store σ} {p : Path} {scope : Scope}

/-! ## Notices -/

/-- Of two stores, the second holds nothing for one scope and all else that the first holds. -/
structure Emptied (scope : Scope) (s t : Store σ) : Prop where
  host : t.host = if scope = .host then .empty else s.host
  function : ∀ n, t.slot? n =
    if scope = .function n then (s.slot? n).map fun _ => .empty else s.slot? n
  path : t.path = s.path
  vault : t.vault = s.vault
  accesses : t.accesses = s.accesses
  world : t.world = { s.world with log := t.world.log }

theorem invalidate_of_none (h : Scope.ofPath? p = none) : s.invalidate p = s := by
  rw [invalidate, h]

theorem emptied_host (s : Store σ) (event : Event) :
    Emptied .host s (({ s with host := .empty } : Store σ).report event) := by
  refine ⟨rfl, fun n => ?_, rfl, rfl, rfl, rfl⟩
  rw [if_neg nofun]
  rfl

/-- A function that was not asked for has nothing to forget. -/
theorem emptied_of_slot?_eq_none {name : String} (held : s.slot? name = none) :
    Emptied (.function name) s s := by
  refine ⟨by simp, fun n => ?_, rfl, rfl, rfl, rfl⟩
  by_cases eq : name = n
  · simp [← eq, held]
  · simp [eq]

/-- A notice about a function empties its slot. -/
theorem emptied_setSlot {name : String} {slot : Slot KeyTable} (held : s.slot? name = some slot)
    (event : Event) : Emptied (.function name) s ((s.setSlot name .empty).report event) := by
  refine ⟨by simp [report, setSlot], fun n => ?_, rfl, rfl, rfl, rfl⟩
  show (s.setSlot name .empty).slot? n = _
  by_cases eq : name = n
  · simp [← eq, held]
  · simp [eq, slot?_setSlot_of_ne s (Ne.symm eq)]

/-- The scope that a path is of is emptied and no other. -/
theorem emptied_invalidate (h : Scope.ofPath? p = some scope) :
    Emptied scope s (s.invalidate p) := by
  cases scope with
  | host =>
    rw [invalidate, h]
    exact emptied_host s _
  | function name =>
    cases held : s.slot? name with
    | none =>
      have eq : s.invalidate p = s := by simp only [invalidate, h, held]
      rw [eq]
      exact emptied_of_slot?_eq_none held
    | some slot =>
      simp only [invalidate, h, held]
      exact emptied_setSlot held _

/-- The names that are accepted have files of their own in the secrets directory, and a notice of
such a file, with an extension in any case, empties the slot of its function. No notice empties more
than one slot, and one of a path that is not of a secrets file empties none. -/
theorem names_files_and_notices_agree (s : Store σ) :
    (∀ a n, Scope.ofFunction a = .ok n → n = Text.lowerCase a ∧
      ((Scope.function n).file s.path).components =
        s.path.components ++ [.name (Utf8.encode (n ++ "." ++ "json"))] ∧
      ((Scope.function n).file s.path).extension? = some (Utf8.encode "json") ∧
      Text.lowerAscii (n ++ "." ++ "json") ≠ "host.json" ∧
      ∀ spelled, Text.lowerAscii spelled = "json" → Emptied (.function n) s
        (s.invalidate (s.path.join (Utf8.encode (n ++ "." ++ spelled))))) ∧
    (∀ a b n m, Scope.ofFunction a = .ok n → Scope.ofFunction b = .ok m →
      (((Scope.function n).file s.path).same ((Scope.function m).file s.path) = true ↔
        Text.lowerCase a = Text.lowerCase b)) ∧
    ∀ p, (s.invalidate p = s ∨ ∃ scope, Emptied scope s (s.invalidate p)) ∧
      ((∀ e, p.extension?.bind Utf8.decode = some e → Text.lowerAscii e ≠ "json") ∨
          p.fileName?.bind Utf8.decode = none ∨ p.stem?.bind Utf8.decode = none →
        s.invalidate p = s) := by
  refine ⟨?_, ?_, ?_⟩
  · intro a n accepted
    have named := Scope.isNamed_of_ofFunction accepted
    have proper := Scope.isProper_fileName named
    refine ⟨Scope.eq_lowerCase_of_ofFunction accepted, ?_, ?_, ?_, ?_⟩
    · exact Path.components_join s.path proper
    · exact Path.extension?_join s.path proper (Scope.cutAtDot_fileName named)
    · have unlike := Scope.sameIgnoringCase_fileText named
      rw [Text.sameIgnoringCase, beq_eq_false_iff_ne] at unlike
      have host : Text.lowerAscii Scope.hostFile = "host.json" := by decide
      rw [host] at unlike
      exact unlike
    · intro spelled any
      have leads : Scope.ofPath? (s.path.join ((Scope.function n).casedName spelled)) =
          some (.function n) := Scope.ofPath?_cased named any
      exact emptied_invalidate leads
  · intro a b n m left right
    rw [← Scope.eq_lowerCase_of_ofFunction left, ← Scope.eq_lowerCase_of_ofFunction right]
    have named := Scope.isNamed_of_ofFunction left
    have named' := Scope.isNamed_of_ofFunction right
    rw [Scope.same_file_iff named named', Scope.function.injEq]
  · intro p
    refine ⟨?_, fun foreign => invalidate_of_none (Scope.ofPath?_eq_none foreign)⟩
    cases of : Scope.ofPath? p with
    | none => exact .inl (invalidate_of_none of)
    | some scope => exact .inr ⟨scope, emptied_invalidate of⟩

/-- A store that holds keys of two functions and of the host. -/
def stocked : Store Unit where
  path := .ofText "secrets"
  vault := ⟨.onPremises, false⟩
  world := ⟨fun _ => none, .counting, .empty, [], ()⟩
  host := some ⟨0, "master", []⟩
  functions := [(".οδος", some ⟨1, []⟩), ("alpha", some ⟨2, []⟩)]
  accesses := 3

theorem ofFunction_odos : Scope.ofFunction ".ΟΔΟΣ" = .ok ".οδος" := by
  have lowered : Text.lowerCase ".ΟΔΟΣ" = ".οδος" := by decide +kernel
  have usable : Scope.isUsable ".οδος" = true := by decide +kernel
  simp [Scope.ofFunction, lowered, usable]

/-- A name that ends in a capital sigma and starts with a dot, and a notice in capitals. -/
theorem names_files_and_notices_agree_odos :
    Scope.ofFunction ".ΟΔΟΣ" = .ok ".οδος" ∧
      let after := stocked.invalidate ((Path.ofText "secrets").join (Utf8.encode ".οδος.JSON"))
      after.slot? ".οδος" = some .empty ∧ after.slot? "alpha" = stocked.slot? "alpha" ∧
        after.host = stocked.host := by
  obtain ⟨accepted, -, -⟩ := names_files_and_notices_agree stocked
  obtain ⟨-, -, -, -, notices⟩ := accepted _ _ ofFunction_odos
  have emptied := notices "JSON" (by decide)
  refine ⟨ofFunction_odos, (emptied.function ".οδος").trans ?_, (emptied.function "alpha").trans ?_,
    emptied.host⟩
  · rw [if_pos rfl]
    rfl
  · rw [if_neg (by decide)]

end Store

end Lockbox
