import Lockbox.Proofs.Path
import Lockbox.Proofs.Text.Case
import Lockbox.Proofs.Text.Utf8
import Lockbox.Store.Purge

/-!
# Scopes and their file names

The scopes that can be asked for are the host and the functions whose names are usable and in lower
case (`Scope.IsNamed`). Their files have proper names of their own, and each of the ways in which
the program goes back from a file to a scope ends at the scope that the file is of:

    ofPath?_file : ofPath? (s.file secrets) = some s
    ownerName?_function : ownerName? secrets ⟨(function n).fileName, .ok .file⟩ = some n
-/

namespace Lockbox

namespace Scope

/-- The host, or a function with a usable name in lower case. -/
def IsNamed : Scope → Prop
  | .host => True
  | .function name => isUsable name = true ∧ ∀ c ∈ name.toList, Text.IsLow c

def stemText : Scope → String
  | .host => hostStem
  | .function name => name

def fileName (s : Scope) : FileName := Utf8.encode s.fileText

theorem file_eq_join (secrets : Path) (s : Scope) : s.file secrets = secrets.join s.fileName := rfl

theorem fileText_eq (s : Scope) : s.fileText = s.stemText ++ "." ++ extension := by
  cases s <;> rfl

/-! ## Names of functions -/

/-- A name that is accepted has been lowered first. -/
theorem isNamed_of_ofFunction {name n : String} (h : ofFunction name = .ok n) :
    (function n).IsNamed := by
  unfold ofFunction at h
  dsimp only at h
  split at h
  · next usable =>
    cases h
    exact ⟨usable, fun c hc => Text.isLow_of_mem_lowerCase hc⟩
  · cases h

theorem eq_lowerCase_of_ofFunction {name n : String} (h : ofFunction name = .ok n) :
    n = Text.lowerCase name := by
  unfold ofFunction at h
  dsimp only at h
  split at h
  · exact (Except.ok.inj h).symm
  · cases h

/-- A function may not be named like the file of the host, nor with characters that a file name
cannot have. -/
theorem isUsable_iff {name : String} : isUsable name = true ↔
    Text.isBlank name = false ∧ name ≠ "." ∧ name ≠ ".." ∧ name ≠ hostStem ∧
      ∀ c ∈ name.toList, isForbidden c = false := by
  simp [isUsable, and_assoc]

theorem ne_empty_of_isUsable {name : String} (h : isUsable name = true) : name ≠ "" := by
  obtain ⟨solid, -⟩ := isUsable_iff.1 h
  rintro rfl
  exact absurd solid (by decide)

/-- No file has an extension alone for its name. -/
theorem stemText_ne_empty {s : Scope} (h : s.IsNamed) : s.stemText ≠ "" := by
  cases s with
  | host => exact (by decide : hostStem ≠ "")
  | function name => exact ne_empty_of_isUsable h.1

/-- A name with a slash would lead out of the directory. -/
theorem slash_not_mem_stemText {s : Scope} (h : s.IsNamed) : '/' ∉ s.stemText.toList := by
  cases s with
  | host => exact (by decide : '/' ∉ hostStem.toList)
  | function name =>
    obtain ⟨-, -, -, -, allowed⟩ := isUsable_iff.1 h.1
    intro mem
    exact absurd (allowed '/' mem) (by decide)

theorem isLow_of_mem_stemText {s : Scope} (h : s.IsNamed) :
    ∀ c ∈ s.stemText.toList, Text.IsLow c := by
  cases s with
  | host => exact Text.isLow_of_all (by decide +kernel)
  | function name => exact h.2

/-! ## File names -/

theorem fileName_eq (s : Scope) :
    s.fileName = Utf8.encode s.stemText ++ dot :: Utf8.encode extension := by
  rw [fileName, fileText_eq, Utf8.encode_append, Utf8.encode_append, List.append_assoc]
  rfl

/-- The name of a file is a name within a directory. -/
theorem isProper_fileName {s : Scope} (h : s.IsNamed) : s.fileName.IsProper := by
  -- the extension alone is longer than either of the names with dots
  have long : 5 ≤ s.fileName.length := by
    rw [fileName_eq, List.length_append]
    exact Nat.le_add_left 5 _
  refine ⟨?_, ?_, ?_, ?_⟩
  · intro short
    rw [short] at long
    exact absurd long (by decide)
  · intro mem
    rw [fileName_eq, List.mem_append] at mem
    rcases mem with front | back
    -- a slash among the bytes is a slash among the characters
    · obtain ⟨c, hc, number⟩ := Utf8.exists_of_mem_encode front (by decide)
      have slashed : c = '/' := Char.toNat_inj.1 number
      rw [slashed] at hc
      exact slash_not_mem_stemText h hc
    · exact absurd back (by decide)
  · intro short
    rw [short] at long
    exact absurd long (by decide)
  · intro short
    rw [short] at long
    exact absurd long (by decide)

/-- The extension begins at the last dot, so that dots in the name of a function do no harm. -/
theorem cutAtDot_fileName {s : Scope} (h : s.IsNamed) :
    Path.cutAtDot s.fileName = (Utf8.encode s.stemText, some (Utf8.encode extension)) := by
  have filled : Utf8.encode s.stemText ≠ [] := by
    intro empty
    exact stemText_ne_empty h (Utf8.encode_injective empty)
  rw [fileName_eq]
  exact Path.cutAtDot_append filled (by decide)

/-! ## Back to the scope -/

variable {secrets : Path}

theorem isSecretsFile_file {s : Scope} (h : s.IsNamed) : isSecretsFile (s.file secrets) = true := by
  rw [isSecretsFile, file_eq_join,
    Path.extension?_join secrets (isProper_fileName h) (cutAtDot_fileName h), Option.bind_some,
    Utf8.decode_encode]
  exact beq_self_eq_true _

/-- The name before the extension is the one the file was given. -/
theorem decode_stem?_file {s : Scope} (h : s.IsNamed) :
    (s.file secrets).stem?.bind Utf8.decode = some s.stemText := by
  rw [file_eq_join, Path.stem?_join secrets (isProper_fileName h) (cutAtDot_fileName h),
    Option.bind_some, Utf8.decode_encode]

/-- Names of files are in lower case already. -/
theorem lowerAscii_fileText {s : Scope} (h : s.IsNamed) :
    Text.lowerAscii s.fileText = s.fileText := by
  apply Text.lowerAscii_eq_self
  intro c hc
  rw [fileText_eq, String.toList_append, String.toList_append, List.mem_append,
    List.mem_append] at hc
  rcases hc with (stem | point) | rest
  · exact isLow_of_mem_stemText h c stem
  · exact Text.isLow_of_all (by decide +kernel) c point
  · exact Text.isLow_of_all (by decide +kernel) c rest

/-- Only the host's file has the name of the host's file, in any case. -/
theorem sameIgnoringCase_fileText {name : String} (h : (function name).IsNamed) :
    Text.sameIgnoringCase (function name).fileText hostFile = false := by
  rw [Text.sameIgnoringCase, lowerAscii_fileText h, beq_eq_false_iff_ne]
  have host : Text.lowerAscii hostFile = host.fileText := lowerAscii_fileText (s := .host) trivial
  rw [host]
  intro eq
  rw [fileText_eq, fileText_eq, String.append_left_inj, String.append_left_inj] at eq
  -- no function may have that name
  obtain ⟨-, -, -, ne, -⟩ := isUsable_iff.1 h.1
  exact ne eq

/-- A path with the name of the file of a scope leads back to that scope. -/
theorem ofPath?_file {s : Scope} (h : s.IsNamed) : ofPath? (s.file secrets) = some s := by
  have name : (s.file secrets).fileName?.bind Utf8.decode = some s.fileText := by
    rw [file_eq_join, Path.fileName?_join secrets (isProper_fileName h), Option.bind_some, fileName,
      Utf8.decode_encode]
  rw [ofPath?, if_pos (isSecretsFile_file h), name, decode_stem?_file h]
  -- the host is told by its name, and a function by the name before the extension
  cases s with
  | host =>
    have spelled : Text.sameIgnoringCase host.fileText hostFile = true := beq_self_eq_true _
    show (if Text.sameIgnoringCase host.fileText hostFile = true then some host
      else some (function (Text.lowerCase hostStem))) = _
    rw [if_pos spelled]
  | function n =>
    show (if Text.sameIgnoringCase (function n).fileText hostFile = true then some host
      else some (function (Text.lowerCase n))) = _
    rw [sameIgnoringCase_fileText h, if_neg Bool.false_ne_true, Text.lowerCase_eq_self h.2]

/-- Scopes have files of their own. -/
theorem fileName_injective {s t : Scope} (hs : s.IsNamed) (ht : t.IsNamed)
    (h : s.fileName = t.fileName) : s = t := by
  have back := @ofPath?_file ⟨[]⟩ _ hs
  rw [file_eq_join, h, ← file_eq_join, ofPath?_file ht] at back
  exact (Option.some.inj back).symm

end Scope

namespace Store

/-- The file of a function belongs to that function. -/
theorem ownerName?_function {secrets : Path} {n : String} (h : (Scope.function n).IsNamed) :
    ownerName? secrets ⟨(Scope.function n).fileName, .ok .file⟩ = some n := by
  rw [ownerName?]
  dsimp only
  rw [← Scope.file_eq_join, if_pos (Scope.isSecretsFile_file h), Scope.decode_stem?_file h]
  show (if Text.lowerCase n = Scope.hostStem then none else some (Text.lowerCase n)) = some n
  obtain ⟨-, -, -, ne, -⟩ := Scope.isUsable_iff.1 h.1
  rw [Text.lowerCase_eq_self h.2, if_neg ne]

/-- The file of the host belongs to no function. -/
theorem ownerName?_host {secrets : Path} :
    ownerName? secrets ⟨Scope.host.fileName, .ok .file⟩ = none := by
  have named : Scope.host.IsNamed := trivial
  rw [ownerName?]
  dsimp only
  rw [← Scope.file_eq_join, if_pos (Scope.isSecretsFile_file named),
    Scope.decode_stem?_file named]
  have lowered : Text.lowerCase Scope.hostStem = Scope.hostStem :=
    Text.lowerCase_eq_self (Scope.isLow_of_mem_stemText named)
  show (if Text.lowerCase Scope.hostStem = Scope.hostStem then none
    else some (Text.lowerCase Scope.hostStem)) = _
  rw [if_pos lowered]

/-- Only regular files belong to anyone. -/
theorem kind_of_ownerName? {secrets : Path} {entry : Entry} {name : String}
    (h : ownerName? secrets entry = some name) : entry.kind = .ok .file := by
  unfold ownerName? at h
  split at h
  · assumption
  · cases h

end Store

end Lockbox
