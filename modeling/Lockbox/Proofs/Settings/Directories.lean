import Lockbox.Proofs.Basic
import Lockbox.Proofs.Path.Directory
import Lockbox.Service

/-!
# The script root and the secrets directory

Settings that can be used name a script root with other components than the secrets directory has
(`components_ne_of_ofVariables`). So the two are different directories if their paths branch, which
all paths do that begin alike and do not go up:

    script_root_is_apart : Settings.ofVariables vars = .ok s → s.scriptRoot = some root →
      (Path.ofText root).Branches (Path.ofText s.secretsPath) →
      ¬Path.SameDirectory cwd (.ofText root) (.ofText s.secretsPath)

A dot at the front of one path, or two dots in it, hide that it is the other, and then the keys of
all functions are purged at the start (`script_root_is_secrets_directory`).
-/

namespace Lockbox.Settings

variable {vars : Variables} {s : Settings} {root : String}

theorem check_of_ofVariables (usable : ofVariables vars = .ok s) :
    read vars = .ok s ∧ check s = .ok () := by
  obtain ⟨t, told, h⟩ := exists_of_bind_eq_ok usable
  obtain ⟨_, checked, h⟩ := exists_of_bind_eq_ok h
  cases h
  exact ⟨told, checked⟩

theorem checkScriptRoot_of_check (h : check s = .ok ()) : checkScriptRoot s = .ok () := by
  cases checked : checkScriptRoot s with
  | ok _ => rfl
  | error fault =>
    by_cases empty : s.secretsPath = ""
    · simp [check, empty, throw, throwThe, MonadExceptOf.throw, bind, Except.bind] at h
    · simp [check, empty, checked, bind, Except.bind] at h

theorem components_ne_of_ofVariables (usable : ofVariables vars = .ok s)
    (set : s.scriptRoot = some root) :
    (Path.ofText root).components ≠ (Path.ofText s.secretsPath).components := by
  have checked := checkScriptRoot_of_check (check_of_ofVariables usable).2
  intro eq
  have taken : (Path.ofText root).same (Path.ofText s.secretsPath) = true := beq_iff_eq.2 eq
  rw [checkScriptRoot, set] at checked
  dsimp only at checked
  rw [if_pos taken] at checked
  split at checked
  · cases checked
  · cases checked

/-- A script root that may be used is another directory than that of the secrets, seen from any
current directory, if the two paths branch. -/
theorem script_root_is_apart (usable : ofVariables vars = .ok s) (set : s.scriptRoot = some root)
    (branches : (Path.ofText root).Branches (Path.ofText s.secretsPath)) (cwd : Path) :
    ¬Path.SameDirectory cwd (.ofText root) (.ofText s.secretsPath) := by
  intro meets
  exact components_ne_of_ofVariables usable set (Path.eq_of_sameDirectory branches meets)

/-- Secrets in a directory `a`, and a script root. -/
def besides (root : String) : Variables := [("SECRETS_PATH", "a"), ("SCRIPT_ROOT", root)]

def besidesSettings (root : String) : Settings := ⟨"a", some root, false, false, none, "info"⟩

/-- A directory inside that of the secrets is another one, however its path is spelled. -/
theorem script_root_is_apart_below :
    ofVariables (besides "a//./b/") = .ok (besidesSettings "a//./b/") ∧
      ∀ cwd, ¬Path.SameDirectory cwd (.ofText "a//./b/") (.ofText "a") := by
  have usable : ofVariables (besides "a//./b/") = .ok (besidesSettings "a//./b/") := by
    decide +kernel
  refine ⟨usable, script_root_is_apart usable rfl ?_⟩
  exact Path.branches_of_up_not_mem (by decide +kernel) rfl (by decide +kernel)

/-- A tree with the keys of one function. -/
def oneFunction : Tree :=
  ⟨#[.directory Tree.directoryMode Tree.root [(Utf8.encode "a", 1)],
      .directory Tree.directoryMode Tree.root [(Utf8.encode "foo.json", 2)],
      .file Tree.fileMode []], []⟩

def oneFunctionStore : Store Tree :=
  .ofWorld (.ofText "a") ⟨.onPremises, false⟩
    ⟨Variables.table [], .counting, .empty, [], oneFunction⟩

/-- The secrets directory is taken for another script root if a dot or two dots are in front of it,
and the purge at the start removes the keys that are there. -/
theorem script_root_is_secrets_directory :
    (∀ root ∈ ["./a", "b/../a"], ofVariables (besides root) = .ok (besidesSettings root) ∧
      ∀ cwd, Path.SameDirectory cwd (.ofText root) (.ofText "a")) ∧
    Volume.read oneFunctionStore.world.volume ((Scope.function "foo").file (.ofText "a")) =
      .ok [] ∧
    Volume.read (Service.purge (besidesSettings "./a") oneFunctionStore).world.volume
      ((Scope.function "foo").file (.ofText "a")) = .error .notFound := by
  refine ⟨?_, rfl, rfl⟩
  intro root spelled
  have usable : ∀ root ∈ ["./a", "b/../a"],
      ofVariables (besides root) = .ok (besidesSettings root) := by decide +kernel
  refine ⟨usable root spelled, ?_⟩
  intro cwd
  -- relative to `cwd`, both go on from its components
  have onward : ∀ p : Path, p.isAbsolute = false → Path.reduced (Path.componentsFrom cwd p) =
      p.components.foldl Path.Component.onto (Path.reduced cwd.components) := by
    intro p relative
    rw [Path.componentsFrom, relative, if_neg Bool.false_ne_true, Path.reduced, List.foldl_append]
    rfl
  simp only [List.mem_cons, List.not_mem_nil, or_false] at spelled
  rw [Path.SameDirectory, onward (.ofText "a") rfl]
  rcases spelled with rfl | rfl
  · exact onward (.ofText "./a") rfl
  · exact onward (.ofText "b/../a") rfl

end Lockbox.Settings
