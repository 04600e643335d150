import Lockbox.Proofs.Settings.Directories
import Lockbox.Proofs.Settings.Spelling

/-!
# Texts that settings are given

The names of variables count in lower case. Where no two of them differ in case alone, a setting
that is a text comes from the one variable of its name and is there exactly if that is (`Arrived`).
It is the text of the variable if that text lasts, and another one if not:

    texts_arrive : ofVariables vars = .ok s →
      Arrived ((ignoringCase vars).table "secrets_path") (some s.secretsPath)

Numbers are written out again, so that a path of digits may become that of another directory
(`texts_are_rewritten`).
-/

namespace Lockbox

namespace SettingName

theorem eq_nil_of_steps? {count : Nat} {cs : List Char} (h : steps? count cs = some []) :
    cs = [] := by
  cases cs with
  | nil => rfl
  | cons c rest =>
    cases count with
    | zero => cases h
    | succ count =>
      obtain ⟨⟨first, behind⟩, -, h⟩ := Option.bind_eq_some_iff.1 h
      obtain ⟨more, -, h⟩ := Option.bind_eq_some_iff.1 h
      cases h

/-- A name without steps into a setting is that of the setting. -/
theorem eq_of_parse {s setting : String} (h : parse s = ⟨setting, []⟩) : s = setting := by
  obtain ⟨behind, whole⟩ := List.takeWhile_prefix isPlain (l := s.toList)
  unfold parse at h
  dsimp only at h
  generalize s.toList.takeWhile isPlain = head at h whole
  split at h
  · next c more inner steps =>
    obtain ⟨eq, rfl⟩ := SettingName.mk.inj h
    have nothing := eq_nil_of_steps? steps
    rw [← whole, List.drop_left] at nothing
    rw [← eq, ← String.ofList_toList (s := s), ← whole, nothing, List.append_nil]
  · exact (SettingName.mk.inj h).1

end SettingName

namespace Settings

open SettingValue (Lasting)

variable {vars : Variables} {s : Settings} {key : String}

/-- The variables, their names in lower case. -/
def ignoringCase (vars : Variables) : Variables := vars.map fun v => (Text.lowerCase v.1, v.2)

/-- What comes of the text of a variable: a setting if there is a variable, and that text if it
lasts. -/
inductive Arrived : Option String → Option String → Prop
  | unset : Arrived none none
  | set {told got : String} (verbatim : got = told ↔ Lasting told) : Arrived (some told) (some got)

theorem Arrived.eq_some {told : String} {got : Option String} (h : Arrived (some told) got)
    (lasting : Lasting told) : got = some told := by
  cases h with
  | set verbatim => rw [verbatim.2 lasting]

/-! ## One setting -/

/-- A setting without a value has no variable of its name. -/
theorem table_of_value?_eq_none (plain : SettingName.parse key = ⟨key, []⟩)
    (h : value? vars key = none) : (ignoringCase vars).table key = none := by
  rw [value?, Option.map_eq_none_iff, List.find?_eq_none] at h
  rw [Variables.table, Option.map_eq_none_iff, List.find?_eq_none]
  intro e he named
  obtain ⟨v, hv, rfl⟩ := List.mem_map.1 he
  refine h (SettingName.parse (Text.lowerCase v.1), v.2) ?_ ?_
  · exact List.mem_reverse.2 (List.mem_map.2 ⟨v, hv, rfl⟩)
  · rw [beq_iff_eq] at named ⊢
    rw [show Text.lowerCase v.1 = key from named, plain]

/-- A value that is written as a text stands for the text of the one variable of its name. -/
theorem table_of_value?_eq_some (distinct : ((ignoringCase vars).map (·.1)).Nodup)
    {v : SettingValue} (h : value? vars key = some v)
    {got : String} (written : v.toText = .ok got) :
    ∃ told, (ignoringCase vars).table key = some told ∧ v = .ofText told := by
  obtain ⟨⟨name, told⟩, found, rfl⟩ := Option.map_eq_some_iff.1 h
  obtain ⟨setting, inner⟩ := name
  have named : setting = key := by simpa using List.find?_some found
  cases inner with
  | cons first _ => cases first <;> cases written
  | nil =>
    obtain ⟨var, mem, eq⟩ := List.mem_map.1 (List.mem_reverse.1 (List.mem_of_find?_eq_some found))
    obtain ⟨parsed, rfl⟩ := Prod.mk.inj eq
    have lowered : Text.lowerCase var.1 = key := (SettingName.eq_of_parse parsed).trans named
    have listed : (key, var.2) ∈ ignoringCase vars :=
      List.mem_map.2 ⟨var, mem, by rw [lowered]⟩
    exact ⟨var.2, by rw [Variables.table, find?_of_mem distinct listed]; rfl, rfl⟩

theorem arrived_of_text? (plain : SettingName.parse key = ⟨key, []⟩)
    (distinct : ((ignoringCase vars).map (·.1)).Nodup) {got : Option String}
    (h : text? vars key = .ok got) : Arrived ((ignoringCase vars).table key) got := by
  rw [text?] at h
  cases value : value? vars key with
  | none =>
    rw [value] at h
    dsimp only at h
    cases h
    rw [table_of_value?_eq_none plain value]
    exact .unset
  | some v =>
    rw [value] at h
    dsimp only at h
    cases written : v.toText with
    | error found =>
      rw [written] at h
      cases h
    | ok text =>
      rw [written] at h
      cases h
      obtain ⟨told, told_eq, rfl⟩ := table_of_value?_eq_some distinct value written
      rw [told_eq]
      refine .set ?_
      rw [← SettingValue.toText_ofText_iff, written, Except.ok.injEq]

/-! ## All settings -/

theorem parse_keys : ∀ key ∈ ["secrets_path", "script_root", "otel_exporter_otlp_endpoint",
    "log_level"], SettingName.parse key = ⟨key, []⟩ := by decide +kernel

/-- Settings are the values that are given. -/
theorem of_read (h : read vars = .ok s) :
    text? vars "secrets_path" = .ok (some s.secretsPath) ∧
      text? vars "script_root" = .ok s.scriptRoot ∧
      text? vars "otel_exporter_otlp_endpoint" = .ok s.otlpEndpoint ∧
      ∃ level, text? vars "log_level" = .ok level ∧ s.logLevel = level.getD defaultLogLevel := by
  obtain ⟨hosted, -, h⟩ := exists_of_bind_eq_ok h
  obtain ⟨required, -, h⟩ := exists_of_bind_eq_ok h
  obtain ⟨root, roots, h⟩ := exists_of_bind_eq_ok h
  obtain ⟨endpoint, endpoints, h⟩ := exists_of_bind_eq_ok h
  obtain ⟨level, levels, h⟩ := exists_of_bind_eq_ok h
  obtain ⟨path, paths, h⟩ := exists_of_bind_eq_ok h
  cases path with
  | none => cases h
  | some path =>
    cases h
    exact ⟨paths, roots, endpoints, level, levels, rfl⟩

/-- Each text among the settings is there exactly if its variable is, and is the text of that
variable exactly if that text lasts; only the level of the log has a default. -/
theorem texts_arrive (distinct : ((ignoringCase vars).map (·.1)).Nodup)
    (usable : ofVariables vars = .ok s) :
    Arrived ((ignoringCase vars).table "secrets_path") (some s.secretsPath) ∧
      Arrived ((ignoringCase vars).table "script_root") s.scriptRoot ∧
      Arrived ((ignoringCase vars).table "otel_exporter_otlp_endpoint") s.otlpEndpoint ∧
      (((ignoringCase vars).table "log_level" = none ∧ s.logLevel = "info") ∨
        Arrived ((ignoringCase vars).table "log_level") (some s.logLevel)) := by
  obtain ⟨path, root, endpoint, level, levels, eq⟩ := of_read (check_of_ofVariables usable).1
  have arrives : ∀ key ∈ ["secrets_path", "script_root", "otel_exporter_otlp_endpoint",
      "log_level"], ∀ got, text? vars key = .ok got →
        Arrived ((ignoringCase vars).table key) got :=
    fun key known got h => arrived_of_text? (parse_keys key known) distinct h
  refine ⟨arrives _ (by simp) _ path, arrives _ (by simp) _ root,
    arrives _ (by simp) _ endpoint, ?_⟩
  have arrived := arrives _ (by simp) _ levels
  cases level with
  | none =>
    generalize (ignoringCase vars).table "log_level" = told at arrived
    cases arrived
    exact .inl ⟨rfl, eq⟩
  | some text =>
    rw [eq]
    exact .inr arrived

/-- An environment with a path, a negative number, a word and no endpoint. -/
def plainTexts : Variables :=
  [("Secrets_Path", "/var/lib/keys"), ("SCRIPT_ROOT", "-7"), ("LOG_LEVEL", "false"),
   ("HOME", "1e3")]

/-- All of them arrive as they are. -/
theorem texts_arrive_plain : ∃ s, ofVariables plainTexts = .ok s ∧
    s.secretsPath = "/var/lib/keys" ∧ s.scriptRoot = some "-7" ∧ s.otlpEndpoint = none ∧
      s.logLevel = "false" := by
  obtain ⟨s, usable⟩ : ∃ s, ofVariables plainTexts = .ok s :=
    ⟨⟨"/var/lib/keys", some "-7", false, false, none, "false"⟩, by decide +kernel⟩
  obtain ⟨path, root, endpoint, level⟩ := texts_arrive (by decide +kernel) usable
  have told : (ignoringCase plainTexts).table "secrets_path" = some "/var/lib/keys" ∧
      (ignoringCase plainTexts).table "script_root" = some (toString (-7 : Int)) ∧
      (ignoringCase plainTexts).table "otel_exporter_otlp_endpoint" = none ∧
      (ignoringCase plainTexts).table "log_level" = some "false" := by decide +kernel
  obtain ⟨toldPath, toldRoot, toldEndpoint, toldLevel⟩ := told
  rw [toldPath] at path
  rw [toldRoot] at root
  rw [toldEndpoint] at endpoint
  rw [toldLevel] at level
  have slash : '/' ∈ "/var/lib/keys".toList := by decide
  refine ⟨s, usable, ?_, ?_, ?_, ?_⟩
  · exact Option.some.inj (path.eq_some (SettingValue.lasting_of_mem slash (by decide) (by decide)))
  · exact root.eq_some (.whole (by decide) (by decide))
  · generalize s.otlpEndpoint = got at endpoint
    cases endpoint
    rfl
  · rcases level with ⟨unset, -⟩ | level
    · cases unset
    · exact Option.some.inj (level.eq_some (.truth (.inr rfl)))

/-- Zeros in front, signs, exponents and capitals are lost, and with them the directory that was
told. -/
theorem texts_are_rewritten :
    ofVariables [("SECRETS_PATH", "0123"), ("SCRIPT_ROOT", "1e3"),
        ("OTEL_EXPORTER_OTLP_ENDPOINT", "+7"), ("LOG_LEVEL", "TRUE")] =
      .ok ⟨"123", some "1000", false, false, some "7", "true"⟩ := by decide +kernel

end Settings

end Lockbox
