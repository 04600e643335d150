import Mathlib.Data.List.Forall2
import Mathlib.Data.List.Induction
import Mathlib.Data.List.Nodup
import Lockbox.Proofs.Store.Journey
import Lockbox.Proofs.Store.Upgrade

/-!
# Keys are served exactly

The secrets of a document resolve to a table if their names differ in more than case and all of them
can be read, and then each has its own entry, under its name as it is spelled (`Exact`). Otherwise
the first secret that is at fault tells the error, be it that its name was there before or that it
cannot be read (`FirstFault`):

    tableAfter_eq_ok_iff : tableAfter find seen secrets = .ok table ↔ …
    tableAfter_eq_error_iff : tableAfter find seen secrets = .error e ↔
      ∃ i, FirstFault (Vault.plainValue find) seen secrets i e

Whatever a store serves was loaded at some time of its run, and is exact for the records that the
file of the scope held then, or that were made for it and written (`keys_are_exact`).
-/

namespace Lockbox

def Vault.valueIn {σ : Type} (v : Vault) (w : World σ) (s : Secret) : Except Error String :=
  ((v.read s).run.run w).1

theorem Vault.valueIn_eq {σ : Type} (v : Vault) (w : World σ) :
    v.valueIn w = plainValue (w.find v.hosting) := by
  funext s
  obtain ⟨u, -, runs⟩ := told_read v s w
  rw [valueIn, runs]

namespace Load

/-- The name of a secret as it is compared with others. -/
def lowered (s : Secret) : String := Text.lowerCase s.name

/-- A table with one entry for each of some secrets, under its name and with what is read of it, the
names being different in more than case. -/
structure Exact (read : Secret → Except Error String) (secrets : List Secret) (table : KeyTable) :
    Prop where
  apart : (secrets.map lowered).Nodup
  entries : List.Forall₂ (fun s entry => entry.1 = s.name ∧ read s = .ok entry.2) secrets table

/-- What is wrong with the secret of an index, given the names in lower case before all of them: its
name was there before, or it cannot be read. -/
def FaultAt (read : Secret → Except Error String) (seen : List String) (secrets : List Secret)
    (i : Nat) (e : Error) : Prop :=
  ∃ s, secrets[i]? = some s ∧
    if lowered s ∈ seen ++ (secrets.take i).map lowered then e = .format (.duplicateName s.name)
    else read s = .error e

/-- What is wrong with the first secret that is at fault. -/
structure FirstFault (read : Secret → Except Error String) (seen : List String)
    (secrets : List Secret) (i : Nat) (e : Error) : Prop where
  fault : FaultAt read seen secrets i e
  first : ∀ j < i, ∀ e', ¬FaultAt read seen secrets j e'

variable {read : Secret → Except Error String} {find : Key.Lookup} {seen : List String} {s : Secret}
  {rest secrets : List Secret} {table : KeyTable} {i : Nat} {e : Error}

/-! ## Exact tables -/

/-- Each name is in the table once. -/
theorem Exact.nodup (exact : Exact read secrets table) : (table.map Prod.fst).Nodup := by
  have names : table.map Prod.fst = secrets.map Secret.name := by
    have entries := exact.entries
    -- the induction is on the entries, which go with the secrets one by one
    clear exact
    induction entries with
    | nil => rfl
    | cons first _ ih => rw [List.map_cons, List.map_cons, first.1, ih]
  rw [names]
  apply List.Nodup.of_map Text.lowerCase
  rw [List.map_map]
  exact exact.apart

/-- The value of each secret is found under its name. -/
theorem Exact.exists_find? (exact : Exact read secrets table) (mem : s ∈ secrets) :
    ∃ value, read s = .ok value ∧ table.find? (·.1 == s.name) = some (s.name, value) := by
  have held : ∃ entry ∈ table, entry.1 = s.name ∧ read s = .ok entry.2 := by
    have entries := exact.entries
    clear exact
    induction entries with
    | nil => cases mem
    | cons first _ ih =>
      rcases List.mem_cons.1 mem with rfl | later
      · exact ⟨_, List.mem_cons_self, first⟩
      · obtain ⟨entry, inside, both⟩ := ih later
        exact ⟨entry, List.mem_cons_of_mem _ inside, both⟩
  obtain ⟨⟨name, value⟩, inside, rfl, given⟩ := held
  exact ⟨value, given, find?_of_mem exact.nodup inside⟩

/-- A table is exact from its first entry on. -/
theorem exact_cons_iff {name value : String} : Exact read (s :: rest) ((name, value) :: table) ↔
    (name = s.name ∧ read s = .ok value) ∧ lowered s ∉ rest.map lowered ∧
      Exact read rest table := by
  constructor
  · rintro ⟨apart, entries⟩
    obtain ⟨fresh, others⟩ := List.nodup_cons.1 apart
    obtain ⟨first, later⟩ := List.forall₂_cons.1 entries
    exact ⟨first, fresh, others, later⟩
  · rintro ⟨first, fresh, others, later⟩
    exact ⟨List.nodup_cons.2 ⟨fresh, others⟩, .cons first later⟩

theorem tableAfter_cons (find : Key.Lookup) (seen : List String) (s : Secret) (rest : List Secret) :
    tableAfter find seen (s :: rest) =
      if lowered s ∈ seen then .error (.format (.duplicateName s.name))
      else (do
        let value ← Vault.plainValue find s
        let others ← tableAfter find (lowered s :: seen) rest
        .ok ((s.name, value) :: others)) := rfl

/-- A table begins with the first secret, whose name must be new, and goes on with the others. -/
theorem tableAfter_cons_eq_ok_iff : tableAfter find seen (s :: rest) = .ok table ↔
    lowered s ∉ seen ∧ ∃ value others, Vault.plainValue find s = .ok value ∧
      tableAfter find (lowered s :: seen) rest = .ok others ∧
        table = (s.name, value) :: others := by
  rw [tableAfter_cons]
  constructor
  · intro given
    split at given
    · cases given
    · next fresh =>
      obtain ⟨value, held, given⟩ := exists_of_bind_eq_ok given
      obtain ⟨others, later, given⟩ := exists_of_bind_eq_ok given
      exact ⟨fresh, value, others, held, later, (Except.ok.inj given).symm⟩
  · rintro ⟨fresh, value, others, held, later, rfl⟩
    rw [if_neg fresh, held]
    simp only [bind, Except.bind, later]

/-- Secrets resolve to a table if and only if it is exact for them, and none of their names was seen
before. -/
theorem tableAfter_eq_ok_iff : tableAfter find seen secrets = .ok table ↔
    (∀ s ∈ secrets, lowered s ∉ seen) ∧ Exact (Vault.plainValue find) secrets table := by
  -- on the secrets: the name of the first one has been seen by the others
  induction secrets generalizing seen table with
  | nil =>
    rw [tableAfter, Except.ok.injEq]
    constructor
    · rintro rfl
      refine ⟨fun s mem => ?_, .nil, .nil⟩
      cases mem
    · rintro ⟨-, -, entries⟩
      exact (List.forall₂_nil_left_iff.1 entries).symm
  | cons s rest ih =>
    rw [tableAfter_cons_eq_ok_iff]
    constructor
    · rintro ⟨fresh, value, others, held, later, rfl⟩
      obtain ⟨unseen, exact⟩ := ih.1 later
      refine ⟨?_, exact_cons_iff.2 ⟨⟨rfl, held⟩, ?_, exact⟩⟩
      · intro t mem
        rcases List.mem_cons.1 mem with rfl | mem
        · exact fresh
        · exact fun known => unseen t mem (List.mem_cons_of_mem _ known)
      · intro mem
        obtain ⟨t, inside, eq⟩ := List.mem_map.1 mem
        exact unseen t inside (eq ▸ List.mem_cons_self)
    · rintro ⟨unseen, exact⟩
      obtain ⟨entry, others, -, -, rfl⟩ := List.forall₂_cons_left_iff.1 exact.entries
      obtain ⟨⟨named, held⟩, fresh, exact⟩ := exact_cons_iff.1 exact
      refine ⟨unseen s List.mem_cons_self, _, others, held, ih.2 ⟨?_, exact⟩, ?_⟩
      · intro t mem known
        rcases List.mem_cons.1 known with eq | known
        · exact fresh (List.mem_map.2 ⟨t, mem, eq⟩)
        · exact unseen t (List.mem_cons_of_mem s mem) known
      · rw [← named]

/-- Secrets have an exact table if and only if their names differ and each can be read. -/
theorem exists_exact_iff : (∃ table, Exact read secrets table) ↔
    (secrets.map lowered).Nodup ∧ ∀ s ∈ secrets, ∃ value, read s = .ok value := by
  constructor
  · rintro ⟨table, exact⟩
    refine ⟨exact.apart, fun s mem => ?_⟩
    obtain ⟨value, given, -⟩ := exact.exists_find? mem
    exact ⟨value, given⟩
  · rintro ⟨apart, reads⟩
    -- on the secrets, of which each gives its entry
    induction secrets with
    | nil => exact ⟨[], .nil, .nil⟩
    | cons s rest ih =>
      obtain ⟨fresh, others⟩ := List.nodup_cons.1 apart
      obtain ⟨value, given⟩ := reads s List.mem_cons_self
      obtain ⟨table, exact⟩ := ih others fun t mem => reads t (List.mem_cons_of_mem s mem)
      exact ⟨(s.name, value) :: table, exact_cons_iff.2 ⟨⟨rfl, given⟩, fresh, exact⟩⟩

/-! ## First faults -/

theorem faultAt_zero_iff : FaultAt read seen (s :: rest) 0 e ↔
    if lowered s ∈ seen then e = .format (.duplicateName s.name) else read s = .error e := by
  simp [FaultAt]

theorem faultAt_succ_iff : FaultAt read seen (s :: rest) (i + 1) e ↔
    FaultAt read (lowered s :: seen) rest i e := by
  have names : ∀ n, n ∈ seen ++ ((s :: rest).take (i + 1)).map lowered ↔
      n ∈ lowered s :: seen ++ (rest.take i).map lowered := by
    intro n
    simp [or_left_comm]
  simp only [FaultAt, names, List.getElem?_cons_succ]

theorem exists_firstFault_of_head (fault : FaultAt read seen (s :: rest) 0 e) {e' : Error} :
    (∃ i, FirstFault read seen (s :: rest) i e') ↔ FaultAt read seen (s :: rest) 0 e' := by
  constructor
  · rintro ⟨i, found, first⟩
    cases i with
    | zero => exact found
    | succ i => exact absurd fault (first 0 (Nat.succ_pos i) e)
  · exact fun found => ⟨0, found, nofun⟩

theorem exists_firstFault_of_tail (sane : ∀ e', ¬FaultAt read seen (s :: rest) 0 e') :
    (∃ i, FirstFault read seen (s :: rest) i e) ↔
      ∃ i, FirstFault read (lowered s :: seen) rest i e := by
  constructor
  · rintro ⟨i, found, first⟩
    cases i with
    | zero => exact absurd found (sane e)
    | succ i =>
      refine ⟨i, faultAt_succ_iff.1 found, fun j below e' fault => ?_⟩
      exact first (j + 1) (Nat.succ_lt_succ below) e' (faultAt_succ_iff.2 fault)
  · rintro ⟨i, found, first⟩
    refine ⟨i + 1, faultAt_succ_iff.2 found, fun j below e' fault => ?_⟩
    cases j with
    | zero => exact sane e' fault
    | succ j => exact first j (Nat.lt_of_succ_lt_succ below) e' (faultAt_succ_iff.1 fault)

/-- Secrets that do not resolve give the error of the first that is at fault. -/
theorem tableAfter_eq_error_iff : tableAfter find seen secrets = .error e ↔
    ∃ i, FirstFault (Vault.plainValue find) seen secrets i e := by
  -- on the secrets: either the first one is at fault, or the others tell
  induction secrets generalizing seen with
  | nil =>
    rw [tableAfter]
    constructor
    · intro given
      cases given
    · rintro ⟨i, ⟨s, eq, -⟩, -⟩
      cases eq
  | cons s rest ih =>
    rw [tableAfter_cons]
    by_cases known : lowered s ∈ seen
    · have fault : FaultAt (Vault.plainValue find) seen (s :: rest) 0
          (.format (.duplicateName s.name)) := faultAt_zero_iff.2 ((if_pos known).mpr rfl)
      rw [if_pos known, exists_firstFault_of_head fault, faultAt_zero_iff, if_pos known,
        Except.error.injEq, eq_comm]
    · rw [if_neg known]
      cases held : Vault.plainValue find s with
      | error e' =>
        have fault : FaultAt (Vault.plainValue find) seen (s :: rest) 0 e' := by
          rw [faultAt_zero_iff, if_neg known, held]
        rw [exists_firstFault_of_head fault, faultAt_zero_iff, if_neg known, held]
        show (Except.error e' : Except Error KeyTable) = .error e ↔ _
        rw [Except.error.injEq, Except.error.injEq]
      | ok value =>
        have sane : ∀ e', ¬FaultAt (Vault.plainValue find) seen (s :: rest) 0 e' := by
          intro e' fault
          rw [faultAt_zero_iff, if_neg known, held] at fault
          cases fault
        rw [exists_firstFault_of_tail sane, ← ih]
        show (do
          let others ← tableAfter find (lowered s :: seen) rest
          .ok ((s.name, value) :: others)) = Except.error e ↔ _
        cases tableAfter find (lowered s :: seen) rest with
        | ok others => constructor <;> intro given <;> cases given
        | error e' => rfl

end Load

/-! ## Scopes -/

namespace Scope

/-- Keys of a scope that are exact for its records. -/
def Exact (read : Secret → Except Error String) : (c : Scope) → c.Records → c.Keys → Prop
  | .host, records, keys => read records.masterKey = .ok keys.masterKey ∧
    Load.Exact read records.functionKeys keys.functionKeys
  | .function _, records, table => Load.Exact read records table

/-- Keys of a scope that could be read are exact. -/
theorem exact_of_values {find : Key.Lookup} {c : Scope} {records : c.Records} {keys : c.Keys}
    (given : c.values find records = .ok keys) : c.Exact (Vault.plainValue find) records keys := by
  cases c with
  | host =>
    obtain ⟨masterKey, master, given⟩ := exists_of_bind_eq_ok given
    obtain ⟨table, functions, given⟩ := exists_of_bind_eq_ok given
    cases given
    exact ⟨master, (Load.tableAfter_eq_ok_iff.1 functions).2⟩
  | function name => exact (Load.tableAfter_eq_ok_iff.1 given).2

end Scope

namespace Store

variable {σ : Type} [Volume σ] {s t : Store σ} {c : Scope} {P Q : Store σ → Prop}

/-- A load of a scope gives some keys at present: they are exact for the records that its file
holds, or that are made for it and written. -/
def Loads (s : Store σ) (c : Scope) (keys : c.Keys) : Prop :=
  ∃ records w, Load.Opening (c.form s.vault) (c.file s.path) s.world (.ok records) w ∧
    c.Exact (s.vault.valueIn w) records keys

/-- What a load gives was loaded. -/
theorem loads_of_run {keys : c.Keys} {w : World σ}
    (runs : (Load.opened (c.form s.vault) (c.file s.path) (c.resolve s.vault)).run.run s.world =
      (.ok keys, w)) : s.Loads c keys := by
  obtain ⟨given, u, opens, -, told⟩ := Load.exists_opening_of_load (c.reliable s.vault) runs
  obtain ⟨records, rfl, given⟩ := exists_of_bind_eq_ok told.symm
  refine ⟨records, u, opens, ?_⟩
  rw [Vault.valueIn_eq]
  exact Scope.exact_of_values given

/-- What slots hold was loaded in one of some stores. -/
def Sourced (P : Store σ → Prop) (s : Store σ) : Prop :=
  ∀ (c : Scope) (loaded : Loaded c.Keys), s.slotAt? c = some (some loaded) →
    ∃ t, P t ∧ t.Loads c loaded.value

theorem Sourced.mono (sourced : Sourced P s) (more : ∀ t, P t → Q t) : Sourced Q s := by
  intro c loaded cached
  obtain ⟨t, past, loads⟩ := sourced c loaded cached
  exact ⟨t, more t past, loads⟩

/-- An access puts into the slot of its scope what it loads, and leaves the other slots. -/
theorem Sourced.of_access {answer : Answer} (sourced : Sourced P s) (access : s.Access c answer t) :
    Sourced (fun u => P u ∨ u = s) t := by
  intro other loaded cached
  by_cases eq : other = c
  · subst eq
    cases access with
    | held was _ _ slot =>
      rw [← was.trans slot.symm] at cached
      obtain ⟨u, past, loads⟩ := sourced other loaded cached
      exact ⟨u, .inl past, loads⟩
    | loads _ runs _ left filled =>
      rw [filled loaded (Option.some.inj (left.symm.trans cached))] at runs
      exact ⟨s, .inr rfl, loads_of_run runs⟩
  · rw [access.beside.slots other eq] at cached
    obtain ⟨u, past, loads⟩ := sourced other loaded cached
    exact ⟨u, .inl past, loads⟩

theorem Sourced.turn (sourced : Sourced P s) (next : Turn σ) :
    Sourced (fun u => P u ∨ u = s) (s.turn next) := by
  rcases turn_cases s next with ⟨step, c, rfl, accesses⟩ | shrinks
  · exact sourced.of_access (access_step accesses)
  · intro c loaded cached
    obtain ⟨u, past, loads⟩ := sourced c loaded (shrinks.slotAt? cached)
    exact ⟨u, .inl past, loads⟩

/-- What slots hold after a run was loaded in the course of it. -/
theorem sourced_journey (empty : ∀ c loaded, s.slotAt? c ≠ some (some loaded))
    (turns : List (Turn σ)) :
    Sourced (fun t => ∃ k < turns.length, t = s.journey (turns.take k)) (s.journey turns) := by
  -- on the turns from the last one: what it loads it loads in the store before it
  induction turns using List.reverseRecOn with
  | nil => exact fun c loaded cached => absurd cached (empty c loaded)
  | append_singleton turns next ih =>
    rw [show s.journey (turns ++ [next]) = (s.journey turns).turn next from List.foldl_append,
      List.length_append, List.length_singleton]
    refine (ih.turn next).mono ?_
    rintro t (⟨k, below, rfl⟩ | rfl)
    · exact ⟨k, by omega, by rw [List.take_append_of_le_length (Nat.le_of_lt below)]⟩
    · exact ⟨turns.length, by omega, by rw [List.take_left]⟩

/-- What an access answers is loaded by it, or was before. -/
theorem Sourced.exists_loads {answer : Answer} (sourced : Sourced P s)
    (access : s.Access c answer t) {keys : c.Keys} (served : answer = c.answer (.ok keys)) :
    ∃ u, (P u ∨ u = s) ∧ u.Loads c keys := by
  cases access with
  | held was =>
    obtain rfl := Except.ok.inj (Scope.answer_injective served)
    obtain ⟨u, past, loads⟩ := sourced c _ was
    exact ⟨u, .inl past, loads⟩
  | loads _ runs =>
    rw [Scope.answer_injective served] at runs
    exact ⟨s, .inr rfl, loads_of_run runs⟩

/-- Secrets resolve to a table exactly if their names differ in more than case and each can be read;
the table then holds each of them once, by its name, and nothing else. Otherwise the first that is
at fault tells the error. Whatever keys a store serves at any time of any run, it loaded them at
some time of that run, and then they were exact for the records of the file. -/
theorem keys_are_exact (dir : Path) (vault : Vault) (w : World σ) :
    (∀ secrets table, ((Load.resolveKeys vault secrets).run.run w).1 = .ok table ↔
      Load.Exact (vault.valueIn w) secrets table) ∧
    (∀ secrets, (∃ table, ((Load.resolveKeys vault secrets).run.run w).1 = .ok table) ↔
      (secrets.map Load.lowered).Nodup ∧ ∀ s ∈ secrets, ∃ value, vault.valueIn w s = .ok value) ∧
    (∀ secrets table, ((Load.resolveKeys vault secrets).run.run w).1 = .ok table →
      table.length = secrets.length ∧ (table.map Prod.fst).Nodup ∧
      ∀ s ∈ secrets, ∃ value, vault.valueIn w s = .ok value ∧
        table.find? (·.1 == s.name) = some (s.name, value)) ∧
    (∀ secrets e, ((Load.resolveKeys vault secrets).run.run w).1 = .error e ↔
      ∃ i, Load.FirstFault (vault.valueIn w) [] secrets i e) ∧
    ∀ (turns : List (Turn σ)) (next : Step σ) (c : Scope) (keys : c.Keys), next.Accesses c →
      (((ofWorld dir vault w).journey turns).step next).1 = c.answer (.ok keys) →
      ∃ k ≤ turns.length, ((ofWorld dir vault w).journey (turns.take k)).Loads c keys := by
  -- a table is told by where ids lead
  have resolves : ∀ secrets, ((Load.resolveKeys vault secrets).run.run w).1 =
      Load.tableAfter (w.find vault.hosting) [] secrets := by
    intro secrets
    obtain ⟨v, -, runs⟩ := Load.told_resolveAfter vault [] secrets w
    rw [Load.resolveKeys, runs]
  have exact_iff : ∀ secrets table, ((Load.resolveKeys vault secrets).run.run w).1 = .ok table ↔
      Load.Exact (vault.valueIn w) secrets table := by
    intro secrets table
    rw [resolves, Load.tableAfter_eq_ok_iff, Vault.valueIn_eq]
    exact and_iff_right fun _ _ => List.not_mem_nil
  refine ⟨exact_iff, ?_, ?_, ?_, ?_⟩
  · intro secrets
    simp only [exact_iff, Load.exists_exact_iff]
  · intro secrets table given
    have exact := (exact_iff secrets table).1 given
    exact ⟨exact.entries.length_eq.symm, exact.nodup, fun s mem => exact.exists_find? mem⟩
  · intro secrets e
    rw [resolves, Load.tableAfter_eq_error_iff, Vault.valueIn_eq]
  · intro turns next c keys accesses served
    have sourced := sourced_journey (slotAt?_ofWorld_ne dir vault w) turns
    obtain ⟨t, past | rfl, loads⟩ := sourced.exists_loads (access_step accesses) served
    · obtain ⟨k, below, rfl⟩ := past
      exact ⟨k, Nat.le_of_lt below, loads⟩
    · exact ⟨turns.length, Nat.le_refl _, by rw [List.take_length]; exact loads⟩

/-- Secrets whose names differ in case alone, of which the second cannot be read. -/
def clashing : List Secret := [.plaintext "Ops" "x", ⟨"ops", "y", true, none⟩]

/-- The second name is the first fault, although its value could not be read either. -/
theorem firstFault_clashing (read : Secret → Except Error String)
    (first : read (.plaintext "Ops" "x") = .ok "x") :
    Load.FirstFault read [] clashing 1 (.format (.duplicateName "ops")) := by
  constructor
  · exact ⟨_, rfl, by rw [if_pos (by decide)]⟩
  · intro j below e fault
    obtain rfl : j = 0 := by omega
    rw [clashing, Load.faultAt_zero_iff, if_neg List.not_mem_nil, first] at fault
    cases fault

theorem journey_invalidated (mode : Nat) :
    (flatStore (flatTree mode)).journey [.step (.invalidate fooFile)] =
      flatStore (flatTree mode) := by
  show (flatStore (flatTree mode)).invalidate fooFile = _
  rw [invalidate, fooFile, Scope.ofPath?_file isNamed_foo]
  rfl

/-- A name that differs from one before in case alone is reported before its value is looked at, and
keys that are served after an invalidation were loaded in the course of the run. -/
theorem keys_are_exact_flat :
    (∀ table, ((Load.resolveKeys ⟨.onPremises, false⟩ clashing).run.run
      (flatStore (flatTree Tree.fileMode)).world).1 ≠ .ok table) ∧
    ((Load.resolveKeys ⟨.onPremises, false⟩ clashing).run.run
      (flatStore (flatTree Tree.fileMode)).world).1 = .error (.format (.duplicateName "ops")) ∧
    ((Load.resolveKeys ⟨.onPremises, false⟩ [.plaintext "Ops" "x", .plaintext "CI" "y"]).run.run
      (flatStore (flatTree Tree.fileMode)).world).1 = .ok [("Ops", "x"), ("CI", "y")] ∧
    ([("Ops", "x"), ("CI", "y")].map Prod.fst).Nodup ∧
    ∃ k ≤ 1, ((flatStore (flatTree Tree.fileMode)).journey
      ([.step (.invalidate fooFile)].take k)).Loads (.function "foo") [("", "X")] := by
  obtain ⟨exact_iff, -, entries, faults, loads⟩ := keys_are_exact (.ofText "secrets")
    ⟨.onPremises, false⟩ (flatStore (flatTree Tree.fileMode)).world
  have fails := (faults clashing _).2 ⟨1, firstFault_clashing _ rfl⟩
  have given : ((Load.resolveKeys ⟨.onPremises, false⟩
      [.plaintext "Ops" "x", .plaintext "CI" "y"]).run.run
      (flatStore (flatTree Tree.fileMode)).world).1 = .ok [("Ops", "x"), ("CI", "y")] :=
    (exact_iff _ _).2 ⟨by decide, .cons ⟨rfl, rfl⟩ (.cons ⟨rfl, rfl⟩ .nil)⟩
  refine ⟨fun table eq => ?_, fails, given, (entries _ _ given).2.1, ?_⟩
  · rw [fails] at eq
    cases eq
  · refine loads [.step (.invalidate fooFile)] (.function "Foo") (.function "foo") [("", "X")]
      (rfl : Scope.ofFunction "Foo" = .ok "foo") ?_
    show (((flatStore (flatTree Tree.fileMode)).journey _).step _).1 = _
    rw [journey_invalidated]
    exact congrArg Answer.function (served_flatTree Tree.fileMode rfl)

end Store

end Lockbox
