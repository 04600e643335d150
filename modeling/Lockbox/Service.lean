import Lockbox.Log.Filter
import Lockbox.Settings
import Lockbox.Store.Purge
import Lockbox.Store.Watch

/-!
# The service

Start-up goes through settings, default key, store, watch, purge and the keys of the host, and stops
at the first thing that is wrong. Nothing is touched before the settings are known to be right and
the default key to be usable or absent where it may be.
-/

namespace Lockbox

/-- Why the service does not start. -/
inductive StartFault where
  | settings (fault : SettingsFault)
  | unusableKey (error : Error)
  | noEncryption
  | store (error : Error)
  | host (error : Error)
  deriving DecidableEq

def Error.messages (e : Error) : List String :=
  match e with
  | .file _ fault => [e.message, fault.message]
  | _ => [e.message]

def StartFault.messages : StartFault → List String
  | .settings fault => fault.messages
  | .unusableKey e => "default encryption key is configured but unusable" :: e.messages
  | .noEncryption => ["REQUIRE_ENCRYPTION is set but no default encryption key is configured"]
  | .store e => e.messages
  | .host e => "failed to load host secrets" :: e.messages

namespace Service

def version : String := "0.1.0"

def starting (s : Settings) : Event :=
  ⟨.info, .service, "secret-store starting",
    [("version", .text version), ("secrets_path", .text (Path.ofText s.secretsPath).display),
      ("hosted", .flag s.hosted)]⟩

def unencrypted : Event :=
  ⟨.warn, .service, "no default encryption key configured; new keys are stored in plaintext", []⟩

def ready (keys : HostKeys) : Event :=
  ⟨.info, .service, "host secrets ready", [("function_keys", .count keys.functionKeys.length)]⟩

def stopping : Event := ⟨.info, .service, "shutting down", []⟩

/-- Find out about the default key. -/
def chooseVault (s : Settings) (w : World Tree) : Except StartFault Vault × World Tree :=
  match (Vault.probe (Hosting.ofFlag s.hosted)).run.run w with
  | (.error e, w) => (.error (.unusableKey e), w)
  | (.ok vault, w) =>
    if vault.encrypts then (.ok vault, w)
    else if s.requireEncryption then (.error .noEncryption, w)
    else (.ok vault, { w with log := w.log ++ [unencrypted] })

def purge (s : Settings) (store : Store Tree) : Store Tree :=
  match s.scriptRoot with
  | none => store
  | some root => store.purge (Path.ofText root)

/-- Open the store, watch it, purge it and load the keys of the host. -/
def openStore (s : Settings) (vault : Vault) (w : World Tree) :
    Except StartFault Unit × World Tree :=
  match Store.openAt (Path.ofText s.secretsPath) vault w with
  | .error (e, w) => (.error (.store e), w)
  | .ok store =>
    match store.watch with
    | (.error e, store) => (.error (.store e), store.world)
    | (.ok _, store) =>
      match (purge s store).hostKeys with
      | (.error e, store) => (.error (.host e), store.world)
      | (.ok keys, store) => (.ok (), (store.report (ready keys.value)).world)

/-- Start with the given settings, and stop when told to. -/
def run (s : Settings) (w : World Tree) : Except StartFault Unit × World Tree :=
  match chooseVault s { w with log := w.log ++ [starting s] } with
  | (.error fault, w) => (.error fault, w)
  | (.ok vault, w) =>
    match openStore s vault w with
    | (.error fault, w) => (.error fault, w)
    | (.ok (), w) => (.ok (), { w with log := w.log ++ [stopping] })

/-- The variable whose filter goes before the log level of the settings. -/
def filterVariable : String := "RUST_LOG"

/-- The filter of the log and what is said about its text. -/
def filterOf (env : Environment) (s : Settings) : Filter × List String :=
  match (env filterVariable).bind Filter.parse? with
  | some f => (f, [])
  | none => Filter.parseLossy s.logLevel

/-! ### What a run says -/

/-- The lines of a text, those after the first set in. -/
def setIn (margin : String) (s : String) : String :=
  String.intercalate ("\n" ++ margin) (s.splitOn "\n")

/-- Causes, each with its number. -/
def numberedCauses (first : Nat) : List String → List String
  | [] => []
  | cause :: rest =>
    ("    " ++ toString first ++ ": " ++ setIn "       " cause) :: numberedCauses (first + 1) rest

def causes : List String → List String
  | [] => []
  | [cause] => ["", "Caused by:", "    " ++ setIn "    " cause]
  | many => ["", "Caused by:"] ++ numberedCauses 0 many

def failure (messages : List String) : List String :=
  ("Error: " ++ messages.headD "") :: causes (messages.drop 1)

/-- What a run leaves behind: an exit code, lines for people, the log and the surroundings. -/
structure Outcome where
  exitCode : Nat
  lines : List String
  log : List Event
  world : World Tree

/-- A whole run in an environment. -/
def outcome (vars : Variables) (w : World Tree) : Outcome :=
  match Settings.ofVariables vars with
  | .error fault =>
    ⟨1, ("ERROR: configuration invalid: " ++ fault.messages.headD "") :: failure fault.messages,
      [], w⟩
  | .ok s =>
    let (filter, remarks) := filterOf w.environment s
    match run s w with
    | (result, after) =>
      let log := after.log.filter filter.admits
      match result with
      | .ok () => ⟨0, remarks, log, after⟩
      | .error fault => ⟨1, remarks ++ failure fault.messages, log, after⟩

end Service

end Lockbox
