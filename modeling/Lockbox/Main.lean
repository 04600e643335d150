import Lockbox.Log.Line
import Lockbox.Service

/-!
# The program

The outer layer of the service. It copies the directories that the settings name into a tree, starts
the service there, carries what changed back to the disk and prints the log and the failure, if
there is one. A service that started stops when standard input ends.
-/

namespace Lockbox.Program

def environment : IO Variables := do
  let block ← IO.FS.readBinFile "/proc/self/environ"
  return .ofBlock (Utf8.lossy block.toList)

/-- Copy a file into a tree. One that cannot be read is there without permissions. -/
def loadFile (name : String) (t : Tree) : IO Tree := do
  let file := (← IO.currentDir) / name
  let path := Path.ofText name
  try
    let bytes ← IO.FS.readBinFile file
    return (Volume.write path bytes.toList t).2
  catch _ =>
    let t := (Volume.write path [] t).2
    return (t.attempt (t.setMode path 0)).2

/-- Copy what is at a path into a tree: a file, or a directory with the files and the names of the
directories in it. -/
def load (name : String) (t : Tree) : IO Tree := do
  let here := (← IO.currentDir) / name
  if !(← here.pathExists) then return t
  if !(← here.isDir) then
    let above := ((Path.ofText name).parent?).getD ⟨[]⟩
    return ← loadFile name (Volume.makeDirectories above t).2
  let mut t := (Volume.makeDirectories (Path.ofText name) t).2
  for entry in ← here.readDir do
    let inner := name ++ "/" ++ entry.fileName
    if ← entry.path.isDir then
      t := (Volume.makeDirectories (Path.ofText inner) t).2
    else
      t ← loadFile inner t
  return t

/-- The files that a directory of a tree holds. -/
def filesIn (t : Tree) (name : String) : List (String × List UInt8) :=
  match t.list (Path.ofText name) with
  | .error _ => []
  | .ok entries =>
    entries.filterMap fun entry =>
      match entry with
      | .error _ => none
      | .ok e =>
        match t.read ((Path.ofText name).join e.name) with
        | .error _ => none
        | .ok bytes => some (Utf8.lossy e.name, bytes)

/-- Make a directory on the disk hold the files that it holds in a tree. -/
def store (name : String) (before after : Tree) : IO Unit := do
  if !Volume.leadsToDirectory after (Path.ofText name) then return
  let here := (← IO.currentDir) / name
  IO.FS.createDirAll here
  for (file, bytes) in filesIn after name do
    if (file, bytes) ∉ filesIn before name then
      IO.FS.writeBinFile (here / file) ⟨bytes.toArray⟩
  for (file, _) in filesIn before name do
    if file ∉ (filesIn after name).map (·.1) then
      IO.FS.removeFile (here / file)

/-- Random bytes enough for new keys and for every secret that a file can hold. -/
def randomBytes (t : Tree) (name : String) : IO Entropy := do
  let size := (filesIn t name).foldl (fun size file => size + file.2.length) 0
  let bytes ← IO.getRandomBytes (Nat.toUSize (256 + Cbc.blockLength * size))
  return .repeating bytes.toList

/-- The directories of usable settings: the secrets and the scripts. -/
def directories (vars : Variables) : Option (String × Option String) :=
  match Settings.ofVariables vars with
  | .ok s => some (s.secretsPath, s.scriptRoot)
  | .error _ => none

/-- Run the service in a tree that holds what is on the disk, and carry back what it changed. -/
def outcome (vars : Variables) : IO Service.Outcome := do
  match directories vars with
  | none => return Service.outcome vars ⟨vars.process, .counting, .empty, [], .empty⟩
  | some (secrets, scripts) =>
    let mut t ← load secrets .empty
    if let some scripts := scripts then t ← load scripts t
    let random ← randomBytes t secrets
    let o := Service.outcome vars ⟨vars.process, random, .empty, [], t⟩
    store secrets t o.world.volume
    return o

/-- Wait for the end of standard input. -/
partial def awaitEnd (input : IO.FS.Stream) : IO Unit := do
  if (← input.read 4096).isEmpty then return
  awaitEnd input

/-- Start the service, wait to be stopped and give the exit code. -/
def run : IO UInt32 := do
  let o ← outcome (← environment)
  for text in o.lines do IO.eprintln text
  let (last, first) := o.log.partition (· == Service.stopping)
  for event in first do IO.println event.line
  if o.exitCode = 0 then awaitEnd (← IO.getStdin)
  for event in last do IO.println event.line
  return o.exitCode.toUInt32

end Lockbox.Program

def main : IO UInt32 := Lockbox.Program.run
