/-
The program: it reads the files that a command names, carries the command out, waits for as long as
the command takes, writes what has changed, and prints the lines.
-/
import Wireflow.CommandLine.Execution

open Wireflow

/-- A disk with what stands at a path, if anything does. -/
def loadEntry (disk : Disk) (path : String) : IO Disk := do
  try
    let real ← IO.FS.realPath path
    if ← real.isDir then return disk.put (Disk.pathOf path) .directory
    else return disk.put (Disk.pathOf path) (.file (← IO.FS.readBinFile path))
  catch _ => return disk

/-- A disk with what stands at a path, and with the directories on its way. -/
def loadPath (disk : Disk) (path : String) : IO Disk :=
  (Execution.waysTo path).foldlM loadEntry disk

/-- A disk with the files of a directory. -/
def loadDirectory (disk : Disk) (path : String) : IO Disk := do
  let disk ← loadPath disk path
  try
    let real ← IO.FS.realPath path
    (← real.readDir).foldlM (fun disk e => loadEntry disk (Disk.join path e.fileName)) disk
  catch _ => return disk

/-- Writes what is not on a disk as it is on another: the directories first. -/
def store (before after : Disk) : IO Unit := do
  for (path, entry) in after.entries do
    if let .directory := entry then
      if (before.find? path).isNone then IO.FS.createDirAll ("/".intercalate path)
  for (path, entry) in after.entries do
    if let .file content := entry then
      let same := match before.find? path with
        | some (.file old) => old == content
        | _ => false
      if !same then IO.FS.writeBinFile ("/".intercalate path) content

/-- The variables of the process, as the system shows them. -/
def environment : IO ProcessEnv := do
  let text := (String.fromUTF8? (← IO.FS.readBinFile "/proc/self/environ")).getD ""
  return (text.splitOn "\x00").filterMap fun line =>
    match line.splitOn "=" with
    | name :: value@(_ :: _) => some (name, "=".intercalate value)
    | _ => none

/-- The date in nanoseconds: when the system made the entry of this process. -/
def date : IO Nat := do
  let time := (← (← IO.FS.realPath "/proc/self").metadata).modified
  return time.sec.toNat * secondLength + time.nsec.toNat

/-- A start for fresh identifiers. -/
def seed : IO Nat := do
  return (← IO.getRandomBytes 15).foldl (fun n b => n * 256 + b.toNat) 0

/-- How many steps an engine may take. -/
def patience : Nat := 1000000000

/-- Carries out the command of the arguments. The status is 2 when they are none. -/
def main (args : List String) : IO UInt32 := do
  match Command.parse args with
  | .error .help =>
    IO.println UsageFault.help.message
    return 0
  | .error fault =>
    IO.eprintln ("error: " ++ fault.message)
    return 2
  | .ok command =>
    let disk ← (Execution.filesOf command).foldlM loadPath Disk.empty
    let disk ← (Execution.storesOf disk command).foldlM loadDirectory disk
    let surroundings : Surroundings :=
      { registry := Registry.standard, process := ← environment,
        clock := Clock.startingAt (← date) false, disk, ids := ⟨← seed⟩ }
    let report := command.execute patience surroundings
    IO.sleep (report.elapsed / millisecondLength).toUInt32
    store disk report.disk
    report.output.forM IO.println
    report.errors.forM IO.eprintln
    return report.status.toUInt32
