import BootNote.Command.AddNote
import BootNote.Command.MakeKernel

/-!
The program. It takes what the system has at the paths in the arguments as a disk, runs a command on
that disk, and writes back what the command changed, each file by way of a temporary one. It starts
no other program, so symbols come from the arguments and from the kernel itself, and files that it
writes have the permission bits that the system gives to new ones.
-/

set_option autoImplicit false
set_option relaxedAutoImplicit false

namespace BootNote.Program

/-- The number of the refusal to read a directory as if it were a file. -/
def isDirectoryNumber : UInt32 := 21

/-- What the system has at a path. -/
def look (path : SystemText) : IO (Option Entry) := do
  try
    return some (.file Disk.newMode (← IO.FS.readBinFile (path : String)))
  catch
    | .inappropriateType _ number _ =>
      return if number = isDirectoryNumber then some .directory else none
    | _ => return none

/-- The place that a path leads to, as long as every name on the way is a directory. -/
def placeOf (home : Place) (path : SystemText) : Place :=
  (Path.names path).foldl (fun here name ↦ (Disk.child here name).toOption.getD here)
    (if Path.isAbsolute path then [] else home)

/-- The texts in an argument that may be paths. -/
def candidates (argument : String) : List String :=
  [argument, String.ofList ((argument.toList.dropWhile (· != '=')).drop 1),
    String.ofList (argument.toList.drop 2)]

/-- What the system has at some paths and on the way to them. -/
def snapshot (home : Place) (paths : List SystemText) : IO Disk := do
  let mut disk : Disk := { home }
  for n in List.range home.length do
    disk := disk.put (home.take (n + 1)) .directory
  for path in paths.flatMap Path.ancestors do
    let place := placeOf home path
    if place ≠ [] then
      if let some entry ← look path then
        disk := disk.put place entry
  return disk

/-- The path of a place from the root. -/
def pathOf (place : Place) : String := "/" ++ "/".intercalate (place.map SystemText.shown)

/-- Writes back what differs between two disks, directories before what lies in them. -/
def writeBack (run : String) (before after : Disk) : IO Unit := do
  let changed := after.entries.filter fun (place, entry) ↦ before.get? place ≠ some entry
  for (place, entry) in changed.mergeSort fun a b ↦ a.1.length ≤ b.1.length do
    match entry with
    | .directory => IO.FS.createDir (pathOf place)
    | .file _ data =>
      let temporary : String := Path.temporary run (pathOf place)
      IO.FS.writeBinFile temporary data
      IO.FS.rename temporary (pathOf place)

/-- The level from which records are shown, `info` unless the environment names another one. -/
def level : IO (Option Level) := do
  match ← IO.getEnv "PVH_NOTE_LOG" with
  | none => return some .info
  | some name => return Level.ofName? name

/-- Shows what a command shows, writes back its disk and gives its status. -/
def finish (run : String) (before : Disk) (transcript : Command.Transcript) : IO UInt32 := do
  if let some level ← level then
    for (level, line) in Event.records level transcript.events do
      IO.eprintln s!"[{level.name}] {line}"
  writeBack run before transcript.disk
  IO.print transcript.output
  IO.eprint transcript.report
  return transcript.status.toUInt32

/-- Runs the tool with a name, if there is one. -/
def runTool (tool : String) (arguments : List String) : IO UInt32 := do
  let run := toString (← IO.monoNanosNow)
  let home := Path.names (← IO.currentDir).toString
  let paths := Command.MakeKernel.defaultOutput :: arguments.flatMap candidates
  let disk ← snapshot home (paths.map SystemText.ofString)
  match tool with
  | "pvh-note" =>
    finish run disk (Command.AddNote.transcript (fun _ _ ↦ .error .noEntry) run arguments disk)
  | "gen-kernel" => finish run disk (Command.MakeKernel.transcript arguments disk)
  | _ =>
    IO.eprint (Command.AddNote.about.usage ++ Command.MakeKernel.about.usage)
    return 2

end BootNote.Program

/-- Runs the tool that the first argument names on the arguments behind it. -/
def main (arguments : List String) : IO UInt32 :=
  BootNote.Program.runTool (arguments.headD "") arguments.tail
