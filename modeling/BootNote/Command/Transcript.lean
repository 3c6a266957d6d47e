import BootNote.Disk
import BootNote.Journal

/-!
What running a command shows: its exit status, what it prints, the events behind its log and the
disk that it leaves. A failure is reported by what was being done and, if something else is behind
it, by the cause.
-/

set_option autoImplicit false
set_option relaxedAutoImplicit false

namespace BootNote.Command

/-- In what a command shows, a text of the system stands for its characters. -/
instance : CoeTail SystemText String := ⟨SystemText.shown⟩

/-- So do the names of a place. -/
instance : CoeTail Place (List String) := ⟨List.map SystemText.shown⟩

/-- What running a command shows. -/
structure Transcript where
  status : Nat := 0
  output : String := ""
  /-- The report of a failure. -/
  report : String := ""
  events : List Event := []
  disk : Disk

/-- Why the arguments of a command do not lead to a run. -/
inductive Stop where
  /-- They do not fit the command. -/
  | misuse
  | help
  | version
  deriving DecidableEq, Repr

/-- What a command says of itself. -/
structure About where
  usage : String
  version : String

/-- The transcript of a command that does not run. -/
def Transcript.stopped (about : About) (disk : Disk) : Stop → Transcript
  | .misuse => { status := 2, report := about.usage, disk }
  | .help => { output := about.usage, disk }
  | .version => { output := about.version, disk }

/-- A failure in words. -/
structure Failure where
  text : String
  cause : Option String := none
  deriving DecidableEq, Repr

/-- The report of a failure. A cause stands on lines of its own, all of them indented. -/
def Failure.report (failure : Failure) : String :=
  match failure.cause with
  | none => s!"Error: {failure.text}\n"
  | some cause =>
    let indented := cause.toList.flatMap fun c ↦ if c = '\n' then "\n    ".toList else [c]
    s!"Error: {failure.text}\n\nCaused by:\n    {String.ofList indented}\n"

/-- The transcript of a command that fails. -/
def Transcript.failed (failure : Failure) (events : List Event) (disk : Disk) : Transcript :=
  { status := 1, report := failure.report, events, disk }

end BootNote.Command
