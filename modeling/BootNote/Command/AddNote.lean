import BootNote.Address
import BootNote.Command.Argument
import BootNote.Command.Transcript
import BootNote.Patch.File

/-!
The command that adds a note to a kernel. Its operands are the kernel, where to write the result and
the entry address; the last two may be left out, and an address in the place of the second one means
that the kernel is patched in place.
-/

set_option autoImplicit false
set_option relaxedAutoImplicit false

namespace BootNote.Command.AddNote

/-- What the arguments ask for. -/
structure Request where
  operands : List String := []
  symbol : Option String := none
  /-- The program that lists symbols. -/
  lister : Option String := none
  noFallback : Bool := false
  deriving DecidableEq, Repr

/-- The options of the command. -/
def rules : List Rule :=
  [{ name := "symbol", letter := some 's', takesValue := true },
    { name := "objdump", takesValue := true },
    { name := "no-fallback" },
    { name := "help", letter := some 'h' },
    { name := "version", letter := some 'V' }]

/-- What the command says of itself. -/
def about : About where
  usage := "Usage: pvh-note [-s SYMBOL] [--objdump PROGRAM] [--no-fallback] " ++
    "INPUT [OUTPUT] [ADDRESS]\n"
  version := "pvh-note 0.1.0\n"

/-- Takes one argument into a request. No option counts twice, and a path is never empty. -/
def Request.add (request : Request) : Argument → Except Stop Request
  | .flag "help" => throw .help
  | .flag "version" => throw .version
  | .flag "no-fallback" =>
    if request.noFallback then throw .misuse else return { request with noFallback := true }
  | .value "symbol" text =>
    if request.symbol.isSome then throw .misuse else return { request with symbol := some text }
  | .value "objdump" text =>
    if request.lister.isSome || text.isEmpty then throw .misuse
    else return { request with lister := some text }
  | .operand text =>
    if request.operands.length = 3 || request.operands.isEmpty && text.isEmpty then throw .misuse
    else return { request with operands := request.operands ++ [text] }
  | _ => throw .misuse

/-- The kernel, where to write the result, and the text of the address. A marked address may stand
in the place of the output, which is then the kernel itself. -/
def Request.paths? : Request → Option (String × String × Option String)
  | { operands := [input], .. } => some (input, input, none)
  | { operands := [input, second], .. } =>
    if Address.isMarked second.toList then some (input, input, some second)
    else some (input, second, none)
  | { operands := [input, output, address], .. } => some (input, output, some address)
  | _ => none

/-- What a program prints when it is run on a path, or why it cannot be started. -/
abbrev Programs := (program : String) → (path : SystemText) → Except SystemFault ByteArray

/-- Patches as the request says. -/
def perform (programs : Programs) (run : String) (request : Request) (input output : String)
    (address : Option String) (disk : Disk) : Transcript :=
  match address.mapM Address.read with
  | .error e =>
    .failed { text := "invalid entry address", cause := some e.message } [] disk
  | .ok address =>
    let options : Options :=
      { symbol := request.symbol.getD defaultSymbol, fallback := !request.noFallback }
    let program := request.lister.getD "objdump"
    let source := Source.ofProgram program (programs program)
    let outcome := (patchFile options source run input output address).run disk
    match outcome.result with
    | .ok report =>
      { events := outcome.events ++ [.patched report.entry report.injection]
        disk := outcome.state }
    | .error e =>
      .failed { text := s!"failed to patch {input}", cause := some e.message } outcome.events
        outcome.state

/-- Runs the command. The mark of the run names its temporary file. -/
def transcript (programs : Programs) (run : String) (arguments : List String) (disk : Disk) :
    Transcript :=
  match (Argument.readAll rules arguments).foldlM Request.add {} with
  | .error stop => .stopped about disk stop
  | .ok request =>
    match request.paths? with
    | none => .stopped about disk .misuse
    | some (input, output, address) => perform programs run request input output address disk

end BootNote.Command.AddNote
