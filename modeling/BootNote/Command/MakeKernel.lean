import BootNote.Command.Argument
import BootNote.Command.Transcript
import BootNote.Disk.Directory
import BootNote.Disk.File
import BootNote.Kernel

/-!
The command that makes a small kernel image, with options for its padding and its symbols.
-/

set_option autoImplicit false
set_option relaxedAutoImplicit false

namespace BootNote.Command.MakeKernel

open Text

/-- What the arguments ask for. -/
structure Request where
  output : Option String := none
  padding : Option Nat := none
  fill : Option UInt8 := none
  /-- The symbols in text, in order. -/
  symbols : List String := []
  noSymtab : Bool := false
  deriving DecidableEq, Repr

/-- The options of the command. -/
def rules : List Rule :=
  [{ name := "output", letter := some 'o', takesValue := true },
    { name := "padding", letter := some 'p', takesValue := true },
    { name := "fill", letter := some 'f', takesValue := true },
    { name := "symbol", letter := some 's', takesValue := true },
    { name := "no-symtab" },
    { name := "help", letter := some 'h' }]

/-- What the command says of itself. It has no option that asks for a version. -/
def about : About where
  usage := "Usage: gen-kernel [-o OUTPUT] [-p PADDING] [-f FILL] [-s NAME=HEXADDR]... " ++
    "[--no-symtab]\n"
  version := ""

/-- Where the image goes unless the arguments say so. -/
def defaultOutput : String := "out/kernel.elf"

/-- Reads a byte in decimal. Unlike a size it may carry a minus sign, as long as it is zero. -/
def readByte? : List Char → Option UInt8
  | '-' :: digits =>
    if !digits.isEmpty && digits.all (· == '0') then some 0 else none
  | text => UInt8.ofNat <$> (Number.read? 10 256 text).toOption

/-- Takes one argument into a request. Only symbols count more than once, and a path is never
empty. -/
def Request.add (request : Request) : Argument → Except Stop Request
  | .flag "help" => throw .help
  | .flag "no-symtab" =>
    if request.noSymtab then throw .misuse else return { request with noSymtab := true }
  | .value "output" text =>
    if request.output.isSome || text.isEmpty then throw .misuse
    else return { request with output := some text }
  | .value "padding" text =>
    match request.padding, Number.read? 10 UInt64.size text.toList with
    | none, .ok n => return { request with padding := some n }
    | _, _ => throw .misuse
  | .value "fill" text =>
    match request.fill, readByte? text.toList with
    | none, some byte => return { request with fill := some byte }
    | _, _ => throw .misuse
  | .value "symbol" text => return { request with symbols := request.symbols ++ [text] }
  | _ => throw .misuse

/-- The text behind every `0x` in front of it. -/
def dropMarkers : List Char → List Char
  | '0' :: 'x' :: cs => dropMarkers cs
  | cs => cs

/-- Reads a symbol and its value, with the first equals sign between them. -/
def readSymbol (text : String) : Except Failure (String × UInt64) :=
  match text.toList.dropWhile (· != '=') with
  | [] => throw { text := s!"expected NAME=HEXADDR, got {quote text}" }
  | _ :: value =>
    let name := String.ofList (text.toList.takeWhile (· != '='))
    match Number.readHex? (dropMarkers value) with
    | .ok address => return (name, address)
    | .error fault =>
      throw { text := s!"invalid address for symbol {name}", cause := some fault.message }

/-- The image that a request describes. -/
def Request.kernel (request : Request) : Except Failure Kernel := do
  let symbols ← request.symbols.mapM readSymbol
  let plain : Kernel := {}
  return { plain with
    padding := request.padding.getD plain.padding
    fill := request.fill.getD plain.fill
    symbols
    symtab := !request.noSymtab }

/-- Makes the directory that a path leads into and writes the file. -/
def store (disk : Disk) (path : SystemText) (data : ByteArray) : Except SystemFault Unit × Disk :=
  match disk.ensureDirectory ((Path.parent? path).getD "") with
  | (.error fault, made) => (.error fault, made)
  | (.ok (), made) =>
    match made.create path with
    | .error fault => (.error fault, made)
    | .ok opened => opened.writeAll path data

/-- Makes the image that a request asks for. -/
def perform (request : Request) (disk : Disk) : Transcript :=
  match request.kernel with
  | .error failure => .failed failure [] disk
  | .ok kernel =>
    let path := request.output.getD defaultOutput
    let data := kernel.bytes
    match store disk path data with
    | (.error fault, disk) => .failed { text := fault.message } [] disk
    | (.ok (), disk) =>
      { output := s!"Wrote {path} ({data.size} bytes, phnum: {kernel.segments.length}, " ++
          s!"shnum: {kernel.sections.length}, text at {hex kernel.textOffset})\n"
        disk }

/-- Runs the command. -/
def transcript (arguments : List String) (disk : Disk) : Transcript :=
  match (Argument.readAll rules arguments).foldlM Request.add {} with
  | .error stop => .stopped about disk stop
  | .ok request => perform request disk

end BootNote.Command.MakeKernel
