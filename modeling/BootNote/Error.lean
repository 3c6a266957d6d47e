import BootNote.Text.Number
import BootNote.Text.Quoted
import BootNote.Text.System

/-!
Why an operation fails. A failure is a cause with the values that tell it apart, and the wording of
all causes is kept here, in the `message` functions.
-/

set_option autoImplicit false
set_option relaxedAutoImplicit false

namespace BootNote

open Text

/-- What is wrong with an image, with a position in it, or with an address in text. -/
inductive FormatFault where
  /-- The first four bytes are not the ELF magic. -/
  | badMagic
  /-- The file ends before the class or the data encoding. -/
  | truncatedIdent
  | unsupportedClass (code : UInt8)
  | unsupportedEncoding (code : UInt8)
  /-- The file ends inside the header. -/
  | truncatedHeader (size : Nat)
  | noSegmentTable
  | segmentEntrySize (size : UInt16)
  | segmentTableEnd (stop size : Nat)
  /-- No sections are counted, but a table of them is placed. -/
  | extendedNumbering
  | sectionEntrySize (size : UInt16)
  | sectionTableEnd (stop size : Nat)
  | outsideImage (pos len size : Nat)
  | insertionPastEnd (pos size : Nat)
  /-- An offset leaves the 64-bit range when its content moves. -/
  | offsetOverflow (offset shift : Nat)
  /-- The table of segments cannot count one more. -/
  | segmentCountOverflow
  | badAddress (text : String) (fault : NumberFault)
  deriving DecidableEq, Repr

/-- The wording of a format fault. -/
def FormatFault.message : FormatFault → String
  | badMagic => "invalid ELF magic"
  | truncatedIdent => "truncated ELF identification"
  | unsupportedClass code => s!"unsupported ELF class {code}, only ELF64 is supported"
  | unsupportedEncoding code =>
    s!"unsupported data encoding {code}, only little-endian is supported"
  | truncatedHeader size => s!"truncated ELF header: {size} bytes, expected 64"
  | noSegmentTable => "image has no program header table"
  | segmentEntrySize size => s!"unexpected program header entry size {size}"
  | segmentTableEnd stop size =>
    s!"program header table ends at {hex stop}, past the end of the file ({hex size})"
  | extendedNumbering =>
    "extended section numbering (e_shnum = 0, e_shoff != 0) is not supported"
  | sectionEntrySize size => s!"unexpected section header entry size {size}"
  | sectionTableEnd stop size =>
    s!"section header table ends at {hex stop}, past the end of the file ({hex size})"
  | outsideImage pos len size =>
    s!"range {hex pos}+{hex len} lies outside the image ({hex size} bytes)"
  | insertionPastEnd pos size =>
    s!"insertion point {hex pos} lies past the end of the image ({hex size} bytes)"
  | offsetOverflow offset shift =>
    s!"offset {hex offset} overflows when shifted by {hex shift}"
  | segmentCountOverflow => "program header count overflow"
  | badAddress text fault => s!"invalid address {quote text}: {fault.message}"

/-- What the operating system answers when it refuses an operation. -/
inductive SystemFault where
  | noEntry
  | execFormat
  | permissionDenied
  | busy
  | alreadyExists
  | notDirectory
  | isDirectory
  | nameTooLong
  /-- The path holds a NUL, which no path handed to the system can. -/
  | nulInPath
  /-- Nothing more is taken of what is to be written. -/
  | writeZero
  /-- Any other answer, with the number and the wording that the system has for it. -/
  | other (number : Nat) (text : String)
  deriving DecidableEq, Repr

/-- The wording of a refusal, with the number that the system gives it. -/
def SystemFault.message : SystemFault → String
  | noEntry => "No such file or directory (os error 2)"
  | execFormat => "Exec format error (os error 8)"
  | permissionDenied => "Permission denied (os error 13)"
  | busy => "Device or resource busy (os error 16)"
  | alreadyExists => "File exists (os error 17)"
  | notDirectory => "Not a directory (os error 20)"
  | isDirectory => "Is a directory (os error 21)"
  | nameTooLong => "File name too long (os error 36)"
  | nulInPath => "file name contained an unexpected NUL byte"
  | writeZero => "failed to write whole buffer"
  | other number text => s!"{text} (os error {number})"

/-- What was being done to a file when the system refused. -/
inductive FileTask where
  | read (path : SystemText)
  | create (path : SystemText)
  | write (path : SystemText)
  | setPermissions (path : SystemText)
  | move (source target : SystemText)
  deriving DecidableEq, Repr

/-- The wording of what was being done. -/
def FileTask.message : FileTask → String
  | read path => s!"failed to read {path}"
  | create path => s!"failed to create {path}"
  | write path => s!"failed to write {path}"
  | setPermissions path => s!"failed to set permissions on {path}"
  | move source target => s!"failed to move {source} to {target}"

/-- Why a patch, or a step of one, fails. -/
inductive Error where
  | format (fault : FormatFault)
  /-- No place that was asked knows the symbol. -/
  | symbolNotFound (name : String)
  /-- Neither moving the content nor reusing padding makes room for one more segment. -/
  | noSpace (required available : Nat)
  | io (task : FileTask) (fault : SystemFault)
  deriving DecidableEq, Repr

/-- The wording of a failure. -/
def Error.message : Error → String
  | format fault => s!"ELF format error: {fault.message}"
  | symbolNotFound name => s!"symbol not found: {name}"
  | noSpace required available =>
    s!"no space for an extra program header: need {required} bytes, have {available}"
  | io task fault => s!"I/O error: {task.message}: {fault.message}"

end BootNote
