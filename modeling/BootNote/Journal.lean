import BootNote.Elf.Header
import BootNote.Error
import BootNote.Injection
import BootNote.Text.Number

/-!
What happens during a patch, as events in the order in which they happen. An event that is worth
telling has a record, a line of text at a level of importance; `record?` holds the wording of all of
them, and `records` lists those of a run from a given level up.
-/

set_option autoImplicit false
set_option relaxedAutoImplicit false

namespace BootNote

open Text

/-- How important a record is, from the most to the least. -/
inductive Level where
  | error
  | warn
  | info
  | debug
  | trace
  deriving DecidableEq, Repr

namespace Level

/-- The position of a level, the most important one first. -/
def rank : Level → Nat
  | error => 1
  | warn => 2
  | info => 3
  | debug => 4
  | trace => 5

/-- The name of a level. -/
def name : Level → String
  | error => "ERROR"
  | warn => "WARN"
  | info => "INFO"
  | debug => "DEBUG"
  | trace => "TRACE"

/-- The level with a name, in either case. -/
def ofName? (text : String) : Option Level :=
  [error, warn, info, debug, trace].find? fun level ↦ level.name == text.toUpper

end Level

/-- Something that happens during a patch. -/
inductive Event where
  | reading (path : SystemText)
  | loaded (header : Elf.Header)
  /-- The image's own symbol table has the symbol. -/
  | foundInImage (name : String) (address : UInt64)
  /-- The source outside the image is asked for a symbol. -/
  | asked (path : SystemText) (name : String)
  /-- The program that the source relies on cannot be started. -/
  | programFailed (program : String) (fault : SystemFault)
  /-- The source outside the image has the symbol. -/
  | foundOutside (name : String) (address : UInt64)
  /-- The address keeps only its low 32 bits. -/
  | truncated (address : UInt64)
  | entryChosen (entry : UInt32)
  | alreadyNoted (path : SystemText) (count : Nat)
  /-- Room was found behind the segment table, which ends at `tableEnd`. -/
  | roomFound (tableEnd available : Nat) (strategy : Strategy)
  | sectionTableMoved (old new : UInt64)
  | injected (injection : Injection)
  | wrote (size : Nat) (path : SystemText)
  /-- The file is patched. -/
  | patched (entry : UInt32) (injection : Injection)
  deriving DecidableEq, Repr

namespace Event

/-- The record of an event, if it has one. -/
def record? : Event → Option (Level × String)
  | reading path => some (.info, s!"Reading {path}")
  | loaded h =>
    some (.debug, s!"[Load] type: {h.type}, phoff: {hex h.phoff.toNat}, phnum: {h.phnum}, " ++
      s!"phentsize: {h.phentsize}, shoff: {hex h.shoff.toNat}, shnum: {h.shnum}, " ++
      s!"shentsize: {h.shentsize}")
  | foundInImage name address =>
    some (.debug, s!"found {name} at {hex address.toNat} in the symbol table")
  | asked _ _ => none
  | programFailed program fault => some (.debug, s!"failed to run {program}: {fault.message}")
  | foundOutside name address =>
    some (.debug, s!"found {name} at {hex address.toNat} via external lookup")
  | truncated address =>
    some (.warn, s!"entry address {hex address.toNat} does not fit in 32 bits, " ++
      s!"truncating to {hex address.toUInt32.toNat}")
  | entryChosen entry => some (.info, s!"PVH entry address: {hex entry.toNat}")
  | alreadyNoted path count =>
    some (.warn, s!"{path} already carries {count} PVH note(s), adding another")
  | roomFound tableEnd available strategy =>
    some (.debug, s!"[Inject] table end: {hex tableEnd}, available: {available}, " ++
      s!"strategy: {strategy.name}")
  | sectionTableMoved old new =>
    some (.debug, s!"[Inject] shoff: {hex old.toNat} -> {hex new.toNat}")
  | injected i =>
    some (.debug, s!"[Inject] PT_NOTE at {hex i.segmentOffset}, note at {hex i.noteOffset}, " ++
      s!"phnum: {i.index} -> {i.index + 1}")
  | wrote size path => some (.info, s!"Wrote {size} bytes to {path}")
  | patched entry i =>
    some (.info, s!"Injected PT_NOTE ({i.strategy.name}): entry={hex entry.toNat}, " ++
      s!"note at file offset {hex i.noteOffset}")

/-- The records of events that are at least as important as a level, in order. -/
def records (level : Level) (events : List Event) : List (Level × String) :=
  (events.filterMap record?).filter fun (l, _) ↦ l.rank ≤ level.rank

/-- What the source outside the image is asked for, in order. -/
def questions (events : List Event) : List (SystemText × String) :=
  events.filterMap fun
    | asked path name => some (path, name)
    | _ => none

end Event

end BootNote
