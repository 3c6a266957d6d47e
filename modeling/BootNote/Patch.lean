import BootNote.Image.Inject
import BootNote.Image.Notes
import BootNote.Symbol.Resolve

/-!
Patching the bytes of a kernel: the entry address is resolved, and a note with it is added to the
image. The address comes from the call, from the options, from the image's symbol table or from a
source outside the image, in this order.
-/

set_option autoImplicit false
set_option relaxedAutoImplicit false

namespace BootNote

/-- The symbol that marks the entry unless another one is named. -/
def defaultSymbol : String := "pvh_start"

/-- How kernels are patched. -/
structure Options where
  /-- The symbol that marks the entry. -/
  symbol : String := defaultSymbol
  /-- The entry address, if no symbol is to be looked up. -/
  address : Option UInt64 := none
  /-- Whether a source outside the image may be asked. -/
  fallback : Bool := true
  deriving DecidableEq, Repr

/-- What a patch did. -/
structure Report where
  entry : UInt32
  injection : Injection
  /-- The number of boot notes that the image had before. -/
  existingNotes : Nat
  /-- The size of the patched image. -/
  size : Nat
  deriving DecidableEq, Repr

variable {σ : Type}

/-- The note for an address. -/
def Note.forAddress (address : UInt64) : Action σ Note := do
  if UInt32.size ≤ address.toNat then Action.emit (.truncated address)
  return .ofAddress address

/-- Reads an image from the bytes of a file. -/
def Image.read (bytes : ByteArray) : Action σ Image := do
  let img ← Action.ofExcept (Image.load bytes)
  Action.emit (.loaded img.header)
  return img

/-- Adds a note with the entry address to the bytes of the kernel at a path. -/
def patchBytes (options : Options) (source : Source) (path : SystemText) (bytes : ByteArray)
    (address : Option UInt64) : Action σ (ByteArray × Report) := do
  let img ← Image.read bytes
  let outside := if options.fallback then some source else none
  let entry ← img.resolve options.symbol path outside (address.or options.address)
  let note ← Note.forAddress entry
  Action.emit (.entryChosen note.entry)
  let existingNotes := img.notes.length
  if existingNotes ≠ 0 then Action.emit (.alreadyNoted path existingNotes)
  let (injection, patched) ← Action.within img (Image.inject note)
  return (patched.bytes,
    { entry := note.entry, injection, existingNotes, size := patched.size })

end BootNote
