import BootNote.Action
import BootNote.Image.Symbols
import BootNote.Symbol.Source

/-!
Finding the address of a symbol. An address that is given outright counts first, then the image's
own symbol table, and then a source outside the image, which is asked at most once.
-/

set_option autoImplicit false
set_option relaxedAutoImplicit false

namespace BootNote

variable {σ : Type}

/-- Asks a source for a symbol of the image at a path. -/
def Source.ask (source : Source) (path : SystemText) (name : String) :
    Action σ (Option UInt64) := do
  Action.emit (.asked path name)
  match source path name with
  | .address value => return some value
  | .unknown => return none
  | .unavailable program fault =>
    Action.emit (.programFailed program fault)
    return none

namespace Image

/-- The address of a symbol of the image at a path. -/
def resolve (img : Image) (name : String) (path : SystemText) (source : Option Source)
    (explicit : Option UInt64) : Action σ UInt64 :=
  match explicit, img.findSymbol name with
  | some address, _ => pure address
  | none, some address => do
    Action.emit (.foundInImage name address)
    return address
  | none, none => do
    let answer ← match source with
      | some source => source.ask path name
      | none => pure none
    match answer with
    | some address =>
      Action.emit (.foundOutside name address)
      return address
    | none => Action.fail (.symbolNotFound name)

end Image

end BootNote
