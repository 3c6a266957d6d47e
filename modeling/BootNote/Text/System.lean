import BootNote.Bytes
import BootNote.Text.Utf8

/-!
Text as the system has it. The system takes paths and names as bytes, and whether those spell
characters does not matter to it. A string stands for its bytes in UTF-8, and what is shown of a
text is what its bytes spell when they are read leniently.
-/

set_option autoImplicit false
set_option relaxedAutoImplicit false

namespace BootNote

/-- Text as the system has it. -/
structure SystemText where
  bytes : List UInt8
  deriving DecidableEq, Repr

namespace SystemText

/-- The text with the characters of a string. -/
def ofString (s : String) : SystemText := ⟨Bytes.toList s.toUTF8⟩

/-- The characters of a text, with replacement characters where its bytes spell none. -/
def shown (text : SystemText) : String := String.ofList (Text.Utf8.decodeLossy text.bytes)

instance : Coe String SystemText := ⟨ofString⟩

instance : ToString SystemText := ⟨shown⟩

instance : Append SystemText := ⟨fun a b ↦ ⟨a.bytes ++ b.bytes⟩⟩

@[simp] theorem bytes_append (a b : SystemText) : (a ++ b).bytes = a.bytes ++ b.bytes := rfl

end SystemText

end BootNote
