import BootNote.Action
import BootNote.Address
import BootNote.Bytes
import BootNote.Command.AddNote
import BootNote.Command.Argument
import BootNote.Command.MakeKernel
import BootNote.Command.Transcript
import BootNote.Disk
import BootNote.Disk.Directory
import BootNote.Disk.File
import BootNote.Disk.Path
import BootNote.Disk.Replace
import BootNote.Elf.Extent
import BootNote.Elf.Header
import BootNote.Elf.Section
import BootNote.Elf.Segment
import BootNote.Elf.StringTable
import BootNote.Elf.Symbol
import BootNote.Error
import BootNote.Image
import BootNote.Image.Gap
import BootNote.Image.Inject
import BootNote.Image.Notes
import BootNote.Image.Room
import BootNote.Image.Symbols
import BootNote.Injection
import BootNote.Journal
import BootNote.Kernel
import BootNote.Main
import BootNote.Note
import BootNote.Note.Records
import BootNote.Patch
import BootNote.Patch.File
import BootNote.Proofs.Action
import BootNote.Proofs.Bytes
import BootNote.Proofs.Bytes.Table
import BootNote.Proofs.Elf.Codec
import BootNote.Proofs.Elf.Front
import BootNote.Proofs.Elf.Tables
import BootNote.Proofs.Encoding
import BootNote.Proofs.Image.Coherence
import BootNote.Proofs.Image.Content
import BootNote.Proofs.Image.Frame
import BootNote.Proofs.Image.Front
import BootNote.Proofs.Image.Gap
import BootNote.Proofs.Image.Injection
import BootNote.Proofs.Image.Layout
import BootNote.Proofs.Image.Load
import BootNote.Proofs.Image.Lookup
import BootNote.Proofs.Image.Note
import BootNote.Proofs.Image.Notes
import BootNote.Proofs.Image.Relocation
import BootNote.Proofs.Image.Repeat
import BootNote.Proofs.Image.Reuse
import BootNote.Proofs.Image.Room
import BootNote.Proofs.Image.Runs
import BootNote.Proofs.Image.Stretch
import BootNote.Proofs.Image.Write
import BootNote.Proofs.Note
import BootNote.Proofs.Word
import BootNote.Symbol.Listing
import BootNote.Symbol.Resolve
import BootNote.Symbol.Source
import BootNote.Text.Blank
import BootNote.Text.CharRange
import BootNote.Text.Graphic
import BootNote.Text.Number
import BootNote.Text.Quoted
import BootNote.Text.Utf8
import BootNote.Word
import BootNote.Proofs.Image.Format
import BootNote.Proofs.Image.Range
import BootNote.Proofs.Patch
import BootNote.Proofs.Disk
import BootNote.Proofs.Disk.Path
import BootNote.Proofs.Disk.Replace
import BootNote.Proofs.Patch.File
import BootNote.Proofs.Image.Decision
import BootNote.Proofs.Image.MakesRoom
import BootNote.Proofs.Image.RoomTwice
import BootNote.Proofs.Image.FirstContent
import BootNote.Proofs.Elf.StringTable
import BootNote.Proofs.Kernel.Layout
import BootNote.Proofs.Kernel.Sections
import BootNote.Proofs.Kernel.ReadBack
import BootNote.Proofs.Kernel.Symbols
import BootNote.Proofs.Note.Records
import BootNote.Proofs.Image.Symbols
import BootNote.Proofs.Journal
import BootNote.Proofs.Patch.Precedence
import BootNote.Proofs.Kernel.Padding
import BootNote.Proofs.Text.Number
import BootNote.Proofs.Address
import BootNote.Proofs.Text.Blank
import BootNote.Proofs.Symbol.Listing
