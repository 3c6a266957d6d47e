import BootNote.Image
import BootNote.Proofs.Elf.Front
import BootNote.Proofs.Elf.Tables

/-!
Loaded images. `load_eq_ok_iff` says which images come from loading. An image that differs from a
loaded one only behind the identification bytes is again what loading its bytes gives, provided that
its header is the one at its front and the tables lie in it (`load_of_front`). That its header is
the one at its front is all that is left to ask where the header still has the identification bytes
and places its tables in the image (`load_eq_ok_iff_atFront`).
-/

set_option autoImplicit false
set_option relaxedAutoImplicit false

namespace BootNote.Image

open Bytes Elf

variable {bytes : ByteArray} {img img' : Image}

theorem load_eq_ok_iff (hsize : bytes.size < lastOffset) : load bytes = .ok img ↔
    img.bytes = bytes ∧ Header.checkIdent (toList (Bytes.slice bytes 0 16)) = .ok () ∧
      img.header = Header.atFront bytes ∧ img.header.FitsIn bytes.size := by
  constructor
  · intro loaded
    simp only [load, bind, Except.bind] at loaded
    cases hread : Header.read bytes with
    | error fault => simp [hread, Except.mapError] at loaded
    | ok header =>
      simp only [hread, Except.mapError] at loaded
      cases hcheck : header.check bytes.size with
      | error fault => simp [hcheck] at loaded
      | ok _ =>
        simp only [hcheck, pure, Except.pure, Except.ok.injEq] at loaded
        subst loaded
        obtain ⟨hident, -, hfront⟩ := Header.read_eq_ok_iff.mp hread
        exact ⟨rfl, hident, hfront, (Header.check_eq_ok_iff hsize).mp hcheck⟩
  · rintro ⟨rfl, hident, hfront, fits⟩
    have hread : Header.read img.bytes = .ok img.header :=
      Header.read_eq_ok_iff.mpr ⟨hident, fits.headerSize_le_size, hfront⟩
    have hcheck : img.header.check img.bytes.size = .ok () :=
      (Header.check_eq_ok_iff hsize).mpr fits
    simp only [load, bind, Except.bind, hread, hcheck, Except.mapError, pure, Except.pure]

/-- A file that starts with a header loads with it, if the tables of the header lie in the file. -/
theorem load_of_encode {header : Header} {rest : List UInt8} (hsize : bytes.size < lastOffset)
    (hident : header.ident.length = 16) (hcheck : Header.checkIdent header.ident = .ok ())
    (fits : header.FitsIn bytes.size) (hbytes : toList bytes = header.encode ++ rest) :
    load bytes = .ok ⟨bytes, header⟩ := by
  have hfront : Header.atFront bytes = header := by
    rw [Header.atFront, toList_slice, hbytes, List.drop_zero,
      List.take_left' (Header.size_encode hident), Header.decode_encode hident]
  refine (load_eq_ok_iff hsize).mpr ⟨rfl, ?_, hfront.symm, fits⟩
  rw [← Header.ident_atFront, hfront]
  exact hcheck

theorem fitsIn_of_load (hsize : bytes.size < lastOffset) (loaded : load bytes = .ok img) :
    img.header.FitsIn img.size := by
  obtain ⟨hbytes, -, -, fits⟩ := (load_eq_ok_iff hsize).mp loaded
  rw [size, hbytes]
  exact fits

theorem load_of_front (hsize : img.size < lastOffset) (loaded : load img.bytes = .ok img)
    (hsize' : img'.size < lastOffset) (fits : img'.header.FitsIn img'.size)
    (hident : Bytes.slice img'.bytes 0 16 = Bytes.slice img.bytes 0 16)
    (hfront : Header.atFront img'.bytes = img'.header) : load img'.bytes = .ok img' := by
  obtain ⟨-, hident', -, -⟩ := (load_eq_ok_iff hsize).mp loaded
  exact (load_eq_ok_iff hsize').mpr ⟨rfl, by rw [hident, hident'], hfront.symm, fits⟩

theorem load_eq_ok_iff_atFront (hsize : img.size < lastOffset) (loaded : load img.bytes = .ok img)
    (hsize' : img'.size < lastOffset) (fits : img'.header.FitsIn img'.size)
    (hident : img'.header.ident = img.header.ident) :
    load img'.bytes = .ok img' ↔ Header.atFront img'.bytes = img'.header := by
  constructor
  · intro loaded'
    exact ((load_eq_ok_iff hsize').mp loaded').2.2.1.symm
  · intro hfront
    obtain ⟨-, hident', hheader, -⟩ := (load_eq_ok_iff hsize).mp loaded
    refine (load_eq_ok_iff hsize').mpr ⟨rfl, ?_, hfront.symm, fits⟩
    rw [← Header.ident_atFront, hfront, hident, hheader, Header.ident_atFront]
    exact hident'

/-- That loading gives the header that an image holds is to say that it gives the image. -/
theorem exists_load_header_iff (hsize : img.size < lastOffset) :
    (∃ img', load img.bytes = .ok img' ∧ img'.header = img.header) ↔
      load img.bytes = .ok img := by
  constructor
  · rintro ⟨⟨bytes, header⟩, loaded, rfl⟩
    obtain ⟨rfl, -⟩ := (load_eq_ok_iff hsize).mp loaded
    exact loaded
  · intro loaded
    exact ⟨img, loaded, rfl⟩

end BootNote.Image
