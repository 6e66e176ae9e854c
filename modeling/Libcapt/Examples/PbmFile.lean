import Libcapt.Examples.PageViews
import Libcapt.Examples.PbmText

/-! PBM files of several images, and the pages that are read from them. -/

namespace Capt

open Streams IStream

/-- An image that the programs take: its rows are whole bytes, and its size fits into the
parameters of a page.
-/
structure PbmImage where
  space : UInt8
  text : PbmText
  raster : List UInt8
  space_isspace : isspace space = true
  aligned : text.width.value % 8 = 0
  columns : 1 ≤ text.width.value / 8 ∧ text.width.value / 8 ≤ 65535
  rows : 1 ≤ text.height.value ∧ text.height.value ≤ 65535
  size : raster.length = text.height.value * (text.width.value / 8)

namespace PbmImage

/-- Bytes of a line. -/
def lineSize (this : PbmImage) : Nat := this.text.width.value / 8

/-- The height. -/
def lines (this : PbmImage) : Nat := this.text.height.value

/-- The image as it stands in the file. -/
def bytes (this : PbmImage) : List UInt8 :=
  80 :: 52 :: this.space :: (this.text.bytes ++ this.raster)

/-- The image as the bytes of its magic number, of its text and of its raster. -/
theorem bytes_append (this : PbmImage) (rest : List UInt8)
    : this.bytes ++ rest
      = 80 :: 52 :: this.space :: (this.text.bytes ++ (this.raster ++ rest)) := by
  simp [bytes]

/-- The line size fits in two bytes. -/
theorem lineSize_toNat (this : PbmImage) : (UInt16.ofNat this.lineSize).toNat = this.lineSize :=
  UInt16.toNat_ofNat_of_lt (Nat.lt_succ_of_le this.columns.2)

/-- The height fits in two bytes. -/
theorem lines_toNat (this : PbmImage) : (UInt16.ofNat this.lines).toNat = this.lines :=
  UInt16.toNat_ofNat_of_lt (Nat.lt_succ_of_le this.rows.2)

/-- Line after line. -/
theorem length_raster (this : PbmImage) : this.raster.length = this.lines * this.lineSize :=
  this.size

end PbmImage

/-- The images one after another. -/
def pbmFile (images : List PbmImage) : List UInt8 := images.flatMap PbmImage.bytes

/-- The first image and those behind it. -/
theorem pbmFile_cons (image : PbmImage) (images : List PbmImage)
    : pbmFile (image :: images) = image.bytes ++ pbmFile images :=
  rfl

/-- Two rows of sixteen pixels, and behind a comment one row of eight. -/
def twoImages : List PbmImage := [
  {
    space := 10
    text := .plain (.plain [49, 54] (List.all_eq_true.mp rfl) (by decide) (by decide))
      (.plain [50] (List.all_eq_true.mp rfl) (by decide) (by decide))
    raster := [1, 2, 3, 4]
    space_isspace := isspace_newline
    aligned := rfl
    columns := by decide
    rows := by decide
    size := rfl
  },
  {
    space := 10
    text := {
      PbmText.plain (.plain [56] (List.all_eq_true.mp rfl) (by decide) (by decide))
        (.plain [49] (List.all_eq_true.mp rfl) (by decide) (by decide)) with
      comments := [[97]]
      comments_oneLine := by decide
    }
    raster := [9]
    space_isspace := isspace_newline
    aligned := rfl
    columns := by decide
    rows := by decide
    size := rfl
  }
]

/-- The header of an image is read up to its raster. -/
theorem run_readPbmHeader (image : PbmImage) (rest : List UInt8)
    : readPbmHeader.run (reader (image.bytes ++ rest))
      = .ok (some (image.text.width.value, image.text.height.value))
          (reader (image.raster ++ rest)) := by
  apply readPbmHeader_some_iff.mpr
  exact ⟨image.space, image.text, image.raster ++ rest, image.space_isspace,
    image.bytes_append rest, rfl, rfl, rfl⟩

/-- Where fewer bytes are left than a magic number has, there are no more images. -/
theorem run_readPbmHeader_end {tail : List UInt8} (short : tail.length < 3)
    : readPbmHeader.run (reader tail) = .ok none ⟨⟨[]⟩, true, true⟩ := by
  unfold readPbmHeader
  rw [run_bind_ok (run_read_short short)]
  rfl

namespace PrintPbm

/-- The page that is printed of an image. -/
def imagePage (image : PbmImage) : FilePage where
  params := {
    paperSize := 0x09
    tonerDensity := 0x3f
    mode := 0
    resolution := 0x11
    smoothEnable := true
    tonerSaving := false
    marginLeft := 1
    marginTop := 1
    imageLineSize := UInt16.ofNat image.lineSize
    imageLines := UInt16.ofNat image.lines
    paperWidth := 4960
    paperHeight := 7014
  }
  raster := image.raster

/-- The header of an image gives its parameters. -/
theorem run_readHeader (image : PbmImage) (rest : List UInt8)
    : PbmPageProvider.readHeader.run (reader (image.bytes ++ rest))
      = .ok (some (imagePage image).params) (reader (image.raster ++ rest)) := by
  unfold PbmPageProvider.readHeader
  rw [run_bind_ok (run_readPbmHeader image rest)]
  have aligned : ¬ image.text.width.value % 8 ≠ 0 := not_not_intro image.aligned
  simp only [aligned, if_false]
  rfl

/-- What is left of the file holds no magic number. -/
theorem run_readHeader_end {tail : List UInt8} (short : tail.length < 3)
    : PbmPageProvider.readHeader.run (reader tail) = .ok none ⟨⟨[]⟩, true, true⟩ := by
  unfold PbmPageProvider.readHeader
  rw [run_bind_ok (run_readPbmHeader_end short)]
  rfl

/-- The page is as large as the raster. -/
theorem imagePage_size (image : PbmImage)
    : (imagePage image).params.imageLines.toNat * (imagePage image).params.imageLineSize.toNat
      = image.raster.length := by
  change (UInt16.ofNat image.lines).toNat * (UInt16.ofNat image.lineSize).toNat = _
  rw [image.lines_toNat, image.lineSize_toNat, image.length_raster]

/-- The pages of a PBM file are its images, by induction on them. -/
theorem paged_pbmFile (images : List PbmImage) {tail : List UInt8} (short : tail.length < 3)
    : Paged (reader (pbmFile images ++ tail)) (images.map imagePage) := by
  induction images with
  | nil => exact .ended (run_readHeader_end short)
  | cons image images ih =>
      have header := run_readHeader image (pbmFile images ++ tail)
      have nonempty : (imagePage image).params.imageLineSize ≠ 0 := by
        intro zero
        have same : (UInt16.ofNat image.lineSize).toNat = 0 := congrArg UInt16.toNat zero
        rw [image.lineSize_toNat] at same
        exact absurd same (Nat.ne_of_gt image.columns.1)
      have behind
          : behind (imagePage image).params (reader (image.raster ++ (pbmFile images ++ tail)))
            = reader (pbmFile images ++ tail) := by
        change reader ((image.raster ++ (pbmFile images ++ tail)).drop _) = _
        rw [imagePage_size, List.drop_left]
      have page
          : pageAt (imagePage image).params (reader (image.raster ++ (pbmFile images ++ tail)))
            = imagePage image := by
        change FilePage.mk _ ((image.raster ++ (pbmFile images ++ tail)).take _) = _
        rw [imagePage_size, List.take_left]
        rfl
      rw [← behind] at ih
      rw [pbmFile_cons, List.append_assoc, List.map_cons, ← page]
      exact .page header nonempty ih

/-- A file of two images, with an empty line behind them. -/
def twoPages : IStream := reader (pbmFile twoImages ++ [10])

/-- The file of two pages. -/
theorem twoPages_paged : Paged twoPages (twoImages.map imagePage) :=
  paged_pbmFile twoImages (by decide)

end PrintPbm

end Capt
