import Libcapt.Tests.CompressedFile
import Mathlib.Algebra.Order.BigOperators.Group.List

/-! A PBM file that is compressed and decoded again. -/

namespace Capt

open Streams IStream Compression

-----------------------------------------------------------------------------------------
-- Numbers as they are written
-----------------------------------------------------------------------------------------

/-- The codes of the digits. -/
theorem digit_toNat {c : Char} (digit : c.isDigit = true) : 48 ≤ c.toNat ∧ c.toNat ≤ 57 := by
  simp only [Char.isDigit, ge_iff_le, Bool.and_eq_true, decide_eq_true_eq, UInt32.le_iff_toNat_le]
    at digit
  exact digit

/-- A number is written in digits. -/
theorem isDigit_decimal {n : Nat} {c : UInt8} (member : c ∈ decimal n) : isDigit c = true := by
  obtain ⟨digit, inside, rfl⟩ := List.mem_map.mp member
  obtain ⟨low, high⟩ := digit_toNat (Nat.isDigit_of_mem_toDigits (by decide) (by decide) inside)
  have same : (UInt8.ofNat digit.toNat).toNat = digit.toNat :=
    UInt8.toNat_ofNat_of_lt (show digit.toNat < 256 by omega)
  simp only [isDigit, Bool.and_eq_true, decide_eq_true_eq, UInt8.le_iff_toNat_le, same]
  exact ⟨low, high⟩

/-- At least one digit. -/
theorem decimal_ne_nil (n : Nat) : decimal n ≠ [] := by
  intro nothing
  exact Nat.toDigits_ne_nil (List.map_eq_nil_iff.mp nothing)

/-- The digits of a number are read as the number, by induction on them. -/
theorem decimalValue_decimal (n : Nat) : decimalValue (decimal n) = n := by
  have digits : ∀ (digits : List Char) (value : Nat), (∀ digit ∈ digits, digit.isDigit = true) →
      (digits.map fun digit => UInt8.ofNat digit.toNat).foldl
          (fun value c => 10 * value + (c.toNat - 48)) value
        = Nat.ofDigitChars 10 digits value := by
    intro digits
    induction digits with
    | nil => exact fun _ _ => rfl
    | cons digit digits ih =>
        intro value all
        obtain ⟨_, high⟩ := digit_toNat (all digit List.mem_cons_self)
        have same : (UInt8.ofNat digit.toNat).toNat = digit.toNat :=
          UInt8.toNat_ofNat_of_lt (show digit.toNat < 256 by omega)
        rw [List.map_cons, List.foldl_cons, Nat.ofDigitChars_cons, same,
          ih _ fun digit member => all digit (List.mem_cons_of_mem _ member)]
        rfl
  exact (digits _ 0 fun digit member => Nat.isDigit_of_mem_toDigits (by decide) (by decide)
    member).trans Nat.ofDigitChars_ten_toDigits

/-- A number as the decoder program writes it. -/
def numeral (n : Nat) (small : n < 2 ^ 32) : Numeral :=
  .plain (decimal n) (fun _ => isDigit_decimal) (decimal_ne_nil n)
    ((decimalValue_decimal n).symm ▸ small)

/-- A numeral is the number as it is written. -/
theorem numeral_bytes (n : Nat) (small : n < 2 ^ 32) : (numeral n small).bytes = decimal n :=
  rfl

/-- It is read as that number. -/
theorem numeral_value (n : Nat) (small : n < 2 ^ 32) : (numeral n small).value = n :=
  decimalValue_decimal n

-----------------------------------------------------------------------------------------
-- Images as they are written
-----------------------------------------------------------------------------------------

namespace PbmImage

/-- The width of an image is a number of 32 bits. -/
theorem width_lt (this : PbmImage) : this.lineSize * 8 < 2 ^ 32 := by
  have columns : this.lineSize ≤ 65535 := this.columns.2
  omega

/-- So is its height. -/
theorem height_lt (this : PbmImage) : this.lines < 2 ^ 32 :=
  Nat.lt_of_le_of_lt this.rows.2 (by decide)

/-- The header that the decoder program writes. -/
def plainText (this : PbmImage) : PbmText :=
  .plain (numeral (this.lineSize * 8) this.width_lt) (numeral this.lines this.height_lt)

/-- The line size that is written is the one that was read. -/
theorem plainText_lineSize (this : PbmImage) : this.plainText.width.value / 8 = this.lineSize := by
  change (numeral (this.lineSize * 8) this.width_lt).value / 8 = _
  rw [numeral_value, Nat.mul_div_cancel _ (by decide)]

/-- So is the height. -/
theorem plainText_lines (this : PbmImage) : this.plainText.height.value = this.lines :=
  numeral_value this.lines this.height_lt

/-- The same image as the decoder program writes it. -/
def plain (this : PbmImage) : PbmImage where
  space := 10
  text := this.plainText
  raster := this.raster
  space_isspace := isspace_newline
  aligned := by
    change (numeral (this.lineSize * 8) this.width_lt).value % 8 = 0
    rw [numeral_value, Nat.mul_mod_left]
  columns := by
    rw [plainText_lineSize]
    exact this.columns
  rows := by
    rw [plainText_lines]
    exact this.rows
  size := by
    rw [plainText_lineSize, plainText_lines]
    exact this.length_raster

/-- What is printed of an image: the bytes of a line, the number of lines, and the raster. -/
def picture (this : PbmImage) : Nat × Nat × List UInt8 := (this.lineSize, this.lines, this.raster)

/-- Writing the header in its plain form leaves the picture. -/
theorem plain_picture (this : PbmImage) : this.plain.picture = this.picture :=
  Prod.ext this.plainText_lineSize (Prod.ext this.plainText_lines rfl)

/-- The image as the decoder writes it. -/
theorem plain_bytes (this : PbmImage)
    : this.plain.bytes = Decoder.pbmHeader this.lineSize this.lines ++ this.raster := by
  have width : unsigned (this.lineSize * 8) = this.lineSize * 8 := Nat.mod_eq_of_lt this.width_lt
  simp [bytes, plain, plainText, PbmText.plain_bytes, numeral_bytes, Decoder.pbmHeader, width]

end PbmImage

-----------------------------------------------------------------------------------------
-- From file to file
-----------------------------------------------------------------------------------------

/-- A bound on the turns of the loops of both programs. -/
theorem exists_turns (images : List PbmImage)
    : ∃ enough, ∀ fuel, enough ≤ fuel →
        65536 ≤ fuel ∧ images.length < fuel
          ∧ ∀ image ∈ images, (Compressor.compressed image).length < fuel := by
  refine ⟨65536 + images.length
    + (images.map fun image => (Compressor.compressed image).length).sum + 1, fun fuel enough =>
      ⟨by omega, by omega, fun image member => ?_⟩⟩
  have least : (Compressor.compressed image).length
      ≤ (images.map fun image => (Compressor.compressed image).length).sum :=
    List.le_sum_of_mem (List.mem_map_of_mem member)
  omega

/-- A PBM file that is compressed and then decoded is the file that has the same images in their
order, with plain headers; whatever the memory held that the compressor program does not set.
-/
theorem compressed_file_decodes (images : List PbmImage) {tail : List UInt8}
    (short : tail.length < 3) (uninitialized : Nat → PageParams)
    : ∃ enough, ∀ fuel, enough ≤ fuel →
        ∃ compressed decoded,
          (Compressor.main uninitialized fuel).run
              { pbmStream := reader (pbmFile images ++ tail) }
            = .ok (unsigned images.length) compressed
          ∧ (Decoder.main fuel).run
              { filterInput := { input := fileOf compressed.outStream.log } }
            = .ok (unsigned images.length) decoded
          ∧ decoded.outfile.pending = pbmFile (images.map PbmImage.plain)
          ∧ (images.map PbmImage.plain).map PbmImage.picture = images.map PbmImage.picture := by
  obtain ⟨enough, bounds⟩ := exists_turns images
  refine ⟨enough, fun fuel le => ?_⟩
  obtain ⟨lines, some, sizes⟩ := bounds fuel le
  have quiet : ({} : IOStream).Quiet := by
    refine ⟨rfl, rfl, rfl, fun _ _ _ => rfl, ?_⟩
    rintro log size ⟨long, _⟩
    exact absurd long (show ¬ 4 ≤ 0 by decide)
  obtain ⟨pages, compressed, writes, result⟩ := @Compressor.run_pageLoop
    ⟨reader (pbmFile images ++ tail), {}, {}⟩ uninitialized images tail short
    ScoaStreambuf.default_idle quiet rfl fuel sizes fuel some 0
  have input : fileOf compressed.outStream.log
      = frames [] ++ (pages.flatMap PacketPage.bytes ++ frames []) := by
    rw [result.file]
    exact (List.append_nil _).symm
  have some' : pages.length < fuel := by
    rwa [result.length]
  obtain ⟨decoded, reads, outfile⟩ := @Decoder.run_pageLoop
    { filterInput := { input := fileOf compressed.outStream.log } } pages rfl rfl [] [] .nil .nil
    input fuel lines fuel some' 0
  refine ⟨compressed, decoded, ?_, ?_, ?_, ?_⟩
  · rw [← Nat.zero_add images.length]
    exact writes
  · rw [← Nat.zero_add images.length, ← result.length]
    exact reads
  · rw [outfile]
    change [] ++ pages.flatMap PacketPage.pbm = _
    rw [List.nil_append, result.pbm, pbmFile, List.flatMap_map]
    exact congrArg (List.flatMap · images) (funext fun image => image.plain_bytes.symm)
  · rw [List.map_map]
    exact congrArg (List.map · images) (funext PbmImage.plain_picture)

/-- Two images, with an empty line behind them. -/
theorem compressed_file_decodes_twoImages
    : ∃ enough, ∀ fuel, enough ≤ fuel →
        ∃ compressed decoded,
          (Compressor.main (fun _ => PrintPbm.emptyPage.params) fuel).run
              { pbmStream := reader (pbmFile twoImages ++ [10]) }
            = .ok (unsigned 2) compressed
          ∧ (Decoder.main fuel).run
              { filterInput := { input := fileOf compressed.outStream.log } }
            = .ok (unsigned 2) decoded
          ∧ decoded.outfile.pending = pbmFile (twoImages.map PbmImage.plain)
          ∧ (twoImages.map PbmImage.plain).map PbmImage.picture
            = twoImages.map PbmImage.picture := by
  exact compressed_file_decodes twoImages (by decide) fun _ => PrintPbm.emptyPage.params

end Capt
