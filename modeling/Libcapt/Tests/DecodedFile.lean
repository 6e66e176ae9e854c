import Libcapt.Tests.Decoder
import Libcapt.Tests.PacketPages

/-! The PBM file that the decoder program makes of the packets of several pages. -/

namespace Capt

open Streams Compression Protocol VideoDataStreambuf

/-- Packets that the search for the next page passes by. -/
def Passed (packets : List Packet) : Prop :=
  ∀ packet ∈ packets, packet.2.length ≤ 65531 ∧ packet.1 ≠ 0xD0A0

/-- No packets are passed. -/
theorem Passed.nil : Passed [] := fun _ member => absurd member List.not_mem_nil

/-- Two lists that are passed. -/
theorem Passed.append {packets others : List Packet} (h : Passed packets) (h' : Passed others)
    : Passed (packets ++ others) := by
  intro packet member
  rcases List.mem_append.mp member with first | second
  · exact h packet first
  · exact h' packet second

/-- A page among packets, with the packets before it. Its blocks are a compressed raster. -/
structure PacketPage where
  before : List Packet
  params : PageParams
  packets : List Packet
  raster : List UInt8
  passed : Passed before
  inPage : ∀ packet ∈ packets, InPage packet
  columns : 0 < params.imageLineSize.toNat
  rows : 0 < params.imageLines.toNat
  size : raster.length = params.imageLines.toNat * params.imageLineSize.toNat
  blocks
    : blocksOf packets
      = compressPage (rowsOf params.imageLineSize.toNat params.imageLines.toNat raster)

namespace PacketPage

/-- Bytes of a line. -/
def lineSize (this : PacketPage) : Nat := this.params.imageLineSize.toNat

/-- The number of lines. -/
def lines (this : PacketPage) : Nat := this.params.imageLines.toNat

/-- The header of the page and what follows it. -/
def header (this : PacketPage) (rest : List UInt8) : List UInt8 :=
  PacketHeader.frame 0xD0A0 (pageHeader this.params).payload ++ rest

/-- The page as it is sent. -/
def bytes (this : PacketPage) : List UInt8 :=
  frames this.before ++ this.header (frames this.packets ++ pageEnd)

/-- What the program writes of the page. -/
def pbm (this : PacketPage) : List UInt8 :=
  Decoder.pbmHeader this.lineSize this.lines ++ this.raster

/-- The number of lines takes two bytes. -/
theorem lines_lt (this : PacketPage) : this.lines < 65536 := this.params.imageLines.toNat_lt

/-- The raster and one more line fit in 32 bits. -/
theorem area_lt (this : PacketPage) : this.lines * this.lineSize + this.lineSize < 2 ^ 32 := by
  have width : this.lineSize < 65536 := this.params.imageLineSize.toNat_lt
  have height := this.lines_lt
  have area := Nat.mul_le_mul (show this.lines ≤ 65535 by omega)
    (show this.lineSize ≤ 65535 by omega)
  omega

end PacketPage

/-- Two writes in a row. -/
theorem written_written (stream : IOStream) (first second : List UInt8)
    : (stream.written first).written second = stream.written (first ++ second) := by
  simp [IOStream.written]

-----------------------------------------------------------------------------------------
-- One page
-----------------------------------------------------------------------------------------

namespace DecodedPage

/-- The lines of the raster are written one after another, by induction on their number. -/
theorem run_lineLoop {lineSize : Nat} (some : 0 < lineSize) (lines : Nat)
    {dec final : DecoderStreambuf VideoDataStreambuf} {outfile : IOStream} {raster : List UInt8}
    (size : raster.length = lines * lineSize) (drains : Drains dec raster final)
    (good : outfile.good) {turns : Nat} (enough : lines < turns) (decodedSize : Nat)
    : (lineLoop lineSize turns decodedSize).run ⟨dec, outfile⟩
      = .ok (decodedSize + raster.length) ⟨final, outfile.written raster⟩ := by
  induction lines generalizing dec outfile raster turns decodedSize with
  | zero =>
      obtain ⟨turns, rfl⟩ := Nat.exists_eq_succ_of_ne_zero (Nat.ne_of_gt enough)
      rw [Nat.zero_mul, List.length_eq_zero_iff] at size
      subst size
      have read : (onDec (Source.sgetn lineSize)).run ⟨dec, outfile⟩ = .ok [] ⟨final, outfile⟩ :=
        run_zoom_ok (Streambuf.drains_xsgetn_end some drains)
      have same : outfile.written [] = outfile := by
        simp [IOStream.written]
      rw [same]
      unfold lineLoop
      rw [run_bind_ok read]
      rfl
  | succ lines ih =>
      obtain ⟨turns, rfl⟩ := Nat.exists_eq_succ_of_ne_zero (Nat.ne_of_gt (Nat.zero_lt_of_lt enough))
      have whole : (raster.take lineSize).length = lineSize := by
        rw [List.length_take, size, Nat.succ_mul]
        omega
      rw [← List.take_append_drop lineSize raster] at drains
      obtain ⟨dec', line, others⟩ := Streambuf.drains_xsgetn (raster.take lineSize) drains
      rw [whole] at line
      have read : (onDec (Source.sgetn lineSize)).run ⟨dec, outfile⟩
          = .ok (raster.take lineSize) ⟨dec', outfile⟩ :=
        run_zoom_ok line
      have write : (onOutfile (IOStream.write (raster.take lineSize))).run ⟨dec', outfile⟩
          = .ok () ⟨dec', outfile.written (raster.take lineSize)⟩ :=
        run_zoom_ok (IOStream.run_write good _)
      have left : (raster.drop lineSize).length = lines * lineSize := by
        rw [List.length_drop, size, Nat.succ_mul, Nat.add_sub_cancel]
      have good' : (outfile.written (raster.take lineSize)).good := good
      have rest := ih left others good' (Nat.lt_of_succ_lt_succ enough) (decodedSize + lineSize)
      unfold lineLoop
      rw [run_bind_ok read, whole, if_neg (Nat.ne_of_gt some), run_bind_ok write, rest,
        written_written, List.take_append_drop, left, size, Nat.succ_mul]
      congr 1
      omega

end DecodedPage

namespace Decoder

variable {this : Decoder}

/-- The reader with the header of a page behind it. -/
def videoOf (page : PacketPage) (stream : IOStream) (rest : List UInt8) : VideoDataStreambuf where
  stream := stream.unread (frames page.packets ++ (pageEnd ++ rest))
  lineSize := page.lineSize
  linesCount := page.lines

/-- The parameters of the next page, behind whatever is passed. -/
theorem run_readPageHeader (good : this.filterInput.good) (page : PacketPage) {passed : List Packet}
    (others : Passed passed) {rest : List UInt8}
    (input : this.filterInput.input = frames passed ++ (page.bytes ++ rest))
    : readPageHeader.run this
      = .ok (some (videoOf page this.filterInput rest))
          { this with filterInput := (videoOf page this.filterInput rest).stream } := by
  have bytes : frames passed ++ (page.bytes ++ rest)
      = frames (passed ++ page.before)
        ++ (PacketHeader.frame 0xD0A0 (pageHeader page.params).payload
          ++ (frames page.packets ++ (pageEnd ++ rest))) := by
    simp [PacketPage.bytes, PacketPage.header, frames_append]
  have same
      : this.filterInput.unread (frames passed ++ (page.bytes ++ rest)) = this.filterInput := by
    rw [← input]
    rfl
  have found := readHeader_behind good (others.append page.passed) page.params
    (frames page.packets ++ (pageEnd ++ rest))
  rw [← bytes, same] at found
  unfold readPageHeader
  apply run_zoom_ok
  rw [run_bind_ok found]
  rfl

/-- Without another page there are none. -/
theorem run_readPageHeader_end (good : this.filterInput.good) {passed : List Packet}
    (others : Passed passed) (input : this.filterInput.input = frames passed)
    : ∃ filterInput,
        readPageHeader.run this = .ok none { this with filterInput := filterInput } := by
  obtain ⟨last, none, _⟩ := readHeader_none good input others
  refine ⟨last.stream, ?_⟩
  unfold readPageHeader
  apply run_zoom_ok
  rw [run_bind_ok none]
  rfl

/-- A page is decoded and written, and what is left of it is passed by. -/
theorem run_decodePage {stream outfile : IOStream} (good : stream.good) (writes : outfile.good)
    (cmdout : List String) (page : PacketPage) {rest : List UInt8} {fuel : Nat}
    (enough : page.lines < fuel)
    : ∃ passed this', Passed passed
        ∧ (decodePage fuel (videoOf page stream rest)).run
            ⟨(videoOf page stream rest).stream, outfile, cmdout⟩
          = .ok page.raster.length this'
        ∧ this'.filterInput.good ∧ this'.filterInput.input = frames passed ++ rest
        ∧ this'.outfile = outfile.written page.raster := by
  have sized : ∀ row ∈ rowsOf page.lineSize page.lines page.raster, row.length = page.lineSize :=
    rowsOf_sized (Nat.le_of_eq page.size.symm)
  have raster : (rowsOf page.lineSize page.lines page.raster).flatten = page.raster := by
    rw [flatten_rowsOf, PacketPage.lines, PacketPage.lineSize, ← page.size, List.take_length]
  have small : (rowsOf page.lineSize page.lines page.raster).flatten.length + page.lineSize
      < 2 ^ 32 := by
    rw [raster, page.size]
    exact page.area_lt
  have stocked : Stocked (pageEnd ++ rest) (videoOf page stream rest)
      (compressPage (rowsOf page.lineSize page.lines page.raster) ++ []) := by
    refine ⟨good, ⟨Nat.ne_of_gt page.columns, Nat.ne_of_gt page.rows⟩, page.packets, page.inPage,
      rfl, ?_⟩
    rw [List.append_nil]
    exact page.blocks.symm
  obtain ⟨final, drains, last⟩ := DecoderStreambuf.decodes_page (stocks_stocked (pageEnd ++ rest))
    page.columns sized small stocked (some cmdout)
  rw [raster] at drains
  obtain ⟨packets, inPage, left, nothing⟩ := last.blocks
  have lines := DecodedPage.run_lineLoop page.columns page.lines page.size drains writes enough 0
  rw [Nat.zero_add] at lines
  refine ⟨packets ++ [(0xD0A2, [])], ⟨final.stream.stream, outfile.written page.raster,
    final.commandLog.getD cmdout⟩, ?_, ?_, last.good, ?_, rfl⟩
  · apply Passed.append
    · exact fun packet member => ⟨(inPage packet member).fits, (inPage packet member).opcode.2.2⟩
    · intro packet member
      rw [List.mem_singleton.mp member]
      exact ⟨Nat.zero_le _, by decide⟩
  · unfold decodePage
    apply run_zoom_ok (s := (⟨final, outfile.written page.raster⟩ : DecodedPage))
    exact lines
  · rw [left, frames_append, List.append_assoc]
    rfl

-----------------------------------------------------------------------------------------
-- All pages
-----------------------------------------------------------------------------------------

/-- Every page is found and decoded, by induction on the pages. -/
theorem run_pageLoop (pages : List PacketPage) (good : this.filterInput.good)
    (writes : this.outfile.good) {passed behind : List Packet} (others : Passed passed)
    (ended : Passed behind)
    (input
      : this.filterInput.input
        = frames passed ++ (pages.flatMap PacketPage.bytes ++ frames behind))
    {fuel : Nat} (lines : 65536 ≤ fuel) {turns : Nat} (enough : pages.length < turns) (page : Nat)
    : ∃ this', (pageLoop fuel turns (unsigned page)).run this
          = .ok (unsigned (page + pages.length)) this'
        ∧ this'.outfile = this.outfile.written (pages.flatMap PacketPage.pbm) := by
  obtain ⟨turns, rfl⟩ := Nat.exists_eq_succ_of_ne_zero (Nat.ne_of_gt (Nat.zero_lt_of_lt enough))
  induction pages generalizing this passed turns page with
  | nil =>
      rw [List.flatMap_nil, List.nil_append, ← frames_append] at input
      obtain ⟨filterInput, found⟩ := run_readPageHeader_end good (others.append ended) input
      refine ⟨{ this with filterInput := filterInput }, ?_, ?_⟩
      · unfold pageLoop
        rw [run_bind_ok found]
        rfl
      · simp [IOStream.written]
  | cons first pages ih =>
      obtain ⟨turns, rfl⟩ := Nat.exists_eq_succ_of_ne_zero
        (Nat.ne_of_gt (Nat.zero_lt_of_lt (Nat.lt_of_succ_lt_succ enough)))
      rw [List.flatMap_cons, List.append_assoc] at input
      have found := run_readPageHeader good first others input
      generalize pages.flatMap PacketPage.bytes ++ frames behind = rest at input found ih
      have write : (onOutfile (IOStream.write (pbmHeader first.lineSize first.lines))).run
          { this with filterInput := (videoOf first this.filterInput rest).stream }
          = .ok () ⟨(videoOf first this.filterInput rest).stream,
              this.outfile.written (pbmHeader first.lineSize first.lines), this.cmdout⟩ :=
        run_zoom_ok (IOStream.run_write writes _)
      have writes' : (this.outfile.written (pbmHeader first.lineSize first.lines)).good := writes
      obtain ⟨left, middle, passes, decode, good', input', outfile⟩ := @run_decodePage
        this.filterInput _ good writes' this.cmdout first rest _
        (Nat.lt_of_lt_of_le first.lines_lt lines)
      have writes'' : middle.outfile.good := by
        rw [outfile]
        exact writes
      obtain ⟨this', others', last⟩ := ih good' writes'' passes input'
        (page + 1) turns (Nat.lt_of_succ_lt_succ enough)
      have expected : unsigned (first.lineSize * first.lines) = first.raster.length := by
        have area := first.area_lt
        rw [first.size]
        change (first.lineSize * first.lines) % 2 ^ 32 = first.lines * first.lineSize
        rw [Nat.mul_comm first.lineSize, Nat.mod_eq_of_lt (by omega)]
      refine ⟨this', ?_, ?_⟩
      · unfold pageLoop
        rw [run_bind_ok found]
        change EStateM.run (onOutfile (IOStream.write (pbmHeader first.lineSize first.lines)) >>= _)
          _ = _
        rw [run_bind_ok write, run_bind_ok decode]
        change EStateM.run (if first.raster.length ≠ unsigned (first.lineSize * first.lines) then _
          else pageLoop fuel (turns + 1) (unsigned (unsigned page + 1))) middle = _
        rw [expected, if_neg (not_not_intro rfl), unsigned_succ, others', List.length_cons,
          Nat.add_assoc, Nat.add_comm 1]
      · rw [last, outfile, written_written, written_written, List.flatMap_cons, PacketPage.pbm,
          List.append_assoc]

end Decoder

end Capt
