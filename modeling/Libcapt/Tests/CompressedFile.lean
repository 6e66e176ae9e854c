import Libcapt.Examples.PbmFile
import Libcapt.Tests.Compressor
import Libcapt.Tests.DecodedFile

/-! What the compressor program writes for a PBM file, and what the decoder program makes of it. -/

namespace Capt

open Streams Compression Protocol VideoDataStreambuf

namespace Compressor

-----------------------------------------------------------------------------------------
-- The blocks of a page
-----------------------------------------------------------------------------------------

variable {this : Compressor}

/-- The compressor with the stream that it reads. -/
def reading (this : Compressor) : ScoaStreambuf MemoryStreambuf :=
  { this.scoaStreambuf with rasterStream := some this.pbmStream.rdbuf }

/-- The program after its compressor was read. -/
def afterScoa (this : Compressor) (scoaStreambuf : ScoaStreambuf MemoryStreambuf) : Compressor :=
  { this with
    scoaStreambuf := scoaStreambuf
    pbmStream := { this.pbmStream with
      rdbuf := scoaStreambuf.rasterStream.getD this.pbmStream.rdbuf } }

/-- The compressor with the rest of its raster. -/
theorem reading_afterScoa {scoaStreambuf : ScoaStreambuf MemoryStreambuf} {raster : MemoryStreambuf}
    (source : scoaStreambuf.rasterStream = some raster)
    : (this.afterScoa scoaStreambuf).reading = scoaStreambuf := by
  cases scoaStreambuf
  cases source
  rfl

/-- What the compressor does inside the program. -/
theorem run_onScoa {α : Type} {action : Action (ScoaStreambuf MemoryStreambuf) α} {value : α}
    {scoaStreambuf : ScoaStreambuf MemoryStreambuf}
    (run : action.run this.reading = .ok value scoaStreambuf)
    : (onScoa action).run this = .ok value (this.afterScoa scoaStreambuf) :=
  run_zoom_ok run

/-- A packet that is not answered is written to the file. -/
def packetEvent (opcode : UInt16) (payload : List UInt8) : Event :=
  .flushed (PacketHeader.frame opcode payload) [] []

/-- The program after a packet was written. -/
def wrote (this : Compressor) (event : Event) : Compressor :=
  { this with outStream := this.outStream.recorded event }

/-- A packet is written to the output file. -/
theorem run_packet (quiet : this.outStream.Quiet) {opcode : UInt16} {payload : List UInt8}
    (fits : payload.length ≤ 65531)
    (unanswered : opcode.toNat ∈ [0xD0A0, 0xD0A1, 0xD0A2, 0xC0A0])
    : (onOut (do
        PacketHeader.writeTo opcode payload
        IOStream.flush)).run this
      = .ok () (this.wrote (packetEvent opcode payload)) :=
  run_zoom_ok (run_send quiet fits unanswered)

/-- What the loop over the blocks leaves: the PBM stream is behind the raster, and the compressor
has nothing left to read.
-/
structure Drained (rest : List UInt8) (log : List Event) (this this' : Compressor) : Prop where
  pbmStream : this'.pbmStream = { this.pbmStream with rdbuf := ⟨rest⟩ }
  outStream : this'.outStream = { this.outStream with log := this.outStream.log ++ log }
  idle : this'.scoaStreambuf.Idle

/-- The compressed page is written in blocks, by induction on the turns of the loop. -/
theorem run_blockLoop {lineSize : Nat} {rest symbols : List UInt8}
    (h : PrintPbm.Compresses lineSize rest this.reading symbols) (quiet : this.outStream.Quiet)
    {fuel : Nat} (enough : symbols.length < fuel)
    : ∃ (blocks : List (List UInt8)) (this' : Compressor), blocks.flatten = symbols
        ∧ (∀ block ∈ blocks, block ≠ [] ∧ block.length ≤ 4096)
        ∧ (blockLoop fuel).run this = .ok () this'
        ∧ Drained rest (blocks.map (packetEvent 0xC0A0)) this this' := by
  induction fuel generalizing this symbols with
  | zero => cases enough
  | succ fuel ih =>
      obtain ⟨scoa, read, next⟩ := PrintPbm.compresses_refills.isSupply.sgetn h 4096
      have taken := run_onScoa read
      obtain ⟨left, source, _⟩ := next.2.raster
      unfold blockLoop
      rw [run_bind_ok taken]
      by_cases ended : symbols = []
      · subst ended
        have found : (Streambuf.xsgetn 4096).run this.reading = .ok ([] : List UInt8) scoa := read
        obtain ⟨empty, refill⟩ := Streambuf.run_sbumpc_none PrintPbm.compresses_refills h
          (Streambuf.run_xsgetn_nil (by decide) found)
        have behind := PrintPbm.leads_ended h.2 empty refill
        refine ⟨[], this.afterScoa scoa, rfl, nofun, rfl, ?_, ?_, next.2.sound, ?_⟩
        · change { this.pbmStream with rdbuf := scoa.rasterStream.getD this.pbmStream.rdbuf } = _
          rw [behind]
          rfl
        · simp [afterScoa]
        · have front := PrintPbm.compresses_refills.front next
          exact List.prefix_nil.mp front
      · have some : (symbols.take 4096).length ≠ 0 := by
          rw [List.length_take]
          have := List.length_pos_iff.mpr ended
          omega
        have short : (symbols.take 4096).length ≤ 4096 := List.length_take_le ..
        have fits : (symbols.take 4096).length ≤ 65531 := short.trans (by decide)
        have quiet' : (this.afterScoa scoa).outStream.Quiet := quiet
        have write := @run_packet _ quiet' 0xC0A0 _ fits (by decide)
        have holds : PrintPbm.Compresses lineSize rest
            ((this.afterScoa scoa).wrote (packetEvent 0xC0A0 (symbols.take 4096))).reading
            (symbols.drop 4096) := by
          change PrintPbm.Compresses lineSize rest (this.afterScoa scoa).reading _
          rw [reading_afterScoa source]
          exact next
        have fewer : (symbols.drop 4096).length < fuel := by
          rw [List.length_drop]
          have := List.length_pos_iff.mpr ended
          omega
        obtain ⟨blocks, this', whole, sized, others, drained⟩ := ih holds (quiet'.recorded _) fewer
        refine ⟨symbols.take 4096 :: blocks, this', ?_, ?_, ?_, ?_, ?_, drained.idle⟩
        · rw [List.flatten_cons, whole, List.take_append_drop]
        · intro block member
          rcases List.mem_cons.mp member with rfl | member
          · exact ⟨fun nothing => some (congrArg List.length nothing), short⟩
          · exact sized block member
        · rw [if_neg some, icVideoData, run_bind_ok write]
          exact others
        · exact drained.pbmStream
        · rw [drained.outStream]
          simp [wrote, afterScoa, IOStream.recorded]

-----------------------------------------------------------------------------------------
-- A page
-----------------------------------------------------------------------------------------

/-- The compressed form of an image. -/
def compressed (image : PbmImage) : List UInt8 :=
  compressPage (rowsOf image.lineSize image.lines image.raster)

/-- The compressor is reset to the raster of an image. -/
theorem compresses_reset (idle : this.scoaStreambuf.Idle) (image : PbmImage) (rest : List UInt8)
    : PrintPbm.Compresses image.lineSize rest
        (this.scoaStreambuf.reset (⟨image.raster ++ rest⟩ : MemoryStreambuf) image.lineSize
          image.lines)
        (compressed image) := by
  have small : image.lineSize < 2 ^ 32 := Nat.lt_of_le_of_lt image.columns.2 (by decide)
  have columns : 0 < image.lineSize := image.columns.1
  have encodes := idle.sound.reset_encodes (MemoryStreambuf.supplies (image.raster ++ rest))
    image.lines columns small
  have only : compress image.lineSize image.lines (image.raster ++ rest) = compressed image := by
    have first := PrintPbm.compressLines_take image.lineSize [] 0 image.lines (image.raster ++ rest)
    rw [← image.length_raster, List.take_left] at first
    exact first.symm.trans (compress_whole image.rows.1 image.length_raster)
  rw [idle.empty, List.nil_append, only] at encodes
  refine ⟨encodes, idle.sound.reset _ image.lines small, ScoaStreambuf.length_resize .., _, rfl, ?_⟩
  change (image.raster ++ rest).drop (image.lines * image.lineSize) = rest
  rw [← image.length_raster, List.drop_left]

/-- The packets of a page whose compressed form is cut into the blocks. -/
def packetPage (uninitialized : PageParams) (image : PbmImage) (blocks : List (List UInt8))
    (whole : blocks.flatten = compressed image)
    (sized : ∀ block ∈ blocks, block ≠ [] ∧ block.length ≤ 4096)
    : PacketPage where
  before := []
  params := pageParams uninitialized image.lineSize image.lines
  packets := (0xD0A1, []) :: blocks.map fun block => (0xC0A0, block)
  raster := image.raster
  passed := nofun
  inPage := by
    intro packet member
    rcases List.mem_cons.mp member with rfl | member
    · exact ⟨Nat.zero_le _, by decide, fun block => by cases block⟩
    · obtain ⟨block, inside, rfl⟩ := List.mem_map.mp member
      obtain ⟨some, short⟩ := sized block inside
      exact ⟨short.trans (by decide), blockOpcode, fun _ => some⟩
  columns := image.lineSize_toNat.symm ▸ image.columns.1
  rows := image.lines_toNat.symm ▸ image.rows.1
  size := by
    change _ = (UInt16.ofNat image.lines).toNat * (UInt16.ofNat image.lineSize).toNat
    rw [image.lines_toNat, image.lineSize_toNat, image.length_raster]
  blocks := by
    change _ = compressPage (rowsOf (UInt16.ofNat image.lineSize).toNat
      (UInt16.ofNat image.lines).toNat image.raster)
    rw [image.lines_toNat, image.lineSize_toNat]
    change blocksOf (blocks.map fun block => (0xC0A0, block)) = compressed image
    rw [← whole]
    rw [blocksOf, List.flatMap_map]
    exact List.flatMap_id

/-- The page of packets shows the image. -/
theorem packetPage_pbm (uninitialized : PageParams) (image : PbmImage)
    {blocks : List (List UInt8)} (whole : blocks.flatten = compressed image)
    (sized : ∀ block ∈ blocks, block ≠ [] ∧ block.length ≤ 4096)
    : (packetPage uninitialized image blocks whole sized).pbm
      = Decoder.pbmHeader image.lineSize image.lines ++ image.raster := by
  change Decoder.pbmHeader (UInt16.ofNat image.lineSize).toNat (UInt16.ofNat image.lines).toNat
    ++ image.raster = _
  rw [image.lines_toNat, image.lineSize_toNat]

/-- The packets that are written of a page. -/
def pageLog (params : PageParams) (blocks : List (List UInt8)) : List Event :=
  packetEvent 0xD0A0 (pageHeader params).payload :: packetEvent 0xD0A1 []
    :: (blocks.map (packetEvent 0xC0A0) ++ [packetEvent 0xD0A2 []])

/-- A page in the log is a page in the file. -/
theorem fileOf_pageLog (uninitialized : PageParams) (image : PbmImage)
    {blocks : List (List UInt8)} (whole : blocks.flatten = compressed image)
    (sized : ∀ block ∈ blocks, block ≠ [] ∧ block.length ≤ 4096)
    : fileOf (pageLog (pageParams uninitialized image.lineSize image.lines) blocks)
      = (packetPage uninitialized image blocks whole sized).bytes := by
  simp [fileOf, pageLog, packetEvent, Event.bytes, PacketPage.bytes, PacketPage.header, packetPage,
    frames, pageEnd, List.flatMap_map]

/-- A page is written whole, and the PBM stream is left behind its raster. -/
theorem run_writePage (idle : this.scoaStreambuf.Idle) (quiet : this.outStream.Quiet)
    (image : PbmImage) {rest : List UInt8}
    {fuel : Nat} (enough : (compressed image).length < fuel) (params : PageParams)
    (input : this.pbmStream = reader (image.raster ++ rest))
    : ∃ (blocks : List (List UInt8)) (this' : Compressor), blocks.flatten = compressed image
        ∧ (∀ block ∈ blocks, block ≠ [] ∧ block.length ≤ 4096)
        ∧ (writePage fuel params).run { this with
              scoaStreambuf := this.scoaStreambuf.reset this.pbmStream.rdbuf image.lineSize
                image.lines }
            = .ok () this'
        ∧ Drained rest (pageLog params blocks) this this' := by
  have raster : this.pbmStream.rdbuf = ⟨image.raster ++ rest⟩ := by
    rw [input]
    rfl
  generalize begun : { this with
    scoaStreambuf := this.scoaStreambuf.reset this.pbmStream.rdbuf image.lineSize
      image.lines } = start
  have quiet₀ : start.outStream.Quiet := begun ▸ quiet
  have page := @run_packet _ quiet₀ 0xD0A0 (pageHeader params).payload (pageHeader_fits params)
    (by decide)
  have quiet₁ : (start.wrote (packetEvent 0xD0A0 (pageHeader params).payload)).outStream.Quiet :=
    quiet₀.recorded _
  have data := @run_packet _ quiet₁ 0xD0A1 [] (Nat.zero_le _) (by decide)
  generalize ready : (start.wrote (packetEvent 0xD0A0 (pageHeader params).payload)).wrote
    (packetEvent 0xD0A1 []) = middle at data
  have quiet₂ : middle.outStream.Quiet := ready ▸ quiet₁.recorded _
  have holds : PrintPbm.Compresses image.lineSize rest middle.reading (compressed image) := by
    have reset := compresses_reset idle image rest
    rw [← raster] at reset
    rw [← ready, ← begun]
    exact reset
  obtain ⟨blocks, sent, whole, sized, loop, drained⟩ := run_blockLoop holds quiet₂ enough
  have quiet₃ : sent.outStream.Quiet := by
    rw [drained.outStream]
    exact ⟨quiet₂.good, quiet₂.input, quiet₂.pending, quiet₂.serves⟩
  have ended := @run_packet _ quiet₃ 0xD0A2 [] (Nat.zero_le _) (by decide)
  refine ⟨blocks, sent.wrote (packetEvent 0xD0A2 []), whole, sized, ?_, ?_, ?_, drained.idle⟩
  · unfold writePage
    rw [icBeginPage, PacketBuilder.writeTo, run_bind_ok page, icBeginData, run_bind_ok data,
      run_bind_ok loop]
    exact ended
  · change sent.pbmStream = _
    rw [drained.pbmStream, ← ready, ← begun]
    rfl
  · change { sent.outStream with log := sent.outStream.log ++ [packetEvent 0xD0A2 []] } = _
    rw [drained.outStream, ← ready, ← begun]
    simp [wrote, IOStream.recorded, pageLog]

-----------------------------------------------------------------------------------------
-- All pages
-----------------------------------------------------------------------------------------

/-- What the loop over the pages has written for the images. -/
structure Compressed (images : List PbmImage) (this this' : Compressor) (pages : List PacketPage)
    : Prop where
  quiet : this'.outStream.Quiet
  file
    : fileOf this'.outStream.log
      = fileOf this.outStream.log ++ pages.flatMap PacketPage.bytes
  pbm
    : pages.flatMap PacketPage.pbm
      = images.flatMap fun image =>
          Decoder.pbmHeader image.lineSize image.lines ++ image.raster
  length : pages.length = images.length

/-- Every image is written as a page, by induction on the images. -/
theorem run_pageLoop (uninitialized : Nat → PageParams) (images : List PbmImage)
    {tail : List UInt8} (short : tail.length < 3) (idle : this.scoaStreambuf.Idle)
    (quiet : this.outStream.Quiet) (input : this.pbmStream = reader (pbmFile images ++ tail))
    {fuel : Nat} (enough : ∀ image ∈ images, (compressed image).length < fuel) {turns : Nat}
    (some : images.length < turns) (page : Nat)
    : ∃ pages this', (pageLoop uninitialized fuel turns (unsigned page)).run this
          = .ok (unsigned (page + images.length)) this'
        ∧ Compressed images this this' pages := by
  obtain ⟨turns, rfl⟩ := Nat.exists_eq_succ_of_ne_zero (Nat.ne_of_gt (Nat.zero_lt_of_lt some))
  induction images generalizing this turns page with
  | nil =>
      have found : (onPbm readPbmHeader).run this
          = .ok none { this with pbmStream := ⟨⟨[]⟩, true, true⟩ } := by
        apply run_zoom_ok
        rw [input]
        exact run_readPbmHeader_end short
      refine ⟨[], { this with pbmStream := ⟨⟨[]⟩, true, true⟩ }, ?_, quiet,
        (List.append_nil _).symm, rfl, rfl⟩
      unfold pageLoop
      rw [run_bind_ok found]
      rfl
  | cons image images ih =>
      obtain ⟨turns, rfl⟩ := Nat.exists_eq_succ_of_ne_zero
        (Nat.ne_of_gt (Nat.zero_lt_of_lt (Nat.lt_of_succ_lt_succ some)))
      rw [pbmFile_cons, List.append_assoc] at input
      have found : (onPbm readPbmHeader).run this
          = .ok (Option.some (image.text.width.value, image.text.height.value))
              { this with pbmStream := reader (image.raster ++ (pbmFile images ++ tail)) } := by
        apply run_zoom_ok
        rw [input]
        exact run_readPbmHeader image _
      have aligned : ¬ image.text.width.value % 8 ≠ 0 := not_not_intro image.aligned
      obtain ⟨blocks, middle, whole, sized, written, drained⟩ := @run_writePage
        { this with pbmStream := reader (image.raster ++ (pbmFile images ++ tail)) } idle quiet
        image (pbmFile images ++ tail) fuel (enough image List.mem_cons_self)
        (pageParams (uninitialized (unsigned page)) image.lineSize image.lines) rfl
      have quiet' : middle.outStream.Quiet := by
        rw [drained.outStream]
        exact ⟨quiet.good, quiet.input, quiet.pending, quiet.serves⟩
      obtain ⟨pages, this', others, result⟩ := ih drained.idle quiet' drained.pbmStream
        (fun image member => enough image (List.mem_cons_of_mem _ member)) (page + 1) turns
        (Nat.lt_of_succ_lt_succ some)
      refine ⟨packetPage (uninitialized (unsigned page)) image blocks whole sized :: pages, this',
        ?_, result.quiet, ?_, ?_, congrArg (· + 1) result.length⟩
      · unfold pageLoop
        rw [run_bind_ok found]
        simp only [aligned, if_false]
        rw [run_modify_bind]
        refine (run_bind_ok written).trans ?_
        rw [unsigned_succ, others, List.length_cons, Nat.add_assoc, Nat.add_comm 1]
      · rw [result.file, drained.outStream, List.flatMap_cons, ← fileOf_pageLog]
        change fileOf (this.outStream.log ++ pageLog _ blocks) ++ _ = _
        rw [fileOf_append, List.append_assoc]
      · rw [List.flatMap_cons, List.flatMap_cons, packetPage_pbm, result.pbm]

end Compressor

end Capt
