import Libcapt.Compression.RoundTrip
import Libcapt.Compression.StreamUse
import Libcapt.Printer.TransmissionOrder
import Libcapt.Tests.PageReading

/-! A raster that is compressed and sent to a printer is decoded from the packets that the
printer received.
-/

namespace Capt

open Streams Protocol PageEvent Compression VideoDataStreambuf

-----------------------------------------------------------------------------------------
-- The packets of a page
-----------------------------------------------------------------------------------------

/-- The bytes of the page in a log: the chunks without those of the status requests. -/
def Event.pageBytes : Event → List UInt8
  | flushed chunk _ _ => if Unanswered chunk then chunk else []
  | polled _ => []

/-- What a log has sent of its pages. -/
def pageBytes (log : List Event) : List UInt8 := log.flatMap Event.pageBytes

/-- The packets of the page in a trace. -/
def PageEvent.packets : PageEvent → List Packet
  | beginPage params => [(0xD0A0, (pageHeader params).payload)]
  | beginData => [(0xD0A1, [])]
  | asked _ => []
  | polled _ => []
  | videoData data => [(0xC0A0, data)]
  | endPage => [(0xD0A2, [])]

/-- The packets of a trace. -/
def packetsOf (trace : List PageEvent) : List Packet := trace.flatMap PageEvent.packets

/-- The frames of two lists in a row. -/
theorem frames_append (first second : List Packet)
    : frames (first ++ second) = frames first ++ frames second :=
  List.flatMap_append

/-- A packet of a page is sent as its frame. -/
theorem Event.pageBytes_packet {opcode : UInt16}
    (unanswered : opcode.toNat ∈ [0xD0A0, 0xD0A1, 0xD0A2, 0xC0A0])
    (payload backlog answer : List UInt8)
    : (Event.flushed (PacketHeader.frame opcode payload) backlog answer).pageBytes
      = frames [(opcode, payload)] := by
  have inside : Unanswered (PacketHeader.frame opcode payload) := unanswered_frame.mpr unanswered
  exact (if_pos inside).trans (List.append_nil _).symm

/-- The bytes of an event are the frames of its packets. -/
theorem PageEvent.pageBytes_event (event : PageEvent)
    : event.event.pageBytes = frames event.packets := by
  cases event with
  | beginPage params => exact Event.pageBytes_packet (by decide) _ _ _
  | beginData => exact Event.pageBytes_packet (by decide) _ _ _
  | asked answer =>
      change (if Unanswered statusRequest then statusRequest else []) = []
      rw [if_neg statusRequest_answered]
  | polled stop => rfl
  | videoData data => exact Event.pageBytes_packet (by decide) _ _ _
  | endPage => exact Event.pageBytes_packet (by decide) _ _ _

/-- The bytes of a trace are the frames of its packets. -/
theorem pageBytes_events (trace : List PageEvent)
    : pageBytes (trace.map PageEvent.event) = frames (packetsOf trace) := by
  induction trace with
  | nil => rfl
  | cons event trace ih =>
      rw [packetsOf, List.flatMap_cons, frames_append, ← event.pageBytes_event]
      exact congrArg (event.event.pageBytes ++ ·) ih

/-- The blocks of a page are read as what was sent. -/
theorem blocksOf_packetsOf {body : List PageEvent} (inner : ∀ event ∈ body, event.Inner)
    : blocksOf (packetsOf body) = payloads body := by
  induction body with
  | nil => rfl
  | cons event body ih =>
      have others := ih fun event member => inner event (List.mem_cons_of_mem _ member)
      have first := inner event List.mem_cons_self
      cases event with
      | videoData data => exact congrArg (data ++ ·) others
      | asked answer => exact others
      | polled stop => exact others
      | beginPage params => exact first.elim
      | beginData => exact first.elim
      | endPage => exact first.elim

/-- Video data neither begins nor ends a page. -/
theorem blockOpcode
    : (0xC0A0 : UInt16) ≠ 3 ∧ (0xC0A0 : UInt16) ≠ 0xD0A2 ∧ (0xC0A0 : UInt16) ≠ 0xD0A0 := by
  decide

/-- What stands inside a page may be parsed as one. -/
theorem inPage_packetsOf {body : List PageEvent} (inner : ∀ event ∈ body, event.Inner)
    (sized : ∀ data, videoData data ∈ body → 1 ≤ data.length ∧ data.length ≤ 65531)
    : ∀ packet ∈ packetsOf body, InPage packet := by
  intro packet member
  obtain ⟨event, inside, now⟩ := List.mem_flatMap.mp member
  have kind := inner event inside
  cases event with
  | videoData data =>
      cases List.mem_singleton.mp now
      obtain ⟨some, fits⟩ := sized data inside
      exact ⟨fits, blockOpcode, fun _ => List.length_pos_iff.mp some⟩
  | asked answer => cases now
  | polled stop => cases now
  | beginPage params => exact kind.elim
  | beginData => exact kind.elim
  | endPage => exact kind.elim

-----------------------------------------------------------------------------------------
-- Reading the page
-----------------------------------------------------------------------------------------

/-- The line size and the number of lines are where the reader looks for them. -/
theorem pageHeader_fields (params : PageParams)
    : field (pageHeader params).payload 26 = params.imageLineSize.toNat
      ∧ field (pageHeader params).payload 28 = params.imageLines.toNat := by
  obtain ⟨front, rest, length, split⟩ : ∃ front rest, front.length = 26
      ∧ (pageHeader params).payload = front ++ (littleBytes 2 params.imageLineSize.toNat
        ++ (littleBytes 2 params.imageLines.toNat ++ rest)) := by
    refine ⟨(pageHeader params).payload.take 26, littleBytes 2 params.paperWidth.toNat
      ++ littleBytes 2 params.paperHeight.toNat, ?_, ?_⟩
    · rw [List.length_take, pageHeader_length]
      rfl
    · simp [pageHeader, PacketBuilder.appendByte, PacketBuilder.appendUint16, littleBytes]
  constructor
  · rw [← length]
    exact field_eq split
  · have longer : (front ++ littleBytes 2 params.imageLineSize.toNat).length = 28 := by
      rw [List.length_append, length, littleBytes_length]
    rw [← longer]
    rw [← List.append_assoc] at split
    exact field_eq split

/-- The decoder program reads the fields of a page, and is then before its blocks. -/
theorem readHeader_page {reader : IOStream} (good : reader.good) (params : PageParams)
    {rest : List UInt8}
    : (readHeader.run (construct (reader.unread
          (PacketHeader.frame 0xD0A0 (pageHeader params).payload ++ rest))))
      = .ok true {
          stream := reader.unread rest
          lineSize := params.imageLineSize.toNat
          linesCount := params.imageLines.toNat
        } := by
  have large : 33 ≤ (pageHeader params).payload.length := by
    rw [pageHeader_length]
    decide
  have fits := pageHeader_fits params
  obtain ⟨first, second⟩ := pageHeader_fields params
  have run := @run_pageFields_page reader rest good (pageHeader params).payload
    (PacketHeader.frame 0xD0A0 (pageHeader params).payload ++ rest).length large fits
  rw [first, second] at run
  rw [@run_readHeader (construct (reader.unread
    (PacketHeader.frame 0xD0A0 (pageHeader params).payload ++ rest))) _ _ run,
    StreamPacket.run_discard good]
  rfl

/-- Where no packet is the header of a page, all of the input is read in vain. -/
theorem readHeader_none {stream : IOStream} (good : stream.good) {packets : List Packet}
    (input : stream.input = frames packets)
    (others : ∀ packet ∈ packets, packet.2.length ≤ 65531 ∧ packet.1 ≠ 0xD0A0)
    : ∃ last, readHeader.run (construct stream) = .ok false last ∧ last.stream.input = [] := by
  have enough : packets.length < stream.input.length + 1 := by
    rw [input]
    exact Nat.lt_succ_of_le (frames_length packets)
  have discarded : StreamPacket.discard.run (⟨stream, {}⟩ : Scope IOStream Unit)
      = .ok () ⟨stream.unread (frames packets), {}⟩ := by
    rw [← input]
    rfl
  obtain ⟨packet, run⟩ := run_pageFields_none good others enough discarded
  rw [@run_readHeader (construct stream) _ _ run, discard_bad (failed_bad _)]
  exact ⟨_, rfl, rfl⟩

/-- Behind the page that is read no other one is found, and all of the input is read. -/
theorem VideoDataStreambuf.Parses.readHeader_end {video : VideoDataStreambuf}
    {symbols : List UInt8} (h : Parses video symbols)
    : ∃ last, readHeader.run (construct video.stream) = .ok false last
        ∧ last.stream.input = [] := by
  cases h with
  | @inside packets good input inPage _ =>
      have all : video.stream.input = frames (packets ++ [(0xD0A2, [])]) := by
        rw [input, frames_append]
        exact congrArg (frames packets ++ ·) (List.append_nil _).symm
      apply readHeader_none good all
      intro packet member
      rcases List.mem_append.mp member with before | last
      · exact ⟨(inPage packet before).fits, (inPage packet before).opcode.2.2⟩
      · rw [List.mem_singleton.mp last]
        exact ⟨Nat.zero_le _, by decide⟩
  | ended input _ =>
      by_cases good : video.stream.good
      · have all : video.stream.input = frames [] := input
        exact readHeader_none good all fun _ member => absurd member List.not_mem_nil
      · obtain ⟨packet, run⟩ := run_pageFields_bad good video.stream.input.length
        rw [@run_readHeader (construct video.stream) _ _ run, discard_bad good]
        exact ⟨_, rfl, input⟩

-----------------------------------------------------------------------------------------
-- Decoding the page
-----------------------------------------------------------------------------------------

/-- The stream is at some place behind the header of its last page. -/
def Parsing (video : VideoDataStreambuf) : Prop := ∃ symbols, Parses video symbols

/-- The parser is only used for reading. -/
theorem reads_parsing : DecoderStreambuf.Reads Parsing where
  sgetn := by
    rintro n video ⟨symbols, h⟩
    obtain ⟨video', run, next⟩ := parses_refills.isSupply.sgetn h n
    rw [run]
    exact ⟨_, next⟩
  sbumpc := by
    rintro video ⟨symbols, h⟩
    obtain ⟨video', run, next⟩ := parses_refills.isSupply.sbumpc h
    rw [run]
    exact ⟨_, next⟩

/-- The compressed page in the blocks is decoded, and then the blocks are at their end. -/
theorem VideoDataStreambuf.Parses.decodes {video : VideoDataStreambuf}
    {rows : List (List UInt8)} {lineSize : Nat} (h : Parses video (compressPage rows))
    (nonempty : 0 < lineSize) (sized : ∀ row ∈ rows, row.length = lineSize)
    (small : rows.flatten.length + lineSize < 2 ^ 32) (commandLog : Option (List String))
    : ∃ final, Drains (DecoderStreambuf.construct video lineSize commandLog) rows.flatten final
        ∧ Supplies final.stream [] ∧ Parsing final.stream := by
  have between := DecoderStreambuf.construct_between video commandLog nonempty
    (show lineSize < 2 ^ 32 by omega)
  have supply : SuppliesFinitely video (([rows].map compressPage).flatten) := by
    simpa using h.supplies
  have rowsSized : ∀ page ∈ [rows], ∀ row ∈ page, row.length = lineSize := by
    simpa using sized
  have total : ([] : List UInt8).length + [rows].flatten.flatten.length + lineSize < 2 ^ 32 := by
    simpa using small
  obtain ⟨final, decoded⟩ := between.decompresses [rows] rowsSized total rfl supply
  cases decoded with
  | page read consumed next =>
      cases next with
      | done final => exact ⟨final, read, consumed.supplies, reads_parsing.drains read ⟨_, h⟩⟩

/-- The decoder program finds one page on the stream, of the given sizes and raster, and
then the end of the stream.
-/
def ReadsPage (reader : IOStream) (lineSize lines : Nat) (raster : List UInt8) : Prop :=
  ∃ video, readHeader.run (construct reader) = .ok true video
    ∧ video.lineSize = lineSize ∧ video.linesCount = lines
    ∧ ∀ commandLog, ∃ final last,
        Drains (DecoderStreambuf.construct video video.lineSize commandLog) raster final
        ∧ Supplies final.stream []
        ∧ readHeader.run (construct final.stream.stream) = .ok false last
        ∧ last.stream.input = []

/-- The bytes of a whole page. -/
theorem pageBytes_page (params : PageParams) (body : List PageEvent)
    : pageBytes
        ((beginPage params :: beginData :: (body ++ [PageEvent.endPage])).map PageEvent.event)
      = PacketHeader.frame 0xD0A0 (pageHeader params).payload
        ++ (frames ((0xD0A1, []) :: packetsOf body) ++ pageEnd) := by
  rw [pageBytes_events]
  simp [packetsOf, PageEvent.packets, frames, pageEnd]

/-- The packets of a page with the blocks of a compressed raster. -/
theorem reads_page {reader : IOStream} (good : reader.good) {params : PageParams}
    {body : List PageEvent} (inner : ∀ event ∈ body, event.Inner)
    (sized : ∀ data, videoData data ∈ body → 1 ≤ data.length ∧ data.length ≤ 65531)
    {lines : Nat} {raster : List UInt8}
    (size : raster.length = lines * params.imageLineSize.toNat)
    (some : 0 < params.imageLineSize.toNat ∧ 0 < lines)
    (count : params.imageLines.toNat = lines)
    (blocks : payloads body = compressPage (rowsOf params.imageLineSize.toNat lines raster))
    : ReadsPage
        (reader.unread (pageBytes
          ((beginPage params :: beginData :: (body ++ [PageEvent.endPage])).map PageEvent.event)))
        params.imageLineSize.toNat lines raster := by
  have inPage : ∀ packet ∈ (0xD0A1, []) :: packetsOf body, InPage packet := by
    intro packet member
    rcases List.mem_cons.mp member with rfl | member
    · exact ⟨Nat.zero_le _, by decide, fun block => by cases block⟩
    · exact inPage_packetsOf inner sized packet member
  have rowsSized := rowsOf_sized (Nat.le_of_eq size.symm)
  have rows : (rowsOf params.imageLineSize.toNat lines raster).flatten = raster := by
    rw [flatten_rowsOf, ← size, List.take_length]
  have small : raster.length + params.imageLineSize.toNat < 2 ^ 32 := by
    have width := params.imageLineSize.toNat_lt
    have height := params.imageLines.toNat_lt
    have area := Nat.mul_le_mul (show lines ≤ 65535 by omega)
      (show params.imageLineSize.toNat ≤ 65535 by omega)
    omega
  rw [pageBytes_page]
  refine ⟨_, readHeader_page good params, rfl, count, fun commandLog => ?_⟩
  have begins : blocksOf ((0xD0A1, []) :: packetsOf body)
      = compressPage (rowsOf params.imageLineSize.toNat lines raster) :=
    (blocksOf_packetsOf inner).trans blocks
  have header : params.imageLineSize.toNat ≠ 0 ∧ params.imageLines.toNat ≠ 0 := by
    rw [count]
    exact ⟨Nat.ne_of_gt some.1, Nat.ne_of_gt some.2⟩
  have parses := @Parses.inside
    {
      stream := reader.unread (frames ((0xD0A1, []) :: packetsOf body) ++ pageEnd)
      lineSize := params.imageLineSize.toNat
      linesCount := params.imageLines.toNat
    } _ good rfl inPage header
  rw [List.nil_append, begins] at parses
  obtain ⟨final, drains, consumed, _, ended⟩ :=
    parses.decodes some.1 rowsSized (by rwa [rows]) commandLog
  obtain ⟨last, none, nothing⟩ := ended.readHeader_end
  rw [rows] at drains
  exact ⟨final, last, drains, consumed, none, nothing⟩

-----------------------------------------------------------------------------------------
-- From the raster to the raster
-----------------------------------------------------------------------------------------

/-- On a printer that is always ready a page is sent whole. -/
theorem Call.run_ready {σ : Type} [Source Fault UInt8 σ] {this : Call σ} {video : List UInt8}
    (source : Trickles this.videoStream video) (quiet : this.Quiet)
    (never : this.stopToken.left = none)
    (ready : ∀ log, AnswersReady (this.printer.stream.device log statusRequest))
    (params : PageParams) {blockSize : Nat} (positive : 1 ≤ blockSize)
    (fits : blockSize ≤ 65531) {fuel : Nat} (enough : video.length < fuel)
    : ∃ body this', (writeVideoData fuel params blockSize).run this = .ok true this'
        ∧ this'.printer.stream.log = this.printer.stream.log
            ++ (beginPage params :: beginData :: (body ++ [PageEvent.endPage])).map PageEvent.event
        ∧ Sending blockSize fuel fuel video body (.ok true) := by
  obtain ⟨R, trickle, given⟩ := source
  obtain ⟨body, outcome, this', _, sending, logs, run, _⟩ :=
    run_writeVideoData trickle fuel params positive fits quiet given
  have noStop : PageEvent.polled true ∉ body :=
    fun member => (logs.token never).2 (by simp [member])
  have answers : ∀ answer, asked answer ∈ body → AnswersReady answer := by
    intro answer member
    obtain ⟨log, rfl⟩ := logs.answers answer (by simp [member])
    exact ready log
  cases sending.completes (Nat.zero_lt_of_lt enough) enough noStop answers
  exact ⟨body, this', run, logs.log, sending⟩

section EndToEnd

variable {σ : Type} [Source Fault UInt8 σ]

/-- A raster that is compressed and sent to a printer that is always ready is decoded from
the packets of its page, whatever its size and wherever it is cut into blocks.
-/
theorem endToEnd {lineSize lines : Nat} (some : 1 ≤ lineSize ∧ 1 ≤ lines) {raster : σ}
    {content : List UInt8} (source : Supplies raster content)
    (size : content.length = lines * lineSize) {params : PageParams}
    (width : params.imageLineSize.toNat = lineSize) (height : params.imageLines.toNat = lines)
    {blockSize : Nat} (positive : 1 ≤ blockSize) (fits : blockSize ≤ 65531)
    {printer : BasicCaptPrinter} (quiet : printer.stream.Quiet)
    (ready : ∀ log, AnswersReady (printer.stream.device log statusRequest))
    {reader : IOStream} (good : reader.good)
    : ∃ enough, ∀ fuel, enough ≤ fuel →
        ∃ this' sent,
          (Call.writeVideoData fuel params blockSize).run
              ⟨printer, {}, ScoaStreambuf.construct raster lineSize lines⟩
            = .ok true this'
          ∧ this'.printer.stream.log = printer.stream.log ++ sent
          ∧ ReadsPage (reader.unread (pageBytes sent)) lineSize lines content := by
  subst width
  have small : params.imageLineSize.toNat < 2 ^ 32 :=
    params.imageLineSize.toNat_lt.trans (by decide)
  have compressed := ScoaStreambuf.construct_supplies source lines some.1 small
  rw [compress_whole some.2 size] at compressed
  generalize given : compressPage (rowsOf params.imageLineSize.toNat lines content) = video
    at compressed
  refine ⟨video.length + 1, fun fuel enough => ?_⟩
  obtain ⟨body, this', run, log, sending⟩ := @Call.run_ready _ _
    ⟨printer, {}, ScoaStreambuf.construct raster params.imageLineSize.toNat lines⟩ video
    compressed.trickles quiet rfl ready params _ positive fits fuel enough
  have blocks : payloads body = compressPage (rowsOf params.imageLineSize.toNat lines content) :=
    (sending.payloads.2 rfl).trans given.symm
  have sized : ∀ data, videoData data ∈ body → 1 ≤ data.length ∧ data.length ≤ 65531 :=
    fun data sent => ⟨(sending.sized sent).1, (sending.sized sent).2.trans fits⟩
  exact ⟨this', _, run, log, reads_page good sending.inner sized size some height blocks⟩

/-- A printer whose status answers are all ready and not busy. -/
def readyPrinter : BasicCaptPrinter where
  stream := {
    device := fun _ chunk => if Unanswered chunk then [] else PacketHeader.frame 0xE0A0 [0]
  }

/-- Nothing is unread when the call starts. -/
theorem readyPrinter_quiet : readyPrinter.stream.Quiet :=
  ⟨rfl, rfl, rfl, serves_of_packet fun _ => by decide⟩

/-- The printer is always ready. -/
theorem readyPrinter_ready (log : List Event)
    : AnswersReady (readyPrinter.stream.device log statusRequest) := by
  have answered : answeredStatus
      (if Unanswered statusRequest then [] else PacketHeader.frame 0xE0A0 [0]) = some 0 := by
    decide
  exact ⟨0, answered, by decide, by decide⟩

/-- Two rows of two bytes, in blocks of one byte. -/
theorem endToEnd_twoRows
    : ∃ enough, ∀ fuel, enough ≤ fuel →
        ∃ this' sent,
          (Call.writeVideoData fuel ⟨0, 0, 0, 0, false, false, 0, 0, 2, 2, 0, 0⟩ 1).run
              ⟨readyPrinter, {}, ScoaStreambuf.construct (⟨[1, 2, 1, 2]⟩ : MemoryStreambuf) 2 2⟩
            = .ok true this'
          ∧ this'.printer.stream.log = [] ++ sent
          ∧ ReadsPage (IOStream.unread {} (pageBytes sent)) 2 2 [1, 2, 1, 2] := by
  exact endToEnd (by decide) (MemoryStreambuf.supplies [1, 2, 1, 2]) rfl rfl rfl (by decide)
    (by decide) readyPrinter_quiet readyPrinter_ready rfl

end EndToEnd

end Capt
