import Libcapt.Compression.StreamChange
import Libcapt.Tests.EndToEnd

/-! What the packet reader of the decoder program reads of one page where more packets follow. -/

namespace Capt.VideoDataStreambuf

open Streams Compression Protocol

variable {stream : IOStream} {tail : List UInt8}

-----------------------------------------------------------------------------------------
-- The blocks of a page
-----------------------------------------------------------------------------------------

/-- As long as a block is left the loop gives the next one, whatever follows the packets; by
induction on them.
-/
theorem run_nextBuffer_block (good : stream.good) {packets : List Packet}
    (inPage : ∀ packet ∈ packets, InPage packet) (more : blocksOf packets ≠ []) {fuel : Nat}
    (enough : packets.length ≤ fuel)
    : ∃ buffer later, buffer ≠ [] ∧ blocksOf packets = buffer ++ blocksOf later
        ∧ (∀ packet ∈ later, InPage packet)
        ∧ (nextBuffer fuel).run (stream.unread (frames packets ++ tail))
          = .ok (some buffer) (stream.unread (frames later ++ tail)) := by
  induction packets generalizing fuel with
  | nil => exact absurd rfl more
  | cons packet packets ih =>
      obtain ⟨turns, rfl⟩ :=
        Nat.exists_eq_succ_of_ne_zero (Nat.ne_of_gt (Nat.zero_lt_of_lt enough))
      obtain ⟨opcode, payload⟩ := packet
      have first := inPage (opcode, payload) List.mem_cons_self
      have others := fun packet member => inPage packet (List.mem_cons_of_mem _ member)
      unfold nextBuffer
      rw [frames_cons, List.append_assoc]
      by_cases block : opcode = 0xC0A0
      · cases block
        exact ⟨payload, packets, first.filled rfl, rfl, others,
          run_bind_ok (run_turn_filled good first.fits)⟩
      · have goesOn : ¬ (opcode = 3 ∨ opcode = 0xD0A2) :=
          fun ends => ends.elim first.opcode.1 first.opcode.2.1
        have skipped := @run_turn_skipped stream (frames packets ++ tail) opcode payload good
          first.fits goesOn block
        have none : blocksOf ((opcode, payload) :: packets) = blocksOf packets := by
          rw [blocksOf, List.flatMap_cons, if_neg block]
          rfl
        rw [none] at more ⊢
        rw [run_bind_ok skipped]
        exact ih others more (Nat.le_of_succ_le_succ enough)

/-- The buffer has the symbols next: the rest of its block, and the blocks of packets that are
on the stream before `tail`.
-/
structure Stocked (tail : List UInt8) (this : VideoDataStreambuf) (symbols : List UInt8)
    : Prop where
  good : this.stream.good
  header : this.lineSize ≠ 0 ∧ this.linesCount ≠ 0
  blocks
    : ∃ packets, (∀ packet ∈ packets, InPage packet)
        ∧ this.stream.input = frames packets ++ tail ∧ symbols = this.area ++ blocksOf packets

/-- One byte of the video, which may be in the get area or in the next packet. -/
theorem Stocked.sbumpc {this : VideoDataStreambuf} {b : UInt8} {rest : List UInt8}
    (h : Stocked tail this (b :: rest))
    : ∃ this', (Streambuf.sbumpc : Action VideoDataStreambuf (Option UInt8)).run this
          = .ok (some b) this'
        ∧ Stocked tail this' rest := by
  obtain ⟨packets, inPage, input, symbols⟩ := h.blocks
  cases left : this.area with
  | cons c more =>
      rw [left] at symbols
      cases symbols
      refine ⟨_, Streambuf.run_sbumpc_area left, h.good, h.header, packets, inPage, input, ?_⟩
      change more ++ blocksOf packets = this.area.drop 1 ++ blocksOf packets
      rw [left]
      rfl
  | nil =>
      rw [left, List.nil_append] at symbols
      have some : blocksOf packets ≠ [] := by
        rw [← symbols]
        exact List.cons_ne_nil _ _
      have enough : packets.length ≤ this.stream.input.length + 1 := by
        have least := frames_length packets
        rw [input, List.length_append]
        omega
      have same : this.stream.unread (frames packets ++ tail) = this.stream := by
        rw [← input]
        rfl
      obtain ⟨buffer, later, filled, blocks, others, run⟩ :=
        @run_nextBuffer_block this.stream tail h.good packets inPage some _ enough
      rw [same] at run
      have refilled := run_underflow h.good left h.header run (by simpa using filled)
      rw [blocks] at symbols
      cases buffer with
      | nil => exact absurd rfl filled
      | cons c more =>
          cases symbols
          exact ⟨{ this with stream := this.stream.unread (frames later ++ tail), area := more },
            Streambuf.run_sbumpc_refill left refilled rfl, h.good, h.header, later, others, rfl,
            rfl⟩

/-- The buffer gives the blocks of the page, whatever the packets behind them. -/
theorem stocks_stocked (tail : List UInt8) : Stocks (Stocked tail) where
  sgetn := fun {s} front {rest} holds =>
    Streambuf.run_xsgetn_front (R := Stocked tail) (fun holds => holds.sbumpc) front holds
  sbumpc := fun holds => holds.sbumpc
  bound := by
    intro this symbols holds
    obtain ⟨packets, _, input, rfl⟩ := holds.blocks
    change (this.area ++ blocksOf packets).length ≤ this.area.length + this.stream.input.length
    have least := blocksOf_length packets
    rw [input, List.length_append, List.length_append]
    omega

-----------------------------------------------------------------------------------------
-- The header of the next page
-----------------------------------------------------------------------------------------

/-- The loop finds the header of a page behind other packets, by induction on these. -/
theorem run_pageFields_behind (good : stream.good) {packets : List Packet}
    (others : ∀ packet ∈ packets, packet.2.length ≤ 65531 ∧ packet.1 ≠ 0xD0A0)
    {payload rest : List UInt8} (large : 33 ≤ payload.length) (fits : payload.length ≤ 65531)
    {fuel : Nat} (enough : packets.length < fuel) {s : Scope IOStream Unit}
    {packet : StreamPacket Unit}
    (discarded
      : StreamPacket.discard.run s
        = .ok () ⟨stream.unread (frames packets ++ (PacketHeader.frame 0xD0A0 payload ++ rest)),
            packet⟩)
    : (pageFields fuel).run s
      = .ok (some (field payload 26, field payload 28))
          (StreamPacket.reading stream ⟨0xD0A0, UInt16.ofNat payload.length⟩ [] rest) := by
  induction packets generalizing fuel s packet with
  | nil =>
      obtain ⟨turns, rfl⟩ := Nat.exists_eq_succ_of_ne_zero (Nat.ne_of_gt enough)
      have fresh := @run_pageFields_page stream rest good payload turns large fits
      have extracted := StreamPacket.run_extract_after good fits discarded
      unfold pageFields at fresh ⊢
      rw [run_bind_ok (StreamPacket.run_extract_first good fits)] at fresh
      rw [run_bind_ok extracted]
      exact fresh
  | cons first packets ih =>
      obtain ⟨turns, rfl⟩ :=
        Nat.exists_eq_succ_of_ne_zero (Nat.ne_of_gt (Nat.zero_lt_of_lt enough))
      obtain ⟨short, other⟩ := others first List.mem_cons_self
      rw [frames_cons, List.append_assoc] at discarded
      have extracted := StreamPacket.run_extract_after good short discarded
      have passed := @StreamPacket.run_discard stream ⟨first.1, UInt16.ofNat first.2.length⟩ first.2
        (frames packets ++ (PacketHeader.frame 0xD0A0 payload ++ rest)) good
      have found := ih (fun packet member => others packet (List.mem_cons_of_mem _ member))
        (Nat.lt_of_succ_lt_succ enough) passed
      unfold pageFields
      rw [run_bind_ok extracted, run_get_bind]
      simp only [reading_outer, reading_header, good, other, Bool.not_true, Bool.false_eq_true,
        ↓reduceIte]
      exact found

/-- The fields of the next page are read, and then the reader is before its packets. -/
theorem readHeader_behind (good : stream.good) {packets : List Packet}
    (others : ∀ packet ∈ packets, packet.2.length ≤ 65531 ∧ packet.1 ≠ 0xD0A0)
    (params : PageParams) (rest : List UInt8)
    : readHeader.run (construct (stream.unread (frames packets
          ++ (PacketHeader.frame 0xD0A0 (pageHeader params).payload ++ rest))))
      = .ok true {
          stream := stream.unread rest
          lineSize := params.imageLineSize.toNat
          linesCount := params.imageLines.toNat
        } := by
  have large : 33 ≤ (pageHeader params).payload.length := by
    rw [pageHeader_length]
    decide
  have fits := pageHeader_fits params
  obtain ⟨first, second⟩ := pageHeader_fields params
  have enough : packets.length < (frames packets
      ++ (PacketHeader.frame 0xD0A0 (pageHeader params).payload ++ rest)).length + 1 := by
    have least := frames_length packets
    rw [List.length_append]
    omega
  have run : (pageFields ((frames packets
        ++ (PacketHeader.frame 0xD0A0 (pageHeader params).payload ++ rest)).length + 1)).run
        ⟨stream.unread (frames packets
          ++ (PacketHeader.frame 0xD0A0 (pageHeader params).payload ++ rest)), {}⟩
      = .ok _ (StreamPacket.reading stream _ [] rest) :=
    run_pageFields_behind good others large fits enough rfl
  rw [first, second] at run
  rw [@run_readHeader (construct (stream.unread (frames packets
    ++ (PacketHeader.frame 0xD0A0 (pageHeader params).payload ++ rest)))) _ _ run,
    StreamPacket.run_discard good]
  rfl

end Capt.VideoDataStreambuf
