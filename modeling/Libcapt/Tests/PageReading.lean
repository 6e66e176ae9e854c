import Libcapt.Core.PacketFraming
import Libcapt.Tests.VideoDataStreambuf

/-! What the packet reader of the decoder program reads from the packets of a page. -/

namespace Capt.VideoDataStreambuf

open Streams StreamPacket

/-- The payloads of the blocks among packets. -/
def blocksOf (packets : List Packet) : List UInt8 :=
  packets.flatMap fun packet => if packet.1 = 0xC0A0 then packet.2 else []

/-- A packet that may stand between the header and the end of a page. -/
structure InPage (packet : Packet) : Prop where
  fits : packet.2.length ≤ 65531
  opcode : packet.1 ≠ 3 ∧ packet.1 ≠ 0xD0A2 ∧ packet.1 ≠ 0xD0A0
  filled : packet.1 = 0xC0A0 → packet.2 ≠ []

/-- The packet that ends a page. -/
def pageEnd : List UInt8 := PacketHeader.frame 0xD0A2 []

variable {stream : IOStream} {rest : List UInt8}

/-- The stream after a read that met its end. -/
def failed (stream : IOStream) : IOStream :=
  { stream with input := [], good := false }

/-- A failed stream is not good. -/
theorem failed_bad (stream : IOStream) : ¬ (failed stream).good := Bool.false_ne_true

/-- At the end of the stream an extraction leaves the stream bad. -/
theorem run_extract_end (good : stream.good) {s : Scope IOStream Unit}
    {packet : StreamPacket Unit} (discarded : discard.run s = .ok () ⟨stream.unread [], packet⟩)
    : ∃ packet', (extract ()).run s = .ok () ⟨failed stream, packet'⟩ := by
  have first : (IOStream.readLittle 2).run (stream.unread [])
      = .ok (littleValue ((stream.unread []).memory 2 [])) (failed stream) :=
    IOStream.run_readLittle_short (show (stream.unread []).good from good)
      (show (stream.unread []).input.length < 2 from Nat.two_pos)
  have second := IOStream.run_readLittle_bad (failed_bad stream) 2
  have header := PacketHeader.run_extract_bad first second (failed_bad stream) packet.header
  exact ⟨_, run_extract_header discarded header⟩

/-- The destructor of a packet does not touch a bad stream. -/
theorem discard_bad (bad : ¬ stream.good) (packet : StreamPacket Unit)
    : (after (discard.run (⟨stream, packet⟩ : Scope IOStream Unit))).outer = stream := by
  unfold StreamPacket.discard
  rw [run_get_bind]
  dsimp only
  split
  · rfl
  · cases packet.stream with
    | none => rfl
    | some _ =>
        dsimp only [HasStreams.stream]
        rw [if_neg bad]
        rfl

/-- Every turn at the end of the stream ends the loop. -/
theorem run_takePacket_end (good : stream.good) (nothing : stream.input = [])
    : (withPacket takePacket).run stream = .ok .eof (failed stream) := by
  have same : stream.unread [] = stream := by
    rw [← nothing]
    rfl
  have discarded : StreamPacket.discard.run (⟨stream, {}⟩ : Scope IOStream Unit)
      = .ok () ⟨stream.unread [], {}⟩ := by
    rw [same]
    rfl
  obtain ⟨packet, extracted⟩ := run_extract_end good discarded
  have taken : takePacket.run ⟨stream, {}⟩ = .ok .eof ⟨failed stream, packet⟩ :=
    run_bind_ok extracted
  rw [run_withPacket_ok taken, discard_bad (failed_bad stream)]

/-- The header of the packet that is read. -/
@[simp]
theorem reading_header {header : PacketHeader} {left : List UInt8}
    : (reading stream header left rest).packet.header = header :=
  rfl

/-- The stream under the packet. -/
@[simp]
theorem reading_outer {header : PacketHeader} {left : List UInt8}
    : (reading stream header left rest).outer.good = stream.good :=
  rfl

section Turns

variable {opcode : UInt16} {payload : List UInt8}

/-- A turn leaves the stream behind its packet, whatever it took of the packet. -/
theorem run_turn (good : stream.good) {value : Turn} (left : List UInt8)
    (taken
      : takePacket.run ⟨stream.unread (PacketHeader.frame opcode payload ++ rest), {}⟩
        = .ok value (reading stream ⟨opcode, UInt16.ofNat payload.length⟩ left rest))
    : (withPacket takePacket).run
        (stream.unread (PacketHeader.frame opcode payload ++ rest))
      = .ok value (stream.unread rest) := by
  rw [run_withPacket_ok taken, run_discard good]
  rfl

/-- A packet that ends the page gives an end of file. -/
theorem run_turn_last (good : stream.good) (fits : payload.length ≤ 65531)
    (ends : opcode = 3 ∨ opcode = 0xD0A2)
    : (withPacket takePacket).run
        (stream.unread (PacketHeader.frame opcode payload ++ rest))
      = .ok .eof (stream.unread rest) := by
  refine run_turn good payload (Eq.trans (run_bind_ok (run_extract_first good fits)) ?_)
  rw [run_get_bind]
  simp only [reading_outer, reading_header, good, ends, Bool.not_true, Bool.false_eq_true,
    ↓reduceIte]
  rfl

/-- A packet that is no video data is skipped. -/
theorem run_turn_skipped (good : stream.good) (fits : payload.length ≤ 65531)
    (goesOn : ¬ (opcode = 3 ∨ opcode = 0xD0A2)) (other : opcode ≠ 0xC0A0)
    : (withPacket takePacket).run
        (stream.unread (PacketHeader.frame opcode payload ++ rest))
      = .ok .skipped (stream.unread rest) := by
  refine run_turn good payload (Eq.trans (run_bind_ok (run_extract_first good fits)) ?_)
  rw [run_get_bind]
  simp only [reading_outer, reading_header, good, goesOn, other, Bool.not_true,
    Bool.false_eq_true, ↓reduceIte]
  rfl

/-- Video data is given as a block. -/
theorem run_turn_filled (good : stream.good) (fits : payload.length ≤ 65531)
    : (withPacket takePacket).run
        (stream.unread (PacketHeader.frame 0xC0A0 payload ++ rest))
      = .ok (.filled payload) (stream.unread rest) := by
  have size : (UInt16.ofNat payload.length).toNat = payload.length :=
    UInt16.toNat_ofNat_of_lt (Nat.lt_of_le_of_lt fits (by decide))
  have read := @run_readBytes stream ⟨0xC0A0, UInt16.ofNat payload.length⟩ payload rest good
    payload.length (Nat.le_refl _)
  rw [List.take_length, List.drop_length] at read
  have goesOn : ¬ ((0xC0A0 : UInt16) = 3 ∨ (0xC0A0 : UInt16) = 0xD0A2) := by decide
  refine run_turn good [] (Eq.trans (run_bind_ok (run_extract_first good fits)) ?_)
  rw [run_get_bind]
  simp only [reading_outer, reading_header, good, goesOn, size, Bool.not_true,
    Bool.false_eq_true, ↓reduceIte]
  rw [run_bind_ok read, run_get_bind]
  simp only [reading_outer, good, Bool.not_true, Bool.false_eq_true, ↓reduceIte]
  rfl

end Turns

/-- Every packet takes at least one byte. -/
theorem frames_length (packets : List Packet) : packets.length ≤ (frames packets).length := by
  induction packets with
  | nil => exact Nat.le_refl 0
  | cons packet packets ih =>
      rw [frames_cons, List.length_append, List.length_cons]
      have header : 1 ≤ (PacketHeader.frame packet.1 packet.2).length := by
        simp [PacketHeader.frame]
        omega
      omega

/-- The loop gives the next block, or nothing at the end of the page; by induction on the
packets.
-/
theorem run_nextBuffer (good : stream.good) {packets : List Packet}
    (inPage : ∀ packet ∈ packets, InPage packet) {fuel : Nat} (enough : packets.length < fuel)
    : (blocksOf packets = []
        ∧ (nextBuffer fuel).run (stream.unread (frames packets ++ pageEnd))
          = .ok none (stream.unread []))
      ∨ ∃ buffer later, buffer ≠ [] ∧ blocksOf packets = buffer ++ blocksOf later
          ∧ (∀ packet ∈ later, InPage packet)
          ∧ (nextBuffer fuel).run (stream.unread (frames packets ++ pageEnd))
            = .ok (some buffer) (stream.unread (frames later ++ pageEnd)) := by
  obtain ⟨turns, rfl⟩ : ∃ turns, fuel = turns + 1 := ⟨fuel - 1, by omega⟩
  unfold nextBuffer
  induction packets generalizing turns with
  | nil =>
      left
      have last : (withPacket takePacket).run (stream.unread pageEnd)
          = .ok .eof (stream.unread []) := by
        have ended := @run_turn_last stream [] 0xD0A2 [] good (Nat.zero_le _) (Or.inr rfl)
        rwa [List.append_nil] at ended
      exact ⟨rfl, run_bind_ok last⟩
  | cons packet packets ih =>
      obtain ⟨opcode, payload⟩ := packet
      have this := inPage (opcode, payload) List.mem_cons_self
      have others := fun packet member => inPage packet (List.mem_cons_of_mem _ member)
      rw [frames_cons, List.append_assoc]
      by_cases block : opcode = 0xC0A0
      · cases block
        right
        exact ⟨payload, packets, this.filled rfl, rfl, others,
          run_bind_ok (run_turn_filled good this.fits)⟩
      · have goesOn : ¬ (opcode = 3 ∨ opcode = 0xD0A2) :=
          fun ends => ends.elim this.opcode.1 this.opcode.2.1
        have skipped := @run_turn_skipped stream (frames packets ++ pageEnd) opcode payload good
          this.fits goesOn block
        have none : blocksOf ((opcode, payload) :: packets) = blocksOf packets := by
          rw [blocksOf, List.flatMap_cons, if_neg block]
          rfl
        obtain ⟨more, rfl⟩ : ∃ more, turns = more + 1 := ⟨turns - 1, by
          rw [List.length_cons] at enough
          omega⟩
        have next := ih others more (Nat.lt_of_succ_lt_succ enough)
        rw [run_bind_ok skipped, none]
        exact next

-----------------------------------------------------------------------------------------
-- The payloads as a stream buffer
-----------------------------------------------------------------------------------------

/-- What the buffer has still to give: the rest of its block and the blocks before the end of
the page, or nothing at the end of the stream.
-/
inductive Parses : VideoDataStreambuf → List UInt8 → Prop
  | inside {this : VideoDataStreambuf} {packets : List Packet} (good : this.stream.good)
    (input : this.stream.input = frames packets ++ pageEnd)
    (inPage : ∀ packet ∈ packets, InPage packet)
    (header : this.lineSize ≠ 0 ∧ this.linesCount ≠ 0)
    : Parses this (this.area ++ blocksOf packets)
  | ended {this : VideoDataStreambuf} (input : this.stream.input = [])
    (header : this.lineSize ≠ 0 ∧ this.linesCount ≠ 0)
    : Parses this this.area

variable {this : VideoDataStreambuf} {symbols : List UInt8}

/-- What the stream does under the buffer. -/
theorem run_onStream {α : Type} {action : Action IOStream α} {stream' : IOStream} {value : α}
    (h : action.run this.stream = .ok value stream')
    : (VideoDataStreambuf.onStream action).run this
      = .ok value { this with stream := stream' } := by
  unfold VideoDataStreambuf.onStream
  exact run_zoom_ok h

/-- With an empty get area, the loop is run unless the stream is bad. -/
theorem run_underflow (good : this.stream.good) (empty : this.area = [])
    (header : this.lineSize ≠ 0 ∧ this.linesCount ≠ 0) {stream' : IOStream}
    {buffer : Option (List UInt8)}
    (read : (nextBuffer (this.stream.input.length + 1)).run this.stream = .ok buffer stream')
    (filled : buffer ≠ some [])
    : underflow.run this
      = .ok (buffer.bind List.head?)
          { this with stream := stream', area := buffer.getD [] } := by
  have set : ¬ (this.lineSize = 0 ∨ this.linesCount = 0) := not_or.mpr header
  unfold underflow
  rw [run_get_bind]
  simp only [good, empty, set, Bool.not_true, Bool.false_eq_true, ↓reduceIte]
  rw [run_bind_ok (run_onStream read)]
  cases buffer with
  | none =>
      rw [← empty]
      rfl
  | some buffer =>
      cases buffer with
      | nil => exact absurd rfl filled
      | cons b rest => rfl

/-- On a stream that is not good there is no byte. -/
theorem run_underflow_bad (bad : ¬ this.stream.good)
    : underflow.run this = .ok none this := by
  unfold underflow
  rw [run_get_bind]
  simp only [bad, Bool.not_false, ↓reduceIte]
  rfl

/-- The next block of the page, or the end of the page. -/
theorem Parses.underflow (h : Parses this symbols) (empty : this.area = [])
    : ∃ this', underflow.run this = .ok symbols.head? this' ∧ Parses this' symbols
        ∧ (symbols ≠ [] → this'.area ≠ []) := by
  cases h with
  | @inside packets good input inPage header =>
      rw [empty, List.nil_append]
      have enough : packets.length < this.stream.input.length + 1 := by
        rw [input, List.length_append]
        have := frames_length packets
        omega
      have same : this.stream.unread (frames packets ++ pageEnd) = this.stream := by
        rw [← input]
        rfl
      rcases run_nextBuffer good inPage enough with
        ⟨nothing, run⟩ | ⟨buffer, later, some, blocks, others, run⟩
      · rw [same] at run
        refine ⟨{ this with stream := this.stream.unread [], area := [] }, ?_, ?_, ?_⟩
        · rw [run_underflow good empty header run nofun, nothing]
          rfl
        · rw [nothing]
          exact .ended rfl header
        · exact fun some => absurd nothing some
      · rw [same] at run
        refine ⟨{ this with
          stream := this.stream.unread (frames later ++ pageEnd)
          area := buffer }, ?_, ?_, fun _ => some⟩
        · rw [run_underflow good empty header run (by simpa using some), blocks]
          cases buffer with
          | nil => exact absurd rfl some
          | cons b rest => rfl
        · rw [blocks]
          exact .inside good rfl others header
  | ended input header =>
      rw [empty]
      by_cases good : this.stream.good
      · have read : (nextBuffer (this.stream.input.length + 1)).run this.stream
            = .ok none (failed this.stream) :=
          run_bind_ok (run_takePacket_end good input)
        refine ⟨{ this with stream := failed this.stream, area := [] }, ?_, .ended rfl header,
          fun some => absurd rfl some⟩
        rw [run_underflow good empty header read nofun]
        rfl
      · refine ⟨this, run_underflow_bad good, ?_, fun some => absurd rfl some⟩
        rw [← empty]
        exact .ended input header

/-- The reading members give the payloads of the blocks one after another. -/
theorem parses_refills : Streambuf.Refills Parses where
  front := fun {this symbols} h => by
    change this.area <+: symbols
    cases h with
    | inside _ _ _ _ => exact List.prefix_append ..
    | ended _ _ => exact List.prefix_refl _
  gbump := fun {this symbols b rest} h left => by
    change this.area = b :: rest at left
    change Parses { this with area := this.area.drop 1 } symbols.tail
    cases h with
    | inside good input inPage header =>
        rw [left]
        exact .inside good input inPage header
    | ended input header =>
        rw [left]
        exact .ended input header
  underflow := fun h empty => h.underflow empty

/-- There are no more bytes of video than bytes of packets. -/
theorem blocksOf_length (packets : List Packet)
    : (blocksOf packets).length ≤ (frames packets).length := by
  induction packets with
  | nil => exact Nat.le_refl 0
  | cons packet packets ih =>
      rw [blocksOf, List.flatMap_cons, frames_cons, List.length_append, List.length_append]
      have payload : (if packet.1 = 0xC0A0 then packet.2 else []).length
          ≤ (PacketHeader.frame packet.1 packet.2).length := by
        split
        · simp [PacketHeader.frame]
          omega
        · exact Nat.zero_le _
      exact Nat.add_le_add payload ih

/-- What is left to parse is bounded by what is left in the stream. -/
theorem Parses.bound (h : Parses this symbols)
    : symbols.length ≤ FiniteSource.bound this := by
  change symbols.length ≤ this.area.length + this.stream.input.length
  cases h with
  | @inside packets _ input _ _ =>
      rw [input, List.length_append, List.length_append]
      have := blocksOf_length packets
      omega
  | ended _ _ => omega

/-- The buffer supplies the video of the page. -/
theorem Parses.supplies (h : Parses this symbols) : SuppliesFinitely this symbols :=
  ⟨Parses, parses_refills.isSupply, fun _ _ h => h.bound, h⟩

-----------------------------------------------------------------------------------------
-- The header
-----------------------------------------------------------------------------------------

/-- A field of the payload is the number that two bytes were written as. -/
theorem field_eq {payload front rest : List UInt8} {value : UInt16}
    (split : payload = front ++ (littleBytes 2 value.toNat ++ rest))
    : field payload front.length = value.toNat := by
  obtain ⟨low, high, two⟩ : ∃ low high, littleBytes 2 value.toNat = [low, high] :=
    ⟨_, _, rfl⟩
  have number : littleValue (littleBytes 2 value.toNat) = value.toNat :=
    littleValue_littleBytes_of_lt value.toNat_lt
  rw [two, littleValue_cons, littleValue_singleton] at number
  have first : payload.getD front.length 0 = low := by
    rw [split, two, List.getD_eq_getElem?_getD, List.getElem?_append_right (Nat.le_refl _),
      Nat.sub_self]
    rfl
  have second : payload.getD (front.length + 1) 0 = high := by
    rw [split, two, List.getD_eq_getElem?_getD, List.getElem?_append_right (Nat.le_add_right _ 1),
      Nat.add_sub_cancel_left]
    rfl
  rw [field, first, second, ← Nat.shiftLeft_add_eq_or_of_lt low.toNat_lt, Nat.shiftLeft_eq]
  omega

/-- The header of a page gives its fields. -/
theorem run_pageFields_page (good : stream.good) {payload : List UInt8} (fuel : Nat)
    (large : 33 ≤ payload.length) (fits : payload.length ≤ 65531)
    : (pageFields (fuel + 1)).run ⟨stream.unread (PacketHeader.frame 0xD0A0 payload ++ rest), {}⟩
      = .ok (some (field payload 26, field payload 28))
          (reading stream ⟨0xD0A0, UInt16.ofNat payload.length⟩ [] rest) := by
  have size : (UInt16.ofNat payload.length).toNat = payload.length :=
    UInt16.toNat_ofNat_of_lt (Nat.lt_of_le_of_lt fits (by decide))
  have enough : ¬ UInt16.ofNat payload.length < 33 := by
    rw [UInt16.lt_iff_toNat_lt, size]
    exact Nat.not_lt.mpr large
  have read := @run_readBytes stream ⟨0xD0A0, UInt16.ofNat payload.length⟩ payload rest good
    payload.length (Nat.le_refl _)
  rw [List.take_length, List.drop_length] at read
  unfold pageFields
  rw [run_bind_ok (run_extract_first good fits), run_get_bind]
  simp only [reading_outer, reading_header, good, enough, size, Bool.not_true,
    Bool.false_eq_true, ↓reduceIte]
  rw [run_bind_ok read, run_get_bind]
  simp only [reading_outer, good, Bool.not_true, Bool.false_eq_true, ↓reduceIte]
  rfl

/-- Behind the header of the last page there is none, by induction on the packets. -/
theorem run_pageFields_none (good : stream.good) {packets : List Packet}
    (others : ∀ packet ∈ packets, packet.2.length ≤ 65531 ∧ packet.1 ≠ 0xD0A0) {fuel : Nat}
    (enough : packets.length < fuel) {s : Scope IOStream Unit} {packet : StreamPacket Unit}
    (discarded
      : StreamPacket.discard.run s = .ok () ⟨stream.unread (frames packets), packet⟩)
    : ∃ packet', (pageFields fuel).run s = .ok none ⟨failed stream, packet'⟩ := by
  obtain ⟨turns, rfl⟩ : ∃ turns, fuel = turns + 1 := ⟨fuel - 1, by omega⟩
  induction packets generalizing turns s packet with
  | nil =>
      obtain ⟨packet', extracted⟩ := run_extract_end good discarded
      refine ⟨packet', ?_⟩
      unfold pageFields
      exact run_bind_ok extracted
  | cons first packets ih =>
      obtain ⟨fits, other⟩ := others first List.mem_cons_self
      rw [frames_cons] at discarded
      have extracted := run_extract_after good fits discarded
      obtain ⟨more, rfl⟩ : ∃ more, turns = more + 1 := ⟨turns - 1, by
        rw [List.length_cons] at enough
        omega⟩
      obtain ⟨packet', run⟩ := ih
        (fun packet member => others packet (List.mem_cons_of_mem _ member))
        (run_discard good) more (Nat.lt_of_succ_lt_succ enough)
      refine ⟨packet', ?_⟩
      unfold pageFields
      rw [run_bind_ok extracted, run_get_bind]
      simp only [reading_outer, reading_header, good, other, Bool.not_true, Bool.false_eq_true,
        ↓reduceIte]
      exact run

/-- There is no header on a bad stream. -/
theorem run_pageFields_bad (bad : ¬ stream.good) (fuel : Nat)
    : ∃ packet', (pageFields (fuel + 1)).run ⟨stream, {}⟩ = .ok none ⟨stream, packet'⟩ := by
  have number := IOStream.run_readLittle_bad bad 2
  have header := PacketHeader.run_extract_bad number number bad {}
  have extracted : (extract ()).run (⟨stream, {}⟩ : Scope IOStream Unit)
      = .ok () ⟨stream, ⟨some (), 0, ⟨0, 0⟩⟩⟩ :=
    @run_extract_header stream ⟨stream, {}⟩ {} stream ⟨0, 0⟩ rfl header
  refine ⟨⟨some (), 0, ⟨0, 0⟩⟩, ?_⟩
  unfold pageFields
  rw [run_bind_ok extracted, run_get_bind]
  simp only [bad, Bool.not_false, ↓reduceIte]
  rfl

/-- The fields that the loop gives are stored. -/
theorem run_readHeader {fields : Option (Nat × Nat)} {s : Scope IOStream Unit}
    (run
      : (pageFields (this.stream.input.length + 1)).run ⟨this.stream, {}⟩ = .ok fields s)
    : readHeader.run this
      = .ok fields.isSome {
          area := this.area
          stream := (after (StreamPacket.discard.run s)).outer
          lineSize := (fields.map Prod.fst).getD this.lineSize
          linesCount := (fields.map Prod.snd).getD this.linesCount
        } := by
  unfold readHeader
  rw [run_get_bind, run_bind_ok (run_onStream (run_withPacket_ok run))]
  cases fields with
  | none => rfl
  | some fields => rfl

end Capt.VideoDataStreambuf
