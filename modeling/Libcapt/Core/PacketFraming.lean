import Libcapt.Core.PacketReading

/-! Packets written one after another are read back one by one, whatever part of each the
reader takes.
-/

namespace Capt

open Streams

-----------------------------------------------------------------------------------------
-- Operations on a packet
-----------------------------------------------------------------------------------------

/-- What a reader can do with a packet. A moved packet is replaced by the one that was
move-constructed from it.
-/
inductive PacketOperation where
  | readByte
  | readUint16
  | readUint32
  | readBytes (n : Nat)
  | discard
  | move

/-- What a read of a packet gives. -/
inductive PacketValue where
  | none
  | byte (value : UInt8)
  | uint16 (value : UInt16)
  | uint32 (value : UInt32)
  | bytes (value : List UInt8)
  deriving DecidableEq

namespace PacketOperation

/-- What an operation does. -/
def perform : PacketOperation → Action (Scope IOStream Unit) PacketValue
  | readByte => do
    let value ← StreamPacket.readByte
    return .byte value
  | readUint16 => do
    let value ← StreamPacket.readUint16
    return .uint16 value
  | readUint32 => do
    let value ← StreamPacket.readUint32
    return .uint32 value
  | readBytes n => do
    let value ← StreamPacket.readBytes n
    return .bytes value
  | discard => do
    StreamPacket.discard
    return .none
  | move => do
    let s ← get
    -- the destructor of the packet that was moved from
    set { s with packet := s.packet.moved.2 }
    StreamPacket.discard
    modify fun other => { other with packet := s.packet.moved.1 }
    return .none

/-- Takes `size` bytes of the payload if there are that many. -/
def taking (size : Nat) (value : List UInt8 → PacketValue) (left : List UInt8)
    : Except Fault PacketValue × List UInt8 :=
  if size ≤ left.length then (.ok (value (left.take size)), left.drop size)
  else (.error (.outOfRange "packet payload EOF"), left)

/-- What an operation gives, by what is left of the payload, and what it leaves. -/
def meaning : PacketOperation → List UInt8 → Except Fault PacketValue × List UInt8
  | readByte, left => taking 1 (fun bytes => .byte (UInt8.ofNat (littleValue bytes))) left
  | readUint16, left => taking 2 (fun bytes => .uint16 (UInt16.ofNat (littleValue bytes))) left
  | readUint32, left => taking 4 (fun bytes => .uint32 (UInt32.ofNat (littleValue bytes))) left
  | readBytes n, left => taking n .bytes left
  | discard, _ => (.ok .none, [])
  | move, left => (.ok .none, left)

variable {stream : IOStream} {header : PacketHeader} {left rest : List UInt8}

/-- A read that takes bytes off the payload, or throws and takes none. -/
theorem run_taking {read : Action (Scope IOStream Unit) PacketValue} (size : Nat)
    (value : List UInt8 → PacketValue)
    (full
      : size ≤ left.length →
        read.run (StreamPacket.reading stream header left rest)
          = .ok (value (left.take size))
              (StreamPacket.reading stream header (left.drop size) rest))
    (past
      : left.length < size →
        read.run (StreamPacket.reading stream header left rest)
          = .error (.outOfRange "packet payload EOF")
              (StreamPacket.reading stream header left rest))
    : (attempt read).run (StreamPacket.reading stream header left rest)
      = .ok (taking size value left).1
          (StreamPacket.reading stream header (taking size value left).2 rest) := by
  unfold taking
  by_cases fits : size ≤ left.length
  · rw [if_pos fits]
    exact run_attempt_ok (full fits)
  · rw [if_neg fits]
    exact run_attempt_error (past (Nat.lt_of_not_le fits))

/-- Each operation does to the packet what it means for the payload. -/
theorem run_perform (good : stream.good) (operation : PacketOperation)
    : (attempt operation.perform).run (StreamPacket.reading stream header left rest)
      = .ok (operation.meaning left).1
          (StreamPacket.reading stream header (operation.meaning left).2 rest) := by
  cases operation with
  | readByte =>
      apply run_taking 1
      · intro fits
        exact run_bind_ok (run_bind_ok (StreamPacket.run_readInt good fits))
      · intro past
        exact run_bind_error (run_bind_error (StreamPacket.run_readInt_past past))
  | readUint16 =>
      apply run_taking 2
      · intro fits
        exact run_bind_ok (run_bind_ok (StreamPacket.run_readInt good fits))
      · intro past
        exact run_bind_error (run_bind_error (StreamPacket.run_readInt_past past))
  | readUint32 =>
      apply run_taking 4
      · intro fits
        exact run_bind_ok (run_bind_ok (StreamPacket.run_readInt good fits))
      · intro past
        exact run_bind_error (run_bind_error (StreamPacket.run_readInt_past past))
  | readBytes n =>
      apply run_taking n
      · intro fits
        exact run_bind_ok (StreamPacket.run_readBytes good fits)
      · intro past
        exact run_bind_error (StreamPacket.run_readBytes_past past)
  | discard =>
      apply run_attempt_ok
      unfold perform
      rw [run_bind_ok (StreamPacket.run_discard good)]
      rfl
  | move => rfl

end PacketOperation

-----------------------------------------------------------------------------------------
-- Reading packets
-----------------------------------------------------------------------------------------

/-- An operation as its caller sees it: the outcome, `Remain()` after it, and the bytes
then still to come from the stream.
-/
structure Observation where
  outcome : Except Fault PacketValue
  remain : Nat
  unread : List UInt8

/-- A packet as its reader sees it: `Header` and `Remain()` after the extraction, and
every operation.
-/
structure Received where
  header : PacketHeader
  remain : Nat
  observations : List Observation

/-- The operations in order, with what is observed behind each of them. -/
def performAll : List PacketOperation → Action (Scope IOStream Unit) (List Observation)
  | [] => return []
  | operation :: operations => do
    let outcome ← attempt operation.perform
    let s ← get
    let others ← performAll operations
    return ⟨outcome, s.packet.remain, s.outer.input⟩ :: others

/-- Extracts one packet for each list of operations, and performs these on it. -/
def readPackets : List (List PacketOperation) → Action (Scope IOStream Unit) (List Received)
  | [] => return []
  | operations :: plan => do
    StreamPacket.extract ()
    let s ← get
    let observations ← performAll operations
    let others ← readPackets plan
    return ⟨s.packet.header, s.packet.remain, observations⟩ :: others

/-- What is seen of a payload with `rest` behind it. -/
def observe : List PacketOperation → List UInt8 → List UInt8 → List Observation
  | [], _, _ => []
  | operation :: operations, left, rest =>
    let (outcome, after) := operation.meaning left
    ⟨outcome, after.length, after ++ rest⟩ :: observe operations after rest

/-- A packet to be written: its opcode and its payload. -/
abbrev Packet := UInt16 × List UInt8

/-- The bytes of packets, one after another. -/
def frames (packets : List Packet) : List UInt8 :=
  packets.flatMap fun packet => PacketHeader.frame packet.1 packet.2

/-- The first packet and those behind it. -/
theorem frames_cons (packet : Packet) (packets : List Packet)
    : frames (packet :: packets) = PacketHeader.frame packet.1 packet.2 ++ frames packets :=
  rfl

/-- What is seen of packets with `rest` behind them. -/
def receive : List (List PacketOperation) → List Packet → List UInt8 → List Received
  | operations :: plan, packet :: packets, rest =>
    ⟨⟨packet.1, UInt16.ofNat packet.2.length⟩, packet.2.length,
      observe operations packet.2 (frames packets ++ rest)⟩
      :: receive plan packets rest
  | _, _, _ => []

variable {stream : IOStream} {header : PacketHeader} {left rest : List UInt8}

/-- Operations are performed one by one, by induction on them. -/
theorem run_performAll (good : stream.good) (operations : List PacketOperation)
    (left : List UInt8)
    : ∃ left', (performAll operations).run (StreamPacket.reading stream header left rest)
      = .ok (observe operations left rest)
          (StreamPacket.reading stream header left' rest) := by
  induction operations generalizing left with
  | nil => exact ⟨left, rfl⟩
  | cons operation operations ih =>
      obtain ⟨left', others⟩ := ih (operation.meaning left).2
      refine ⟨left', ?_⟩
      rw [performAll, run_bind_ok (PacketOperation.run_perform good operation), run_get_bind,
        run_bind_ok others]
      rfl

/-- Packets are read one by one, by induction on them: the next extraction starts where
the packet before it ends.
-/
theorem run_readPackets (good : stream.good) (plan : List (List PacketOperation))
    (packets : List Packet) (fit : ∀ packet ∈ packets, packet.2.length ≤ 65531)
    (enough : plan.length ≤ packets.length) {s : Scope IOStream Unit}
    (discarded
      : ∃ packet, StreamPacket.discard.run s
        = .ok () ⟨stream.unread (frames packets ++ rest), packet⟩)
    : ∃ s', (readPackets plan).run s = .ok (receive plan packets rest) s' := by
  induction plan generalizing packets s with
  | nil => exact ⟨s, by cases packets <;> rfl⟩
  | cons operations plan ih =>
      cases packets with
      | nil => exact absurd enough (Nat.not_succ_le_zero _)
      | cons packet packets =>
          obtain ⟨before, discarded⟩ := discarded
          have size := fit packet List.mem_cons_self
          rw [frames_cons, List.append_assoc] at discarded
          obtain ⟨left', performed⟩ := run_performAll good operations packet.2
          obtain ⟨s', others⟩ := ih
            (s := StreamPacket.reading stream ⟨packet.1, UInt16.ofNat packet.2.length⟩ left'
              (frames packets ++ rest))
            packets (fun other member => fit other (List.mem_cons_of_mem _ member))
            (Nat.le_of_succ_le_succ enough) ⟨_, StreamPacket.run_discard good⟩
          refine ⟨s', ?_⟩
          rw [readPackets, run_bind_ok (StreamPacket.run_extract_after good size discarded),
            run_get_bind, run_bind_ok performed, run_bind_ok others]
          rfl

-----------------------------------------------------------------------------------------
-- Writing packets
-----------------------------------------------------------------------------------------

/-- Writes packets one after another, going on after one that is refused. -/
def writePackets : List Packet → Action IOStream (List (Except Fault Unit))
  | [] => return []
  | packet :: packets => do
    let outcome ← attempt (PacketHeader.writeTo packet.1 packet.2)
    let others ← writePackets packets
    return outcome :: others

/-- The packets whose size fits in 16 bits. -/
def accepted (packets : List Packet) : List Packet :=
  packets.filter fun packet => packet.2.length ≤ 65531

/-- A payload that fits is accepted. -/
theorem accepted_cons_of_fits {packet : Packet} (packets : List Packet)
    (fits : packet.2.length ≤ 65531)
    : accepted (packet :: packets) = packet :: accepted packets :=
  List.filter_cons_of_pos (decide_eq_true fits)

/-- A payload that does not fit is refused. -/
theorem accepted_cons_of_long {packet : Packet} (packets : List Packet)
    (long : ¬ packet.2.length ≤ 65531)
    : accepted (packet :: packets) = accepted packets :=
  List.filter_cons_of_neg (fun fits => long (of_decide_eq_true fits))

/-- Packets are written one by one, by induction on them. -/
theorem run_writePackets (packets : List Packet) {writer : IOStream} (good : writer.good)
    : (writePackets packets).run writer
      = .ok (packets.map fun packet =>
            if packet.2.length ≤ 65531 then .ok ()
            else .error (.overflowError "packet size overflow"))
          (writer.written (frames (accepted packets))) := by
  induction packets generalizing writer with
  | nil =>
      rw [writePackets, accepted, List.filter_nil, frames, List.flatMap_nil,
        IOStream.written, List.append_nil]
      rfl
  | cons packet packets ih =>
      rw [writePackets, List.map_cons]
      by_cases fits : packet.2.length ≤ 65531
      · have others := ih
          (show (writer.written (PacketHeader.frame packet.1 packet.2)).good from good)
        rw [run_bind_ok (run_attempt_ok (PacketHeader.run_writeTo good fits)),
          run_bind_ok others, if_pos fits, accepted_cons_of_fits packets fits, frames_cons]
        simp only [IOStream.written, List.append_assoc]
        rfl
      · rw [run_bind_ok
            (run_attempt_error (PacketHeader.run_writeTo_overflow good (Nat.lt_of_not_le fits))),
          run_bind_ok (ih good), if_neg fits, accepted_cons_of_long packets fits]
        rfl

/-- Every packet that fits is written whole and every other one refused, and a reader gets
each written packet with its own payload, whatever it did with the packets before.
-/
theorem framing {writer reader : IOStream} (writable : writer.good) (readable : reader.good)
    (packets : List Packet) (plan : List (List PacketOperation))
    (enough : plan.length ≤ (accepted packets).length) (rest : List UInt8)
    : ∃ bytes s,
        (writePackets packets).run writer
          = .ok (packets.map fun packet =>
                if packet.2.length ≤ 65531 then .ok ()
                else .error (.overflowError "packet size overflow"))
              (writer.written bytes)
        ∧ (readPackets plan).run ⟨reader.unread (bytes ++ rest), {}⟩
          = .ok (receive plan (accepted packets) rest) s := by
  have fit : ∀ packet ∈ accepted packets, packet.2.length ≤ 65531 := by
    intro packet member
    exact of_decide_eq_true (List.mem_filter.mp member).2
  obtain ⟨s, read⟩ := run_readPackets
    (s := ⟨reader.unread (frames (accepted packets) ++ rest), {}⟩) readable plan
    (accepted packets) fit enough ⟨{}, rfl⟩
  exact ⟨frames (accepted packets), s, run_writePackets packets writable, read⟩

/-- Two packets, of which the first is read in part, and past its end. -/
theorem framing_twoPackets
    : ∃ bytes s,
        (writePackets [(0x1234, [1, 2, 3]), (0x5678, [4])]).run {}
          = .ok [.ok (), .ok ()] (IOStream.written {} bytes)
        ∧ (readPackets [[.readUint16, .move, .readUint32], [.readByte]]).run
            ⟨IOStream.unread {} (bytes ++ []), {}⟩
          = .ok (receive [[.readUint16, .move, .readUint32], [.readByte]]
              [(0x1234, [1, 2, 3]), (0x5678, [4])] []) s :=
  framing rfl rfl [(0x1234, [1, 2, 3]), (0x5678, [4])]
    [[.readUint16, .move, .readUint32], [.readByte]] (by decide) []

end Capt
