import Libcapt.Core.StreamPacket

/-! What each operation of a packet does while the stream holds all of its payload. -/

namespace Capt.StreamPacket

open Streams

/-- A packet with `left` to be read, in a program with one stream; `rest` follows it. -/
def reading (stream : IOStream) (header : PacketHeader) (left rest : List UInt8)
    : Scope IOStream Unit :=
  ⟨stream.unread (left ++ rest), ⟨some (), left.length, header⟩⟩

variable {stream : IOStream} {header : PacketHeader} {left rest : List UInt8}

/-- What remains is what is left of the payload. -/
@[simp]
theorem reading_remain : (reading stream header left rest).packet.remain = left.length := rfl

/-- The packet is attached to its stream. -/
@[simp]
theorem reading_stream : (reading stream header left rest).packet.stream = some () := rfl

/-- The stream's state is not changed by the packet. -/
@[simp]
theorem reading_good
    : (HasStreams.stream () (reading stream header left rest).outer).good = stream.good :=
  rfl

/-- What an action on the stream does while a packet is in scope. -/
theorem run_onStream {α : Type} {action : Action IOStream α} {s : Scope IOStream Unit}
    {stream' : IOStream} {value : α} (h : action.run s.outer = .ok value stream')
    : (onStream () action).run s = .ok value { s with outer := stream' } := by
  unfold onStream
  exact run_zoom_ok h

/-- What the header's extraction does while a packet is in scope. -/
theorem run_onHeader {α : Type} {action : Action (IOStream × PacketHeader) α}
    {s : Scope IOStream Unit} {stream' : IOStream} {header' : PacketHeader} {value : α}
    (h : action.run (s.outer, s.packet.header) = .ok value (stream', header'))
    : (onHeader () action).run s
      = .ok value { outer := stream', packet := { s.packet with header := header' } } := by
  unfold onHeader
  exact @run_zoom_ok _ _ _ _ (fun s : Scope IOStream Unit => (s.outer, s.packet.header)) _ _ s
    _ _ h

/-- What it throws comes through. -/
theorem run_onHeader_error {α : Type} {action : Action (IOStream × PacketHeader) α}
    {s : Scope IOStream Unit} {stream' : IOStream} {header' : PacketHeader} {err : Fault}
    (h : action.run (s.outer, s.packet.header) = .error err (stream', header'))
    : (onHeader () action).run s
      = .error err { outer := stream', packet := { s.packet with header := header' } } := by
  unfold onHeader
  exact @run_zoom_error _ _ _ _ (fun s : Scope IOStream Unit => (s.outer, s.packet.header)) _ _
    s _ _ h

/-- Skipping takes the rest of the packet, by induction on it. -/
theorem run_skip (left : List UInt8) {rest : List UInt8}
    : (skip left.length).run (stream.unread (left ++ rest)) = .ok () (stream.unread rest) := by
  induction left with
  | nil => rfl
  | cons b left ih =>
      have taken : IOStream.sbumpc.run (stream.unread (b :: left ++ rest))
          = .ok (some b) (stream.unread (left ++ rest)) := rfl
      rw [List.length_cons, skip, run_bind_ok taken]
      exact ih

/-- Discarding leaves the stream behind the packet. -/
theorem run_discard (good : stream.good)
    : discard.run (reading stream header left rest)
      = .ok () (reading stream header [] rest) := by
  cases left with
  | nil => rfl
  | cons b left =>
      have skipped := run_onStream (s := reading stream header (b :: left) rest)
        (run_skip (b :: left))
      unfold discard
      rw [run_get_bind, reading_remain, if_neg (List.length_cons ▸ Nat.succ_ne_zero _)]
      simp only [reading_stream, reading_good, good, ↓reduceIte]
      rw [run_bind_ok skipped]
      rfl

/-- A number that is there is read. -/
theorem run_readInt (good : stream.good) {size : Nat} (fits : size ≤ left.length)
    : (readInt size).run (reading stream header left rest)
      = .ok (littleValue (left.take size)) (reading stream header (left.drop size) rest) := by
  have front := IOStream.run_readLittle good (left.take size) (left.drop size ++ rest)
  rw [List.length_take, Nat.min_eq_left fits, ← List.append_assoc, List.take_append_drop]
    at front
  unfold readInt
  rw [run_get_bind, reading_remain, if_neg (Nat.not_lt.mpr fits), run_modify_bind]
  refine (run_onStream front).trans ?_
  rw [← List.length_drop]
  rfl

/-- A read past the end of the payload changes nothing. -/
theorem run_readInt_past {size : Nat} (past : left.length < size)
    : (readInt size).run (reading stream header left rest)
      = .error (.outOfRange "packet payload EOF") (reading stream header left rest) := by
  unfold readInt
  rw [run_get_bind, reading_remain, if_pos past]
  rfl

/-- The bytes of a number are read as the number, and what follows them stays. -/
theorem run_readInt_front (good : stream.good) (front : List UInt8)
    : (readInt front.length).run (reading stream header (front ++ left) rest)
      = .ok (littleValue front) (reading stream header left rest) := by
  have fits : front.length ≤ (front ++ left).length := by
    rw [List.length_append]
    exact Nat.le_add_right ..
  have read := @run_readInt stream header (front ++ left) rest good front.length fits
  rwa [List.take_left, List.drop_left] at read

/-- A byte that is there is read. -/
theorem run_readByte (good : stream.good) (value : UInt8)
    : readByte.run (reading stream header (value :: left) rest)
      = .ok value (reading stream header left rest) := by
  have read := @run_readInt_front stream header left rest good [value]
  rw [littleValue_singleton] at read
  unfold readByte
  refine (run_bind_ok read).trans ?_
  rw [UInt8.ofNat_toNat]
  rfl

/-- Two bytes as they were written. -/
theorem run_readUint16 (good : stream.good) (value : UInt16)
    : readUint16.run (reading stream header (littleBytes 2 value.toNat ++ left) rest)
      = .ok value (reading stream header left rest) := by
  have read := @run_readInt_front stream header left rest good (littleBytes 2 value.toNat)
  rw [littleBytes_length, littleValue_littleBytes_of_lt value.toNat_lt] at read
  unfold readUint16
  rw [run_bind_ok read, UInt16.ofNat_toNat]
  rfl

/-- Four bytes as they were written. -/
theorem run_readUint32 (good : stream.good) (value : UInt32)
    : readUint32.run (reading stream header (littleBytes 4 value.toNat ++ left) rest)
      = .ok value (reading stream header left rest) := by
  have read := @run_readInt_front stream header left rest good (littleBytes 4 value.toNat)
  rw [littleBytes_length, littleValue_littleBytes_of_lt value.toNat_lt] at read
  unfold readUint32
  rw [run_bind_ok read, UInt32.ofNat_toNat]
  rfl

/-- A block that is there is read. -/
theorem run_readBytes (good : stream.good) {n : Nat} (fits : n ≤ left.length)
    : (readBytes n).run (reading stream header left rest)
      = .ok (left.take n) (reading stream header (left.drop n) rest) := by
  have front := IOStream.run_read good (left.take n) (left.drop n ++ rest)
  rw [List.length_take, Nat.min_eq_left fits, ← List.append_assoc, List.take_append_drop]
    at front
  unfold readBytes
  rw [run_get_bind, reading_remain, if_neg (Nat.not_lt.mpr fits)]
  refine (run_bind_ok (run_onStream front)).trans ?_
  rw [← List.length_drop]
  rfl

/-- A block that stands at the front of what is left. -/
theorem run_readBytes_front (good : stream.good) (front : List UInt8)
    : (readBytes front.length).run (reading stream header (front ++ left) rest)
      = .ok front (reading stream header left rest) := by
  have fits : front.length ≤ (front ++ left).length := by
    rw [List.length_append]
    exact Nat.le_add_right ..
  have read := @run_readBytes stream header (front ++ left) rest good front.length fits
  rwa [List.take_left, List.drop_left] at read

/-- A block past the end of the payload makes the packet throw, and nothing is read. -/
theorem run_readBytes_past {n : Nat} (past : left.length < n)
    : (readBytes n).run (reading stream header left rest)
      = .error (.outOfRange "packet payload EOF") (reading stream header left rest) := by
  unfold readBytes
  rw [run_get_bind, reading_remain, if_pos past]
  rfl

/-- An extraction takes the packet over from the header that it reads. -/
theorem run_extract_header {s : Scope IOStream Unit} {packet : StreamPacket Unit}
    {stream' : IOStream} {header' : PacketHeader}
    (discarded : discard.run s = .ok () ⟨stream, packet⟩)
    (read : PacketHeader.extract.run (stream, packet.header) = .ok () (stream', header'))
    : (extract ()).run s
      = .ok () ⟨stream', ⟨some (), header'.payloadSize.toNat, header'⟩⟩ := by
  unfold extract
  rw [run_bind_ok discarded, run_bind_ok (run_onHeader read)]
  rfl

/-- The next packet is extracted from behind what the last one leaves. -/
theorem run_extract_after (good : stream.good) {s : Scope IOStream Unit}
    {packet : StreamPacket Unit} {opcode : UInt16} {payload : List UInt8}
    (fits : payload.length ≤ 65531)
    (discarded
      : discard.run s
        = .ok () ⟨stream.unread (PacketHeader.frame opcode payload ++ rest), packet⟩)
    : (extract ()).run s
      = .ok () (reading stream ⟨opcode, UInt16.ofNat payload.length⟩ payload rest) := by
  have size : (UInt16.ofNat payload.length).toNat = payload.length :=
    UInt16.toNat_ofNat_of_lt (Nat.lt_of_le_of_lt fits (by decide))
  have header : PacketHeader.extract.run
      (stream.unread (PacketHeader.frame opcode payload ++ rest), packet.header)
      = .ok () (stream.unread (payload ++ rest), ⟨opcode, UInt16.ofNat payload.length⟩) :=
    PacketHeader.run_extract good fits packet.header rest
  rw [run_extract_header discarded header, size]
  rfl

/-- The first packet is extracted into one that holds nothing. -/
theorem run_extract_first (good : stream.good) {opcode : UInt16} {payload : List UInt8}
    (fits : payload.length ≤ 65531)
    : (extract ()).run ⟨stream.unread (PacketHeader.frame opcode payload ++ rest), {}⟩
      = .ok () (reading stream ⟨opcode, UInt16.ofNat payload.length⟩ payload rest) :=
  run_extract_after good fits rfl

/-- A block returns or throws as its body does; the packet's destructor runs after it. -/
theorem run_withPacket_ok {α : Type} {body : Action (Scope IOStream Unit) α}
    {outer : IOStream} {value : α} {s : Scope IOStream Unit}
    (h : body.run ⟨outer, {}⟩ = .ok value s)
    : (withPacket body).run outer = .ok value (after (discard.run s)).outer := by
  simp only [withPacket, EStateM.run] at h ⊢
  rw [h]

/-- What the body throws comes out of the packet's scope. -/
theorem run_withPacket_error {α : Type} {body : Action (Scope IOStream Unit) α}
    {outer : IOStream} {err : Fault} {s : Scope IOStream Unit}
    (h : body.run ⟨outer, {}⟩ = .error err s)
    : (withPacket body).run outer = .error err (after (discard.run s)).outer := by
  simp only [withPacket, EStateM.run] at h ⊢
  rw [h]

/-- A block leaves what the destructor leaves after the body. -/
theorem after_withPacket {α : Type} (body : Action (Scope IOStream Unit) α) (outer : IOStream)
    : after ((withPacket body).run outer)
      = (after (discard.run (after (body.run ⟨outer, {}⟩)))).outer := by
  cases run : body.run ⟨outer, {}⟩ with
  | ok value s =>
      rw [run_withPacket_ok run]
      rfl
  | error err s =>
      rw [run_withPacket_error run]
      rfl

end Capt.StreamPacket
