import Libcapt.Core.PacketBuilder
import Libcapt.Core.PacketFraming

/-! The fields of a payload: what is appended to a packet is read back from it by the
matching reads, in the same order.
-/

namespace Capt

open Streams

/-- A field of a packet, with its value. -/
inductive PacketField where
  | byte (value : UInt8)
  | uint16 (value : UInt16)
  | uint32 (value : UInt32)
  | bytes (data : List UInt8)
  deriving DecidableEq

namespace PacketField

/-- The bytes that a field takes in the payload. -/
def encoded : PacketField → List UInt8
  | byte value => [value]
  | uint16 value => littleBytes 2 value.toNat
  | uint32 value => littleBytes 4 value.toNat
  | bytes data => data

/-- The call of the builder for this field. -/
def append (this : PacketField) (builder : PacketBuilder) : PacketBuilder :=
  match this with
  | byte value => builder.appendByte value
  | uint16 value => builder.appendUint16 value
  | uint32 value => builder.appendUint32 value
  | bytes data => builder.appendBytes data

/-- The read that matches the field. -/
def operation : PacketField → PacketOperation
  | byte _ => .readByte
  | uint16 _ => .readUint16
  | uint32 _ => .readUint32
  | bytes data => .readBytes data.length

/-- What reading the field should give. -/
def value : PacketField → PacketValue
  | byte value => .byte value
  | uint16 value => .uint16 value
  | uint32 value => .uint32 value
  | bytes data => .bytes data

/-- A call of the builder appends the bytes of its field. -/
@[simp]
theorem append_payload (field : PacketField) (builder : PacketBuilder)
    : (field.append builder).payload = builder.payload ++ field.encoded := by
  cases field <;> rfl

variable {stream : IOStream} {header : PacketHeader} {left rest : List UInt8}

/-- The matching read gives the value back and takes no more than the field. -/
theorem run_operation (good : stream.good) (field : PacketField)
    : field.operation.perform.run
        (StreamPacket.reading stream header (field.encoded ++ left) rest)
      = .ok field.value (StreamPacket.reading stream header left rest) := by
  cases field with
  | byte value => exact run_bind_ok (StreamPacket.run_readByte good value)
  | uint16 value => exact run_bind_ok (StreamPacket.run_readUint16 good value)
  | uint32 value => exact run_bind_ok (StreamPacket.run_readUint32 good value)
  | bytes data => exact run_bind_ok (StreamPacket.run_readBytes_front good data)

end PacketField

/-- Appends the fields in their order. -/
def build (fields : List PacketField) : PacketBuilder :=
  fields.foldl (fun builder field => field.append builder) {}

/-- The matching reads, in the same order. -/
def readFields : List PacketField → Action (Scope IOStream Unit) (List PacketValue)
  | [] => return []
  | field :: fields => do
    let value ← field.operation.perform
    let values ← readFields fields
    return value :: values

/-- The payload after more fields, by induction on them. -/
theorem foldl_append_payload (fields : List PacketField) (builder : PacketBuilder)
    : (fields.foldl (fun builder field => field.append builder) builder).payload
      = builder.payload ++ fields.flatMap PacketField.encoded := by
  induction fields generalizing builder with
  | nil => simp
  | cons field fields ih => simp [ih, List.append_assoc]

/-- The payload consists of the bytes of the fields. -/
theorem build_payload (fields : List PacketField)
    : (build fields).payload = fields.flatMap PacketField.encoded :=
  foldl_append_payload fields {}

variable {stream : IOStream} {header : PacketHeader} {left rest : List UInt8}

/-- Fields are read one by one, by induction on them. -/
theorem run_readFields (good : stream.good) (fields : List PacketField)
    : (readFields fields).run
        (StreamPacket.reading stream header (fields.flatMap PacketField.encoded ++ left) rest)
      = .ok (fields.map PacketField.value) (StreamPacket.reading stream header left rest) := by
  induction fields with
  | nil => rfl
  | cons field fields ih =>
      rw [List.flatMap_cons, List.append_assoc, readFields,
        run_bind_ok (field.run_operation good), run_bind_ok ih]
      rfl

/-- Fields that fit in a packet are read back from it with the opcode, by the matching
reads, and nothing of the packet or of what follows it is taken besides.
-/
theorem read_build (fields : List PacketField)
    (fits : (build fields).payload.length ≤ 65531) (opcode : UInt16) {writer reader : IOStream}
    (writable : writer.good) (readable : reader.good) (packet : StreamPacket Unit)
    (taken : packet.remain = 0) (following : List UInt8)
    : ∃ bytes s,
        ((build fields).writeTo opcode).run writer = .ok () (writer.written bytes)
        ∧ (do
            StreamPacket.extract ()
            readFields fields : Action (Scope IOStream Unit) (List PacketValue)).run
              ⟨reader.unread (bytes ++ following), packet⟩
          = .ok (fields.map PacketField.value) s
        ∧ s.packet.header.opcode = opcode
        ∧ s.packet.remain = 0
        ∧ s.outer = reader.unread following := by
  have discarded : (StreamPacket.discard : Action (Scope IOStream Unit) Unit).run
      ⟨reader.unread (PacketHeader.frame opcode (build fields).payload ++ following), packet⟩
      = .ok () ⟨reader.unread (PacketHeader.frame opcode (build fields).payload ++ following),
          packet⟩ := by
    unfold StreamPacket.discard
    rw [run_get_bind, if_pos taken]
    rfl
  have extracted := StreamPacket.run_extract_after readable fits discarded
  have read := @run_readFields reader ⟨opcode, UInt16.ofNat (build fields).payload.length⟩ []
    following readable fields
  rw [List.append_nil, ← build_payload] at read
  refine ⟨PacketHeader.frame opcode (build fields).payload,
    StreamPacket.reading reader ⟨opcode, UInt16.ofNat (build fields).payload.length⟩ [] following,
    PacketHeader.run_writeTo writable fits, ?_, rfl, rfl, rfl⟩
  rw [run_bind_ok extracted, read]

/-- A byte, a 16-bit number and a block of three bytes, with two bytes behind the packet. -/
theorem read_build_threeFields
    : ∃ bytes s,
        ((build [.byte 7, .uint16 0x1234, .bytes [1, 2, 3]]).writeTo 0xA0A0).run {}
          = .ok () (IOStream.written {} bytes)
        ∧ (do
            StreamPacket.extract ()
            readFields [.byte 7, .uint16 0x1234, .bytes [1, 2, 3]]
              : Action (Scope IOStream Unit) (List PacketValue)).run
              ⟨IOStream.unread {} (bytes ++ [9, 9]), {}⟩
          = .ok [.byte 7, .uint16 0x1234, .bytes [1, 2, 3]] s
        ∧ s.packet.header.opcode = 0xA0A0
        ∧ s.packet.remain = 0
        ∧ s.outer = IOStream.unread {} [9, 9] :=
  read_build [.byte 7, .uint16 0x1234, .bytes [1, 2, 3]] (by decide) 0xA0A0 rfl rfl {} rfl [9, 9]

end Capt
