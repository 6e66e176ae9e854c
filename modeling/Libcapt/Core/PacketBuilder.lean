import Libcapt.Core.PacketHeader

/-! A payload put together from fields. -/

namespace Capt

open Streams

/-- A packet that is being built: its payload so far. -/
structure PacketBuilder where
  payload : List UInt8 := []

namespace PacketBuilder

/-- `AppendByte`. -/
def appendByte (this : PacketBuilder) (value : UInt8) : PacketBuilder :=
  ⟨this.payload ++ [value]⟩

/-- `AppendUint16`, the low byte first. -/
def appendUint16 (this : PacketBuilder) (value : UInt16) : PacketBuilder :=
  ⟨this.payload ++ littleBytes 2 value.toNat⟩

/-- `AppendUint32`, the low byte first. -/
def appendUint32 (this : PacketBuilder) (value : UInt32) : PacketBuilder :=
  ⟨this.payload ++ littleBytes 4 value.toNat⟩

/-- `AppendBytes`. -/
def appendBytes (this : PacketBuilder) (data : List UInt8) : PacketBuilder :=
  ⟨this.payload ++ data⟩

/-- `WriteTo`. -/
def writeTo (this : PacketBuilder) (opcode : UInt16) : Action IOStream Unit :=
  PacketHeader.writeTo opcode this.payload

/-- The two bytes are the ones that the source masks and shifts out. -/
theorem appendUint16_payload (this : PacketBuilder) (value : UInt16)
    : (this.appendUint16 value).payload
      = this.payload ++ [(value &&& 0xff).toUInt8, ((value >>> 8) &&& 0xff).toUInt8] := by
  rw [split_uint16]
  rfl

/-- So are the four bytes. -/
theorem appendUint32_payload (this : PacketBuilder) (value : UInt32)
    : (this.appendUint32 value).payload
      = this.payload
        ++ [(value &&& 0xff).toUInt8, ((value >>> 8) &&& 0xff).toUInt8,
          ((value >>> 16) &&& 0xff).toUInt8, ((value >>> 24) &&& 0xff).toUInt8] := by
  rw [split_uint32]
  rfl

end PacketBuilder

end Capt
