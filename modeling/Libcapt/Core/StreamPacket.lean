import Libcapt.Core.PacketHeader

/-! A packet that is read from a stream, with the number of its bytes still to be read. -/

namespace Capt

open Streams

/-- A program's streams, by the pointers to them. -/
class HasStreams (ρ : outParam Type) (τ : Type) where
  stream : ρ → τ → IOStream
  setStream : ρ → IOStream → τ → τ

/-- A program with a stream behind each pointer. -/
instance {ρ : Type} [DecidableEq ρ] : HasStreams ρ (ρ → IOStream) where
  stream := fun r s => s r
  setStream := fun r stream s => Function.update s r stream

/-- A program with one stream. -/
instance : HasStreams Unit IOStream where
  stream := fun _ s => s
  setStream := fun _ s _ => s

/-- A packet that is read from the stream `ρ`, if it has one, with what is left of its payload.
-/
structure StreamPacket (ρ : Type) where
  stream : Option ρ := none
  remain : Nat := 0
  header : PacketHeader := {}

/-- A packet in scope, with what is around it. -/
structure Scope (τ ρ : Type) where
  outer : τ
  packet : StreamPacket ρ

namespace StreamPacket

variable {τ ρ : Type} [HasStreams ρ τ]

/-- An action on the packet's stream. -/
def onStream {α : Type} (stream : ρ) (action : Action IOStream α) : Action (Scope τ ρ) α :=
  zoom (fun s => HasStreams.stream stream s.outer)
    (fun r s => { s with outer := HasStreams.setStream stream r s.outer }) action

/-- The packet with another number of bytes left. -/
def setRemain (remain : Nat) (s : Scope τ ρ) : Scope τ ρ :=
  { s with packet := { s.packet with remain := remain } }

/-- The constructor from a header that was read before. -/
def construct (stream : ρ) (header : PacketHeader) : StreamPacket ρ :=
  { stream := some stream, remain := header.payloadSize.toNat, header := header }

/-- The move constructor: the new packet, and what is left of the other. -/
def moved (other : StreamPacket ρ) : StreamPacket ρ × StreamPacket ρ :=
  (other, { other with stream := none, remain := 0 })

/-- The move assignment: the packet that is assigned to, and what is left of the other. -/
def moveAssign (this other : StreamPacket ρ) : StreamPacket ρ × StreamPacket ρ :=
  ({ this with stream := other.stream, remain := other.remain, header := other.header },
    { other with stream := none, remain := 0 })

/-- Takes `count` bytes from the stream buffer. -/
def skip : Nat → Action IOStream Unit
  | 0 => return
  | count + 1 => do
    let _ ← IOStream.sbumpc
    skip count

/-- `Discard`: the rest of the payload is skipped. -/
def discard : Action (Scope τ ρ) Unit := do
  let s ← get
  if s.packet.remain = 0 then return
  else
    match s.packet.stream with
    | none => modify (setRemain 0)
    | some stream =>
      if (HasStreams.stream stream s.outer).good then onStream stream (skip s.packet.remain)
      modify (setRemain 0)

/-- `ReadInt`. Past the end of the payload nothing is read. -/
def readInt (size : Nat) : Action (Scope τ ρ) Nat := do
  let s ← get
  if s.packet.remain < size then throw (.outOfRange "packet payload EOF")
  else
    modify (setRemain (s.packet.remain - size))
    match s.packet.stream with
    | none => throw (.undefinedBehaviour "null stream")
    | some stream => onStream stream (IOStream.readLittle size)

/-- `ReadByte`. -/
def readByte : Action (Scope τ ρ) UInt8 := do
  let value ← readInt 1
  return UInt8.ofNat value

/-- `ReadUint16`. -/
def readUint16 : Action (Scope τ ρ) UInt16 := do
  let value ← readInt 2
  return UInt16.ofNat value

/-- `ReadUint32`. -/
def readUint32 : Action (Scope τ ρ) UInt32 := do
  let value ← readInt 4
  return UInt32.ofNat value

/-- Fills `n` bytes. Gives those that were read: the others keep what they held. -/
def readBytes (n : Nat) : Action (Scope τ ρ) (List UInt8) := do
  let s ← get
  if n > s.packet.remain then throw (.outOfRange "packet payload EOF")
  else
    match s.packet.stream with
    | none => throw (.undefinedBehaviour "null stream")
    | some stream =>
      let dest ← onStream stream (IOStream.read n)
      modify (setRemain (s.packet.remain - n))
      return dest

/-- An action on a stream and the packet's header. -/
def onHeader {α : Type} (stream : ρ) (action : Action (IOStream × PacketHeader) α)
    : Action (Scope τ ρ) α :=
  zoom (fun s => (HasStreams.stream stream s.outer, s.packet.header))
    (fun r s => {
      outer := HasStreams.setStream stream r.1 s.outer
      packet := { s.packet with header := r.2 }
    }) action

/-- `operator>>`. -/
def extract (stream : ρ) : Action (Scope τ ρ) Unit := do
  discard
  onHeader stream PacketHeader.extract
  modify fun s => {
    s with
    packet := { s.packet with remain := s.packet.header.payloadSize.toNat, stream := some stream }
  }

/-- A block with a packet of its own, which is destroyed on every exit. -/
def withPacket {α : Type} (body : Action (Scope τ ρ) α) : Action τ α := fun outer =>
  match body.run ⟨outer, {}⟩ with
  | .ok value s => .ok value (after (discard.run s)).outer
  | .error err s => .error err (after (discard.run s)).outer

end StreamPacket

end Capt
