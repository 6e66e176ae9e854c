import Libcapt.Core.PacketReading

/-! The packet reader of the decoder program: the header of a page, and a stream buffer over
the payloads of its blocks.
-/

namespace Capt

open Streams

/-- `area` is what the get pointers leave of the buffer. -/
structure VideoDataStreambuf where
  area : List UInt8 := []
  stream : IOStream
  lineSize : Nat := 0
  linesCount : Nat := 0

namespace VideoDataStreambuf

/-- The constructor. -/
def construct (reader : IOStream) : VideoDataStreambuf :=
  { stream := reader }

/-- How one turn of the loop of `underflow` ends. -/
inductive Turn where
  | eof
  | filled (buffer : List UInt8)
  | skipped

/-- What a turn does with its packet. -/
def takePacket : Action (Scope IOStream Unit) Turn := do
  StreamPacket.extract ()
  let s ← get
  if !s.outer.good then return .eof
  else if s.packet.header.opcode = 3 ∨ s.packet.header.opcode = 0xD0A2 then return .eof
  else if s.packet.header.opcode = 0xC0A0 then
    let buffer ← StreamPacket.readBytes s.packet.header.payloadSize.toNat
    let s ← get
    if !s.outer.good then return .eof
    else return .filled buffer
  else return .skipped

/-- The loop, with a packet of its own in each turn. Gives nothing at end-of-file. Each packet
that is skipped takes its header off the stream.
-/
def nextBuffer : Nat → Action IOStream (Option (List UInt8))
  | 0 => throw .unfinished
  | fuel + 1 => do
    match ← StreamPacket.withPacket takePacket with
    | .eof => return none
    | .filled buffer => return some buffer
    | .skipped => nextBuffer fuel

/-- An action on the packet stream. -/
def onStream {α : Type} (action : Action IOStream α) : Action VideoDataStreambuf α :=
  zoom stream (fun stream this => { this with stream := stream }) action

/-- The next block of video data, or the end of the page. -/
def underflow : Action VideoDataStreambuf (Option UInt8) := do
  let this ← get
  if !this.stream.good then return none
  else
    match this.area with
    | b :: _ => return some b
    | [] =>
      if this.lineSize = 0 ∨ this.linesCount = 0 then
        throw (.undefinedBehaviour "assertion failed")
      else
        match ← onStream (nextBuffer (this.stream.input.length + 1)) with
        | none => return none
        | some buffer =>
          modify fun this => { this with area := buffer }
          match buffer with
          | b :: _ => return some b
          | [] => throw (.undefinedBehaviour "get pointer outside the buffer")

/-- The video data as a stream buffer. -/
instance : Streambuf Fault UInt8 VideoDataStreambuf where
  area := area
  gbump := fun n this => { this with area := this.area.drop n }
  underflow := underflow

/-- Its `gbump` moves over the get area. -/
instance : Streambuf.Lawful Fault UInt8 VideoDataStreambuf where
  area_gbump := fun {this b rest} h => by
    change this.area = b :: rest at h
    change this.area.drop 1 = rest
    rw [h]
    rfl

/-- No more is given than what is left of the buffer and of the stream. -/
instance : FiniteSource Fault UInt8 VideoDataStreambuf where
  toSource := inferInstance
  bound := fun this => this.area.length + this.stream.input.length

/-- Two bytes of a payload, the low one first. -/
def field (payload : List UInt8) (offset : Nat) : Nat :=
  ((payload.getD (offset + 1) 0).toNat <<< 8) ||| (payload.getD offset 0).toNat

/-- The loop of `ReadHeader`, on one packet. Gives the line size and the number of lines, or
nothing where the function returns false.
-/
def pageFields : Nat → Action (Scope IOStream Unit) (Option (Nat × Nat))
  | 0 => throw .unfinished
  | fuel + 1 => do
    StreamPacket.extract ()
    let s ← get
    if !s.outer.good then return none
    else if s.packet.header.opcode = 0xD0A0 then
      if s.packet.header.payloadSize < 33 then throw (.decoderError "invalid packet size")
      else
        let payload ← StreamPacket.readBytes s.packet.header.payloadSize.toNat
        let s ← get
        if !s.outer.good then return none
        else return some (field payload (30 - 4), field payload (32 - 4))
    else pageFields fuel

/-- Looks for the next page header. Gives `false` where there is none. -/
def readHeader : Action VideoDataStreambuf Bool := do
  let this ← get
  match ← onStream (StreamPacket.withPacket (pageFields (this.stream.input.length + 1))) with
  | none => return false
  | some (lineSize, linesCount) =>
    modify fun this => { this with lineSize := lineSize, linesCount := linesCount }
    return true

end VideoDataStreambuf

end Capt
