import Libcapt.Core.Fault

/-! The decoder: one command after another extends the decoded data, whose end is the row
that copies refer to, until a line is complete.
-/

namespace Capt.Compression

open Streams

/-- The decoder over a compressed stream in state `σ`. `area` is the get area inherited
from `std::streambuf`; the command log is a list of its lines.
-/
structure DecoderStreambuf (σ : Type) where
  stream : σ
  commandLog : Option (List String) := none
  buffer : List UInt8 := []
  lineSize : Nat
  videoSize : Nat := 0
  area : List UInt8 := []

namespace DecoderStreambuf

variable {σ : Type}

/-- The constructor. -/
def construct (stream : σ) (lineSize : Nat) (commandLog : Option (List String) := none)
    : DecoderStreambuf σ :=
  { stream := stream, lineSize := lineSize, commandLog := commandLog }

/-- `CLOG`: a text for the command log, if there is one. -/
def clog (text : String) : Action (DecoderStreambuf σ) Unit :=
  modify fun this => { this with commandLog := this.commandLog.map (· ++ [text]) }

/-- `CHECK_BOUNDS`, with the text of its exception. -/
def checkBounds (value min max : Nat) (paramName : String)
    : Action (DecoderStreambuf σ) Unit :=
  if value < min ∨ value > max then
    throw (.decoderError
      (paramName ++ " must be in range [" ++ toString min ++ ";" ++ toString max
        ++ "], got " ++ toString value))
  else return

/-- Bytes at the end of the line that is decoded. -/
def insert (data : List UInt8) : Action (DecoderStreambuf σ) Unit :=
  modify fun this => { this with buffer := this.buffer ++ data }

/-- `repeat`. -/
def repeats (count : Nat) (repeatByte : UInt8) : Action (DecoderStreambuf σ) Unit :=
  if count = 0 then return
  else insert (List.replicate count repeatByte)

/-- `repeatX`, of the fixed byte. -/
def repeatX (count : Nat) : Action (DecoderStreambuf σ) Unit := repeats count 0x43

/-- `copy`: bytes of the line before, from the position reached, which have to be there. -/
def copy (count : Nat) : Action (DecoderStreambuf σ) Unit :=
  if count = 0 then return
  else do
    let this ← get
    if this.buffer.length < this.lineSize then
      throw (.decoderError "insufficient buffer size for copying")
    else if count > this.lineSize then
      throw (.undefinedBehaviour "copy from outside the buffer")
    else
      insert ((this.buffer.drop (this.buffer.length - this.lineSize)).take count)

/-- `raw`. -/
def raw (data : List UInt8) : Action (DecoderStreambuf σ) Unit :=
  if data.length = 0 then return
  else insert data

/-- `endLine`: the rest of the line is copied. -/
def endLine : Action (DecoderStreambuf σ) Unit := do
  let this ← get
  if this.lineSize = 0 then throw (.undefinedBehaviour "division by zero")
  else copy (this.lineSize - this.buffer.length % this.lineSize)

section Commands

variable [FiniteSource Fault UInt8 σ]

/-- A byte of the stream, which has to be there. -/
def mustGet : Action (DecoderStreambuf σ) UInt8 := do
  match ← zoom stream (fun s this => { this with stream := s }) Source.sbumpc with
  | none => throw (.decoderError "unexpected EOF")
  | some v => return v

/-- A block of the stream, which has to be there in full. -/
def mustRead (n : Nat) : Action (DecoderStreambuf σ) (List UInt8) := do
  let s ← zoom stream (fun s this => { this with stream := s }) (Source.sgetn n)
  if s.length ≠ n then throw (.decoderError "unexpected EOF")
  else return s

/-- The fixed byte with an extended count. -/
def decodeRepeatXLong (extendCount cmd : UInt8) : Action (DecoderStreambuf σ) Nat := do
  let repeatCount := (extendCount + ((cmd >>> 3) &&& 7)).toNat
  clog ("RepeatXLong " ++ toString repeatCount)
  checkBounds repeatCount 8 255 "repeatCount"
  repeatX repeatCount
  return 2

/-- Copied bytes, and a byte repeated with an extended count. -/
def decodeCopyThenRepeatLong (extendCount cmd : UInt8)
    : Action (DecoderStreambuf σ) Nat := do
  let copyCount := (cmd &&& 7).toNat
  let repeatCount := (extendCount + ((cmd >>> 3) &&& 7)).toNat
  let repeatByte ← mustGet
  clog ("CopyThenRepeatLong " ++ toString copyCount ++ " " ++ toString repeatCount)
  checkBounds copyCount 0 7 "copyCount"
  checkBounds repeatCount 8 255 "repeatCount"
  copy copyCount
  repeats repeatCount repeatByte
  return 3

/-- A repeated byte, and given ones with an extended count. -/
def decodeRepeatThenRawLong (extendCount cmd : UInt8)
    : Action (DecoderStreambuf σ) Nat := do
  let rawCount := (extendCount + (cmd &&& 7)).toNat
  let repeatCount := ((cmd >>> 3) &&& 7).toNat
  let repeatByte ← mustGet
  clog ("RepeatThenRawLong " ++ toString repeatCount ++ " " ++ toString rawCount)
  let rawData ← mustRead rawCount
  checkBounds repeatCount 2 7 "repeatCount"
  checkBounds rawCount 8 255 "rawCount"
  repeats repeatCount repeatByte
  raw rawData
  return 3 + rawCount

/-- Copied bytes, and given ones with an extended count. -/
def decodeCopyThenRawLong (extendCount cmd : UInt8)
    : Action (DecoderStreambuf σ) Nat := do
  let copyCount := (cmd &&& 7).toNat
  let rawCount := (extendCount + ((cmd >>> 3) &&& 7)).toNat
  clog ("CopyThenRawLong " ++ toString copyCount ++ " " ++ toString rawCount)
  let rawData ← mustRead rawCount
  checkBounds copyCount 0 7 "copyCount"
  checkBounds rawCount 8 255 "rawCount"
  copy copyCount
  raw rawData
  return 2 + rawCount

/-- The second byte of an extended command; its two highest bits cover every case. -/
def decodeExtended (extendCount cmd : UInt8) : Action (DecoderStreambuf σ) Nat :=
  if cmd &&& 0xc0 = 0 then decodeRepeatXLong extendCount cmd
  else if cmd &&& 0xc0 = 0x80 then decodeCopyThenRepeatLong extendCount cmd
  else if cmd &&& 0xc0 = 0x40 then decodeRepeatThenRawLong extendCount cmd
  else decodeCopyThenRawLong extendCount cmd

/-- A multiple of eight copied bytes. -/
def decodeCopyLong (cmd : UInt8) : Action (DecoderStreambuf σ) Nat := do
  let copyCount := ((cmd &&& 0x1f) <<< 3).toNat
  clog ("CopyLong " ++ toString copyCount)
  checkBounds copyCount 8 248 "copyCount"
  copy copyCount
  return 1

/-- Copied bytes and a repeated one. -/
def decodeCopyThenRepeat (cmd : UInt8) : Action (DecoderStreambuf σ) Nat := do
  let copyCount := (cmd &&& 7).toNat
  let repeatCount := ((cmd >>> 3) &&& 7).toNat
  let repeatByte ← mustGet
  clog ("CopyThenRepeat " ++ toString copyCount ++ " " ++ toString repeatCount)
  checkBounds copyCount 0 7 "copyCount"
  checkBounds repeatCount 2 7 "repeatCount"
  copy copyCount
  repeats repeatCount repeatByte
  return 2

/-- Copied bytes and given ones. -/
def decodeCopyThenRaw (cmd : UInt8) : Action (DecoderStreambuf σ) Nat := do
  let copyCount := (cmd &&& 7).toNat
  let rawCount := ((cmd >>> 3) &&& 7).toNat
  clog ("CopyThenRaw " ++ toString copyCount ++ " " ++ toString rawCount)
  let rawData ← mustRead rawCount
  checkBounds copyCount 0 7 "copyCount"
  checkBounds rawCount 1 7 "rawCount"
  copy copyCount
  raw rawData
  return 1 + rawCount

/-- A few copied bytes. -/
def decodeCopyShort (copyCount : Nat) : Action (DecoderStreambuf σ) Nat := do
  clog ("CopyShort " ++ toString copyCount)
  copy copyCount
  return 1

/-- The fixed byte a few times. -/
def decodeRepeatX (repeatCount : Nat) : Action (DecoderStreambuf σ) Nat := do
  clog ("RepeatX " ++ toString repeatCount)
  checkBounds repeatCount 1 7 "repeatCount"
  repeatX repeatCount
  return 1

/-- A repeated byte and given ones. -/
def decodeRepeatThenRaw (repeatCount rawCount : Nat)
    : Action (DecoderStreambuf σ) Nat := do
  let repeatByte ← mustGet
  clog ("RepeatThenRaw " ++ toString repeatCount ++ " " ++ toString rawCount)
  let rawData ← mustRead rawCount
  checkBounds repeatCount 2 7 "repeatCount"
  checkBounds rawCount 1 7 "rawCount"
  repeats repeatCount repeatByte
  raw rawData
  return 2 + rawCount

/-- `RepeatX`, `CopyShort` and `RepeatThenRaw`. With both counts zero the byte is not a
command, and the message ends in that byte as a character.
-/
def decodeShort (cmd : UInt8) : Action (DecoderStreambuf σ) Nat :=
  let copyCount := (cmd &&& 7).toNat
  let repeatCount := ((cmd >>> 3) &&& 7).toNat
  if copyCount ≠ 0 ∧ repeatCount = 0 then decodeCopyShort copyCount
  else if copyCount = 0 ∧ repeatCount ≠ 0 then decodeRepeatX repeatCount
  else if copyCount ≠ 0 ∧ repeatCount ≠ 0 then decodeRepeatThenRaw repeatCount copyCount
  else throw (.decoderError ("unknown command: 0x" ++ setw 2 [Char.ofNat cmd.toNat]))

/-- The cases of the first byte of a command. -/
def decodeCommand (cmd : UInt8) : Action (DecoderStreambuf σ) Nat := do
  if cmd = 0x42 then
    clog "EOP"
    return 0
  else if cmd = 0x41 then
    clog "EOL"
    endLine
    return 1
  else if cmd = 0x40 then
    clog "NOP"
    return 1
  else if cmd &&& 0xe0 = 0xa0 then
    let extendCount := (cmd &&& 0x1f) <<< 3
    clog ("Extend " ++ toString extendCount.toNat)
    let cmd ← mustGet
    decodeExtended extendCount cmd
  else if cmd &&& 0xe0 = 0x80 then decodeCopyLong cmd
  else if cmd &&& 0xc0 = 0x40 then decodeCopyThenRepeat cmd
  else if cmd &&& 0xc0 = 0 then decodeCopyThenRaw cmd
  else decodeShort cmd

/-- Decodes one command. Gives the number of its bytes, and 0 for EOP. -/
def decodeNext : Action (DecoderStreambuf σ) Nat := do
  let cmd ← mustGet
  decodeCommand cmd

/-- The end of a page. -/
def endPage : Action (DecoderStreambuf σ) Bool := do
  let this ← get
  if (this.videoSize + 1) % 2 ≠ 0 then throw (.decoderError "video size must be even")
  else
    set { this with videoSize := 0 }
    return false

/-- The loop of `decodeLine`, which runs while `buffer.size() < stop`. -/
def decodeLoop (stop : Nat) : Nat → Action (DecoderStreambuf σ) Bool
  | 0 => do
    let this ← get
    if this.buffer.length < stop then throw .unfinished
    else return true
  | fuel + 1 => do
    let this ← get
    if this.buffer.length < stop then
      let c ← decodeNext
      modify fun this => { this with videoSize := this.videoSize + c }
      if c = 0 then endPage
      else decodeLoop stop fuel
    else return true

/-- Decodes up to the end of a line; gives `false` at the end of a page. The sum of
`start` and the line size is an `unsigned` one. Every command takes a byte of the stream,
so that the loop ends within the bound of the stream.
-/
def decodeLine : Action (DecoderStreambuf σ) Bool := do
  let this ← get
  let start := unsigned this.buffer.length
  decodeLoop (unsigned (start + this.lineSize)) (FiniteSource.bound this.stream + 1)

/-- `underflow`: the next line, unless the page is at its end. -/
def underflow : Action (DecoderStreambuf σ) (Option UInt8) := do
  let this ← get
  match this.area with
  | b :: _ => return some b
  | [] =>
    if ← decodeLine then
      let this ← get
      let start := this.buffer.drop (this.buffer.length - this.lineSize)
      if this.buffer.length < this.lineSize ∨ this.lineSize = 0 then
        throw (.undefinedBehaviour "get area outside the buffer")
      else
        set { this with area := start }
        return start.head?
    else return none

/-- The decoder as a stream buffer. -/
instance : Streambuf Fault UInt8 (DecoderStreambuf σ) where
  area := fun this => this.area
  gbump := fun n this => { this with area := this.area.drop n }
  underflow := underflow

/-- Its `gbump` moves over the get area. -/
instance : Streambuf.Lawful Fault UInt8 (DecoderStreambuf σ) where
  area_gbump := fun {s b rest} h => by
    change s.area = b :: rest at h
    change s.area.drop 1 = rest
    rw [h]
    rfl

end Commands

end DecoderStreambuf

end Capt.Compression
