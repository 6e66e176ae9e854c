import Libcapt.Compression.ScoaState

/-! The compressor: the helpers that split a run of any length into commands, the choice
of the helper for the next segments of a line, and the stream buffer that compresses a
raster line by line.
-/

namespace Capt.Compression

open Streams

-----------------------------------------------------------------------------------------
-- Splitting long runs into commands
-----------------------------------------------------------------------------------------

/-- `while (copyCount >= 8)`: long copies, at most `fuel` of them. Gives the buffer, the
rest of the count and the size.
-/
def copyLongLoop : Nat → Buffer → Nat → Nat → Buffer × Nat × Nat
  | 0, buffer, copyCount, vsize => (buffer, copyCount, vsize)
  | fuel + 1, buffer, copyCount, vsize =>
    if copyCount ≥ 8 then
      let copy := min copyCount 248
      let copy := copy - copy % 8
      let (buffer, size) := ScoaCmd.copyLong buffer copy
      copyLongLoop fuel buffer (copyCount - copy) (vsize + size)
    else (buffer, copyCount, vsize)

/-- `while (rawData.size() >= 8)`: long raw commands, the first of which copies. Gives the
buffer, the copy count that is left, the rest of the data and the size.
-/
def copyThenRawLongLoop
    : Nat → Buffer → Nat → List UInt8 → Nat → Buffer × Nat × List UInt8 × Nat
  | 0, buffer, copyCount, rawData, vsize => (buffer, copyCount, rawData, vsize)
  | fuel + 1, buffer, copyCount, rawData, vsize =>
    if rawData.length ≥ 8 then
      let count := min rawData.length 255
      let (buffer, size) := ScoaCmd.copyThenRawLong buffer copyCount (rawData.take count)
      copyThenRawLongLoop fuel buffer 0 (rawData.drop count) (vsize + size)
    else (buffer, copyCount, rawData, vsize)

/-- `while (repeatCount >= 8)`: long repetitions, the first of which copies. Gives the
buffer, the copy count that is left, the rest of the repeat count and the size.
-/
def copyThenRepeatLongLoop
    : Nat → Buffer → Nat → Nat → UInt8 → Nat → Buffer × Nat × Nat × Nat
  | 0, buffer, copyCount, repeatCount, _, vsize => (buffer, copyCount, repeatCount, vsize)
  | fuel + 1, buffer, copyCount, repeatCount, repeatByte, vsize =>
    if repeatCount ≥ 8 then
      let rep := min repeatCount 255
      let (buffer, size) := ScoaCmd.copyThenRepeatLong buffer copyCount rep repeatByte
      copyThenRepeatLongLoop fuel buffer 0 (repeatCount - rep) repeatByte (vsize + size)
    else (buffer, copyCount, repeatCount, vsize)

/-- `while (repeatCount >= 8)`: long repetitions of `ScoaCmd.repeatXByte`. -/
def repeatXLongLoop : Nat → Buffer → Nat → Nat → Buffer × Nat × Nat
  | 0, buffer, repeatCount, vsize => (buffer, repeatCount, vsize)
  | fuel + 1, buffer, repeatCount, vsize =>
    if repeatCount ≥ 8 then
      let rep := min repeatCount 255
      let (buffer, size) := ScoaCmd.repeatXLong buffer rep
      repeatXLongLoop fuel buffer (repeatCount - rep) (vsize + size)
    else (buffer, repeatCount, vsize)

/-- A copy of any length. -/
def cmdCopy (buffer : Buffer) (copyCount : Nat) : Buffer × Nat :=
  let buffer := buffer.assert (copyCount ≠ 0)
  let (buffer, copyCount, vsize) := copyLongLoop copyCount buffer copyCount 0
  if copyCount ≠ 0 then
    let (buffer, size) := ScoaCmd.copyShort buffer copyCount
    (buffer, vsize + size)
  else (buffer, vsize)

/-- `cmd_CopyThenRaw` at a copy count of at most 7, where it does not call itself. -/
def cmdCopyThenRawShort (buffer : Buffer) (copyCount : Nat) (rawData : List UInt8)
    : Buffer × Nat :=
  let buffer := buffer.assert (rawData.length ≠ 0)
  let (buffer, copyCount, rawData, vsize) :=
    copyThenRawLongLoop rawData.length buffer copyCount rawData 0
  if copyCount ≠ 0 ∨ rawData.length ≠ 0 then
    let (buffer, size) := ScoaCmd.copyThenRaw buffer copyCount rawData
    (buffer, vsize + size)
  else (buffer, vsize)

/-- A copy and raw bytes, both of any length. -/
def cmdCopyThenRaw (buffer : Buffer) (copyCount : Nat) (rawData : List UInt8)
    : Buffer × Nat :=
  if copyCount ≤ 7 then cmdCopyThenRawShort buffer copyCount rawData
  else
    let buffer := buffer.assert (rawData.length ≠ 0)
    let (buffer, copyCount, vsize) := copyLongLoop copyCount buffer copyCount 0
    -- the recursive call: the loop leaves a count of at most 7
    let (buffer, size) := cmdCopyThenRawShort buffer copyCount rawData
    (buffer, vsize + size)

/-- Raw bytes of any length. -/
def cmdWriteRaw (buffer : Buffer) (rawData : List UInt8) : Buffer × Nat :=
  let buffer := buffer.assert (rawData.length ≠ 0)
  if rawData.length ≤ 7 then ScoaCmd.copyThenRaw buffer 0 rawData
  else
    let (buffer, _, rawData, vsize) :=
      copyThenRawLongLoop rawData.length buffer 0 rawData 0
    if rawData.length ≠ 0 then
      let (buffer, size) := ScoaCmd.copyThenRaw buffer 0 rawData
      (buffer, vsize + size)
    else (buffer, vsize)

/-- `cmd_CopyThenRepeat` at a copy count of at most 7, where it does not call itself. -/
def cmdCopyThenRepeatShort (buffer : Buffer) (copyCount repeatCount : Nat)
    (repeatByte : UInt8)
    : Buffer × Nat :=
  let buffer := buffer.assert (copyCount ≠ 0 ∨ repeatCount ≠ 0)
  let (buffer, copyCount, repeatCount, vsize) :=
    copyThenRepeatLongLoop repeatCount buffer copyCount repeatCount repeatByte 0
  if repeatCount ≥ 2 then
    let (buffer, size) := ScoaCmd.copyThenRepeat buffer copyCount repeatCount repeatByte
    (buffer, vsize + size)
  else if repeatCount = 1 then
    let (buffer, size) := ScoaCmd.copyThenRaw buffer copyCount [repeatByte]
    (buffer, vsize + size)
  else if copyCount ≠ 0 then
    let (buffer, size) := ScoaCmd.copyShort buffer copyCount
    (buffer, vsize + size)
  else (buffer, vsize)

/-- A copy and a repeated byte, both of any length. -/
def cmdCopyThenRepeat (buffer : Buffer) (copyCount repeatCount : Nat) (repeatByte : UInt8)
    : Buffer × Nat :=
  if copyCount ≤ 7 then cmdCopyThenRepeatShort buffer copyCount repeatCount repeatByte
  else
    let buffer := buffer.assert (copyCount ≠ 0 ∨ repeatCount ≠ 0)
    let (buffer, copyCount, vsize) := copyLongLoop copyCount buffer copyCount 0
    -- the recursive call: the loop leaves a count of at most 7
    let (buffer, size) := cmdCopyThenRepeatShort buffer copyCount repeatCount repeatByte
    (buffer, vsize + size)

/-- The fixed byte, any number of times. -/
def cmdRepeatX (buffer : Buffer) (repeatCount : Nat) : Buffer × Nat :=
  let buffer := buffer.assert (repeatCount ≠ 0)
  let (buffer, repeatCount, vsize) := repeatXLongLoop repeatCount buffer repeatCount 0
  if repeatCount ≠ 0 then
    let (buffer, size) := ScoaCmd.repeatX buffer repeatCount
    (buffer, vsize + size)
  else (buffer, vsize)

/-- A byte, any number of times. -/
def cmdRepeat (buffer : Buffer) (repeatCount : Nat) (repeatByte : UInt8) : Buffer × Nat :=
  let buffer := buffer.assert (repeatCount ≠ 0)
  if repeatByte = ScoaCmd.repeatXByte then cmdRepeatX buffer repeatCount
  else cmdCopyThenRepeat buffer 0 repeatCount repeatByte

/-- `cmd_RepeatThenRaw` at a repeat count of at most 7, where it does not call itself. -/
def cmdRepeatThenRawShort (buffer : Buffer) (repeatCount : Nat) (repeatByte : UInt8)
    (rawData : List UInt8)
    : Buffer × Nat :=
  let buffer := buffer.assert (repeatCount ≠ 0 ∨ rawData.length ≠ 0)
  if rawData.length ≤ 7 then
    if rawData.length = 0 then cmdCopyThenRepeat buffer 0 repeatCount repeatByte
    else if repeatCount = 0 then ScoaCmd.copyThenRaw buffer 0 rawData
    else if repeatCount ≥ 2 then
      ScoaCmd.repeatThenRaw buffer repeatCount repeatByte rawData
    else
      let (buffer, vsize) := cmdCopyThenRepeat buffer 0 repeatCount repeatByte
      let (buffer, size) := ScoaCmd.copyThenRaw buffer 0 rawData
      (buffer, vsize + size)
  else
    let (buffer, rawData, vsize) :=
      if repeatCount ≥ 2 then
        let count := min rawData.length 255
        let (buffer, size) :=
          ScoaCmd.repeatThenRawLong buffer repeatCount repeatByte (rawData.take count)
        (buffer, rawData.drop count, size)
      else if repeatCount ≠ 0 then
        let (buffer, size) := cmdCopyThenRepeat buffer 0 repeatCount repeatByte
        (buffer, rawData, size)
      else (buffer, rawData, 0)
    let (buffer, _, rawData, vsize) :=
      copyThenRawLongLoop rawData.length buffer 0 rawData vsize
    if rawData.length ≠ 0 then
      let (buffer, size) := ScoaCmd.copyThenRaw buffer 0 rawData
      (buffer, vsize + size)
    else (buffer, vsize)

/-- A repeated byte and raw bytes, both of any length. -/
def cmdRepeatThenRaw (buffer : Buffer) (repeatCount : Nat) (repeatByte : UInt8)
    (rawData : List UInt8)
    : Buffer × Nat :=
  if repeatCount ≤ 7 then cmdRepeatThenRawShort buffer repeatCount repeatByte rawData
  else
    let buffer := buffer.assert (repeatCount ≠ 0 ∨ rawData.length ≠ 0)
    let (buffer, _, repeatCount, vsize) :=
      copyThenRepeatLongLoop repeatCount buffer 0 repeatCount repeatByte 0
    -- the recursive call: the loop leaves a count of at most 7
    let (buffer, size) := cmdRepeatThenRawShort buffer repeatCount repeatByte rawData
    (buffer, vsize + size)

/-- Writes the commands for the next segments of the line. -/
def nextCmd (buffer : Buffer) (line : List UInt8) (state : ScoaState)
    : Buffer × ScoaState × Nat :=
  let buffer := buffer.assert (¬ state.Empty)
  let buffer := buffer.assert state.PeekAsserts
  let (curr, state) := state.get
  if curr.type = .copy then
    if curr.index + curr.count = line.length then
      let (buffer, size) := ScoaCmd.eol buffer
      (buffer, state, size)
    else if ¬ state.Empty then
      let buffer := buffer.assert state.PeekAsserts
      let (next, state) := state.get
      if next.type = .repeats then
        let buffer := buffer.assert (next.count ≥ 2)
        let (buffer, size) :=
          cmdCopyThenRepeat buffer (unsigned curr.count) (unsigned next.count)
            ((line)[next.index]?.getD 0)
        (buffer, state, size)
      else
        let buffer := buffer.assert (next.type = .raw)
        let buffer := buffer.assert (next.PayloadAsserts line)
        let (buffer, size) :=
          cmdCopyThenRaw buffer (unsigned curr.count) (next.payload line)
        (buffer, state, size)
    else
      let (buffer, size) := cmdCopy buffer (unsigned curr.count)
      (buffer, state, size)
  else if curr.type = .repeats then
    let buffer := buffer.assert (curr.count ≥ 2)
    let buffer := buffer.assert (state.Empty ∨ state.PeekAsserts)
    if ¬ state.Empty ∧ state.peek.type = .raw then
      let (next, state) := state.get
      let buffer := buffer.assert (next.PayloadAsserts line)
      let (buffer, size) :=
        cmdRepeatThenRaw buffer (unsigned curr.count) ((line)[curr.index]?.getD 0)
          (next.payload line)
      (buffer, state, size)
    else
      let (buffer, size) :=
        cmdRepeat buffer (unsigned curr.count) ((line)[curr.index]?.getD 0)
      (buffer, state, size)
  else
    let buffer := buffer.assert (curr.PayloadAsserts line)
    let (buffer, size) := cmdWriteRaw buffer (curr.payload line)
    (buffer, state, size)

/-- `while (!state.Empty()) videoSize += nextCmd(...)`; `none` when the state is not empty
after `fuel` commands.
-/
def encodeLoop
    : Nat → Buffer → List UInt8 → ScoaState → Nat → Option (Buffer × Nat)
  | fuel, buffer, line, state, videoSize =>
    if state.Empty then some (buffer, videoSize)
    else
      match fuel with
      | 0 => none
      | fuel + 1 =>
        let (buffer, state, size) := nextCmd buffer line state
        encodeLoop fuel buffer line state (videoSize + size)

-----------------------------------------------------------------------------------------
-- The stream buffer
-----------------------------------------------------------------------------------------

/-- The compressor over a raster source in state `σ`. `area` is the get area inherited
from `std::streambuf`: the bytes between `gptr` and `egptr`.
-/
structure ScoaStreambuf (σ : Type) where
  rasterStream : Option σ := none
  buffer : Buffer := {}
  currLine : List UInt8 := []
  prevLine : List UInt8 := []
  linesRemain : Nat := 0
  videoSize : Nat := 0
  area : List UInt8 := []

namespace ScoaStreambuf

variable {σ : Type}

/-- `std::vector::resize`. -/
def resize (line : List UInt8) (size : Nat) : List UInt8 :=
  line.take size ++ List.replicate (size - line.length) 0

/-- The constructor with a raster. -/
def construct (rasterStream : σ) (lineSize lines : Nat) : ScoaStreambuf σ :=
  {
    rasterStream := some rasterStream
    currLine := List.replicate lineSize 0
    linesRemain := lines
  }

/-- `Reset` sets every field of the class; the inherited get area is not among them. -/
def reset (this : ScoaStreambuf σ) (rasterStream : σ) (lineSize lines : Nat)
    : ScoaStreambuf σ :=
  { this with
    rasterStream := some rasterStream
    buffer := { this.buffer with bytes := [] }
    linesRemain := lines
    currLine := resize this.currLine lineSize
    prevLine := resize this.prevLine lineSize
    videoSize := 0 }

variable [Source Fault UInt8 σ]

/-- `rasterStream->sgetn(currLine.data(), currLine.size())`, giving the count. The bytes
that the read does not reach keep their values.
-/
def readLine : Action (ScoaStreambuf σ) Nat := fun this =>
  match this.rasterStream with
  | none => .error (.undefinedBehaviour "rasterStream is null") this
  | some raster =>
    match (Source.sgetn this.currLine.length).run raster with
    | .error err raster => .error err { this with rasterStream := some raster }
    | .ok data raster =>
      .ok data.length
        { this with
          rasterStream := some raster
          currLine := data ++ this.currLine.drop data.length }

/-- The commands for the line just read, and for the end of the page after the last one. -/
def encodeLine : Action (ScoaStreambuf σ) Unit := fun this =>
  let state := ScoaState.ofLines this.currLine
    (if this.videoSize = 0 then [] else this.prevLine)
  match encodeLoop this.currLine.length { this.buffer with bytes := [] } this.currLine state
      this.videoSize with
  -- an empty line leaves the state as it is for ever
  | none => .error .unfinished this
  | some (buffer, videoSize) =>
    let linesRemain := this.linesRemain - 1
    let buffer :=
      if linesRemain = 0 then
        let buffer :=
          if (videoSize + 1) % 2 ≠ 0 then (ScoaCmd.nop buffer).1 else buffer
        (ScoaCmd.eop buffer).1
      else buffer
    .ok ()
      { this with
        buffer := buffer
        currLine := resize this.prevLine this.currLine.length
        prevLine := this.currLine
        linesRemain := linesRemain
        videoSize := videoSize }

/-- The next line as its commands, unless the page is at its end. -/
def underflow : Action (ScoaStreambuf σ) (Option UInt8) := do
  let this ← get
  match this.area with
  | b :: _ => return some b
  | [] =>
    if this.linesRemain = 0 then return none
    else
      let read ← readLine
      if read < this.currLine.length then return none
      else
        encodeLine
        modify fun this => { this with area := this.buffer.bytes }
        let this ← get
        return this.area.head?

/-- The compressor as a stream buffer. -/
instance : Streambuf Fault UInt8 (ScoaStreambuf σ) where
  area := fun this => this.area
  gbump := fun n this => { this with area := this.area.drop n }
  underflow := underflow

/-- Its `gbump` moves over the get area. -/
instance : Streambuf.Lawful Fault UInt8 (ScoaStreambuf σ) where
  area_gbump := fun {s b rest} h => by
    change s.area = b :: rest at h
    change s.area.drop 1 = rest
    rw [h]
    rfl

end ScoaStreambuf

end Capt.Compression
