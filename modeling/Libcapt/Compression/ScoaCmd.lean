import Libcapt.Core.Fault

/-! The SCoA commands as the compressor writes them: one function for each command,
appending its bytes to the output buffer and returning its size.
-/

namespace Capt.Compression

/-- The compressor's output vector. Assertions do not change what is computed; `asserted`
records whether every one met so far held.
-/
structure Buffer where
  bytes : List UInt8 := []
  asserted : Bool := true
  deriving Repr, DecidableEq

namespace Buffer

/-- `assert`, which is recorded and does not end the run. -/
def assert (buffer : Buffer) (condition : Prop) [Decidable condition] : Buffer :=
  { buffer with asserted := buffer.asserted && decide condition }

/-- `push_back` of a number that is converted to a byte. -/
def pushBack (buffer : Buffer) (value : Nat) : Buffer :=
  { buffer with bytes := buffer.bytes ++ [UInt8.ofNat value] }

/-- `insert` at the end. -/
def insert (buffer : Buffer) (data : List UInt8) : Buffer :=
  { buffer with bytes := buffer.bytes ++ data }

end Buffer

namespace ScoaCmd

/-- The byte that the commands for white or black stretches repeat. -/
def repeatXByte : UInt8 := 0x43

/-- `CopyLong`: a multiple of eight bytes, up to 248, from the line before. -/
def copyLong (buffer : Buffer) (copyCount : Nat) : Buffer × Nat :=
  let buffer := buffer.assert (copyCount ≥ 8)
  let buffer := buffer.assert (copyCount ≤ 248)
  let buffer := buffer.assert (copyCount % 8 = 0)
  (buffer.pushBack (0x80 ||| ((copyCount >>> 3) &&& 0x1f)), 1)

/-- `CopyShort`: one to seven bytes from the line before. -/
def copyShort (buffer : Buffer) (copyCount : Nat) : Buffer × Nat :=
  let buffer := buffer.assert (copyCount ≥ 1)
  let buffer := buffer.assert (copyCount ≤ 7)
  (buffer.pushBack (0xc0 ||| (copyCount &&& 7)), 1)

/-- `CopyThenRaw`: up to seven copied bytes and one to seven given ones. -/
def copyThenRaw (buffer : Buffer) (copyCount : Nat) (rawData : List UInt8)
    : Buffer × Nat :=
  let buffer := buffer.assert (copyCount ≤ 7)
  let buffer := buffer.assert (rawData.length ≥ 1)
  let buffer := buffer.assert (rawData.length ≤ 7)
  let buffer := buffer.pushBack (((rawData.length &&& 7) <<< 3) ||| (copyCount &&& 7))
  (buffer.insert rawData, 1 + rawData.length)

/-- `Extend`: the byte before a long command, with the count's multiple of eight. -/
def extend (buffer : Buffer) (count : Nat) : Buffer × Nat :=
  let buffer := buffer.assert (count ≥ 8)
  let buffer := buffer.assert (count ≤ 255)
  (buffer.pushBack (0xa0 ||| ((count >>> 3) &&& 0x1f)), 1)

/-- `CopyThenRawLong`: up to seven copied bytes and 8 to 255 given ones. -/
def copyThenRawLong (buffer : Buffer) (copyCount : Nat) (rawData : List UInt8)
    : Buffer × Nat :=
  let buffer := buffer.assert (copyCount ≤ 7)
  let buffer := buffer.assert (rawData.length ≥ 8)
  let buffer := buffer.assert (rawData.length ≤ 255)
  let (buffer, vsize) := extend buffer rawData.length
  let buffer :=
    buffer.pushBack (0xc0 ||| ((rawData.length &&& 7) <<< 3) ||| (copyCount &&& 7))
  (buffer.insert rawData, vsize + 1 + rawData.length)

/-- `CopyThenRepeat`: up to seven copied bytes and one byte two to seven times. -/
def copyThenRepeat (buffer : Buffer) (copyCount repeatCount : Nat) (repeatByte : UInt8)
    : Buffer × Nat :=
  let buffer := buffer.assert (copyCount ≤ 7)
  let buffer := buffer.assert (repeatCount ≥ 2)
  let buffer := buffer.assert (repeatCount ≤ 7)
  let buffer := buffer.pushBack (0x40 ||| ((repeatCount &&& 7) <<< 3) ||| (copyCount &&& 7))
  (buffer.insert [repeatByte], 2)

/-- `CopyThenRepeatLong`: up to seven copied bytes and one byte 8 to 255 times. -/
def copyThenRepeatLong (buffer : Buffer) (copyCount repeatCount : Nat)
    (repeatByte : UInt8)
    : Buffer × Nat :=
  let buffer := buffer.assert (copyCount ≤ 7)
  let buffer := buffer.assert (repeatCount ≥ 8)
  let buffer := buffer.assert (repeatCount ≤ 255)
  let (buffer, vsize) := extend buffer repeatCount
  let buffer := buffer.pushBack (0x80 ||| ((repeatCount &&& 7) <<< 3) ||| (copyCount &&& 7))
  (buffer.insert [repeatByte], vsize + 2)

/-- `RepeatThenRaw`: one byte two to seven times and one to seven given ones. -/
def repeatThenRaw (buffer : Buffer) (repeatCount : Nat) (repeatByte : UInt8)
    (rawData : List UInt8)
    : Buffer × Nat :=
  let buffer := buffer.assert (repeatCount ≥ 2)
  let buffer := buffer.assert (repeatCount ≤ 7)
  let buffer := buffer.assert (rawData.length ≥ 1)
  let buffer := buffer.assert (rawData.length ≤ 7)
  let buffer :=
    buffer.pushBack (0xc0 ||| ((repeatCount &&& 7) <<< 3) ||| (rawData.length &&& 7))
  let buffer := buffer.insert [repeatByte]
  (buffer.insert rawData, 2 + rawData.length)

/-- `RepeatThenRawLong`: one byte two to seven times and 8 to 255 given ones. -/
def repeatThenRawLong (buffer : Buffer) (repeatCount : Nat) (repeatByte : UInt8)
    (rawData : List UInt8)
    : Buffer × Nat :=
  let buffer := buffer.assert (repeatCount ≥ 2)
  let buffer := buffer.assert (repeatCount ≤ 7)
  let buffer := buffer.assert (rawData.length ≥ 8)
  let buffer := buffer.assert (rawData.length ≤ 255)
  let (buffer, vsize) := extend buffer rawData.length
  let buffer :=
    buffer.pushBack (0x40 ||| ((repeatCount &&& 7) <<< 3) ||| (rawData.length &&& 7))
  let buffer := buffer.insert [repeatByte]
  (buffer.insert rawData, vsize + 2 + rawData.length)

/-- `RepeatX`: the fixed byte up to seven times. -/
def repeatX (buffer : Buffer) (repeatCount : Nat) : Buffer × Nat :=
  let buffer := buffer.assert (repeatCount ≥ 1)
  let buffer := buffer.assert (repeatCount ≤ 7)
  (buffer.pushBack (0xc0 ||| ((repeatCount &&& 7) <<< 3)), 1)

/-- `RepeatXLong`: the fixed byte 8 to 255 times. -/
def repeatXLong (buffer : Buffer) (repeatCount : Nat) : Buffer × Nat :=
  let buffer := buffer.assert (repeatCount ≥ 8)
  let buffer := buffer.assert (repeatCount ≤ 255)
  let (buffer, vsize) := extend buffer repeatCount
  (buffer.pushBack ((repeatCount &&& 7) <<< 3), vsize + 1)

/-- `EOP`: the end of the page. -/
def eop (buffer : Buffer) : Buffer × Nat := (buffer.pushBack 0x42, 1)

/-- `EOL`: the rest of the line is as in the line before. -/
def eol (buffer : Buffer) : Buffer × Nat := (buffer.pushBack 0x41, 1)

/-- `NOP`, which makes the size of the page even. -/
def nop (buffer : Buffer) : Buffer × Nat := (buffer.pushBack 0x40, 1)

end ScoaCmd

end Capt.Compression
