import Libcapt.Compression.ScoaStreambuf

/-! The meaning of the SCoA commands, independent of how the compressor chooses them and
of how the decoder executes them: a command extends a row by bytes copied from the row
above it at the same columns, followed by bytes of its own.
-/

namespace Capt.Compression

/-- The commands and their operands. -/
inductive Command where
  | copyLong (copyCount : Nat)
  | copyShort (copyCount : Nat)
  | copyThenRaw (copyCount : Nat) (rawData : List UInt8)
  | copyThenRawLong (copyCount : Nat) (rawData : List UInt8)
  | copyThenRepeat (copyCount repeatCount : Nat) (repeatByte : UInt8)
  | copyThenRepeatLong (copyCount repeatCount : Nat) (repeatByte : UInt8)
  | repeatThenRaw (repeatCount : Nat) (repeatByte : UInt8) (rawData : List UInt8)
  | repeatThenRawLong (repeatCount : Nat) (repeatByte : UInt8) (rawData : List UInt8)
  | repeatX (repeatCount : Nat)
  | repeatXLong (repeatCount : Nat)
  | eop
  | eol
  | nop
  deriving Repr, DecidableEq

namespace Command

/-- The function of the compressor that writes the command. -/
def emit (buffer : Buffer) : Command → Buffer × Nat
  | copyLong copyCount => ScoaCmd.copyLong buffer copyCount
  | copyShort copyCount => ScoaCmd.copyShort buffer copyCount
  | copyThenRaw copyCount rawData => ScoaCmd.copyThenRaw buffer copyCount rawData
  | copyThenRawLong copyCount rawData => ScoaCmd.copyThenRawLong buffer copyCount rawData
  | copyThenRepeat copyCount repeatCount repeatByte =>
      ScoaCmd.copyThenRepeat buffer copyCount repeatCount repeatByte
  | copyThenRepeatLong copyCount repeatCount repeatByte =>
      ScoaCmd.copyThenRepeatLong buffer copyCount repeatCount repeatByte
  | repeatThenRaw repeatCount repeatByte rawData =>
      ScoaCmd.repeatThenRaw buffer repeatCount repeatByte rawData
  | repeatThenRawLong repeatCount repeatByte rawData =>
      ScoaCmd.repeatThenRawLong buffer repeatCount repeatByte rawData
  | repeatX repeatCount => ScoaCmd.repeatX buffer repeatCount
  | repeatXLong repeatCount => ScoaCmd.repeatXLong buffer repeatCount
  | eop => ScoaCmd.eop buffer
  | eol => ScoaCmd.eol buffer
  | nop => ScoaCmd.nop buffer

/-- The bytes of the command. -/
def bytes (c : Command) : List UInt8 := (c.emit {}).1.bytes

/-- The argument ranges that the function of the command asserts. -/
def Valid : Command → Prop
  | copyLong n => 8 ≤ n ∧ n ≤ 248 ∧ n % 8 = 0
  | copyShort n => 1 ≤ n ∧ n ≤ 7
  | copyThenRaw n data => n ≤ 7 ∧ 1 ≤ data.length ∧ data.length ≤ 7
  | copyThenRawLong n data => n ≤ 7 ∧ 8 ≤ data.length ∧ data.length ≤ 255
  | copyThenRepeat n r _ => n ≤ 7 ∧ 2 ≤ r ∧ r ≤ 7
  | copyThenRepeatLong n r _ => n ≤ 7 ∧ 8 ≤ r ∧ r ≤ 255
  | repeatThenRaw r _ data => 2 ≤ r ∧ r ≤ 7 ∧ 1 ≤ data.length ∧ data.length ≤ 7
  | repeatThenRawLong r _ data => 2 ≤ r ∧ r ≤ 7 ∧ 8 ≤ data.length ∧ data.length ≤ 255
  | repeatX r => 1 ≤ r ∧ r ≤ 7
  | repeatXLong r => 8 ≤ r ∧ r ≤ 255
  | eop | eol | nop => True

/-- The number of bytes copied from the row above, before any others. -/
def copyCount : Command → Nat
  | copyLong n | copyShort n | copyThenRaw n _ | copyThenRawLong n _
  | copyThenRepeat n _ _ | copyThenRepeatLong n _ _ => n
  | repeatThenRaw _ _ _ | repeatThenRawLong _ _ _ | repeatX _ | repeatXLong _
  | eop | eol | nop => 0

/-- The bytes that the command carries itself. -/
def payload : Command → List UInt8
  | copyThenRaw _ data | copyThenRawLong _ data => data
  | copyThenRepeat _ r b | copyThenRepeatLong _ r b => List.replicate r b
  | repeatThenRaw r b data | repeatThenRawLong r b data => List.replicate r b ++ data
  | repeatX r | repeatXLong r => List.replicate r ScoaCmd.repeatXByte
  | copyLong _ | copyShort _ | eop | eol | nop => []

/-- The bytes by which the command extends `row`, under the row `prev`. -/
def produced (prev row : List UInt8) : Command → List UInt8
  | eol => prev.drop row.length
  | c => (prev.drop row.length).take c.copyCount ++ c.payload

/-- The command may stand in a row at this point: it copies only columns that the row
above has, and it extends the row.
-/
def Fits (prev row : List UInt8) : Command → Prop
  | eol => row.length < prev.length
  | eop | nop => False
  | c => c.copyCount = 0 ∨ row.length + c.copyCount ≤ prev.length

/-- A valid command appends its bytes, returns their number and fails no assertion. -/
theorem emit_eq {c : Command} (h : c.Valid) (buffer : Buffer)
    : c.emit buffer = (buffer.insert c.bytes, c.bytes.length) := by
  cases c with
  | eop | eol | nop => rfl
  | _ =>
      simp only [Valid] at h
      simp [emit, bytes, ScoaCmd.copyLong, ScoaCmd.copyShort, ScoaCmd.copyThenRaw,
        ScoaCmd.copyThenRawLong, ScoaCmd.copyThenRepeat, ScoaCmd.copyThenRepeatLong,
        ScoaCmd.repeatThenRaw, ScoaCmd.repeatThenRawLong, ScoaCmd.repeatX,
        ScoaCmd.repeatXLong, ScoaCmd.extend, Buffer.assert, Buffer.pushBack,
        Buffer.insert, h]
        <;> omega

/-- Every command takes at least one byte. -/
theorem length_bytes_pos (c : Command) : 0 < c.bytes.length := by
  cases c <;>
    simp [bytes, emit, ScoaCmd.copyLong, ScoaCmd.copyShort, ScoaCmd.copyThenRaw,
      ScoaCmd.copyThenRawLong, ScoaCmd.copyThenRepeat, ScoaCmd.copyThenRepeatLong,
      ScoaCmd.repeatThenRaw, ScoaCmd.repeatThenRawLong, ScoaCmd.repeatX,
      ScoaCmd.repeatXLong, ScoaCmd.extend, ScoaCmd.eop, ScoaCmd.eol, ScoaCmd.nop,
      Buffer.assert, Buffer.pushBack, Buffer.insert]

/-- A command that fits a row extends it. -/
theorem produced_ne_nil {c : Command} {prev row : List UInt8} (valid : c.Valid)
    (fits : c.Fits prev row)
    : 0 < (c.produced prev row).length := by
  cases c <;>
    simp only [Valid, Fits, produced, copyCount, payload, List.length_append,
      List.length_take, List.length_drop, List.length_replicate, List.length_nil] at *
    <;> omega

end Command

/-- The bytes of a list of commands. -/
def encode (cmds : List Command) : List UInt8 := cmds.flatMap Command.bytes

/-- No commands take no bytes. -/
@[simp]
theorem encode_nil : encode [] = [] := rfl

/-- The first command and those behind it. -/
@[simp]
theorem encode_cons (c : Command) (cmds : List Command)
    : encode (c :: cmds) = c.bytes ++ encode cmds :=
  rfl

/-- Two lists of commands in a row. -/
@[simp]
theorem encode_append (left right : List Command)
    : encode (left ++ right) = encode left ++ encode right :=
  List.flatMap_append

/-- Under the row `prev`, the commands extend the first row to the second: each is valid
and fits the row that those before it have made.
-/
inductive RowRun (prev : List UInt8) : List UInt8 → List Command → List UInt8 → Prop
  | nil (row) : RowRun prev row [] row
  | cons {row c cmds final} (valid : c.Valid) (fits : c.Fits prev row)
    (tail : RowRun prev (row ++ c.produced prev row) cmds final)
    : RowRun prev row (c :: cmds) final

/-- Runs over a row compose, by induction on the first one. -/
theorem RowRun.append {prev row middle final : List UInt8} {left right : List Command}
    (hl : RowRun prev row left middle) (hr : RowRun prev middle right final)
    : RowRun prev row (left ++ right) final := by
  induction hl with
  | nil => exact hr
  | cons valid fits _ ih => exact .cons valid fits (ih hr)

/-- A row run of one command. -/
theorem RowRun.single {prev row : List UInt8} {c : Command} (valid : c.Valid)
    (fits : c.Fits prev row)
    : RowRun prev row [c] (row ++ c.produced prev row) :=
  .cons valid fits (.nil _)

/-- Commands only append to the row, by induction on the run. -/
theorem RowRun.isPrefix {prev row final : List UInt8} {cmds : List Command}
    (h : RowRun prev row cmds final)
    : row <+: final := by
  induction h with
  | nil => exact List.prefix_refl _
  | cons _ _ _ ih => exact (List.prefix_append _ _).trans ih

/-- Every command lengthens the row, so a nonempty run starts at a shorter row. -/
theorem RowRun.length_lt {prev row final : List UInt8} {c : Command}
    {cmds : List Command} (h : RowRun prev row (c :: cmds) final)
    : row.length < final.length := by
  cases h with
  | cons valid fits tail =>
      have longer := Command.produced_ne_nil valid fits
      have bound := tail.isPrefix.length_le
      rw [List.length_append] at bound
      omega

/-- Neither NOP nor EOP stands in a row. -/
theorem RowRun.plain {prev row final : List UInt8} {cmds : List Command}
    (h : RowRun prev row cmds final)
    : .nop ∉ cmds ∧ .eop ∉ cmds := by
  induction h with
  | nil => simp
  | @cons row c cmds final valid fits _ ih =>
      have notNop : .nop ≠ c := by
        rintro rfl
        exact fits
      have notEop : .eop ≠ c := by
        rintro rfl
        exact fits
      simp [notNop, notEop, ih.1, ih.2]

end Capt.Compression
