import Libcapt.Compression.Command

/-! The bytes of the commands, field by field. -/

namespace Capt.Compression

/-- Two bits of opcode and two fields of three bits. -/
def fieldByte (opcode high low : Nat) : UInt8 := UInt8.ofNat (opcode ||| (high <<< 3) ||| low)

/-- Three bits of opcode and the count of eights. -/
def eightsByte (opcode count : Nat) : UInt8 :=
  UInt8.ofNat (opcode ||| ((count >>> 3) &&& 0x1f))

/-- The byte has none of the fixed values. -/
def Unfixed (cmd : UInt8) : Prop := cmd ≠ 0x42 ∧ cmd ≠ 0x41 ∧ cmd ≠ 0x40

/-- Three bytes are compared. -/
instance (cmd : UInt8) : Decidable (Unfixed cmd) := inferInstanceAs (Decidable (_ ∧ _))

/-- Neither is it an extension or a long copy. -/
def Plain (cmd : UInt8) : Prop :=
  Unfixed cmd ∧ cmd &&& 0xe0 ≠ 0xa0 ∧ cmd &&& 0xe0 ≠ 0x80

/-- One field is compared as well. -/
instance (cmd : UInt8) : Decidable (Plain cmd) := inferInstanceAs (Decidable (_ ∧ _))

/-- The fields of a byte are read as they were written. -/
theorem fieldByte_fields
    : ∀ opcode ∈ [0, 0x40, 0x80, 0xc0], ∀ high < 8, ∀ low < 8,
        fieldByte opcode high low &&& 0xc0 = UInt8.ofNat opcode
        ∧ ((fieldByte opcode high low >>> 3) &&& 7).toNat = high
        ∧ (fieldByte opcode high low &&& 7).toNat = low := by
  decide

/-- The repetition count keeps the opcode 0x40 apart from the fixed values. -/
theorem fieldByte_plain
    : ∀ opcode ∈ [0, 0x40, 0xc0], ∀ high < 8, ∀ low < 8, (opcode = 0x40 → 2 ≤ high) →
        Plain (fieldByte opcode high low) := by
  decide

/-- So is the field for long counts, in every case. -/
theorem eights_fields
    : ∀ opcode ∈ [0xa0, 0x80], ∀ eights < 32,
        Unfixed (UInt8.ofNat (opcode ||| eights))
        ∧ UInt8.ofNat (opcode ||| eights) &&& 0xe0 = UInt8.ofNat opcode
        ∧ ((UInt8.ofNat (opcode ||| eights) &&& 0x1f) <<< 3).toNat = 8 * eights := by
  decide

/-- The three lowest bits. -/
theorem and_seven (n : Nat) : n &&& 7 = n % 8 := Nat.and_two_pow_sub_one_eq_mod n 3

/-- The byte of a long count, and what is read from it. -/
theorem eightsByte_fields {opcode count : Nat} (mem : opcode ∈ [0xa0, 0x80])
    (small : count ≤ 255)
    : Unfixed (eightsByte opcode count)
      ∧ eightsByte opcode count &&& 0xe0 = UInt8.ofNat opcode
      ∧ ((eightsByte opcode count &&& 0x1f) <<< 3).toNat = 8 * (count / 8) := by
  have shift : count >>> 3 = count / 8 := Nat.shiftRight_eq_div_pow count 3
  have mask : (count / 8) &&& 0x1f = count / 8 :=
    (Nat.and_two_pow_sub_one_eq_mod (count / 8) 5).trans (Nat.mod_eq_of_lt (by omega))
  rw [eightsByte, shift, mask]
  exact eights_fields opcode mem (count / 8) (by omega)

/-- The count of an extended command is put together from both bytes. -/
theorem extended_count {extendCount low : UInt8} {count : Nat} (small : count ≤ 255)
    (high : extendCount.toNat = 8 * (count / 8)) (rest : low.toNat = count % 8)
    : (extendCount + low).toNat = count := by
  rw [UInt8.toNat_add, high, rest, Nat.mod_eq_of_lt (by omega)]
  omega

/-- The layout of a command in the stream. -/
def Command.layout : Command → List UInt8
  | copyLong n => [eightsByte 0x80 n]
  | copyShort n => [fieldByte 0xc0 0 n]
  | copyThenRaw n data => fieldByte 0 data.length n :: data
  | copyThenRawLong n data =>
      eightsByte 0xa0 data.length :: fieldByte 0xc0 (data.length % 8) n :: data
  | copyThenRepeat n r b => [fieldByte 0x40 r n, b]
  | copyThenRepeatLong n r b => [eightsByte 0xa0 r, fieldByte 0x80 (r % 8) n, b]
  | repeatThenRaw r b data => fieldByte 0xc0 r data.length :: b :: data
  | repeatThenRawLong r b data =>
      eightsByte 0xa0 data.length :: fieldByte 0x40 r (data.length % 8) :: b :: data
  | repeatX r => [fieldByte 0xc0 r 0]
  | repeatXLong r => [eightsByte 0xa0 r, fieldByte 0 (r % 8) 0]
  | eop => [0x42]
  | eol => [0x41]
  | nop => [0x40]

/-- A valid command is written in its layout. -/
theorem Command.bytes_eq_layout {c : Command} (valid : c.Valid) : c.bytes = c.layout := by
  have seven {n : Nat} (h : n ≤ 7) : n &&& 7 = n := by
    rw [and_seven]
    omega
  cases c with
  | copyLong n => rfl
  | copyShort n =>
      rw [bytes, emit, ScoaCmd.copyShort, seven valid.2]
      rfl
  | copyThenRaw n data =>
      rw [bytes, emit, ScoaCmd.copyThenRaw, seven valid.1, seven valid.2.2, layout, fieldByte,
        Nat.zero_or]
      rfl
  | copyThenRawLong n data =>
      rw [bytes, emit, ScoaCmd.copyThenRawLong, seven valid.1, and_seven]
      rfl
  | copyThenRepeat n r b =>
      rw [bytes, emit, ScoaCmd.copyThenRepeat, seven valid.1, seven valid.2.2]
      rfl
  | copyThenRepeatLong n r b =>
      rw [bytes, emit, ScoaCmd.copyThenRepeatLong, seven valid.1, and_seven]
      rfl
  | repeatThenRaw r b data =>
      rw [bytes, emit, ScoaCmd.repeatThenRaw, seven valid.2.1, seven valid.2.2.2]
      rfl
  | repeatThenRawLong r b data =>
      rw [bytes, emit, ScoaCmd.repeatThenRawLong, seven valid.2.1, and_seven]
      rfl
  | repeatX r =>
      rw [bytes, emit, ScoaCmd.repeatX, seven valid.2, layout, fieldByte, Nat.or_zero]
      rfl
  | repeatXLong r =>
      rw [bytes, emit, ScoaCmd.repeatXLong, and_seven, layout, fieldByte, Nat.or_zero,
        Nat.zero_or]
      rfl
  | eop | eol | nop => rfl

end Capt.Compression
