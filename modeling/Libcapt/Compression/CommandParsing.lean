import Libcapt.Compression.CommandLayout

/-! The commands at the front of a byte string: which bytes stand for a command, and that
no others do.
-/

namespace Capt.Compression

/-- The field of bits 3 to 5. -/
def highField (cmd : UInt8) : Nat := ((cmd >>> 3) &&& 7).toNat

/-- The field of bits 0 to 2. -/
def lowField (cmd : UInt8) : Nat := (cmd &&& 7).toNat

/-- The count of bits 0 to 4, in eights. -/
def eightsField (cmd : UInt8) : Nat := ((cmd &&& 0x1f) <<< 3).toNat

/-- What holds of every number below 256 holds of every byte. -/
theorem byte_forall {P : UInt8 → Prop} (h : ∀ n < 256, P (.ofNat n)) (b : UInt8) : P b := by
  have holds := h b.toNat b.toNat_lt
  rwa [UInt8.ofNat_toNat] at holds

/-- The high field has three bits. -/
theorem highField_lt (cmd : UInt8) : highField cmd < 8 :=
  byte_forall (P := fun cmd => highField cmd < 8) (by decide +kernel) cmd

/-- The low field has three bits. -/
theorem lowField_lt (cmd : UInt8) : lowField cmd < 8 :=
  byte_forall (P := fun cmd => lowField cmd < 8) (by decide +kernel) cmd

/-- The field for long counts is a multiple of eight, up to 248. -/
theorem eightsField_le (cmd : UInt8) : eightsField cmd ≤ 248 ∧ eightsField cmd % 8 = 0 :=
  byte_forall (P := fun cmd => eightsField cmd ≤ 248 ∧ eightsField cmd % 8 = 0)
    (by decide +kernel) cmd

/-- The two highest bits of a byte. -/
theorem opcode_cases (cmd : UInt8)
    : cmd &&& 0xc0 = 0 ∨ cmd &&& 0xc0 = 0x80 ∨ cmd &&& 0xc0 = 0x40 ∨ cmd &&& 0xc0 = 0xc0 :=
  byte_forall
    (P := fun cmd =>
      cmd &&& 0xc0 = 0 ∨ cmd &&& 0xc0 = 0x80 ∨ cmd &&& 0xc0 = 0x40 ∨ cmd &&& 0xc0 = 0xc0)
    (by decide +kernel) cmd

/-- The opcode 0x80 of two bits is the one of an extension or of a long copy. -/
theorem opcode_long (cmd : UInt8)
    : cmd &&& 0xe0 ≠ 0xa0 → cmd &&& 0xe0 ≠ 0x80 → cmd &&& 0xc0 ≠ 0x80 :=
  byte_forall
    (P := fun cmd => cmd &&& 0xe0 ≠ 0xa0 → cmd &&& 0xe0 ≠ 0x80 → cmd &&& 0xc0 ≠ 0x80)
    (by decide +kernel) cmd

/-- A byte is its opcode of two bits and two fields of three bits. -/
theorem eq_fieldByte (cmd : UInt8)
    : cmd = fieldByte (cmd &&& 0xc0).toNat (highField cmd) (lowField cmd) :=
  byte_forall
    (P := fun cmd => cmd = fieldByte (cmd &&& 0xc0).toNat (highField cmd) (lowField cmd))
    (by decide +kernel) cmd

/-- A byte is its opcode of three bits and a count of eights. -/
theorem eq_eightsByte (cmd : UInt8)
    : cmd = eightsByte (cmd &&& 0xe0).toNat (eightsField cmd) :=
  byte_forall (P := fun cmd => cmd = eightsByte (cmd &&& 0xe0).toNat (eightsField cmd))
    (by decide +kernel) cmd

/-- The bits that the second byte of `RepeatXLong` does not use. -/
theorem eq_fieldByte_or (cmd : UInt8)
    : cmd = fieldByte (cmd &&& 0xc0).toNat (highField cmd) 0 ||| .ofNat (lowField cmd) :=
  byte_forall
    (P := fun cmd =>
      cmd = fieldByte (cmd &&& 0xc0).toNat (highField cmd) 0 ||| .ofNat (lowField cmd))
    (by decide +kernel) cmd

/-- The low field fits beside the high one. -/
theorem fieldByte_or
    : ∀ high < 8, ∀ low < 8, fieldByte 0 high 0 ||| .ofNat low = fieldByte 0 high low := by
  decide

/-- The count of an extended command only depends on the eights of its first byte. -/
theorem eightsByte_extended {eights rest : Nat} (whole : eights % 8 = 0)
    (small : rest < 8) (opcode : Nat)
    : eightsByte opcode (eights + rest) = eightsByte opcode eights := by
  have shift (n : Nat) : n >>> 3 = n / 8 := Nat.shiftRight_eq_div_pow n 3
  have same : (eights + rest) / 8 = eights / 8 := by omega
  rw [eightsByte, eightsByte, shift, shift, same]

namespace Command

/-- Validity can be decided, by cases on the command. -/
instance : DecidablePred Valid := fun c => by
  cases c <;> unfold Valid <;> infer_instance

/-- A command with its arguments, when they are in range. -/
def checked (c : Command) (rest : List UInt8) : Option (Command × List UInt8) :=
  if c.Valid then some (c, rest) else none

/-- The next byte of the input. -/
def byte (input : List UInt8) (next : UInt8 → List UInt8 → Option (Command × List UInt8))
    : Option (Command × List UInt8) :=
  match input with
  | [] => none
  | b :: rest => next b rest

/-- The next `n` bytes of the input. -/
def block (n : Nat) (input : List UInt8)
    (next : List UInt8 → List UInt8 → Option (Command × List UInt8))
    : Option (Command × List UInt8) :=
  if n ≤ input.length then next (input.take n) (input.drop n) else none

/-- The commands that an extension comes before, by the opcode of their second byte. -/
def parseExtended (eights : Nat) (cmd : UInt8) (input : List UInt8)
    : Option (Command × List UInt8) :=
  if cmd &&& 0xc0 = 0 then checked (.repeatXLong (eights + highField cmd)) input
  else if cmd &&& 0xc0 = 0x80 then
    byte input fun b rest =>
      checked (.copyThenRepeatLong (lowField cmd) (eights + highField cmd) b) rest
  else if cmd &&& 0xc0 = 0x40 then
    byte input fun b rest =>
      block (eights + lowField cmd) rest fun data rest =>
        checked (.repeatThenRawLong (highField cmd) b data) rest
  else
    block (eights + highField cmd) input fun data rest =>
      checked (.copyThenRawLong (lowField cmd) data) rest

/-- The commands of the opcode 0xc0, by which of the fields are zero. -/
def parseShort (cmd : UInt8) (input : List UInt8) : Option (Command × List UInt8) :=
  if lowField cmd ≠ 0 ∧ highField cmd = 0 then checked (.copyShort (lowField cmd)) input
  else if lowField cmd = 0 ∧ highField cmd ≠ 0 then checked (.repeatX (highField cmd)) input
  else if lowField cmd ≠ 0 ∧ highField cmd ≠ 0 then
    byte input fun b rest =>
      block (lowField cmd) rest fun data rest =>
        checked (.repeatThenRaw (highField cmd) b data) rest
  else none

/-- The command that begins with the byte `cmd`. -/
def parseFrom (cmd : UInt8) (input : List UInt8) : Option (Command × List UInt8) :=
  if cmd = 0x42 then some (.eop, input)
  else if cmd = 0x41 then some (.eol, input)
  else if cmd = 0x40 then some (.nop, input)
  else if cmd &&& 0xe0 = 0xa0 then byte input (parseExtended (eightsField cmd))
  else if cmd &&& 0xe0 = 0x80 then checked (.copyLong (eightsField cmd)) input
  else if cmd &&& 0xc0 = 0x40 then
    byte input fun b rest => checked (.copyThenRepeat (lowField cmd) (highField cmd) b) rest
  else if cmd &&& 0xc0 = 0 then
    block (highField cmd) input fun data rest =>
      checked (.copyThenRaw (lowField cmd) data) rest
  else parseShort cmd input

/-- The command at the front of the input, and what follows it. -/
def parse (input : List UInt8) : Option (Command × List UInt8) := byte input parseFrom

-----------------------------------------------------------------------------------------
-- What was read
-----------------------------------------------------------------------------------------

/-- The bytes that stand for a command: those that the compressor writes, and for
`RepeatXLong` also those with any low bits in the second byte.
-/
inductive Spells : Command → List UInt8 → Prop
  | written (c) : Spells c c.bytes
  | repeatXLong {count first second} (bytes : (repeatXLong count).bytes = [first, second])
    (bits : UInt8) (low : bits < 8)
    : Spells (repeatXLong count) [first, second ||| bits]

/-- The input begins with bytes that stand for `c`, and `rest` follows them. -/
structure Begins (input : List UInt8) (c : Command) (rest : List UInt8) : Prop where
  valid : c.Valid
  spelled : ∃ consumed, Spells c consumed ∧ input = consumed ++ rest

variable {c : Command} {input rest : List UInt8} {result : Command × List UInt8}

/-- A command that is accepted is valid and consumes nothing more. -/
theorem checked_eq_some {c' : Command}
    (h : checked c input = some (c', rest))
    : c.Valid ∧ c' = c ∧ rest = input := by
  unfold checked at h
  split at h
  · cases h
    exact ⟨‹_›, rfl, rfl⟩
  · cases h

/-- An operand of one byte is there. -/
theorem byte_eq_some {next : UInt8 → List UInt8 → Option (Command × List UInt8)}
    (h : byte input next = some result)
    : ∃ b left, input = b :: left ∧ next b left = some result := by
  cases input with
  | nil => cases h
  | cons b left => exact ⟨b, left, rfl, h⟩

/-- An operand of `n` bytes is there in full. -/
theorem block_eq_some {n : Nat}
    {next : List UInt8 → List UInt8 → Option (Command × List UInt8)}
    (h : block n input next = some result)
    : ∃ data left, input = data ++ left ∧ data.length = n ∧ next data left = some result := by
  unfold block at h
  split at h
  · rename_i enough
    exact ⟨input.take n, input.drop n, (List.take_append_drop n input).symm,
      List.length_take_of_le enough, h⟩
  · cases h

/-- A valid command whose layout is at the front of the input. -/
theorem Begins.of_layout (valid : c.Valid) (same : input = c.layout ++ rest)
    : Begins input c rest := by
  refine ⟨valid, c.bytes, .written c, ?_⟩
  rw [same, bytes_eq_layout valid]

/-- An extended command that is accepted begins the input. -/
theorem parseExtended_begins {first cmd : UInt8} (extends' : first &&& 0xe0 = 0xa0)
    (h : parseExtended (eightsField first) cmd input = some (c, rest))
    : Begins (first :: cmd :: input) c rest := by
  obtain ⟨_, whole⟩ := eightsField_le first
  have high := highField_lt cmd
  have low := lowField_lt cmd
  have firstByte := eq_eightsByte first
  have second := eq_fieldByte cmd
  rw [extends'] at firstByte
  have extended {n : Nat} (small : n < 8)
      : first = eightsByte 0xa0 (eightsField first + n) := by
    rw [eightsByte_extended whole small]
    exact firstByte
  have field {n : Nat} (small : n < 8) : (eightsField first + n) % 8 = n := by omega
  unfold parseExtended at h
  split at h
  · -- the low bits of the second byte are not looked at
    rename_i opcode
    obtain ⟨valid, rfl, rfl⟩ := checked_eq_some h
    have bits := eq_fieldByte_or cmd
    rw [opcode] at bits
    have bytes : (repeatXLong (eightsField first + highField cmd)).bytes
        = [first, fieldByte 0 (highField cmd) 0] := by
      rw [bytes_eq_layout valid, layout, ← extended high, field high]
    refine ⟨valid, _, .repeatXLong bytes (.ofNat (lowField cmd)) ?_, ?_⟩
    · rw [UInt8.lt_iff_toNat_lt, UInt8.toNat_ofNat_of_lt' (Nat.lt_trans low (by decide))]
      exact low
    · rw [← show cmd = fieldByte 0 (highField cmd) 0 ||| .ofNat (lowField cmd) from bits]
      rfl
  split at h
  · rename_i opcode
    obtain ⟨b, left, rfl, last⟩ := byte_eq_some h
    obtain ⟨valid, rfl, rfl⟩ := checked_eq_some last
    rw [opcode] at second
    refine .of_layout valid ?_
    rw [layout, ← extended high, field high]
    exact congrArg (first :: · :: _) second
  split at h
  · rename_i opcode
    obtain ⟨b, left, rfl, next⟩ := byte_eq_some h
    obtain ⟨data, left, rfl, length, last⟩ := block_eq_some next
    obtain ⟨valid, rfl, rfl⟩ := checked_eq_some last
    rw [opcode] at second
    refine .of_layout valid ?_
    rw [layout, length, ← extended low, field low]
    exact congrArg (first :: · :: _) second
  · rename_i notZero notEight notFour
    obtain ⟨data, left, rfl, length, last⟩ := block_eq_some h
    obtain ⟨valid, rfl, rfl⟩ := checked_eq_some last
    have opcode := opcode_cases cmd
    simp only [notZero, notEight, notFour, false_or] at opcode
    rw [opcode] at second
    refine .of_layout valid ?_
    rw [layout, length, ← extended high, field high]
    exact congrArg (first :: · :: _) second

/-- So does one of those whose two highest bits are set. -/
theorem parseShort_begins {cmd : UInt8} (opcode : cmd &&& 0xc0 = 0xc0)
    (h : parseShort cmd input = some (c, rest))
    : Begins (cmd :: input) c rest := by
  have fields := eq_fieldByte cmd
  rw [opcode] at fields
  unfold parseShort at h
  split at h
  · rename_i copy
    obtain ⟨valid, rfl, rfl⟩ := checked_eq_some h
    rw [copy.2] at fields
    exact .of_layout valid (congrArg (· :: _) fields)
  split at h
  · rename_i rep
    obtain ⟨valid, rfl, rfl⟩ := checked_eq_some h
    rw [rep.1] at fields
    exact .of_layout valid (congrArg (· :: _) fields)
  split at h
  · obtain ⟨b, left, rfl, next⟩ := byte_eq_some h
    obtain ⟨data, left, rfl, length, last⟩ := block_eq_some next
    obtain ⟨valid, rfl, rfl⟩ := checked_eq_some last
    refine .of_layout valid ?_
    rw [layout, length]
    exact congrArg (· :: _) fields
  · cases h

/-- So does every command, by the cases of its first byte. -/
theorem parseFrom_begins {cmd : UInt8} (h : parseFrom cmd input = some (c, rest))
    : Begins (cmd :: input) c rest := by
  have fields := eq_fieldByte cmd
  have eights := eq_eightsByte cmd
  unfold parseFrom at h
  split at h
  · rename_i isEop
    cases h
    exact .of_layout trivial (congrArg (· :: _) isEop)
  split at h
  · rename_i isEol
    cases h
    exact .of_layout trivial (congrArg (· :: _) isEol)
  split at h
  · rename_i isNop
    cases h
    exact .of_layout trivial (congrArg (· :: _) isNop)
  split at h
  · rename_i extends'
    obtain ⟨next, left, rfl, h'⟩ := byte_eq_some h
    exact parseExtended_begins extends' h'
  split at h
  · rename_i long
    obtain ⟨valid, rfl, rfl⟩ := checked_eq_some h
    rw [long] at eights
    exact .of_layout valid (congrArg (· :: _) eights)
  split at h
  · rename_i opcode
    obtain ⟨b, left, rfl, last⟩ := byte_eq_some h
    obtain ⟨valid, rfl, rfl⟩ := checked_eq_some last
    rw [opcode] at fields
    exact .of_layout valid (congrArg (· :: _) fields)
  split at h
  · rename_i opcode
    obtain ⟨data, left, rfl, length, last⟩ := block_eq_some h
    obtain ⟨valid, rfl, rfl⟩ := checked_eq_some last
    rw [opcode] at fields
    refine .of_layout valid ?_
    rw [layout, length]
    exact congrArg (· :: _) fields
  · rename_i notExtended notLong notFour notZero
    have opcode := opcode_cases cmd
    have notEight := opcode_long cmd notExtended notLong
    simp only [notZero, notEight, notFour, false_or] at opcode
    exact parseShort_begins opcode h

/-- A command that is read is valid, and its bytes are at the front of the input. -/
theorem parse_begins (h : parse input = some (c, rest)) : Begins input c rest := by
  obtain ⟨cmd, left, rfl, next⟩ := byte_eq_some h
  exact parseFrom_begins next

-----------------------------------------------------------------------------------------
-- Whatever stands for a command is read as that command
-----------------------------------------------------------------------------------------

/-- A valid command is accepted. -/
theorem checked_valid (valid : c.Valid) (rest : List UInt8)
    : checked c rest = some (c, rest) :=
  if_pos valid

/-- With its block in the input it is accepted. -/
theorem block_checked {f : List UInt8 → Command} {data : List UInt8} (valid : (f data).Valid)
    (rest : List UInt8)
    : block data.length (data ++ rest) (fun data rest => checked (f data) rest)
      = some (f data, rest) := by
  rw [block, if_pos (by simp), List.take_left, List.drop_left]
  exact checked_valid valid rest

/-- An extension is followed by the second byte of its command. -/
theorem parse_extension {count : Nat} (small : count ≤ 255) (cmd : UInt8)
    (input : List UInt8)
    : parse (eightsByte 0xa0 count :: cmd :: input)
      = parseExtended (8 * (count / 8)) cmd input := by
  obtain ⟨⟨notEop, notEol, notNop⟩, extends', value⟩ :=
    eightsByte_fields List.mem_cons_self small
  rw [← value]
  change parseFrom _ _ = _
  unfold parseFrom
  simp only [notEop, notEol, notNop, extends', ↓reduceIte]
  rfl

/-- A byte that is not special is read by its two highest bits. -/
theorem parse_plain (opcode : Nat) {high low : Nat} (mem : opcode ∈ [0, 0x40, 0xc0])
    (highBound : high < 8) (lowBound : low < 8) (apart : opcode = 0x40 → 2 ≤ high)
    (input : List UInt8)
    : highField (fieldByte opcode high low) = high
      ∧ lowField (fieldByte opcode high low) = low
      ∧ parse (fieldByte opcode high low :: input)
        = if opcode = 0x40 then
            byte input fun b rest => checked (.copyThenRepeat low high b) rest
          else if opcode = 0 then
            block high input fun data rest => checked (.copyThenRaw low data) rest
          else parseShort (fieldByte opcode high low) input := by
  obtain ⟨⟨notEop, notEol, notNop⟩, notExtend, notLong⟩ :=
    fieldByte_plain opcode mem high highBound low lowBound apart
  obtain ⟨top, highValue, lowValue⟩ :=
    fieldByte_fields opcode (by simp at mem ⊢; omega) high highBound low lowBound
  refine ⟨highValue, lowValue, ?_⟩
  change parseFrom _ _ = _
  unfold parseFrom
  simp only [notEop, notEol, notNop, notExtend, notLong, top, ↓reduceIte,
    show highField (fieldByte opcode high low) = high from highValue,
    show lowField (fieldByte opcode high low) = low from lowValue]
  simp only [List.mem_cons, List.not_mem_nil, or_false] at mem
  rcases mem with rfl | rfl | rfl <;> rfl

/-- An extension and a byte with the given fields are read by the opcode of the second. -/
theorem parse_extended (opcode : Nat) {count high low : Nat} (small : count ≤ 255)
    (mem : opcode ∈ [0, 0x40, 0x80, 0xc0]) (highBound : high < 8) (lowBound : low < 8)
    (input : List UInt8)
    : parse (eightsByte 0xa0 count :: fieldByte opcode high low :: input)
      = if opcode = 0 then checked (.repeatXLong (8 * (count / 8) + high)) input
        else if opcode = 0x80 then
          byte input fun b rest =>
            checked (.copyThenRepeatLong low (8 * (count / 8) + high) b) rest
        else if opcode = 0x40 then
          byte input fun b rest =>
            block (8 * (count / 8) + low) rest fun data rest =>
              checked (.repeatThenRawLong high b data) rest
        else
          block (8 * (count / 8) + high) input fun data rest =>
            checked (.copyThenRawLong low data) rest := by
  obtain ⟨top, highValue, lowValue⟩ :=
    fieldByte_fields opcode mem high highBound low lowBound
  rw [parse_extension small, parseExtended]
  simp only [top, show highField (fieldByte opcode high low) = high from highValue,
    show lowField (fieldByte opcode high low) = low from lowValue]
  simp only [List.mem_cons, List.not_mem_nil, or_false] at mem
  rcases mem with rfl | rfl | rfl | rfl <;> rfl

/-- `CopyLong` is parsed from its own bytes. -/
theorem parse_copyLong {n : Nat} (valid : (copyLong n).Valid) (rest : List UInt8)
    : parse (eightsByte 0x80 n :: rest) = some (copyLong n, rest) := by
  obtain ⟨low, high, whole⟩ := id valid
  obtain ⟨⟨notEop, notEol, notNop⟩, isLong, value⟩ :=
    eightsByte_fields (List.mem_cons_of_mem 0xa0 List.mem_cons_self)
      (Nat.le_trans high (by omega))
  have count : 8 * (n / 8) = n := by omega
  rw [count] at value
  change parseFrom _ _ = _
  unfold parseFrom
  simp only [notEop, notEol, notNop, isLong, ↓reduceIte,
    show eightsField (eightsByte 0x80 n) = n from value]
  exact checked_valid valid rest

/-- The layout of a valid command is read as the command. -/
theorem parse_layout (valid : c.Valid) (rest : List UInt8)
    : parse (c.layout ++ rest) = some (c, rest) := by
  have count {n low : Nat} (same : low = n % 8) : 8 * (n / 8) + low = n := by omega
  cases c with
  | eop => rfl
  | eol => rfl
  | nop => rfl
  | copyLong n => exact parse_copyLong valid rest
  | copyShort n =>
      obtain ⟨low, high⟩ := id valid
      obtain ⟨highValue, lowValue, run⟩ :=
        parse_plain 0xc0 (by simp) (Nat.zero_lt_succ 7) (Nat.lt_succ_of_le high)
          (by simp) rest
      have some : n ≠ 0 := by omega
      change parse (fieldByte 0xc0 0 n :: rest) = _
      simp only [run, parseShort, highValue, lowValue, Nat.reduceEqDiff, ↓reduceIte, some,
        ne_eq, not_false_eq_true, and_self]
      exact checked_valid valid rest
  | copyThenRaw n data =>
      obtain ⟨short, low, high⟩ := id valid
      obtain ⟨_, _, run⟩ :=
        parse_plain 0 (by simp) (Nat.lt_succ_of_le high) (Nat.lt_succ_of_le short)
          (by simp) (data ++ rest)
      exact run.trans (block_checked (f := .copyThenRaw n) valid rest)
  | copyThenRepeat n r b =>
      obtain ⟨short, low, high⟩ := id valid
      obtain ⟨_, _, run⟩ :=
        parse_plain 0x40 (by simp) (Nat.lt_succ_of_le high)
          (Nat.lt_succ_of_le short) (fun _ => low) (b :: rest)
      exact run.trans (checked_valid valid rest)
  | repeatX r =>
      obtain ⟨low, high⟩ := id valid
      obtain ⟨highValue, lowValue, run⟩ :=
        parse_plain 0xc0 (by simp) (Nat.lt_succ_of_le high) (Nat.zero_lt_succ 7)
          (by simp) rest
      have some : r ≠ 0 := by omega
      change parse (fieldByte 0xc0 r 0 :: rest) = _
      simp only [run, parseShort, highValue, lowValue, Nat.reduceEqDiff, ↓reduceIte, some,
        ne_eq, not_true_eq_false, not_false_eq_true, and_self]
      exact checked_valid valid rest
  | repeatThenRaw r b data =>
      obtain ⟨low, high, some, short⟩ := id valid
      obtain ⟨highValue, lowValue, run⟩ :=
        parse_plain 0xc0 (by simp) (Nat.lt_succ_of_le high)
          (Nat.lt_succ_of_le short) (by simp) (b :: (data ++ rest))
      have isRepeat : r ≠ 0 := by omega
      have isRaw : data.length ≠ 0 := by omega
      change parse (fieldByte 0xc0 r data.length :: b :: (data ++ rest)) = _
      simp only [run, parseShort, highValue, lowValue, Nat.reduceEqDiff, ↓reduceIte, isRepeat,
        isRaw, ne_eq, not_false_eq_true, and_false, and_self]
      exact block_checked (f := .repeatThenRaw r b) valid rest
  | repeatXLong r =>
      have run := parse_extended 0 valid.2 (by simp) (Nat.mod_lt r (by decide))
        (Nat.zero_lt_succ 7) rest
      rw [count rfl] at run
      exact run.trans (checked_valid valid rest)
  | copyThenRepeatLong n r b =>
      have run := parse_extended 0x80 valid.2.2 (by simp)
        (Nat.mod_lt r (by decide)) (Nat.lt_succ_of_le valid.1) (b :: rest)
      rw [count rfl] at run
      exact run.trans (checked_valid valid rest)
  | repeatThenRawLong r b data =>
      have run := parse_extended 0x40 valid.2.2.2 (by simp)
        (Nat.lt_succ_of_le valid.2.1) (Nat.mod_lt data.length (by decide)) (b :: (data ++ rest))
      rw [count rfl] at run
      exact run.trans (block_checked (f := .repeatThenRawLong r b) valid rest)
  | copyThenRawLong n data =>
      have run := parse_extended 0xc0 valid.2.2 (by simp)
        (Nat.mod_lt data.length (by decide)) (Nat.lt_succ_of_le valid.1) (data ++ rest)
      rw [count rfl] at run
      exact run.trans (block_checked (f := .copyThenRawLong n) valid rest)

/-- A command at the front of the input is the one that is read there. -/
theorem Begins.parse (h : Begins input c rest) : parse input = some (c, rest) := by
  obtain ⟨valid, consumed, spelled, rfl⟩ := h
  cases spelled with
  | written => rw [bytes_eq_layout valid, parse_layout valid]
  | @repeatXLong count first second bytes bits low =>
      rw [bytes_eq_layout valid] at bytes
      cases bytes
      have small : bits.toNat < 8 := low
      have free := fieldByte_or (count % 8) (Nat.mod_lt count (by decide)) bits.toNat small
      rw [UInt8.ofNat_toNat] at free
      have run := parse_extended 0 valid.2 (by simp) (Nat.mod_lt count (by decide)) small rest
      rw [show 8 * (count / 8) + count % 8 = count by omega, ← free] at run
      exact run.trans (checked_valid valid rest)

/-- Reading a command is finding the bytes that stand for it. -/
theorem parse_eq_some_iff : parse input = some (c, rest) ↔ Begins input c rest :=
  ⟨parse_begins, Begins.parse⟩

end Command

end Capt.Compression
