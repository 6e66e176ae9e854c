import Libcapt.Compression.CommandLayout
import Libcapt.Compression.DecoderStreambuf

/-! The decoder executes the bytes of a command as that command, and throws on any proper
prefix of them.
-/

namespace Capt.Compression

open Streams

namespace DecoderStreambuf

variable {σ α β : Type} [FiniteSource Fault UInt8 σ]

-----------------------------------------------------------------------------------------
-- Actions that decode
-----------------------------------------------------------------------------------------

/-- Since `this`, the decoder has decoded `data`; its stream still has `rest`. -/
structure Decoded (this this' : DecoderStreambuf σ) (data rest : List UInt8) : Prop where
  buffer : this'.buffer = this.buffer ++ data
  lineSize : this'.lineSize = this.lineSize
  videoSize : this'.videoSize = this.videoSize
  area : this'.area = this.area
  stream : SuppliesFinitely this'.stream rest

/-- The action returns `a`, having decoded `data` and left `rest` in the stream. -/
def Decodes (action : Action (DecoderStreambuf σ) α) (this : DecoderStreambuf σ) (a : α)
    (data rest : List UInt8)
    : Prop :=
  ∃ this', action.run this = .ok a this' ∧ Decoded this this' data rest

variable {this : DecoderStreambuf σ} {rest : List UInt8}

/-- Returning decodes nothing. -/
theorem decodes_pure (supply : SuppliesFinitely this.stream rest) (a : α)
    : Decodes (pure a) this a [] rest :=
  ⟨this, rfl, (List.append_nil _).symm, rfl, rfl, rfl, supply⟩

/-- A sequence decodes what its parts decode, one after the other. -/
theorem Decodes.bind {first : Action (DecoderStreambuf σ) α}
    {next : α → Action (DecoderStreambuf σ) β} {a : α} {b : β}
    {data more left : List UInt8} (h : Decodes first this a data left)
    (tail : ∀ middle, Decoded this middle data left → Decodes (next a) middle b more rest)
    : Decodes (first >>= next) this b (data ++ more) rest := by
  obtain ⟨middle, run, decoded⟩ := h
  obtain ⟨final, run', decoded'⟩ := tail middle decoded
  refine ⟨final, ?_, ?_, ?_, ?_, ?_, decoded'.stream⟩
  · rw [run_bind_ok run, run']
  · rw [decoded'.buffer, decoded.buffer, List.append_assoc]
  · rw [decoded'.lineSize, decoded.lineSize]
  · rw [decoded'.videoSize, decoded.videoSize]
  · rw [decoded'.area, decoded.area]

/-- A sequence whose first part decodes nothing. -/
theorem Decodes.then {first : Action (DecoderStreambuf σ) α}
    {next : α → Action (DecoderStreambuf σ) β} {a : α} {b : β}
    {more left : List UInt8} (h : Decodes first this a [] left)
    (tail : ∀ middle, Decoded this middle [] left → Decodes (next a) middle b more rest)
    : Decodes (first >>= next) this b more rest :=
  h.bind tail

/-- A sequence whose second part decodes nothing. -/
theorem Decodes.last {first : Action (DecoderStreambuf σ) α} {a : α} {b : β}
    {data : List UInt8} (h : Decodes first this a data rest)
    : Decodes (first >>= fun _ => pure b) this b data rest := by
  have whole : Decodes (first >>= fun _ => pure b) this b (data ++ []) rest :=
    h.bind fun middle decoded => decodes_pure decoded.stream b
  rwa [List.append_nil] at whole

/-- The command log is no part of what is decoded. -/
theorem clog_decodes (text : String) (supply : SuppliesFinitely this.stream rest)
    : Decodes (clog text) this () [] rest :=
  ⟨_, rfl, (List.append_nil _).symm, rfl, rfl, rfl, supply⟩

/-- A check whose value lies inside its bounds passes and decodes nothing. -/
theorem checkBounds_decodes {value min max : Nat} {paramName : String}
    (low : min ≤ value) (high : value ≤ max) (supply : SuppliesFinitely this.stream rest)
    : Decodes (checkBounds value min max paramName) this () [] rest := by
  have inside : ¬ (value < min ∨ value > max) := by omega
  rw [checkBounds, if_neg inside]
  exact decodes_pure supply ()

/-- One byte of the supply. -/
theorem mustGet_decodes {b : UInt8} (supply : SuppliesFinitely this.stream (b :: rest))
    : Decodes mustGet this b [] rest := by
  obtain ⟨s, run, next⟩ := supply.sbumpc
  refine ⟨{ this with stream := s }, ?_, (List.append_nil _).symm, rfl, rfl, rfl, next⟩
  rw [mustGet, run_bind_ok (run_zoom_ok run)]
  rfl

/-- A block of the supply. -/
theorem mustRead_decodes {data : List UInt8}
    (supply : SuppliesFinitely this.stream (data ++ rest))
    : Decodes (mustRead data.length) this data [] rest := by
  obtain ⟨s, run, next⟩ := supply.sgetn data.length
  rw [List.take_left] at run
  rw [List.drop_left] at next
  refine ⟨{ this with stream := s }, ?_, (List.append_nil _).symm, rfl, rfl, rfl, next⟩
  rw [mustRead, run_bind_ok (run_zoom_ok run)]
  simp

/-- What is inserted is decoded. -/
theorem insert_decodes (data : List UInt8) (supply : SuppliesFinitely this.stream rest)
    : Decodes (insert data) this () data rest :=
  ⟨_, rfl, rfl, rfl, rfl, rfl, supply⟩

/-- `repeat` decodes the byte, `count` times. -/
theorem repeats_decodes (count : Nat) (repeatByte : UInt8)
    (supply : SuppliesFinitely this.stream rest)
    : Decodes (repeats count repeatByte) this () (List.replicate count repeatByte) rest := by
  unfold repeats
  split
  · rename_i none
    rw [none]
    exact decodes_pure supply ()
  · exact insert_decodes _ supply

/-- `raw` decodes the bytes it is given. -/
theorem raw_decodes (data : List UInt8) (supply : SuppliesFinitely this.stream rest)
    : Decodes (raw data) this () data rest := by
  unfold raw
  split
  · rename_i none
    rw [List.length_eq_zero_iff.mp none]
    exact decodes_pure supply ()
  · exact insert_decodes data supply

-----------------------------------------------------------------------------------------
-- Copies from the row above
-----------------------------------------------------------------------------------------

/-- The decoded data ends with the row `prev` and the beginning `row` of the next one.
`prev` is empty where nothing may be copied.
-/
structure Under (this : DecoderStreambuf σ) (prev row : List UInt8) : Prop where
  buffer
    : ∃ before, this.buffer = before ++ (prev ++ row)
        ∧ (before ++ prev).length % this.lineSize = 0
  above : prev = [] ∨ prev.length = this.lineSize

/-- Behind a command the row is longer by what it has decoded. -/
theorem Under.decoded {middle : DecoderStreambuf σ} {prev row data : List UInt8}
    (h : this.Under prev row) (decoded : Decoded this middle data rest)
    : middle.Under prev (row ++ data) := by
  obtain ⟨⟨before, buffer, columns⟩, above⟩ := h
  refine ⟨⟨before, ?_, ?_⟩, ?_⟩
  · rw [decoded.buffer, buffer]
    simp only [List.append_assoc]
  · rw [decoded.lineSize]
    exact columns
  · rw [decoded.lineSize]
    exact above

/-- Behind a command that decodes nothing the row is the same. -/
theorem Under.nothing {middle : DecoderStreambuf σ} {prev row : List UInt8}
    (h : this.Under prev row) (decoded : Decoded this middle [] rest)
    : middle.Under prev row := by
  have under := h.decoded decoded
  rwa [List.append_nil] at under

/-- `copy` decodes the bytes of the line before that stand above the end of the row. -/
theorem copy_decodes {prev row : List UInt8} {count : Nat} (h : this.Under prev row)
    (room : count = 0 ∨ row.length + count ≤ prev.length)
    (supply : SuppliesFinitely this.stream rest)
    : Decodes (copy count) this () ((prev.drop row.length).take count) rest := by
  unfold copy
  split
  · rename_i none
    rw [none]
    exact decodes_pure supply ()
  rename_i some
  obtain ⟨⟨before, buffer, _⟩, above⟩ := h
  have size : prev.length = this.lineSize := by
    rcases above with rfl | size
    · rw [List.length_nil] at room
      omega
    · exact size
  have length : this.buffer.length = before.length + prev.length + row.length := by
    rw [buffer]
    simp only [List.length_append]
    omega
  have enough : ¬ this.buffer.length < this.lineSize := by omega
  have inside : ¬ count > this.lineSize := by omega
  have start : this.buffer.length - this.lineSize = before.length + row.length := by omega
  have copied : (this.buffer.drop (this.buffer.length - this.lineSize)).take count
      = (prev.drop row.length).take count := by
    rw [start, buffer, ← List.drop_drop, List.drop_left,
      List.drop_append_of_le_length (by omega), List.take_append_of_le_length]
    rw [List.length_drop]
    omega
  have run := insert_decodes ((prev.drop row.length).take count) supply
  obtain ⟨this', run, decoded⟩ := run
  refine ⟨this', ?_, decoded⟩
  simp only [EStateM.run_bind, EStateM.run_get, enough, inside, ↓reduceIte, copied, run]

/-- `endLine` decodes the rest of the line before. -/
theorem endLine_decodes {prev row : List UInt8} (h : this.Under prev row)
    (room : row.length < prev.length) (supply : SuppliesFinitely this.stream rest)
    : Decodes endLine this () (prev.drop row.length) rest := by
  have size : prev.length = this.lineSize := by
    rcases h.above with rfl | size
    · rw [List.length_nil] at room
      omega
    · exact size
  have nonzero : ¬ this.lineSize = 0 := by omega
  have count : this.lineSize - this.buffer.length % this.lineSize = prev.length - row.length := by
    obtain ⟨before, buffer, columns⟩ := h.buffer
    have column : this.buffer.length % this.lineSize = row.length := by
      rw [buffer, ← List.append_assoc, List.length_append, Nat.add_mod, columns, Nat.zero_add,
        Nat.mod_mod, Nat.mod_eq_of_lt (by omega)]
    omega
  have all : (prev.drop row.length).take (prev.length - row.length)
      = prev.drop row.length :=
    List.take_of_length_le (Nat.le_of_eq List.length_drop)
  have fits : prev.length - row.length = 0
      ∨ row.length + (prev.length - row.length) ≤ prev.length := by
    omega
  have run := copy_decodes h fits supply
  rw [all] at run
  obtain ⟨this', run, decoded⟩ := run
  refine ⟨this', ?_, decoded⟩
  simp only [endLine, EStateM.run_bind, EStateM.run_get, nonzero, ↓reduceIte, count, run]

-----------------------------------------------------------------------------------------
-- Actions that execute bytes of the stream
-----------------------------------------------------------------------------------------

/-- Below the rows `prev` and `row`, the action takes exactly `bytes` from the stream,
decodes `data` and returns `a`. When the stream ends within the bytes, it throws.
-/
structure Executes (prev row : List UInt8) (action : Action (DecoderStreambuf σ) α)
    (bytes : List UInt8) (a : α) (data : List UInt8)
    : Prop where
  whole
    : ∀ {this rest}, this.Under prev row → SuppliesFinitely this.stream (bytes ++ rest) →
        Decodes action this a data rest
  cut
    : ∀ {this part}, SuppliesFinitely this.stream part → part <+: bytes → part ≠ bytes →
        ∃ this', action.run this = .error (.decoderError "unexpected EOF") this'

variable {prev row bytes data : List UInt8}

/-- An action that takes no bytes cannot be cut. -/
theorem Executes.of_decodes {action : Action (DecoderStreambuf σ) α} {a : α}
    (h
      : ∀ {this rest}, this.Under prev row → SuppliesFinitely this.stream rest →
          Decodes action this a data rest)
    : Executes prev row action [] a data := by
  refine ⟨h, ?_⟩
  intro this part _ isPrefix differs
  exact absurd (List.prefix_nil.mp isPrefix) differs

/-- A step that takes no bytes and decodes nothing goes before. -/
theorem Executes.after {first : Action (DecoderStreambuf σ) β}
    {next : β → Action (DecoderStreambuf σ) α} {a : α} {b : β}
    (h
      : ∀ {this rest}, SuppliesFinitely this.stream rest → Decodes first this b [] rest)
    (tail : Executes prev row (next b) bytes a data)
    : Executes prev row (first >>= next) bytes a data := by
  constructor
  · intro this rest under supply
    exact (h supply).then fun middle decoded =>
      tail.whole (under.nothing decoded) decoded.stream
  · intro this part supply isPrefix differs
    obtain ⟨middle, run, decoded⟩ := h supply
    obtain ⟨this', thrown⟩ := tail.cut decoded.stream isPrefix differs
    exact ⟨this', by rw [run_bind_ok run, thrown]⟩

/-- A logged text does not count. -/
theorem Executes.clog {next : Unit → Action (DecoderStreambuf σ) α} {a : α}
    (text : String) (tail : Executes prev row (next ()) bytes a data)
    : Executes prev row (DecoderStreambuf.clog text >>= next) bytes a data :=
  tail.after fun supply => clog_decodes text supply

/-- A bounds check inside its bounds does not count. -/
theorem Executes.checkBounds {next : Unit → Action (DecoderStreambuf σ) α} {a : α}
    {value min max : Nat} {paramName : String} (low : min ≤ value) (high : value ≤ max)
    (tail : Executes prev row (next ()) bytes a data)
    : Executes prev row (DecoderStreambuf.checkBounds value min max paramName >>= next)
        bytes a data :=
  tail.after fun supply => checkBounds_decodes low high supply

/-- One byte is consumed, then the rest of the command. -/
theorem Executes.mustGet {next : UInt8 → Action (DecoderStreambuf σ) α} {a : α} {b : UInt8}
    (tail : Executes prev row (next b) bytes a data)
    : Executes prev row (DecoderStreambuf.mustGet >>= next) (b :: bytes) a data := by
  constructor
  · intro this rest under supply
    exact (mustGet_decodes supply).then fun middle decoded =>
      tail.whole (under.nothing decoded) decoded.stream
  · intro this part supply isPrefix differs
    cases part with
    | nil =>
        obtain ⟨s, run, _⟩ := supply.sbumpc
        refine ⟨{ this with stream := s }, run_bind_error ?_⟩
        rw [DecoderStreambuf.mustGet, run_bind_ok (run_zoom_ok run)]
        rfl
    | cons c part =>
        obtain ⟨rfl, rest⟩ := List.cons_prefix_cons.mp isPrefix
        obtain ⟨middle, run, decoded⟩ := mustGet_decodes supply
        obtain ⟨this', thrown⟩ := tail.cut decoded.stream rest (by simpa using differs)
        exact ⟨this', by rw [run_bind_ok run, thrown]⟩

/-- A block is consumed, then the rest of the command. -/
theorem Executes.mustRead {next : List UInt8 → Action (DecoderStreambuf σ) α} {a : α}
    (block : List UInt8) (tail : Executes prev row (next block) bytes a data)
    : Executes prev row (DecoderStreambuf.mustRead block.length >>= next)
        (block ++ bytes) a data := by
  constructor
  · intro this rest under supply
    rw [List.append_assoc] at supply
    exact (mustRead_decodes supply).then fun middle decoded =>
      tail.whole (under.nothing decoded) decoded.stream
  · intro this part supply isPrefix differs
    rcases Nat.lt_or_ge part.length block.length with short | long
    · obtain ⟨s, run, _⟩ := supply.sgetn block.length
      have length : (part.take block.length).length ≠ block.length := by
        rw [List.length_take]
        omega
      refine ⟨{ this with stream := s }, run_bind_error ?_⟩
      rw [DecoderStreambuf.mustRead, run_bind_ok (run_zoom_ok run)]
      simp only [length, ne_eq, not_false_eq_true, ↓reduceIte]
      rfl
    · obtain ⟨more, rfl⟩ := List.prefix_of_prefix_length_le (List.prefix_append block bytes)
        isPrefix long
      have isPrefix := (List.prefix_append_right_inj block).mp isPrefix
      obtain ⟨middle, run, decoded⟩ := mustRead_decodes supply
      obtain ⟨this', thrown⟩ := tail.cut decoded.stream isPrefix (by simpa using differs)
      exact ⟨this', by rw [run_bind_ok run, thrown]⟩

/-- A block that ends the command. -/
theorem Executes.mustReadLast {next : List UInt8 → Action (DecoderStreambuf σ) α} {a : α}
    (block : List UInt8) (tail : Executes prev row (next block) [] a data)
    : Executes prev row (DecoderStreambuf.mustRead block.length >>= next) block a data := by
  have read := Executes.mustRead block tail
  rwa [List.append_nil] at read

/-- The end of a command: copy, then append. -/
theorem Executes.copyThen {count c : Nat} {next : Action (DecoderStreambuf σ) Unit}
    (room : count = 0 ∨ row.length + count ≤ prev.length)
    (tail
      : ∀ {this rest}, SuppliesFinitely this.stream rest → Decodes next this () data rest)
    : Executes prev row (do DecoderStreambuf.copy count; next; return c) [] c
        ((prev.drop row.length).take count ++ data) :=
  .of_decodes fun under supply =>
    (copy_decodes under room supply).bind fun _ decoded => (tail decoded.stream).last

/-- The end of a command: repeat, then append. -/
theorem Executes.repeatsThen {count c : Nat} {repeatByte : UInt8}
    {next : Action (DecoderStreambuf σ) Unit}
    (tail
      : ∀ {this rest}, SuppliesFinitely this.stream rest → Decodes next this () data rest)
    : Executes prev row (do DecoderStreambuf.repeats count repeatByte; next; return c) [] c
        (List.replicate count repeatByte ++ data) :=
  .of_decodes fun _ supply =>
    (repeats_decodes count repeatByte supply).bind fun _ decoded => (tail decoded.stream).last

section Short

variable {copyCount repeatCount : Nat} {repeatByte : UInt8} {rawData : List UInt8}

/-- A byte that is not special is decoded by its two highest bits. -/
theorem decodeNext_plain {opcode high low : Nat} (mem : opcode ∈ [0, 0x40, 0xc0])
    (highBound : high < 8) (lowBound : low < 8) (apart : opcode = 0x40 → 2 ≤ high) {a : Nat}
    (tail
      : ∀ cmd : UInt8, (cmd &&& 7).toNat = low → ((cmd >>> 3) &&& 7).toNat = high →
          Executes prev row
            (if opcode = 0x40 then decodeCopyThenRepeat cmd
              else if opcode = 0 then decodeCopyThenRaw cmd
              else decodeShort cmd : Action (DecoderStreambuf σ) Nat) bytes a data)
    : Executes prev row (decodeNext : Action (DecoderStreambuf σ) Nat)
        (fieldByte opcode high low :: bytes) a data := by
  obtain ⟨⟨notEop, notEol, notNop⟩, notExtend, notLong⟩ :=
    fieldByte_plain opcode mem high highBound low lowBound apart
  obtain ⟨top, highField, lowField⟩ :=
    fieldByte_fields opcode (by simp at mem ⊢; omega) high highBound low lowBound
  refine Executes.mustGet ?_
  have step := tail (fieldByte opcode high low) lowField highField
  unfold decodeCommand
  simp only [notEop, notEol, notNop, notExtend, notLong, top, ↓reduceIte]
  simp only [List.mem_cons, List.not_mem_nil, or_false] at mem
  rcases mem with rfl | rfl | rfl <;> exact step

/-- `CopyThenRaw` is decoded to the copied bytes and the given ones. -/
theorem copyThenRaw_executes (short : copyCount ≤ 7) (low : 1 ≤ rawData.length)
    (high : rawData.length ≤ 7)
    (room : copyCount = 0 ∨ row.length + copyCount ≤ prev.length)
    : Executes prev row (decodeNext : Action (DecoderStreambuf σ) Nat)
        (fieldByte 0 rawData.length copyCount :: rawData) (rawData.length + 1)
        ((prev.drop row.length).take copyCount ++ rawData) := by
  rw [Nat.add_comm]
  refine decodeNext_plain (by simp) (by omega) (by omega) (by simp) ?_
  intro cmd copyField rawField
  simp only [Nat.reduceEqDiff, ↓reduceIte, decodeCopyThenRaw, copyField, rawField]
  refine Executes.clog _ (Executes.mustReadLast rawData ?_)
  refine Executes.checkBounds (Nat.zero_le copyCount) short ?_
  refine Executes.checkBounds low high ?_
  exact Executes.copyThen room fun supply => raw_decodes rawData supply

/-- `CopyThenRepeat` is decoded to the copied bytes and the repeated one. -/
theorem copyThenRepeat_executes (short : copyCount ≤ 7) (low : 2 ≤ repeatCount)
    (high : repeatCount ≤ 7)
    (room : copyCount = 0 ∨ row.length + copyCount ≤ prev.length)
    : Executes prev row (decodeNext : Action (DecoderStreambuf σ) Nat)
        [fieldByte 0x40 repeatCount copyCount, repeatByte] 2
        ((prev.drop row.length).take copyCount ++ List.replicate repeatCount repeatByte) := by
  refine decodeNext_plain (by simp) (by omega) (by omega) (fun _ => low) ?_
  intro cmd copyField repeatField
  simp only [↓reduceIte, decodeCopyThenRepeat, copyField, repeatField]
  refine Executes.mustGet (Executes.clog _ ?_)
  refine Executes.checkBounds (Nat.zero_le copyCount) short ?_
  refine Executes.checkBounds low high ?_
  exact Executes.copyThen room fun supply => repeats_decodes repeatCount repeatByte supply

/-- `CopyShort` is decoded to the copied bytes. -/
theorem copyShort_executes (low : 1 ≤ copyCount) (high : copyCount ≤ 7)
    (room : row.length + copyCount ≤ prev.length)
    : Executes prev row (decodeNext : Action (DecoderStreambuf σ) Nat)
        [fieldByte 0xc0 0 copyCount] 1 ((prev.drop row.length).take copyCount) := by
  refine decodeNext_plain (by simp) (by omega) (by omega) (by simp) ?_
  intro cmd copyField repeatField
  have some : copyCount ≠ 0 := by omega
  simp only [Nat.reduceEqDiff, ↓reduceIte, decodeShort, decodeCopyShort,
    copyField, repeatField, some, ne_eq, not_false_eq_true, and_self]
  refine Executes.clog _ (Executes.of_decodes ?_)
  intro this rest under supply
  exact (copy_decodes under (Or.inr room) supply).last

/-- `RepeatX` is decoded to the fixed byte, repeated. -/
theorem repeatX_executes (low : 1 ≤ repeatCount) (high : repeatCount ≤ 7)
    : Executes prev row (decodeNext : Action (DecoderStreambuf σ) Nat)
        [fieldByte 0xc0 repeatCount 0] 1 (List.replicate repeatCount 0x43) := by
  refine decodeNext_plain (by simp) (by omega) (by omega) (by simp) ?_
  intro cmd copyField repeatField
  have some : repeatCount ≠ 0 := by omega
  simp only [Nat.reduceEqDiff, ↓reduceIte, decodeShort, decodeRepeatX,
    copyField, repeatField, some, ne_eq, not_true_eq_false, not_false_eq_true, and_self]
  refine Executes.clog _ (Executes.checkBounds low high (Executes.of_decodes ?_))
  intro this rest under supply
  exact (repeats_decodes repeatCount 0x43 supply).last

/-- `RepeatThenRaw` is decoded to the repeated byte and the given ones. -/
theorem repeatThenRaw_executes (low : 2 ≤ repeatCount) (high : repeatCount ≤ 7)
    (some : 1 ≤ rawData.length) (short : rawData.length ≤ 7)
    : Executes prev row (decodeNext : Action (DecoderStreambuf σ) Nat)
        (fieldByte 0xc0 repeatCount rawData.length :: repeatByte :: rawData)
        (rawData.length + 2) (List.replicate repeatCount repeatByte ++ rawData) := by
  rw [Nat.add_comm]
  refine decodeNext_plain (by simp) (by omega) (by omega) (by simp) ?_
  intro cmd rawField repeatField
  have isRepeat : repeatCount ≠ 0 := by omega
  have isRaw : rawData.length ≠ 0 := by omega
  simp only [Nat.reduceEqDiff, ↓reduceIte, decodeShort,
    decodeRepeatThenRaw, rawField, repeatField, isRepeat, isRaw, ne_eq, and_false,
    false_and, not_false_eq_true, and_self]
  refine Executes.mustGet (Executes.clog _ (Executes.mustReadLast rawData ?_))
  refine Executes.checkBounds low high ?_
  refine Executes.checkBounds some short ?_
  exact Executes.repeatsThen fun supply => raw_decodes rawData supply

/-- `CopyLong` is decoded to the copied bytes. -/
theorem copyLong_executes (low : 8 ≤ copyCount) (high : copyCount ≤ 248)
    (whole : copyCount % 8 = 0) (room : row.length + copyCount ≤ prev.length)
    : Executes prev row (decodeNext : Action (DecoderStreambuf σ) Nat)
        [eightsByte 0x80 copyCount] 1 ((prev.drop row.length).take copyCount) := by
  obtain ⟨⟨notEop, notEol, notNop⟩, isLong, value⟩ :=
    eightsByte_fields (List.mem_cons_of_mem 0xa0 List.mem_cons_self)
      (Nat.le_trans high (by omega))
  have count : 8 * (copyCount / 8) = copyCount := by omega
  rw [count] at value
  refine Executes.mustGet ?_
  unfold decodeCommand
  simp only [notEop, notEol, notNop, isLong, decodeCopyLong, value]
  refine Executes.clog _ (Executes.checkBounds low high (Executes.of_decodes ?_))
  intro this rest under supply
  exact (copy_decodes under (Or.inr room) supply).last

/-- `EOL` is decoded to the rest of the line before. -/
theorem eol_executes (room : row.length < prev.length)
    : Executes prev row (decodeNext : Action (DecoderStreambuf σ) Nat) [0x41] 1
        (prev.drop row.length) := by
  refine Executes.mustGet (Executes.clog _ (Executes.of_decodes ?_))
  intro this rest under supply
  exact (endLine_decodes under room supply).last

/-- `NOP` is decoded to nothing. -/
theorem nop_executes
    : Executes prev row (decodeNext : Action (DecoderStreambuf σ) Nat) [0x40] 1 [] :=
  Executes.mustGet (Executes.clog _ (Executes.of_decodes fun _ supply => decodes_pure supply 1))

/-- `EOP` is decoded to nothing, and its size is 0. -/
theorem eop_executes
    : Executes prev row (decodeNext : Action (DecoderStreambuf σ) Nat) [0x42] 0 [] :=
  Executes.mustGet (Executes.clog _ (Executes.of_decodes fun _ supply => decodes_pure supply 0))

end Short

section Long

variable {copyCount repeatCount : Nat} {repeatByte : UInt8} {rawData : List UInt8}

/-- An extended command takes its second byte before anything else. -/
theorem decodeNext_extended {next : UInt8} {count c : Nat} (small : count ≤ 255)
    (tail
      : ∀ extendCount : UInt8, extendCount.toNat = 8 * (count / 8) →
          Executes prev row (decodeExtended extendCount next : Action (DecoderStreambuf σ) Nat)
            bytes c data)
    : Executes prev row (decodeNext : Action (DecoderStreambuf σ) Nat)
        (eightsByte 0xa0 count :: next :: bytes) c data := by
  obtain ⟨⟨notEop, notEol, notNop⟩, extends', value⟩ :=
    eightsByte_fields List.mem_cons_self small
  refine Executes.mustGet ?_
  unfold decodeCommand
  simp only [notEop, notEol, notNop, extends', ↓reduceIte]
  exact Executes.clog _ (Executes.mustGet (tail _ value))

/-- `CopyThenRawLong`: the two bytes of the count are put together again. -/
theorem copyThenRawLong_executes (short : copyCount ≤ 7) (low : 8 ≤ rawData.length)
    (high : rawData.length ≤ 255)
    (room : copyCount = 0 ∨ row.length + copyCount ≤ prev.length)
    : Executes prev row (decodeNext : Action (DecoderStreambuf σ) Nat)
        (eightsByte 0xa0 rawData.length :: fieldByte 0xc0 (rawData.length % 8) copyCount
          :: rawData) (rawData.length + 2)
        ((prev.drop row.length).take copyCount ++ rawData) := by
  rw [Nat.add_comm]
  refine decodeNext_extended high ?_
  intro extendCount value
  obtain ⟨top, rawField, copyField⟩ := fieldByte_fields 0xc0 (by simp) (rawData.length % 8)
    (by omega) copyCount (by omega)
  have count := extended_count high value rawField
  unfold decodeExtended
  simp only [top, decodeCopyThenRawLong, copyField, count]
  refine Executes.clog _ (Executes.mustReadLast rawData ?_)
  refine Executes.checkBounds (Nat.zero_le copyCount) short ?_
  refine Executes.checkBounds low high ?_
  exact Executes.copyThen room fun supply => raw_decodes rawData supply

/-- `CopyThenRepeatLong`, as `CopyThenRepeat` with an extended count. -/
theorem copyThenRepeatLong_executes (short : copyCount ≤ 7) (low : 8 ≤ repeatCount)
    (high : repeatCount ≤ 255)
    (room : copyCount = 0 ∨ row.length + copyCount ≤ prev.length)
    : Executes prev row (decodeNext : Action (DecoderStreambuf σ) Nat)
        [eightsByte 0xa0 repeatCount, fieldByte 0x80 (repeatCount % 8) copyCount, repeatByte] 3
        ((prev.drop row.length).take copyCount ++ List.replicate repeatCount repeatByte) := by
  refine decodeNext_extended high ?_
  intro extendCount value
  obtain ⟨top, repeatField, copyField⟩ := fieldByte_fields 0x80 (by simp) (repeatCount % 8)
    (by omega) copyCount (by omega)
  have count := extended_count high value repeatField
  unfold decodeExtended
  simp only [top, decodeCopyThenRepeatLong, copyField, count]
  refine Executes.mustGet (Executes.clog _ ?_)
  refine Executes.checkBounds (Nat.zero_le copyCount) short ?_
  refine Executes.checkBounds low high ?_
  exact Executes.copyThen room fun supply => repeats_decodes repeatCount repeatByte supply

/-- `RepeatThenRawLong`, as `RepeatThenRaw` with an extended count of given bytes. -/
theorem repeatThenRawLong_executes (some : 2 ≤ repeatCount) (short : repeatCount ≤ 7)
    (low : 8 ≤ rawData.length) (high : rawData.length ≤ 255)
    : Executes prev row (decodeNext : Action (DecoderStreambuf σ) Nat)
        (eightsByte 0xa0 rawData.length :: fieldByte 0x40 repeatCount (rawData.length % 8)
          :: repeatByte :: rawData) (rawData.length + 3)
        (List.replicate repeatCount repeatByte ++ rawData) := by
  rw [Nat.add_comm]
  refine decodeNext_extended high ?_
  intro extendCount value
  obtain ⟨top, repeatField, rawField⟩ := fieldByte_fields 0x40 (by simp) repeatCount
    (by omega) (rawData.length % 8) (by omega)
  have count := extended_count high value rawField
  unfold decodeExtended
  simp only [top, decodeRepeatThenRawLong, repeatField, count]
  refine Executes.mustGet (Executes.clog _ (Executes.mustReadLast rawData ?_))
  refine Executes.checkBounds some short ?_
  refine Executes.checkBounds low high ?_
  exact Executes.repeatsThen fun supply => raw_decodes rawData supply

/-- `RepeatXLong`, as `RepeatX` with an extended count. -/
theorem repeatXLong_executes (low : 8 ≤ repeatCount) (high : repeatCount ≤ 255)
    : Executes prev row (decodeNext : Action (DecoderStreambuf σ) Nat)
        [eightsByte 0xa0 repeatCount, fieldByte 0 (repeatCount % 8) 0] 2
        (List.replicate repeatCount 0x43) := by
  refine decodeNext_extended high ?_
  intro extendCount value
  obtain ⟨top, repeatField, _⟩ := fieldByte_fields 0 (by simp) (repeatCount % 8)
    (by omega) 0 (by omega)
  have count := extended_count high value repeatField
  unfold decodeExtended
  simp only [top, decodeRepeatXLong, count]
  refine Executes.clog _ (Executes.checkBounds low high (Executes.of_decodes ?_))
  intro this rest under supply
  exact (repeats_decodes repeatCount 0x43 supply).last

end Long

/-- The decoder executes each command that fits its row as the command says. -/
theorem decodeNext_executes {command : Command} (valid : command.Valid)
    (fits : command.Fits prev row)
    : Executes prev row (decodeNext : Action (DecoderStreambuf σ) Nat) command.bytes
        command.bytes.length (command.produced prev row) := by
  rw [Command.bytes_eq_layout valid]
  cases command with
  | copyLong n =>
      obtain ⟨low, high, whole⟩ := valid
      have room : row.length + n ≤ prev.length := by
        simp only [Command.Fits, Command.copyCount] at fits
        omega
      simp only [Command.produced, Command.payload, List.append_nil]
      exact copyLong_executes low high whole room
  | copyShort n =>
      obtain ⟨low, high⟩ := valid
      have room : row.length + n ≤ prev.length := by
        simp only [Command.Fits, Command.copyCount] at fits
        omega
      simp only [Command.produced, Command.payload, List.append_nil]
      exact copyShort_executes low high room
  | copyThenRaw n data => exact copyThenRaw_executes valid.1 valid.2.1 valid.2.2 fits
  | copyThenRawLong n data => exact copyThenRawLong_executes valid.1 valid.2.1 valid.2.2 fits
  | copyThenRepeat n r b => exact copyThenRepeat_executes valid.1 valid.2.1 valid.2.2 fits
  | copyThenRepeatLong n r b =>
      exact copyThenRepeatLong_executes valid.1 valid.2.1 valid.2.2 fits
  | repeatThenRaw r b data =>
      exact repeatThenRaw_executes valid.1 valid.2.1 valid.2.2.1 valid.2.2.2
  | repeatThenRawLong r b data =>
      exact repeatThenRawLong_executes valid.1 valid.2.1 valid.2.2.1 valid.2.2.2
  | repeatX r => exact repeatX_executes valid.1 valid.2
  | repeatXLong r => exact repeatXLong_executes valid.1 valid.2
  | eol => exact eol_executes fits
  | eop => exact absurd fits id
  | nop => exact absurd fits id

end DecoderStreambuf

end Capt.Compression
