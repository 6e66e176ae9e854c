import Libcapt.Compression.CommandDecoding
import Libcapt.Compression.PageEncoding

/-! The decoder reads the compressed form of a page as the lines of the page and one
end-of-file, and throws on any proper prefix of it after some of the lines.
-/

namespace Capt.Compression

open Streams

namespace DecoderStreambuf

variable {σ : Type} {this : DecoderStreambuf σ} {prev row rest : List UInt8}

/-- The size of a command is counted after the command. -/
def count (this : DecoderStreambuf σ) (c : Nat) : DecoderStreambuf σ :=
  { this with videoSize := this.videoSize + c }

/-- Counting a command leaves the row and the line above it. -/
theorem Under.count (h : this.Under prev row) (c : Nat) : (this.count c).Under prev row :=
  ⟨h.buffer, h.above⟩

/-- A complete line is the row above the next one. -/
theorem Under.line {line : List UInt8} (h : this.Under prev line)
    (size : line.length = this.lineSize)
    : this.Under line [] := by
  obtain ⟨⟨before, buffer, columns⟩, _⟩ := h
  refine ⟨⟨before ++ prev, ?_, ?_⟩, Or.inr size⟩
  · rw [buffer, List.append_nil, List.append_assoc]
  · rw [List.length_append, Nat.add_mod, columns, size, Nat.mod_self, Nat.zero_add,
      Nat.zero_mod]

/-- The first line of a page may copy nothing. -/
theorem Under.forget (h : this.Under prev []) : this.Under [] [] := by
  obtain ⟨⟨before, buffer, columns⟩, _⟩ := h
  exact ⟨⟨before ++ prev, by simpa using buffer, by simpa using columns⟩, Or.inl rfl⟩

/-- The decoder between lines: nothing is left to read, and the unsigned sizes of the
buffer after another line do not wrap.
-/
structure Between (this : DecoderStreambuf σ) (prev : List UInt8) : Prop where
  under : this.Under prev []
  empty : this.area = []
  nonempty : 0 < this.lineSize
  small : this.buffer.length + this.lineSize < 2 ^ 32

/-- A new decoder is between pages. -/
theorem construct_between (stream : σ) {lineSize : Nat} (commandLog : Option (List String))
    (nonempty : 0 < lineSize) (small : lineSize < 2 ^ 32)
    : (construct stream lineSize commandLog).Between [] := by
  refine ⟨⟨⟨[], rfl, Nat.zero_mod lineSize⟩, Or.inl rfl⟩, rfl, nonempty, ?_⟩
  change 0 + lineSize < 2 ^ 32
  omega

variable [FiniteSource Fault UInt8 σ]

/-- What decoding a part of a line changes besides the decoded data itself. -/
structure Advanced (this this' : DecoderStreambuf σ) (count size : Nat) (rest : List UInt8)
    : Prop where
  length : this'.buffer.length = this.buffer.length + count
  lineSize : this'.lineSize = this.lineSize
  videoSize : this'.videoSize = this.videoSize + size
  area : this'.area = this.area
  stream : SuppliesFinitely this'.stream rest

/-- Two stretches of decoding are one. -/
theorem Advanced.trans {middle final : DecoderStreambuf σ} {first second size more : Nat}
    {left : List UInt8} (h : Advanced this middle first size left)
    (tail : Advanced middle final second more rest)
    : Advanced this final (first + second) (size + more) rest := by
  obtain ⟨length, lineSize, videoSize, area, _⟩ := h
  obtain ⟨length', lineSize', videoSize', area', stream⟩ := tail
  exact ⟨by omega, by rw [lineSize', lineSize], by omega, by rw [area', area], stream⟩

/-- One command, with its size counted, is a stretch of decoding. -/
theorem Decoded.count {this' : DecoderStreambuf σ} {data : List UInt8}
    (h : Decoded this this' data rest) (c : Nat)
    : Advanced this (this'.count c) data.length c rest := by
  refine ⟨?_, h.lineSize, ?_, h.area, h.stream⟩
  · change this'.buffer.length = _
    rw [h.buffer, List.length_append]
  · change this'.videoSize + c = _
    rw [h.videoSize]

/-- The loop ends where the line is complete. -/
theorem run_decodeLoop_done {stop : Nat} (done : stop ≤ this.buffer.length) (fuel : Nat)
    : (decodeLoop stop fuel).run this = .ok true this := by
  have notLess : ¬ this.buffer.length < stop := by omega
  cases fuel with
  | zero => simp [decodeLoop, notLess]
  | succ fuel => simp [decodeLoop, notLess]

/-- A turn that decodes a command. -/
theorem run_decodeLoop_next {stop fuel c : Nat} {this' : DecoderStreambuf σ}
    (more : this.buffer.length < stop) (run : decodeNext.run this = .ok c this')
    (some : c ≠ 0)
    : (decodeLoop stop (fuel + 1)).run this = (decodeLoop stop fuel).run (this'.count c) := by
  simp [decodeLoop, more, run, some, count]

/-- A turn that meets the end of a page of even size. -/
theorem run_decodeLoop_end {stop fuel : Nat} {this' : DecoderStreambuf σ}
    (more : this.buffer.length < stop) (run : decodeNext.run this = .ok 0 this')
    (even : (this'.videoSize + 1) % 2 = 0)
    : (decodeLoop stop (fuel + 1)).run this = .ok false { this' with videoSize := 0 } := by
  have odd : ¬ (this'.videoSize + 1) % 2 ≠ 0 := fun h => h even
  simp only [decodeLoop, EStateM.run_bind, EStateM.run_get, more, run, EStateM.run_modify,
    endPage, Nat.add_zero, odd, ↓reduceIte]
  rfl

/-- A turn in which the command throws. -/
theorem run_decodeLoop_error {stop fuel : Nat} {err : Fault} {this' : DecoderStreambuf σ}
    (more : this.buffer.length < stop) (run : decodeNext.run this = .error err this')
    : (decodeLoop stop (fuel + 1)).run this = .error err this' := by
  simp [decodeLoop, more, run]

variable {line : List UInt8}

/-- The loop decodes the rest of a line, by induction on the commands. -/
theorem decodeLoop_row {cmds : List Command} (run : RowRun prev row cmds line)
    (size : line.length = this.lineSize) (under : this.Under prev row)
    (supply : SuppliesFinitely this.stream (encode cmds ++ rest)) {stop fuel : Nat}
    (bound : stop + row.length = this.buffer.length + this.lineSize)
    (enough : (encode cmds).length ≤ fuel)
    : ∃ this', (decodeLoop stop fuel).run this = .ok true this'
        ∧ this'.Under prev line
        ∧ Advanced this this' (line.length - row.length) (encode cmds).length rest := by
  induction run generalizing this fuel with
  | nil row =>
      refine ⟨this, run_decodeLoop_done (by omega) fuel, under, ?_⟩
      rw [Nat.sub_self]
      exact ⟨rfl, rfl, rfl, rfl, supply⟩
  | @cons row c cmds line valid fits tail ih =>
      have longer := RowRun.length_lt (.cons valid fits tail)
      have bytes := Command.length_bytes_pos c
      have produced := tail.isPrefix.length_le
      rw [encode_cons, List.append_assoc] at supply
      rw [encode_cons, List.length_append] at enough ⊢
      rw [List.length_append] at produced
      obtain ⟨middle, step, decoded⟩ := (decodeNext_executes valid fits).whole under supply
      have advanced := decoded.count c.bytes.length
      obtain ⟨n, rfl⟩ : ∃ n, fuel = n + 1 := ⟨fuel - 1, by omega⟩
      obtain ⟨this', loop, under', rest'⟩ := ih (size.trans advanced.lineSize.symm)
        ((under.decoded decoded).count _) advanced.stream
        (by rw [List.length_append, advanced.length, advanced.lineSize]; omega)
        (show (encode cmds).length ≤ n by omega)
      refine ⟨this', ?_, under', ?_⟩
      · rw [run_decodeLoop_next (by omega) step (by omega), loop]
      · have whole := advanced.trans rest'
        rw [List.length_append] at whole
        have split : (c.produced prev row).length
            + (line.length - (row.length + (c.produced prev row).length))
            = line.length - row.length := by
          omega
        rwa [split] at whole

/-- When the stream ends within the commands of a line the loop throws, by induction on
the commands.
-/
theorem decodeLoop_cut {cmds : List Command} (run : RowRun prev row cmds line)
    (size : line.length = this.lineSize) (under : this.Under prev row)
    {part : List UInt8} (supply : SuppliesFinitely this.stream part)
    (isPrefix : part <+: encode cmds) (differs : part ≠ encode cmds) {stop fuel : Nat}
    (bound : stop + row.length = this.buffer.length + this.lineSize)
    (enough : part.length < fuel)
    : ∃ this', (decodeLoop stop fuel).run this
        = .error (.decoderError "unexpected EOF") this' := by
  induction run generalizing this fuel part with
  | nil row => exact absurd (List.prefix_nil.mp isPrefix) differs
  | @cons row c cmds line valid fits tail ih =>
      have longer := RowRun.length_lt (.cons valid fits tail)
      have bytes := Command.length_bytes_pos c
      have executes := decodeNext_executes (σ := σ) valid fits
      obtain ⟨n, rfl⟩ : ∃ n, fuel = n + 1 := ⟨fuel - 1, by omega⟩
      rw [encode_cons] at isPrefix differs
      rcases Nat.lt_or_ge part.length c.bytes.length with short | long
      · have inside := List.prefix_of_prefix_length_le isPrefix
          (List.prefix_append c.bytes (encode cmds)) (Nat.le_of_lt short)
        have proper : part ≠ c.bytes := by
          intro same
          rw [same] at short
          exact Nat.lt_irrefl _ short
        obtain ⟨this', thrown⟩ := executes.cut supply inside proper
        exact ⟨this', run_decodeLoop_error (by omega) thrown⟩
      · obtain ⟨more, rfl⟩ := List.prefix_of_prefix_length_le
          (List.prefix_append c.bytes (encode cmds)) isPrefix long
        obtain ⟨middle, step, decoded⟩ := executes.whole under supply
        have advanced := decoded.count c.bytes.length
        rw [List.length_append] at enough
        obtain ⟨this', thrown⟩ := ih (size.trans advanced.lineSize.symm)
          ((under.decoded decoded).count _) advanced.stream
          ((List.prefix_append_right_inj c.bytes).mp isPrefix) (by simpa using differs)
          (by rw [List.length_append, advanced.length, advanced.lineSize]; omega)
          (show more.length < n by omega)
        exact ⟨this', by rw [run_decodeLoop_next (by omega) step (by omega), thrown]⟩

-----------------------------------------------------------------------------------------
-- The end of a page
-----------------------------------------------------------------------------------------

/-- At the end of a page the decoded data is as before, and the size starts again. -/
structure Ended (this this' : DecoderStreambuf σ) (rest : List UInt8) : Prop where
  buffer : this'.buffer = this.buffer
  lineSize : this'.lineSize = this.lineSize
  videoSize : this'.videoSize = 0
  area : this'.area = this.area
  stream : SuppliesFinitely this'.stream rest

/-- A page that becomes even by its end mark has nothing before it. -/
theorem endPage_even {size : Nat} (even : (size + 1) % 2 = 0)
    : Compression.endPage size = [0x42] := by
  simp only [Compression.endPage, even, ne_eq, not_true_eq_false, ↓reduceIte, List.nil_append]
  rfl

/-- Any other one has `NOP` before it. -/
theorem endPage_odd {size : Nat} (odd : (size + 1) % 2 ≠ 0)
    : Compression.endPage size = 0x40 :: [0x42] := by
  simp only [Compression.endPage, odd, ne_eq, not_false_eq_true, ↓reduceIte]
  rfl

/-- The end of a page is not empty. -/
theorem length_endPage_pos (size : Nat) : 0 < (Compression.endPage size).length := by
  by_cases even : (size + 1) % 2 = 0
  · rw [endPage_even even]
    exact Nat.one_pos
  · rw [endPage_odd even]
    exact Nat.two_pos

/-- The end mark ends the page: the loop gives `false`. -/
theorem decodeLoop_eop (under : this.Under prev [])
    (supply : SuppliesFinitely this.stream (0x42 :: rest)) {stop : Nat} (fuel : Nat)
    (more : this.buffer.length < stop) (even : (this.videoSize + 1) % 2 = 0)
    : ∃ this', (decodeLoop stop (fuel + 1)).run this = .ok false this'
        ∧ Ended this this' rest := by
  obtain ⟨middle, step, decoded⟩ := eop_executes.whole under supply
  refine ⟨{ middle with videoSize := 0 }, ?_, ?_, decoded.lineSize, rfl, decoded.area,
    decoded.stream⟩
  · exact run_decodeLoop_end more step (by rw [decoded.videoSize]; exact even)
  · change middle.buffer = this.buffer
    rw [decoded.buffer, List.append_nil]

/-- The bytes after the last line end the page: NOP makes the size of the page even. -/
theorem decodeLoop_endPage (under : this.Under prev [])
    (supply : SuppliesFinitely this.stream (Compression.endPage this.videoSize ++ rest))
    {stop : Nat} (fuel : Nat) (more : this.buffer.length < stop)
    : ∃ this', (decodeLoop stop (fuel + 2)).run this = .ok false this'
        ∧ Ended this this' rest := by
  by_cases even : (this.videoSize + 1) % 2 = 0
  · rw [endPage_even even] at supply
    exact decodeLoop_eop under supply (fuel + 1) more even
  · rw [endPage_odd even] at supply
    obtain ⟨middle, step, decoded⟩ := nop_executes.whole under supply
    have same : middle.buffer = this.buffer := by
      rw [decoded.buffer, List.append_nil]
    have size : (middle.count 1).videoSize = this.videoSize + 1 := by
      rw [← decoded.videoSize]
      rfl
    have advanced := decoded.count 1
    have less : (middle.count 1).buffer.length < stop := by
      rwa [advanced.length]
    obtain ⟨this', run, ended⟩ := decodeLoop_eop ((under.nothing decoded).count 1)
      advanced.stream fuel less (by rw [size]; omega)
    refine ⟨this', ?_, ?_, ?_, ended.videoSize, ?_, ended.stream⟩
    · rw [run_decodeLoop_next more step Nat.one_ne_zero, run]
    · rw [ended.buffer]
      exact same
    · rw [ended.lineSize]
      exact decoded.lineSize
    · rw [ended.area]
      exact decoded.area

/-- A page without its end mark makes the decoder throw. -/
theorem decodeLoop_eop_cut {part : List UInt8}
    (supply : SuppliesFinitely this.stream part) (isPrefix : part <+: [0x42])
    (differs : part ≠ [0x42]) {stop : Nat} (fuel : Nat) (more : this.buffer.length < stop)
    : ∃ this', (decodeLoop stop (fuel + 1)).run this
        = .error (.decoderError "unexpected EOF") this' := by
  have executes : Executes [] [] (decodeNext : Action (DecoderStreambuf σ) Nat) [0x42] 0 [] :=
    eop_executes
  obtain ⟨this', thrown⟩ := executes.cut supply isPrefix differs
  exact ⟨this', run_decodeLoop_error more thrown⟩

/-- When the stream ends before EOP the loop throws. -/
theorem decodeLoop_endPage_cut (under : this.Under prev []) {part : List UInt8}
    (supply : SuppliesFinitely this.stream part) {size : Nat}
    (isPrefix : part <+: Compression.endPage size) (differs : part ≠ Compression.endPage size)
    {stop fuel : Nat} (more : this.buffer.length < stop) (enough : part.length < fuel)
    : ∃ this', (decodeLoop stop fuel).run this
        = .error (.decoderError "unexpected EOF") this' := by
  obtain ⟨n, rfl⟩ : ∃ n, fuel = n + 1 := ⟨fuel - 1, by omega⟩
  by_cases even : (size + 1) % 2 = 0
  · rw [endPage_even even] at isPrefix differs
    exact decodeLoop_eop_cut supply isPrefix differs n more
  · rw [endPage_odd even] at isPrefix differs
    have executes
        : Executes prev [] (decodeNext : Action (DecoderStreambuf σ) Nat) [0x40] 1 [] :=
      nop_executes
    cases part with
    | nil =>
        obtain ⟨this', thrown⟩ := executes.cut supply List.nil_prefix (by simp)
        exact ⟨this', run_decodeLoop_error more thrown⟩
    | cons b part =>
        obtain ⟨m, rfl⟩ : ∃ m, n = m + 1 := ⟨n - 1, by rw [List.length_cons] at enough; omega⟩
        obtain ⟨rfl, rest⟩ := List.cons_prefix_cons.mp isPrefix
        obtain ⟨middle, step, decoded⟩ := executes.whole under supply
        have advanced := decoded.count 1
        have less : (middle.count 1).buffer.length < stop := by
          rwa [advanced.length]
        obtain ⟨this', thrown⟩ := decodeLoop_eop_cut advanced.stream rest
          (by simpa using differs) m less
        exact ⟨this', by rw [run_decodeLoop_next more step Nat.one_ne_zero, thrown]⟩

/-- Between two lines the loop runs until one more line is in the buffer. -/
theorem Between.run_decodeLine (h : this.Between prev)
    : decodeLine.run this
      = (decodeLoop (this.buffer.length + this.lineSize)
          (FiniteSource.bound this.stream + 1)).run this := by
  have length : unsigned this.buffer.length = this.buffer.length :=
    unsigned_eq (Nat.lt_of_le_of_lt (Nat.le_add_right ..) h.small)
  have stop : unsigned (this.buffer.length + this.lineSize)
      = this.buffer.length + this.lineSize :=
    unsigned_eq h.small
  simp only [decodeLine, EStateM.run_bind, EStateM.run_get, length, stop]

/-- The end of the decoded data becomes the get area. -/
theorem run_underflow_line (empty : this.area = []) {this' : DecoderStreambuf σ}
    (run : decodeLine.run this = .ok true this') (under : this'.Under prev line)
    (size : line.length = this'.lineSize) (nonempty : 0 < line.length)
    : underflow.run this = .ok line.head? { this' with area := line } := by
  obtain ⟨before, buffer, _⟩ := under.buffer
  have length : this'.buffer.length = before.length + prev.length + line.length := by
    rw [buffer]
    simp only [List.length_append]
    omega
  have inside : ¬ (this'.buffer.length < this'.lineSize ∨ this'.lineSize = 0) := by omega
  have last : this'.buffer.drop (this'.buffer.length - this'.lineSize) = line := by
    rw [length, ← size, Nat.add_sub_cancel, buffer, ← List.append_assoc,
      ← List.length_append, List.drop_left]
  simp only [underflow, EStateM.run_bind, EStateM.run_get, empty, run, inside, last, ↓reduceIte]
  rfl

/-- At the end of the page there is no byte. -/
theorem run_underflow_end (empty : this.area = []) {this' : DecoderStreambuf σ}
    (run : decodeLine.run this = .ok false this')
    : underflow.run this = .ok none this' := by
  simp [underflow, empty, run]

/-- What decoding the line throws comes out of `underflow`. -/
theorem run_underflow_error (empty : this.area = []) {this' : DecoderStreambuf σ}
    {err : Fault} (run : decodeLine.run this = .error err this')
    : underflow.run this = .error err this' := by
  simp [underflow, empty, run]

-----------------------------------------------------------------------------------------
-- Lines and pages
-----------------------------------------------------------------------------------------

/-- Reading `n` bytes of the line that is decoded. -/
theorem iterate_gbump (n : Nat) (this : DecoderStreambuf σ)
    : (Streambuf.gbump 1)^[n] this = { this with area := this.area.drop n } := by
  induction n generalizing this with
  | zero => rfl
  | succ n ih =>
      rw [Function.iterate_succ_apply, ih]
      simp [Streambuf.gbump]

/-- The line to read next is in the get area, and after it the decoder is between lines. -/
structure Filled (this this' : DecoderStreambuf σ) (line : List UInt8) (size : Nat)
    (rest : List UInt8)
    : Prop where
  run : underflow.run this = .ok line.head? this'
  area : this'.area = line
  under : this'.Under line []
  advanced
    : Advanced this { this' with area := this.area } line.length size rest

omit [FiniteSource Fault UInt8 σ] in
/-- A line of the decoder's size is compressed to a run of commands under the last one. -/
theorem Between.rowRun {line : List UInt8} (h : this.Between prev)
    (size : line.length = this.lineSize)
    : ∃ cmds, compressLine prev line = encode cmds ∧ RowRun prev [] cmds line := by
  have above : prev = [] ∨ prev.length = line.length := by
    rw [size]
    exact h.under.above
  apply compressLine_rowRun _ _ above
  · rw [size]
    exact h.nonempty
  · rw [size]
    exact Nat.lt_of_le_of_lt (Nat.le_add_left _ _) h.small

/-- The bytes of a line fill the get area with the line. -/
theorem Between.fill {line : List UInt8} (h : this.Between prev)
    (size : line.length = this.lineSize)
    (supply : SuppliesFinitely this.stream (compressLine prev line ++ rest))
    : ∃ this', Filled this this' line (compressLine prev line).length rest := by
  have nonempty := h.nonempty
  obtain ⟨cmds, same, rowRun⟩ := h.rowRun size
  rw [same] at supply ⊢
  have bound := supply.holds
  rw [List.length_append] at bound
  obtain ⟨middle, loop, under, advanced⟩ := decodeLoop_row rowRun size h.under supply
    (Nat.add_zero (this.buffer.length + this.lineSize))
    (show (encode cmds).length ≤ FiniteSource.bound this.stream + 1 by omega)
  rw [← h.run_decodeLine] at loop
  have size' : line.length = middle.lineSize := size.trans advanced.lineSize.symm
  have below := under.line size'
  refine ⟨{ middle with area := line }, ?_, rfl, ?_, advanced.length, advanced.lineSize,
    advanced.videoSize, rfl, advanced.stream⟩
  · exact run_underflow_line h.empty loop under size' (by omega)
  · exact ⟨below.buffer, below.above⟩

/-- When the stream ends within the bytes of a line nothing of the line can be read. -/
theorem Between.cut {line : List UInt8} (h : this.Between prev)
    (size : line.length = this.lineSize) {part : List UInt8}
    (supply : SuppliesFinitely this.stream part) (isPrefix : part <+: compressLine prev line)
    (differs : part ≠ compressLine prev line)
    : Breaks (.decoderError "unexpected EOF") this [] := by
  obtain ⟨cmds, same, rowRun⟩ := h.rowRun size
  rw [same] at isPrefix differs
  have bound := supply.holds
  obtain ⟨this', thrown⟩ := decodeLoop_cut rowRun size h.under supply isPrefix differs
    (Nat.add_zero (this.buffer.length + this.lineSize))
    (show part.length < FiniteSource.bound this.stream + 1 by omega)
  rw [← h.run_decodeLine] at thrown
  exact .thrown (Streambuf.run_sbumpc_error h.empty (run_underflow_error h.empty thrown))

/-- The decoder once the line in the get area is read. -/
def emptied (this : DecoderStreambuf σ) : DecoderStreambuf σ := { this with area := [] }

/-- Once a line is read the decoder is between lines again. -/
structure LineRead (this this' : DecoderStreambuf σ) (line : List UInt8) (size : Nat)
    (rest : List UInt8)
    : Prop where
  between : this'.Between line
  length : this'.buffer.length = this.buffer.length + line.length
  lineSize : this'.lineSize = this.lineSize
  videoSize : this'.videoSize = this.videoSize + size
  stream : SuppliesFinitely this'.stream rest

/-- A line that was decoded and then read is one line that was delivered. -/
theorem Filled.emptied {this' : DecoderStreambuf σ} {line : List UInt8} {size : Nat}
    (h : Filled this this' line size rest) (nonempty : 0 < this.lineSize)
    (small : this.buffer.length + line.length + this.lineSize < 2 ^ 32)
    : LineRead this this'.emptied line size rest := by
  obtain ⟨_, _, under, length, lineSize, videoSize, _, stream⟩ := h
  refine ⟨⟨⟨under.buffer, under.above⟩, rfl, ?_, ?_⟩, length, lineSize, videoSize, stream⟩
  · exact Nat.lt_of_lt_of_eq nonempty lineSize.symm
  · refine Nat.lt_of_le_of_lt (Nat.le_of_eq ?_) small
    exact congrArg₂ (· + ·) length lineSize

/-- The lines after it still have the size of the decoder's lines. -/
theorem LineRead.sizes {this' : DecoderStreambuf σ} {line : List UInt8} {size : Nat}
    (h : LineRead this this' line size rest) {row : List UInt8} {rows : List (List UInt8)}
    (sizes : ∀ other ∈ row :: rows, other.length = this.lineSize)
    : ∀ other ∈ rows, other.length = this'.lineSize := by
  intro other mem
  rw [h.lineSize]
  exact sizes other (List.mem_cons_of_mem row mem)

/-- A line and what is drained behind it are drained together. -/
theorem Filled.drains {this' final : DecoderStreambuf σ} {line more : List UInt8} {size : Nat}
    (h : Filled this this' line size rest) (empty : this.area = []) (nonempty : line ≠ [])
    (tail : Drains this'.emptied more final)
    : Drains this (line ++ more) final := by
  obtain ⟨b, line, rfl⟩ := List.exists_cons_of_ne_nil nonempty
  have filled : Streambuf.area this' ≠ [] := by
    change this'.area ≠ []
    simp [h.area]
  refine Streambuf.drains_refill empty h.run filled (Streambuf.drains_area h.area ?_)
  rw [iterate_gbump, ← h.area, List.drop_length]
  exact tail

/-- A line before the error is delivered. -/
theorem Filled.breaks {this' : DecoderStreambuf σ} {line more : List UInt8} {size : Nat}
    {err : Fault} (h : Filled this this' line size rest) (empty : this.area = [])
    (nonempty : line ≠ []) (tail : Breaks err this'.emptied more)
    : Breaks err this (line ++ more) := by
  obtain ⟨b, line, rfl⟩ := List.exists_cons_of_ne_nil nonempty
  have filled : Streambuf.area this' ≠ [] := by
    change this'.area ≠ []
    simp [h.area]
  refine Streambuf.breaks_refill empty h.run filled (Streambuf.breaks_area h.area ?_)
  rw [iterate_gbump, ← h.area, List.drop_length]
  exact tail

/-- Behind a page the decoder stands before the first line of the next one. -/
theorem Ended.between {this' : DecoderStreambuf σ} (h : Ended this this' rest)
    (before : this.Between prev)
    : this'.Between [] := by
  obtain ⟨under, empty, nonempty, small⟩ := before
  obtain ⟨⟨start, buffer, columns⟩, above⟩ := under
  have under : this'.Under prev [] := by
    refine ⟨⟨start, h.buffer.trans buffer, ?_⟩, ?_⟩
    · rw [h.lineSize]
      exact columns
    · rw [h.lineSize]
      exact above
  refine ⟨under.forget, h.area.trans empty, ?_, ?_⟩
  · rw [h.lineSize]
    exact nonempty
  · rw [h.buffer, h.lineSize]
    exact small

/-- At the end of a page the decoder is ready for the next one. -/
structure PageRead (this this' : DecoderStreambuf σ) (count : Nat) (rest : List UInt8)
    : Prop where
  between : this'.Between []
  length : this'.buffer.length = this.buffer.length + count
  lineSize : this'.lineSize = this.lineSize
  videoSize : this'.videoSize = 0
  stream : SuppliesFinitely this'.stream rest

/-- The compressed lines and the end of the page are read as the lines and one
end-of-file, by induction on the lines.
-/
theorem Between.drains {rows : List (List UInt8)} (h : this.Between prev)
    (size : ∀ row ∈ rows, row.length = this.lineSize)
    (small : this.buffer.length + rows.flatten.length + this.lineSize < 2 ^ 32)
    (supply
      : SuppliesFinitely this.stream
          (compressRows prev rows
            ++ (Compression.endPage (this.videoSize + (compressRows prev rows).length)
              ++ rest)))
    : ∃ this', Drains this rows.flatten this'
        ∧ PageRead this this' rows.flatten.length rest := by
  induction rows generalizing this prev with
  | nil =>
      have bound := supply.holds
      have pos := length_endPage_pos this.videoSize
      simp only [compressRows, List.nil_append, List.length_nil, Nat.add_zero,
        List.length_append] at supply bound
      obtain ⟨n, fuel⟩ : ∃ n, FiniteSource.bound this.stream + 1 = n + 2 :=
        ⟨FiniteSource.bound this.stream - 1, by omega⟩
      have less : this.buffer.length < this.buffer.length + this.lineSize :=
        Nat.lt_add_of_pos_right h.nonempty
      obtain ⟨this', loop, ended⟩ := decodeLoop_endPage h.under supply n less
      rw [← fuel, ← h.run_decodeLine] at loop
      refine ⟨this', .eof (Streambuf.run_sbumpc_eof h.empty (run_underflow_end h.empty loop)),
        ?_, ?_, ended.lineSize, ended.videoSize, ended.stream⟩
      · exact ended.between h
      · rw [ended.buffer]
        rfl
  | cons row rows ih =>
      have length : row.length = this.lineSize := size row List.mem_cons_self
      have nonempty := h.nonempty
      rw [compressRows, List.append_assoc, List.length_append, ← Nat.add_assoc] at supply
      rw [List.flatten_cons, List.length_append] at small ⊢
      obtain ⟨middle, filled⟩ := h.fill length supply
      have next := filled.emptied nonempty (by omega)
      have count := next.length
      have columns := next.lineSize
      have left := next.stream
      rw [← next.videoSize] at left
      obtain ⟨this', drains, read⟩ := ih next.between (next.sizes size) (by omega) left
      refine ⟨this', filled.drains h.empty ?_ drains, read.between, ?_,
        read.lineSize.trans columns, read.videoSize, read.stream⟩
      · rw [← List.length_pos_iff]
        omega
      · rw [read.length, count, Nat.add_assoc]

/-- On any proper prefix of the compressed page, some of the lines are read before the
exception, by induction on the lines.
-/
theorem Between.breaks {rows : List (List UInt8)} (h : this.Between prev)
    (size : ∀ row ∈ rows, row.length = this.lineSize)
    (small : this.buffer.length + rows.flatten.length + this.lineSize < 2 ^ 32)
    {part : List UInt8} (supply : SuppliesFinitely this.stream part) {videoSize : Nat}
    (isPrefix : part <+: compressRows prev rows ++ Compression.endPage videoSize)
    (differs : part ≠ compressRows prev rows ++ Compression.endPage videoSize)
    : ∃ k ≤ rows.length,
        Breaks (.decoderError "unexpected EOF") this (rows.take k).flatten := by
  induction rows generalizing this prev part with
  | nil =>
      have bound := supply.holds
      have less : this.buffer.length < this.buffer.length + this.lineSize :=
        Nat.lt_add_of_pos_right h.nonempty
      obtain ⟨this', thrown⟩ := decodeLoop_endPage_cut h.under supply isPrefix differs less
        (Nat.lt_succ_of_le bound)
      rw [← h.run_decodeLine] at thrown
      exact ⟨0, Nat.zero_le _,
        .thrown (Streambuf.run_sbumpc_error h.empty (run_underflow_error h.empty thrown))⟩
  | cons row rows ih =>
      have length : row.length = this.lineSize := size row List.mem_cons_self
      have nonempty := h.nonempty
      rw [compressRows, List.append_assoc] at isPrefix differs
      rw [List.flatten_cons, List.length_append] at small
      rcases Nat.lt_or_ge part.length (compressLine prev row).length with short | long
      · have inside := List.prefix_of_prefix_length_le isPrefix
          (List.prefix_append (compressLine prev row) _) (Nat.le_of_lt short)
        refine ⟨0, Nat.zero_le _, h.cut length supply inside ?_⟩
        intro same
        rw [same] at short
        exact Nat.lt_irrefl _ short
      · obtain ⟨more, rfl⟩ := List.prefix_of_prefix_length_le
          (List.prefix_append (compressLine prev row) _) isPrefix long
        obtain ⟨middle, filled⟩ := h.fill length supply
        have next := filled.emptied nonempty (by omega)
        have count := next.length
        have columns := next.lineSize
        obtain ⟨k, le, breaks⟩ := ih next.between (next.sizes size) (by omega) next.stream
          ((List.prefix_append_right_inj _).mp isPrefix) (by simpa using differs)
        refine ⟨k + 1, Nat.succ_le_succ le, filled.breaks h.empty ?_ breaks⟩
        rw [← List.length_pos_iff]
        omega

end DecoderStreambuf

end Capt.Compression
