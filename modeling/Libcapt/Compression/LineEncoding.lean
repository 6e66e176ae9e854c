import Libcapt.Compression.Segmentation
import Libcapt.Compression.Splitting

/-! The commands written for a line, executed on the row above it, give the line. -/

namespace Capt.Compression

variable {line prevLine : List UInt8}

namespace Segment

variable {f : ScoaFunc} {stop : Nat}

/-- A segment starts inside the line. -/
theorem index_le (h : Segment line prevLine f stop) : f.index ≤ line.length := by
  have ends := h.ends
  have bound := h.bound
  omega

/-- As many bytes stand before a segment as its index says. -/
theorem length_take (h : Segment line prevLine f stop)
    : (line.take f.index).length = f.index := by
  rw [List.length_take]
  exact Nat.min_eq_left h.index_le

/-- The assertions of `payload` hold for a segment. -/
theorem payloadAsserts (h : Segment line prevLine f stop) : f.PayloadAsserts line := by
  have pos := h.count_pos
  have ends := h.ends
  have bound := h.bound
  unfold ScoaFunc.PayloadAsserts
  omega

/-- A segment covers as many bytes as its count says. -/
theorem length_payload (h : Segment line prevLine f stop)
    : (f.payload line).length = f.count := by
  have ends := h.ends
  have bound := h.bound
  rw [ScoaFunc.payload, List.length_take, List.length_drop]
  omega

/-- The line up to the end of a segment. -/
theorem take_stop (h : Segment line prevLine f stop)
    : line.take stop = line.take f.index ++ f.payload line := by
  rw [← h.ends, List.take_add, ScoaFunc.payload]

/-- A copied segment holds the bytes above it. -/
theorem payload_copy (h : Segment line prevLine f stop) (copy : f.type = .copy)
    : f.payload line = (prevLine.drop f.index).take f.count := by
  obtain ⟨_, equal⟩ := h.copied copy
  have ends := h.ends
  refine List.ext_getElem? fun i => ?_
  simp only [ScoaFunc.payload, List.getElem?_take, List.getElem?_drop]
  split
  · exact equal (f.index + i) (Nat.le_add_right ..) (by omega)
  · rfl

/-- The row above reaches as far as a copied segment. -/
theorem le_length_prevLine (h : Segment line prevLine f stop) (copy : f.type = .copy)
    : f.index + f.count ≤ prevLine.length := by
  have same := congrArg List.length (h.payload_copy copy)
  have pos := h.count_pos
  rw [h.length_payload, List.length_take, List.length_drop] at same
  omega

/-- A repeated segment holds its first byte throughout. -/
theorem payload_repeats (h : Segment line prevLine f stop) (rep : f.type = .repeats)
    : f.payload line = List.replicate f.count ((line)[f.index]?.getD 0) := by
  obtain ⟨_, equal⟩ := h.repeated rep
  have pos := h.count_pos
  have ends := h.ends
  have bound := h.bound
  have first : (line)[f.index]? = some ((line)[f.index]?.getD 0) := by
    rw [List.getElem?_eq_getElem (by omega)]
    rfl
  refine List.ext_getElem? fun i => ?_
  simp only [ScoaFunc.payload, List.getElem?_take, List.getElem?_drop,
    List.getElem?_replicate]
  split
  · rw [equal (f.index + i) (Nat.le_add_right ..) (by omega)]
    exact first
  · rfl

end Segment

-----------------------------------------------------------------------------------------
-- The commands for the next segments
-----------------------------------------------------------------------------------------

/-- Commands that mean a copy and data extend the row built so far. -/
theorem Splits.rowRun {cmds : List Command} {copyCount start stop : Nat}
    {data : List UInt8} (h : Splits cmds copyCount data)
    (length : (line.take start).length = start)
    (room : copyCount = 0 ∨ start + copyCount ≤ prevLine.length)
    (whole : line.take stop
      = line.take start ++ ((prevLine.drop start).take copyCount ++ data))
    : RowRun prevLine (line.take start) cmds (line.take stop) := by
  have run := h prevLine (line.take start) (by rwa [length])
  rw [length] at run
  rwa [whole]

/-- What `nextCmd` does to a line that is encoded up to `start`: it appends commands that
extend the row further, returns their size, and fails no assertion.
-/
def Advances (line prevLine : List UInt8) (start : Nat) (buffer : Buffer)
    (result : Buffer × ScoaState × Nat)
    : Prop :=
  ∃ cmds state stop,
    result = (buffer.insert (encode cmds), state, (encode cmds).length)
    ∧ state.At line prevLine stop
    ∧ start < stop
    ∧ RowRun prevLine (line.take start) cmds (line.take stop)

/-- A helper that writes a copy and data advances the line to the end of the data. -/
theorem Emitted.advances {buffer : Buffer} {result : Buffer × Nat}
    {copyCount start stop : Nat} {data : List UInt8} {state : ScoaState}
    (h : Emitted buffer result copyCount data)
    (length : (line.take start).length = start)
    (room : copyCount = 0 ∨ start + copyCount ≤ prevLine.length)
    (whole : line.take stop
      = line.take start ++ ((prevLine.drop start).take copyCount ++ data))
    (at' : state.At line prevLine stop) (lt : start < stop)
    : Advances line prevLine start buffer (result.1, state, result.2) := by
  obtain ⟨cmds, rfl, meaning⟩ := h
  exact ⟨cmds, state, stop, rfl, at', lt, meaning.rowRun length room whole⟩

/-- A repetition and the raw bytes after it, or the repetition alone. -/
theorem nextCmd_repeats {state middle : ScoaState} (buffer : Buffer)
    (run : state.get = (state.curr, middle)) (nonempty : ¬ state.Empty)
    (asserts : state.PeekAsserts) (small : line.length < 2 ^ 32)
    (covers : Segment line prevLine state.curr (state.curr.index + state.curr.count))
    (next : middle.At line prevLine (state.curr.index + state.curr.count))
    (rep : state.curr.type = .repeats)
    : Advances line prevLine state.curr.index buffer (nextCmd buffer line state) := by
  have pos := covers.count_pos
  have bound := covers.bound
  have count : unsigned state.curr.count = state.curr.count := unsigned_eq (by omega)
  have two := (covers.repeated rep).1
  have first := covers.take_stop
  rw [covers.payload_repeats rep] at first
  have peeks : middle.Empty ∨ middle.PeekAsserts := Or.inr next.peekAsserts
  rw [nextCmd, Buffer.assert_of nonempty, Buffer.assert_of asserts]
  simp only [run, count, rep, reduceCtorEq, ↓reduceIte, Buffer.assert_of two,
    Buffer.assert_of peeks]
  split
  · rename_i raw
    obtain ⟨more, isRaw⟩ := raw
    obtain ⟨final, run', start', covers', next', _⟩ := next.get more
    have pos' := covers'.count_pos
    have length' := covers'.length_payload
    have second := covers'.take_stop
    rw [start', first, List.append_assoc] at second
    simp only [run', Buffer.assert_of covers'.payloadAsserts]
    have nonempty' : (middle.curr.payload line).length ≠ 0 := by omega
    have emitted := cmdRepeatThenRaw_emitted buffer state.curr.count
      ((line)[state.curr.index]?.getD 0) (Or.inr nonempty')
    exact emitted.advances covers.length_take (Or.inl rfl) second next' (by omega)
  · have some : state.curr.count ≠ 0 := by omega
    have emitted := cmdRepeat_emitted buffer ((line)[state.curr.index]?.getD 0) some
    exact emitted.advances covers.length_take (Or.inl rfl) first next (by omega)

/-- A copy and what follows it: nothing, a repetition or raw bytes. -/
theorem nextCmd_copy {state middle : ScoaState} (buffer : Buffer)
    (run : state.get = (state.curr, middle)) (nonempty : ¬ state.Empty)
    (asserts : state.PeekAsserts) (small : line.length < 2 ^ 32)
    (above : prevLine = [] ∨ prevLine.length = line.length)
    (covers : Segment line prevLine state.curr (state.curr.index + state.curr.count))
    (next : middle.At line prevLine (state.curr.index + state.curr.count))
    (apart : ¬ middle.Empty → middle.curr.type ≠ .copy)
    (copy : state.curr.type = .copy)
    : Advances line prevLine state.curr.index buffer (nextCmd buffer line state) := by
  have pos := covers.count_pos
  have bound := covers.bound
  have count : unsigned state.curr.count = state.curr.count := unsigned_eq (by omega)
  have room := covers.le_length_prevLine copy
  have first := covers.take_stop
  rw [covers.payload_copy copy] at first
  rw [nextCmd, Buffer.assert_of nonempty, Buffer.assert_of asserts]
  simp only [run, count, copy, ↓reduceIte]
  split
  · -- the copy reaches the end of the line
    rename_i stop
    have same : prevLine.length = line.length := by
      rcases above with rfl | same
      · rw [List.length_nil] at room
        omega
      · exact same
    have fits : Command.eol.Fits prevLine (line.take state.curr.index) := by
      rw [Command.Fits, covers.length_take]
      omega
    have produced : line.take state.curr.index
          ++ Command.eol.produced prevLine (line.take state.curr.index)
        = line.take (state.curr.index + state.curr.count) := by
      have all : (prevLine.drop state.curr.index).take state.curr.count
          = prevLine.drop state.curr.index :=
        List.take_of_length_le (by rw [List.length_drop]; omega)
      rw [first, all, Command.produced, covers.length_take]
    refine ⟨[.eol], middle, _, ?_, next, Nat.lt_add_of_pos_right pos, ?_⟩
    · rfl
    · rw [← produced]
      exact RowRun.single trivial fits
  rename_i notEnd
  have more : ¬ middle.Empty := fun empty => notEnd (next.empty_iff.mp empty)
  obtain ⟨final, run', start', covers', next', _⟩ := next.get more
  have pos' := covers'.count_pos
  have bound' := covers'.bound
  have count' : unsigned middle.curr.count = middle.curr.count := unsigned_eq (by omega)
  have second := covers'.take_stop
  rw [start', first, List.append_assoc] at second
  simp only [more, not_false_eq_true, ↓reduceIte, run', Buffer.assert_of next.peekAsserts,
    count']
  split
  · rename_i rep
    have two := (covers'.repeated rep).1
    rw [covers'.payload_repeats rep] at second
    rw [Buffer.assert_of two]
    have some : middle.curr.count ≠ 0 := by omega
    have emitted := cmdCopyThenRepeat_emitted buffer state.curr.count
      ((line)[middle.curr.index]?.getD 0) (Or.inr some)
    exact emitted.advances covers.length_take (Or.inr room) second next' (by omega)
  · rename_i notRep
    have raw := ScoaFunc.type_raw (apart more) notRep
    have length' := covers'.length_payload
    rw [Buffer.assert_of raw, Buffer.assert_of covers'.payloadAsserts]
    have some : (middle.curr.payload line).length ≠ 0 := by omega
    have emitted := cmdCopyThenRaw_emitted buffer state.curr.count some
    exact emitted.advances covers.length_take (Or.inr room) second next' (by omega)

/-- Raw bytes in front are written alone. -/
theorem nextCmd_raw {state middle : ScoaState} (buffer : Buffer)
    (run : state.get = (state.curr, middle)) (nonempty : ¬ state.Empty)
    (asserts : state.PeekAsserts)
    (covers : Segment line prevLine state.curr (state.curr.index + state.curr.count))
    (next : middle.At line prevLine (state.curr.index + state.curr.count))
    (raw : state.curr.type = .raw)
    : Advances line prevLine state.curr.index buffer (nextCmd buffer line state) := by
  have pos := covers.count_pos
  have length := covers.length_payload
  rw [nextCmd, Buffer.assert_of nonempty, Buffer.assert_of asserts]
  simp only [run, raw, reduceCtorEq, ↓reduceIte, Buffer.assert_of covers.payloadAsserts]
  have some : (state.curr.payload line).length ≠ 0 := by omega
  have emitted := cmdWriteRaw_emitted buffer some
  exact emitted.advances covers.length_take (Or.inl rfl) covers.take_stop next (by omega)

/-- The segments that `nextCmd` takes are written as commands for them. -/
theorem nextCmd_advances {state : ScoaState} {start : Nat} (buffer : Buffer)
    (h : state.At line prevLine start) (more : start < line.length)
    (small : line.length < 2 ^ 32) (above : prevLine = [] ∨ prevLine.length = line.length)
    : Advances line prevLine start buffer (nextCmd buffer line state) := by
  have nonempty : ¬ state.Empty := by
    intro empty
    have stop := h.empty_iff.mp empty
    omega
  have asserts := h.peekAsserts
  obtain ⟨middle, run, rfl, covers, next, apart⟩ := h.get nonempty
  cases type : state.curr.type with
  | copy =>
      exact nextCmd_copy buffer run nonempty asserts small above covers next (apart type) type
  | repeats => exact nextCmd_repeats buffer run nonempty asserts small covers next type
  | raw => exact nextCmd_raw buffer run nonempty asserts covers next type

-----------------------------------------------------------------------------------------
-- The commands for a line
-----------------------------------------------------------------------------------------

/-- A line that is written to its end takes no more commands. -/
theorem encodeLoop_stop (fuel : Nat) {state : ScoaState} (buffer : Buffer)
    (h : state.At line prevLine line.length)
    : ∃ cmds,
        (∀ videoSize, encodeLoop fuel buffer line state videoSize
          = some (buffer.insert (encode cmds), videoSize + (encode cmds).length))
        ∧ RowRun prevLine (line.take line.length) cmds line := by
  refine ⟨[], ?_, ?_⟩
  · intro videoSize
    have empty := h.empty_iff.mpr rfl
    rw [encodeLoop.eq_def]
    simp [empty]
  · rw [List.take_length]
    exact .nil line

/-- The loop of `nextCmd` writes the rest of the line, by induction on the bound of its
iterations; each one moves forward.
-/
theorem encodeLoop_advances (fuel : Nat) {state : ScoaState} {start : Nat} (buffer : Buffer)
    (h : state.At line prevLine start) (enough : line.length ≤ start + fuel)
    (small : line.length < 2 ^ 32) (above : prevLine = [] ∨ prevLine.length = line.length)
    : ∃ cmds,
        (∀ videoSize, encodeLoop fuel buffer line state videoSize
          = some (buffer.insert (encode cmds), videoSize + (encode cmds).length))
        ∧ RowRun prevLine (line.take start) cmds line := by
  induction fuel generalizing state start buffer with
  | zero =>
      have le := h.le_length
      obtain rfl : start = line.length := by omega
      exact encodeLoop_stop 0 buffer h
  | succ fuel ih =>
      rcases Nat.eq_or_lt_of_le h.le_length with rfl | more
      · exact encodeLoop_stop (fuel + 1) buffer h
      · obtain ⟨first, state', stop, run, next, forward, step⟩ :=
          nextCmd_advances buffer h more small above
        obtain ⟨rest, loop, tail⟩ := ih (buffer.insert (encode first)) next (by omega)
        have notEmpty : ¬ state.Empty := by
          rw [h.empty_iff]
          omega
        refine ⟨first ++ rest, ?_, step.append tail⟩
        intro videoSize
        rw [encodeLoop, if_neg notEmpty]
        simp only [run, loop]
        simp [Nat.add_assoc]

/-- The bytes that the compressor writes for a line under the row above it. -/
def compressLine (prevLine line : List UInt8) : List UInt8 :=
  match encodeLoop line.length {} line (ScoaState.ofLines line prevLine) 0 with
  | some (buffer, _) => buffer.bytes
  | none => []

/-- The commands for a line, executed under the row above it, give the line. -/
theorem compressLine_rowRun (nonempty : 0 < line.length) (small : line.length < 2 ^ 32)
    (above : prevLine = [] ∨ prevLine.length = line.length)
    : ∃ cmds, compressLine prevLine line = encode cmds ∧ RowRun prevLine [] cmds line := by
  obtain ⟨cmds, loop, run⟩ := encodeLoop_advances line.length {}
    (ScoaState.ofLines_at nonempty) (by omega) small above
  refine ⟨cmds, ?_, run⟩
  simp [compressLine, loop, Buffer.insert]

/-- The loop writes the compressed line, counts its bytes, and fails no assertion. -/
theorem encodeLoop_line (nonempty : 0 < line.length) (small : line.length < 2 ^ 32)
    (above : prevLine = [] ∨ prevLine.length = line.length) (videoSize : Nat)
    : encodeLoop line.length {} line (ScoaState.ofLines line prevLine) videoSize
      = some ({ bytes := compressLine prevLine line },
          videoSize + (compressLine prevLine line).length) := by
  obtain ⟨cmds, loop, _⟩ := encodeLoop_advances line.length {}
    (ScoaState.ofLines_at nonempty) (by omega) small above
  simp [compressLine, loop, Buffer.insert]

/-- A line takes at least one byte. -/
theorem compressLine_ne_nil (nonempty : 0 < line.length) (small : line.length < 2 ^ 32)
    (above : prevLine = [] ∨ prevLine.length = line.length)
    : 0 < (compressLine prevLine line).length := by
  obtain ⟨cmds, same, run⟩ := compressLine_rowRun nonempty small above
  cases run with
  | nil => simp at nonempty
  | @cons _ c cmds _ valid fits tail =>
      rw [same, encode_cons, List.length_append]
      have pos := Command.length_bytes_pos c
      omega

-----------------------------------------------------------------------------------------
-- The assertions of the encoder
-----------------------------------------------------------------------------------------

/-- The output and the state at the condition of the loop over a line, once for each
iteration.
-/
inductive Iterates (line prevLine : List UInt8) : Buffer → ScoaState → Prop
  | first : Iterates line prevLine {} (.ofLines line prevLine)
  | next {buffer state} (before : Iterates line prevLine buffer state)
    (more : ¬ state.Empty)
    : Iterates line prevLine (nextCmd buffer line state).1 (nextCmd buffer line state).2.1

/-- A copy that does not end the line is followed by a repetition or by raw bytes. -/
def CopyFollowed (line : List UInt8) (state : ScoaState) : Prop :=
  state.peek.type = .copy → state.peek.index + state.peek.count ≠ line.length →
    let (_, state) := state.get
    ¬ state.Empty
      ∧ ((state.peek.type = .repeats ∧ 2 ≤ state.peek.count) ∨ state.peek.type = .raw)

/-- A copy is followed by what its command is written with. -/
theorem ScoaState.At.copyFollowed {state : ScoaState} {start : Nat}
    (h : state.At line prevLine start) (nonempty : ¬ state.Empty)
    : CopyFollowed line state := by
  obtain ⟨middle, run, starts, _, next, apart⟩ := h.get nonempty
  intro copy inside
  rw [peek, starts] at inside
  have more : ¬ middle.Empty := fun empty => inside (next.empty_iff.mp empty)
  simp only [run]
  refine ⟨more, ?_⟩
  obtain ⟨_, _, _, covers, _⟩ := next.get more
  cases type : middle.curr.type with
  | copy => exact absurd type (apart copy more)
  | repeats => exact Or.inl ⟨type, (covers.repeated type).1⟩
  | raw => exact Or.inr type

/-- No assertion has failed in any iteration, by induction on the iterations. -/
theorem Iterates.asserted {buffer : Buffer} {state : ScoaState}
    (h : Iterates line prevLine buffer state) (nonempty : 0 < line.length)
    (small : line.length < 2 ^ 32) (above : prevLine = [] ∨ prevLine.length = line.length)
    : buffer.asserted = true ∧ ∃ start, state.At line prevLine start := by
  induction h with
  | first => exact ⟨rfl, 0, ScoaState.ofLines_at nonempty⟩
  | @next buffer state before more ih =>
      obtain ⟨asserted, start, at'⟩ := ih
      have inside : start < line.length := by
        have le := at'.le_length
        have notEnd := mt at'.empty_iff.mpr more
        omega
      obtain ⟨cmds, state', stop, run, next, _, _⟩ :=
        nextCmd_advances buffer at' inside small above
      rw [run]
      exact ⟨asserted, stop, next⟩

/-- While a line is encoded no assertion fails: not in `nextCmd`, in the helpers that it
calls or in the functions of the commands. The loop ends, and a copy that does not end the
line is always followed by the segment that its command needs.
-/
theorem assertionsHold (nonempty : line ≠ []) (small : line.length < 2 ^ 32)
    (above : prevLine = [] ∨ prevLine.length = line.length)
    : (∃ buffer videoSize,
        encodeLoop line.length {} line (.ofLines line prevLine) 0 = some (buffer, videoSize)
        ∧ buffer.asserted = true)
      ∧ ∀ buffer state, Iterates line prevLine buffer state →
          buffer.asserted = true
          ∧ state.PeekAsserts
          ∧ (¬ state.Empty → CopyFollowed line state) := by
  have pos : 0 < line.length := List.length_pos_iff.mpr nonempty
  constructor
  · exact ⟨_, _, encodeLoop_line pos small above 0, rfl⟩
  · intro buffer state iterates
    obtain ⟨asserted, start, at'⟩ := iterates.asserted pos small above
    exact ⟨asserted, at'.peekAsserts, at'.copyFollowed⟩

/-- A line that begins with a copy of the line above. -/
theorem assertionsHold_copy
    : (∃ buffer videoSize,
        encodeLoop 4 {} [7, 8, 1, 1] (.ofLines [7, 8, 1, 1] [7, 8, 9, 9]) 0
          = some (buffer, videoSize)
        ∧ buffer.asserted = true)
      ∧ ∀ buffer state, Iterates [7, 8, 1, 1] [7, 8, 9, 9] buffer state →
          buffer.asserted = true
          ∧ state.PeekAsserts
          ∧ (¬ state.Empty → CopyFollowed [7, 8, 1, 1] state) :=
  @assertionsHold [7, 8, 1, 1] [7, 8, 9, 9] (by decide) (by decide) (Or.inr rfl)

end Capt.Compression
