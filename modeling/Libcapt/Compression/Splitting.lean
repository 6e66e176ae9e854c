import Libcapt.Compression.Command
import Libcapt.Compression.SplitLoops

/-! The helpers that split long runs write commands that together mean the whole run,
return the number of bytes written, and fail no assertion when their own precondition
holds.
-/

namespace Capt.Compression

-----------------------------------------------------------------------------------------
-- What a list of commands means together
-----------------------------------------------------------------------------------------

/-- On every row that has room for the copy, the commands copy `copyCount` bytes from the
row above and then append `data`.
-/
def Splits (cmds : List Command) (copyCount : Nat) (data : List UInt8) : Prop :=
  ∀ prev row : List UInt8, copyCount = 0 ∨ row.length + copyCount ≤ prev.length →
    RowRun prev row cmds (row ++ ((prev.drop row.length).take copyCount ++ data))

/-- No commands copy nothing and write nothing. -/
theorem Splits.nil : Splits [] 0 [] := by
  intro prev row _
  have run : RowRun prev row [] row := .nil row
  simpa using run

/-- One command other than EOL splits into itself. -/
theorem Splits.single {c : Command} (valid : c.Valid)
    (plain : c ≠ .eol ∧ c ≠ .eop ∧ c ≠ .nop)
    : Splits [c] c.copyCount c.payload := by
  intro prev row room
  have fits : c.Fits prev row := by
    cases c <;> simp_all [Command.Fits]
  have same : c.produced prev row
      = (prev.drop row.length).take c.copyCount ++ c.payload := by
    cases c <;> simp_all [Command.produced]
  rw [← same]
  exact RowRun.single valid fits

/-- Two copies in a row are one longer copy, and data may follow the second. -/
theorem Splits.append_copy {left right : List Command} {first second : Nat}
    {data : List UInt8} (hl : Splits left first []) (hr : Splits right second data)
    : Splits (left ++ right) (first + second) data := by
  intro prev row room
  have leftRun := hl prev row (by omega)
  by_cases none : first = 0
  · subst none
    simp only [List.take_zero, List.append_nil] at leftRun
    rw [Nat.zero_add] at room ⊢
    exact leftRun.append (hr prev row room)
  · have copied : ((prev.drop row.length).take first).length = first := by
      rw [List.length_take, List.length_drop]
      omega
    have rightRun := hr prev (row ++ (prev.drop row.length).take first) (by
      rw [List.length_append, copied]
      omega)
    rw [List.append_nil] at leftRun
    have whole : row ++ ((prev.drop row.length).take (first + second) ++ data)
        = row ++ (prev.drop row.length).take first
          ++ ((prev.drop (row ++ (prev.drop row.length).take first).length).take second
            ++ data) := by
      rw [List.length_append, copied, List.take_add, List.drop_drop]
      simp only [List.append_assoc]
    rw [whole]
    exact leftRun.append rightRun

/-- Data may be followed by more data. -/
theorem Splits.append_data {left right : List Command} {copyCount : Nat}
    {first second : List UInt8} (hl : Splits left copyCount first)
    (hr : Splits right 0 second)
    : Splits (left ++ right) copyCount (first ++ second) := by
  intro prev row room
  have leftRun := hl prev row room
  have rightRun :=
    hr prev (row ++ ((prev.drop row.length).take copyCount ++ first)) (Or.inl rfl)
  simp only [List.take_zero, List.nil_append] at rightRun
  have run := leftRun.append rightRun
  simpa only [List.append_assoc] using run

/-- A helper given `buffer` appended commands that mean the copy and then the data, and
returned their size.
-/
def Emitted (buffer : Buffer) (result : Buffer × Nat) (copyCount : Nat)
    (data : List UInt8)
    : Prop :=
  ∃ cmds, result = (buffer.insert (encode cmds), (encode cmds).length)
    ∧ Splits cmds copyCount data

/-- Inserting nothing changes nothing. -/
@[simp]
theorem Buffer.insert_nil (buffer : Buffer) : buffer.insert [] = buffer := by
  simp [Buffer.insert]

/-- Two insertions are one of both parts. -/
@[simp]
theorem Buffer.insert_insert (buffer : Buffer) (left right : List UInt8)
    : (buffer.insert left).insert right = buffer.insert (left ++ right) := by
  simp [Buffer.insert]

/-- An assertion that holds leaves no trace. -/
@[simp]
theorem Buffer.assert_of {buffer : Buffer} {condition : Prop} [Decidable condition]
    (h : condition)
    : buffer.assert condition = buffer := by
  simp [Buffer.assert, h]

/-- One valid command that is not a mark emits its own copy and payload. -/
theorem Emitted.command {c : Command} (valid : c.Valid)
    (plain : c ≠ .eol ∧ c ≠ .eop ∧ c ≠ .nop) (buffer : Buffer)
    : Emitted buffer (c.emit buffer) c.copyCount c.payload :=
  ⟨[c], by simp [Command.emit_eq valid], Splits.single valid plain⟩

/-- A helper that writes data continues one that wrote a copy and data. -/
theorem Emitted.append_data {buffer middle : Buffer} {result : Buffer × Nat}
    {size copyCount : Nat} {first second : List UInt8}
    (hl : Emitted buffer (middle, size) copyCount first)
    (hr : Emitted middle result 0 second)
    : Emitted buffer (result.1, size + result.2) copyCount (first ++ second) := by
  obtain ⟨left, same, meaning⟩ := hl
  obtain ⟨right, rfl, next⟩ := hr
  obtain ⟨rfl, rfl⟩ := Prod.mk.inj same
  exact ⟨left ++ right, by simp, meaning.append_data next⟩

/-- A helper that writes a copy and data continues one that wrote only a copy. -/
theorem Emitted.append_copy {buffer middle : Buffer} {result : Buffer × Nat}
    {size first second : Nat} {data : List UInt8}
    (hl : Emitted buffer (middle, size) first [])
    (hr : Emitted middle result second data)
    : Emitted buffer (result.1, size + result.2) (first + second) data := by
  obtain ⟨left, same, meaning⟩ := hl
  obtain ⟨right, rfl, next⟩ := hr
  obtain ⟨rfl, rfl⟩ := Prod.mk.inj same
  exact ⟨left ++ right, by simp, meaning.append_copy next⟩

/-- Emitting nothing. -/
theorem Emitted.nothing (buffer : Buffer) : Emitted buffer (buffer, 0) 0 [] :=
  ⟨[], by simp, Splits.nil⟩

-----------------------------------------------------------------------------------------
-- The loops
-----------------------------------------------------------------------------------------

/-- Since `buffer` the loop of long copies has written all but the count that is left. -/
def CopiesWritten (buffer : Buffer) (copyCount vsize : Nat) (s : Buffer × Nat × Nat)
    : Prop :=
  ∃ size, s.2.2 = vsize + size
    ∧ s.2.1 ≤ copyCount
    ∧ s.2.1 % 8 = copyCount % 8
    ∧ Emitted buffer (s.1, size) (copyCount - s.2.1) []

/-- A turn takes a multiple of 8 off the count. -/
theorem CopiesWritten.turn {buffer : Buffer} {copyCount vsize : Nat}
    {s : Buffer × Nat × Nat} (long : s.2.1 ≥ 8) (h : CopiesWritten buffer copyCount vsize s)
    : CopiesWritten buffer copyCount vsize (copyLongTurn s) := by
  obtain ⟨middle, rest, _⟩ := s
  obtain ⟨size, rfl, le, same, emitted⟩ := h
  dsimp only at long le same emitted
  let copy := min rest 248 - min rest 248 % 8
  have valid : (Command.copyLong copy).Valid := by
    simp only [Command.Valid, copy]
    omega
  have more : copyCount - (rest - copy) = copyCount - rest + copy := by
    simp only [copy]
    omega
  have kept : (rest - copy) % 8 = rest % 8 := by
    simp only [copy]
    omega
  have written : Emitted buffer _ (copyCount - rest + copy) [] :=
    emitted.append_copy (Emitted.command valid (by simp) middle)
  rw [← more] at written
  exact ⟨size + (ScoaCmd.copyLong middle copy).2, Nat.add_assoc ..,
    Nat.le_trans (Nat.sub_le ..) le, kept.trans same, written⟩

/-- The loop of long copies writes all but the count modulo 8. -/
theorem copyLongLoop_emitted (fuel : Nat) (buffer : Buffer) {copyCount : Nat}
    (vsize : Nat) (enough : copyCount ≤ fuel)
    : ∃ final size,
        copyLongLoop fuel buffer copyCount vsize = (final, copyCount % 8, vsize + size)
        ∧ Emitted buffer (final, size) (copyCount - copyCount % 8) [] := by
  have start : CopiesWritten buffer copyCount vsize (buffer, copyCount, vsize) := by
    refine ⟨0, rfl, Nat.le_refl _, rfl, ?_⟩
    rw [Nat.sub_self]
    exact .nothing buffer
  obtain ⟨⟨size, total, _, same, emitted⟩, exit⟩ :=
    copyLongLoop_isBounded.invariant _ start enough fun _ => CopiesWritten.turn
  have rest : (copyLongLoop fuel buffer copyCount vsize).2.1 = copyCount % 8 :=
    (Nat.mod_eq_of_lt (Nat.lt_of_not_le exit)).symm.trans same
  refine ⟨_, size, Prod.ext rfl (Prod.ext rest total), ?_⟩
  rw [← rest]
  exact emitted

/-- What the loops that copy at most once leave behind: either they wrote nothing, or the
copy is written and `written` after it.
-/
structure LoopResult (buffer final : Buffer) (size copyCount copyLeft : Nat)
    (written : List UInt8)
    : Prop where
  emitted : Emitted buffer (final, size) (copyCount - copyLeft) written
  copied : (written = [] ∧ copyLeft = copyCount) ∨ copyLeft = 0

/-- A loop that is not entered. -/
theorem LoopResult.nothing (buffer : Buffer) (copyCount : Nat)
    : LoopResult buffer buffer 0 copyCount copyCount [] :=
  ⟨by rw [Nat.sub_self]; exact .nothing buffer, Or.inl ⟨rfl, rfl⟩⟩

/-- A loop never leaves more to copy than there was. -/
theorem LoopResult.left_le {buffer final : Buffer} {size copyCount copyLeft : Nat}
    {written : List UInt8} (h : LoopResult buffer final size copyCount copyLeft written)
    : copyLeft ≤ copyCount := by
  rcases h.copied with ⟨_, left⟩ | left
  · exact Nat.le_of_eq left
  · rw [left]
    exact Nat.zero_le copyCount

/-- Commands that copy what is left and append more data complete the loop. -/
theorem LoopResult.finish {buffer final : Buffer} {size copyCount copyLeft : Nat}
    {written data : List UInt8} {result : Buffer × Nat}
    (h : LoopResult buffer final size copyCount copyLeft written)
    (last : Emitted final result copyLeft data)
    : Emitted buffer (result.1, size + result.2) copyCount (written ++ data) := by
  rcases h.copied with ⟨rfl, rfl⟩ | rfl
  · have emitted := h.emitted.append_copy last
    rw [Nat.sub_self, Nat.zero_add] at emitted
    exact emitted
  · exact h.emitted.append_data last

/-- A turn copies what is left and appends more data; the loop goes on without a copy. -/
theorem LoopResult.snoc {buffer middle : Buffer} {size copyCount copyLeft : Nat}
    {written data : List UInt8} {result : Buffer × Nat}
    (h : LoopResult buffer middle size copyCount copyLeft written)
    (step : Emitted middle result copyLeft data)
    : LoopResult buffer result.1 (size + result.2) copyCount 0 (written ++ data) :=
  ⟨h.finish step, Or.inr rfl⟩

/-- Since `buffer` the loop of long raw commands has written all but the data that is
left, behind the copy if it has written any.
-/
def RawWritten (buffer : Buffer) (copyCount : Nat) (rawData : List UInt8) (vsize : Nat)
    (s : Buffer × Nat × List UInt8 × Nat)
    : Prop :=
  ∃ size written, s.2.2.2 = vsize + size
    ∧ written ++ s.2.2.1 = rawData
    ∧ LoopResult buffer s.1 size copyCount s.2.1 written

/-- A turn of the loop over long raw stretches keeps what is written so far. -/
theorem RawWritten.turn {buffer : Buffer} {copyCount vsize : Nat} {rawData : List UInt8}
    {s : Buffer × Nat × List UInt8 × Nat} (short : copyCount ≤ 7)
    (long : s.2.2.1.length ≥ 8) (h : RawWritten buffer copyCount rawData vsize s)
    : RawWritten buffer copyCount rawData vsize (copyThenRawLongTurn s) := by
  obtain ⟨middle, copyLeft, rest, _⟩ := s
  obtain ⟨size, written, rfl, split, result⟩ := h
  dsimp only at long split result
  let count := min rest.length 255
  have left := result.left_le
  have valid : (Command.copyThenRawLong copyLeft (rest.take count)).Valid := by
    simp only [Command.Valid, List.length_take, count]
    omega
  have next : written ++ rest.take count ++ rest.drop count = rawData := by
    rw [← split, List.append_assoc, List.take_append_drop]
  exact ⟨size + (ScoaCmd.copyThenRawLong middle copyLeft (rest.take count)).2,
    written ++ rest.take count, Nat.add_assoc .., next,
    result.snoc (Emitted.command valid (by simp) middle)⟩

/-- The loop of long raw commands leaves at most 7 bytes. -/
theorem copyThenRawLongLoop_emitted (fuel : Nat) (buffer : Buffer) {copyCount : Nat}
    {rawData : List UInt8} (vsize : Nat) (short : copyCount ≤ 7)
    (enough : rawData.length ≤ fuel)
    : ∃ final size copyLeft written rest,
        copyThenRawLongLoop fuel buffer copyCount rawData vsize
          = (final, copyLeft, rest, vsize + size)
        ∧ written ++ rest = rawData
        ∧ rest.length ≤ 7
        ∧ LoopResult buffer final size copyCount copyLeft written := by
  have start : RawWritten buffer copyCount rawData vsize (buffer, copyCount, rawData, vsize) :=
    ⟨0, [], rfl, rfl, .nothing ..⟩
  obtain ⟨⟨size, written, total, split, result⟩, exit⟩ :=
    copyThenRawLongLoop_isBounded.invariant _ start enough fun _ => RawWritten.turn short
  exact ⟨_, size, _, written, _, Prod.ext rfl (Prod.ext rfl (Prod.ext rfl total)), split,
    Nat.le_of_not_lt exit, result⟩

/-- The count that the loops of long repetitions leave: they take 255 at once as long as
they can, and then the rest, unless it is too short for a long command.
-/
def repeatsLeft (repeatCount : Nat) : Nat :=
  if repeatCount % 255 ≤ 7 then repeatCount % 255 else 0

/-- Less than eight repeats are left behind the loop. -/
theorem repeatsLeft_le (repeatCount : Nat) : repeatsLeft repeatCount ≤ 7 := by
  unfold repeatsLeft
  split
  · assumption
  · exact Nat.zero_le 7

/-- Few repeats do not enter the loop. -/
theorem repeatsLeft_of_le {repeatCount : Nat} (short : repeatCount ≤ 7)
    : repeatsLeft repeatCount = repeatCount := by
  have same : repeatCount % 255 = repeatCount := Nat.mod_eq_of_lt (by omega)
  rw [repeatsLeft, same, if_pos short]

/-- A turn of the loop does not change how many repeats will be left. -/
theorem repeatsLeft_sub {repeatCount : Nat} (long : repeatCount ≥ 8)
    : repeatsLeft (repeatCount - min repeatCount 255) = repeatsLeft repeatCount := by
  rcases Nat.lt_or_ge repeatCount 255 with below | above
  · have same : repeatCount % 255 = repeatCount := Nat.mod_eq_of_lt below
    rw [Nat.min_eq_left (Nat.le_of_lt below), Nat.sub_self, repeatsLeft, repeatsLeft, same,
      if_neg (Nat.not_le_of_lt long)]
    rfl
  · rw [Nat.min_eq_right above, repeatsLeft, repeatsLeft, ← Nat.mod_eq_sub_mod above]

/-- Since `buffer` the loop of long repetitions has written all but those that are left,
behind the copy if it has written any.
-/
def RepeatsWritten (buffer : Buffer) (copyCount repeatCount : Nat) (repeatByte : UInt8)
    (vsize : Nat) (s : Buffer × Nat × Nat × Nat)
    : Prop :=
  ∃ size written, s.2.2.2 = vsize + size
    ∧ written + s.2.2.1 = repeatCount
    ∧ repeatsLeft s.2.2.1 = repeatsLeft repeatCount
    ∧ LoopResult buffer s.1 size copyCount s.2.1 (List.replicate written repeatByte)

/-- A turn of the loop over long repeats keeps what is written so far. -/
theorem RepeatsWritten.turn {buffer : Buffer} {copyCount repeatCount vsize : Nat}
    {repeatByte : UInt8} {s : Buffer × Nat × Nat × Nat} (short : copyCount ≤ 7)
    (long : s.2.2.1 ≥ 8) (h : RepeatsWritten buffer copyCount repeatCount repeatByte vsize s)
    : RepeatsWritten buffer copyCount repeatCount repeatByte vsize
        (copyThenRepeatLongTurn repeatByte s) := by
  obtain ⟨middle, copyLeft, rest, _⟩ := s
  obtain ⟨size, written, rfl, split, same, result⟩ := h
  dsimp only at long split same result
  let rep := min rest 255
  have left := result.left_le
  have valid : (Command.copyThenRepeatLong copyLeft rep repeatByte).Valid := by
    simp only [Command.Valid, rep]
    omega
  have next : written + rep + (rest - rep) = repeatCount := by
    simp only [rep]
    omega
  refine ⟨size + (ScoaCmd.copyThenRepeatLong middle copyLeft rep repeatByte).2,
    written + rep, Nat.add_assoc .., next, (repeatsLeft_sub long).trans same, ?_⟩
  rw [List.replicate_add]
  exact result.snoc (Emitted.command valid (by simp) middle)

/-- The loop of long repetitions leaves a count of at most 7. -/
theorem copyThenRepeatLongLoop_emitted (fuel : Nat) (buffer : Buffer)
    {copyCount repeatCount : Nat} (repeatByte : UInt8) (vsize : Nat)
    (short : copyCount ≤ 7) (enough : repeatCount ≤ fuel)
    : ∃ final size copyLeft written rest,
        copyThenRepeatLongLoop fuel buffer copyCount repeatCount repeatByte vsize
          = (final, copyLeft, rest, vsize + size)
        ∧ written + rest = repeatCount
        ∧ rest = repeatsLeft repeatCount
        ∧ LoopResult buffer final size copyCount copyLeft
            (List.replicate written repeatByte) := by
  have start : RepeatsWritten buffer copyCount repeatCount repeatByte vsize
      (buffer, copyCount, repeatCount, vsize) :=
    ⟨0, 0, rfl, Nat.zero_add _, rfl, .nothing ..⟩
  obtain ⟨⟨size, written, total, split, same, result⟩, exit⟩ :=
    (copyThenRepeatLongLoop_isBounded repeatByte).invariant _ start enough
      fun _ => RepeatsWritten.turn short
  exact ⟨_, size, _, written, _, Prod.ext rfl (Prod.ext rfl (Prod.ext rfl total)), split,
    (repeatsLeft_of_le (Nat.le_of_not_lt exit)).symm.trans same, result⟩

/-- Since `buffer` the loop of long repetitions of the fixed byte has written all but those
that are left.
-/
def FixedWritten (buffer : Buffer) (repeatCount vsize : Nat) (s : Buffer × Nat × Nat)
    : Prop :=
  ∃ size written, s.2.2 = vsize + size
    ∧ written + s.2.1 = repeatCount
    ∧ Emitted buffer (s.1, size) 0 (List.replicate written ScoaCmd.repeatXByte)

/-- A turn of the loop over the fixed byte keeps what is written so far. -/
theorem FixedWritten.turn {buffer : Buffer} {repeatCount vsize : Nat}
    {s : Buffer × Nat × Nat} (long : s.2.1 ≥ 8) (h : FixedWritten buffer repeatCount vsize s)
    : FixedWritten buffer repeatCount vsize (repeatXLongTurn s) := by
  obtain ⟨middle, rest, _⟩ := s
  obtain ⟨size, written, rfl, split, emitted⟩ := h
  dsimp only at long split emitted
  let rep := min rest 255
  have valid : (Command.repeatXLong rep).Valid := by
    simp only [Command.Valid, rep]
    omega
  have next : written + rep + (rest - rep) = repeatCount := by
    simp only [rep]
    omega
  refine ⟨size + (ScoaCmd.repeatXLong middle rep).2, written + rep, Nat.add_assoc .., next,
    ?_⟩
  rw [List.replicate_add]
  exact emitted.append_data (Emitted.command valid (by simp) middle)

/-- The loop of long repetitions of the fixed byte leaves a count of at most 7. -/
theorem repeatXLongLoop_emitted (fuel : Nat) (buffer : Buffer) {repeatCount : Nat}
    (vsize : Nat) (enough : repeatCount ≤ fuel)
    : ∃ final size written rest,
        repeatXLongLoop fuel buffer repeatCount vsize = (final, rest, vsize + size)
        ∧ written + rest = repeatCount
        ∧ rest ≤ 7
        ∧ Emitted buffer (final, size) 0 (List.replicate written ScoaCmd.repeatXByte) := by
  have start : FixedWritten buffer repeatCount vsize (buffer, repeatCount, vsize) :=
    ⟨0, 0, rfl, Nat.zero_add _, .nothing buffer⟩
  obtain ⟨⟨size, written, total, split, emitted⟩, exit⟩ :=
    repeatXLongLoop_isBounded.invariant _ start enough fun _ => FixedWritten.turn
  exact ⟨_, size, written, _, Prod.ext rfl (Prod.ext rfl total), split,
    Nat.le_of_not_lt exit, emitted⟩

-----------------------------------------------------------------------------------------
-- The helpers
-----------------------------------------------------------------------------------------

/-- The short copy as it is written. -/
theorem Emitted.copyShort {copyCount : Nat} (pos : 1 ≤ copyCount) (short : copyCount ≤ 7)
    (buffer : Buffer)
    : Emitted buffer (ScoaCmd.copyShort buffer copyCount) copyCount [] :=
  Emitted.command (c := .copyShort copyCount) ⟨pos, short⟩ (by simp) buffer

/-- The short copy with raw bytes as it is written. -/
theorem Emitted.copyThenRaw {copyCount : Nat} {rawData : List UInt8}
    (short : copyCount ≤ 7) (pos : 1 ≤ rawData.length) (small : rawData.length ≤ 7)
    (buffer : Buffer)
    : Emitted buffer (ScoaCmd.copyThenRaw buffer copyCount rawData) copyCount rawData :=
  Emitted.command (c := .copyThenRaw copyCount rawData) ⟨short, pos, small⟩ (by simp) buffer

/-- `cmd_Copy` emits the copy and nothing else. -/
theorem cmdCopy_emitted (buffer : Buffer) {copyCount : Nat} (nonempty : copyCount ≠ 0)
    : Emitted buffer (cmdCopy buffer copyCount) copyCount [] := by
  obtain ⟨final, size, run, emitted⟩ :=
    copyLongLoop_emitted copyCount buffer 0 (Nat.le_refl copyCount)
  rw [Nat.zero_add] at run
  rw [cmdCopy, Buffer.assert_of nonempty]
  simp only [run]
  by_cases rest : copyCount % 8 = 0
  · rw [if_neg (by simp [rest])]
    simpa [rest] using emitted
  · rw [if_pos rest]
    have last := Emitted.copyShort (Nat.pos_of_ne_zero rest) (by omega) final
    have whole := emitted.append_copy last
    rw [Nat.sub_add_cancel (Nat.mod_le ..)] at whole
    exact whole

/-- The last raw bytes, less than eight of them. -/
theorem cmdCopyThenRawShort_emitted (buffer : Buffer) {copyCount : Nat}
    {rawData : List UInt8} (short : copyCount ≤ 7) (nonempty : rawData.length ≠ 0)
    : Emitted buffer (cmdCopyThenRawShort buffer copyCount rawData) copyCount rawData := by
  obtain ⟨final, size, copyLeft, written, rest, run, split, small, result⟩ :=
    copyThenRawLongLoop_emitted rawData.length buffer 0 short (Nat.le_refl _)
  rw [Nat.zero_add] at run
  rw [cmdCopyThenRawShort, Buffer.assert_of nonempty]
  simp only [run]
  by_cases more : rest.length = 0
  · -- everything is written, so the copy is written too
    have empty := List.length_eq_zero_iff.mp more
    subst empty
    rw [List.append_nil] at split
    subst split
    rcases result.copied with ⟨rfl, _⟩ | rfl
    · simp at nonempty
    · rw [if_neg (by simp)]
      simpa using result.emitted
  · rw [if_pos (Or.inr more), ← split]
    have left : copyLeft ≤ 7 := Nat.le_trans result.left_le short
    exact result.finish (Emitted.copyThenRaw left (Nat.pos_of_ne_zero more) small final)

/-- After the loop of long copies a helper continues with what is left to copy. -/
theorem copyLongLoop_then (buffer : Buffer) {copyCount : Nat} {data : List UInt8}
    (next : Buffer → Nat → Buffer × Nat)
    (h : ∀ buffer, Emitted buffer (next buffer (copyCount % 8)) (copyCount % 8) data)
    : Emitted buffer
        (let (buffer, copyCount, vsize) := copyLongLoop copyCount buffer copyCount 0
          let (buffer, size) := next buffer copyCount
          (buffer, vsize + size)) copyCount data := by
  obtain ⟨final, size, run, emitted⟩ :=
    copyLongLoop_emitted copyCount buffer 0 (Nat.le_refl copyCount)
  rw [Nat.zero_add] at run
  simp only [run]
  have whole := emitted.append_copy (h final)
  rw [Nat.sub_add_cancel (Nat.mod_le ..)] at whole
  exact whole

/-- `cmd_CopyThenRaw`: the copy by long commands, the loop, then the last raw bytes. -/
theorem cmdCopyThenRaw_emitted (buffer : Buffer) (copyCount : Nat) {rawData : List UInt8}
    (nonempty : rawData.length ≠ 0)
    : Emitted buffer (cmdCopyThenRaw buffer copyCount rawData) copyCount rawData := by
  unfold cmdCopyThenRaw
  split
  · exact cmdCopyThenRawShort_emitted buffer ‹_› nonempty
  · rw [Buffer.assert_of nonempty]
    exact copyLongLoop_then buffer (cmdCopyThenRawShort · · rawData)
      fun buffer => cmdCopyThenRawShort_emitted buffer (by omega) nonempty

/-- `cmd_WriteRaw`, which is `cmd_CopyThenRaw` with nothing to copy. -/
theorem cmdWriteRaw_emitted (buffer : Buffer) {rawData : List UInt8}
    (nonempty : rawData.length ≠ 0)
    : Emitted buffer (cmdWriteRaw buffer rawData) 0 rawData := by
  rw [cmdWriteRaw, Buffer.assert_of nonempty]
  split
  · exact Emitted.copyThenRaw (Nat.zero_le 7) (Nat.pos_of_ne_zero nonempty) ‹_› buffer
  · -- the long branch writes what `cmdCopyThenRawShort` writes without a copy
    have emitted := cmdCopyThenRawShort_emitted buffer (Nat.zero_le 7) nonempty
    obtain ⟨final, size, copyLeft, written, rest, run, split, small, result⟩ :=
      copyThenRawLongLoop_emitted rawData.length buffer 0 (Nat.zero_le 7) (Nat.le_refl _)
    have none : copyLeft = 0 := Nat.le_zero.mp result.left_le
    rw [cmdCopyThenRawShort, Buffer.assert_of nonempty] at emitted
    simpa only [run, none, ne_eq, not_true_eq_false, false_or] using emitted

/-- The last repeats, less than eight of them, with what is left to copy. -/
theorem cmdCopyThenRepeatShort_emitted (buffer : Buffer) {copyCount repeatCount : Nat}
    (repeatByte : UInt8) (short : copyCount ≤ 7)
    (nonempty : copyCount ≠ 0 ∨ repeatCount ≠ 0)
    : Emitted buffer (cmdCopyThenRepeatShort buffer copyCount repeatCount repeatByte)
        copyCount (List.replicate repeatCount repeatByte) := by
  obtain ⟨final, size, copyLeft, written, rest, run, split, repeats, result⟩ :=
    copyThenRepeatLongLoop_emitted repeatCount buffer repeatByte 0 short (Nat.le_refl _)
  have small : rest ≤ 7 := repeats ▸ repeatsLeft_le repeatCount
  have left : copyLeft ≤ 7 := Nat.le_trans result.left_le short
  rw [Nat.zero_add] at run
  rw [cmdCopyThenRepeatShort, Buffer.assert_of nonempty]
  simp only [run]
  rw [← split, List.replicate_add]
  split
  · exact result.finish
      (Emitted.command (c := .copyThenRepeat copyLeft rest repeatByte) ⟨left, ‹_›, small⟩
        (by simp) final)
  split
  · rename_i one
    subst one
    exact result.finish (Emitted.copyThenRaw left (by simp) (by simp) final)
  have none : rest = 0 := by omega
  subst none
  split
  · exact result.finish (Emitted.copyShort (Nat.pos_of_ne_zero ‹_›) left final)
  · obtain rfl : copyLeft = 0 := by omega
    have emitted := result.finish (.nothing final)
    rwa [Nat.add_zero] at emitted

/-- `cmd_CopyThenRepeat`: the copy by long commands, the loop, then the last repeats. -/
theorem cmdCopyThenRepeat_emitted (buffer : Buffer) (copyCount : Nat) {repeatCount : Nat}
    (repeatByte : UInt8) (nonempty : copyCount % 8 ≠ 0 ∨ repeatCount ≠ 0)
    : Emitted buffer (cmdCopyThenRepeat buffer copyCount repeatCount repeatByte)
        copyCount (List.replicate repeatCount repeatByte) := by
  have some : copyCount ≠ 0 ∨ repeatCount ≠ 0 := by
    rcases nonempty with copy | repeats
    · exact Or.inl fun zero => copy (by rw [zero])
    · exact Or.inr repeats
  unfold cmdCopyThenRepeat
  split
  · exact cmdCopyThenRepeatShort_emitted buffer repeatByte ‹_› some
  · rw [Buffer.assert_of some]
    exact copyLongLoop_then buffer (cmdCopyThenRepeatShort · · repeatCount repeatByte)
      fun buffer => cmdCopyThenRepeatShort_emitted buffer repeatByte (by omega) nonempty

/-- `cmd_RepeatX` emits the fixed byte. -/
theorem cmdRepeatX_emitted (buffer : Buffer) {repeatCount : Nat}
    (nonempty : repeatCount ≠ 0)
    : Emitted buffer (cmdRepeatX buffer repeatCount) 0
        (List.replicate repeatCount ScoaCmd.repeatXByte) := by
  obtain ⟨final, size, written, rest, run, split, small, emitted⟩ :=
    repeatXLongLoop_emitted repeatCount buffer 0 (Nat.le_refl _)
  rw [Nat.zero_add] at run
  rw [cmdRepeatX, Buffer.assert_of nonempty]
  simp only [run]
  rw [← split, List.replicate_add]
  split
  · exact emitted.append_data
      (Emitted.command (c := .repeatX rest) ⟨Nat.pos_of_ne_zero ‹_›, small⟩ (by simp) final)
  · obtain rfl : rest = 0 := by omega
    simpa using emitted

/-- `cmd_Repeat` emits the byte, by `RepeatX` where it is the fixed one. -/
theorem cmdRepeat_emitted (buffer : Buffer) {repeatCount : Nat} (repeatByte : UInt8)
    (nonempty : repeatCount ≠ 0)
    : Emitted buffer (cmdRepeat buffer repeatCount repeatByte) 0
        (List.replicate repeatCount repeatByte) := by
  rw [cmdRepeat, Buffer.assert_of nonempty]
  split
  · rename_i same
    rw [same]
    exact cmdRepeatX_emitted buffer nonempty
  · exact cmdCopyThenRepeat_emitted buffer 0 repeatByte (Or.inr nonempty)

/-- The raw data that a repetition leaves over is written by the loop of long raw commands
and one short one.
-/
theorem copyThenRawLongLoop_then {start buffer : Buffer} {rawData : List UInt8}
    {vsize copyCount : Nat} {data : List UInt8}
    (before : Emitted start (buffer, vsize) copyCount data)
    : Emitted start
        (let (buffer, _, rawData, vsize) :=
            copyThenRawLongLoop rawData.length buffer 0 rawData vsize
          if rawData.length ≠ 0 then
            let (buffer, size) := ScoaCmd.copyThenRaw buffer 0 rawData
            (buffer, vsize + size)
          else (buffer, vsize)) copyCount (data ++ rawData) := by
  obtain ⟨final, size, copyLeft, written, rest, run, split, small, result⟩ :=
    copyThenRawLongLoop_emitted rawData.length buffer vsize (Nat.zero_le 7) (Nat.le_refl _)
  have none : copyLeft = 0 := Nat.le_zero.mp result.left_le
  subst none
  simp only [run]
  rw [← split]
  split
  · have last := Emitted.copyThenRaw (Nat.zero_le 7) (Nat.pos_of_ne_zero ‹_›) small final
    have whole := before.append_data (result.finish last)
    rwa [← Nat.add_assoc] at whole
  · have none : rest = [] := List.length_eq_zero_iff.mp (by omega)
    subst none
    simpa using before.append_data result.emitted

/-- The last repeats and the last raw bytes, less than eight of each. -/
theorem cmdRepeatThenRawShort_emitted (buffer : Buffer) {repeatCount : Nat}
    (repeatByte : UInt8) {rawData : List UInt8} (short : repeatCount ≤ 7)
    (nonempty : repeatCount ≠ 0 ∨ rawData.length ≠ 0)
    : Emitted buffer (cmdRepeatThenRawShort buffer repeatCount repeatByte rawData) 0
        (List.replicate repeatCount repeatByte ++ rawData) := by
  rw [cmdRepeatThenRawShort, Buffer.assert_of nonempty]
  by_cases small : rawData.length ≤ 7
  · rw [if_pos small]
    split
    · rename_i empty
      obtain rfl := List.length_eq_zero_iff.mp empty
      rw [List.append_nil]
      exact cmdCopyThenRepeat_emitted buffer 0 repeatByte
        (Or.inr (nonempty.resolve_right (not_not_intro empty)))
    rename_i filled
    have raw := fun buffer =>
      Emitted.copyThenRaw (Nat.zero_le 7) (Nat.pos_of_ne_zero filled) small buffer
    split
    · rename_i none
      subst none
      exact raw buffer
    split
    · exact Emitted.command (c := .repeatThenRaw repeatCount repeatByte rawData)
        ⟨‹_›, short, Nat.pos_of_ne_zero filled, small⟩ (by simp) buffer
    · have rep := cmdCopyThenRepeat_emitted buffer 0 repeatByte (Or.inr ‹_›)
      exact rep.append_data (raw _)
  · rw [if_neg small]
    by_cases two : repeatCount ≥ 2
    · let count := min rawData.length 255
      have valid : (Command.repeatThenRawLong repeatCount repeatByte
          (rawData.take count)).Valid := by
        simp only [Command.Valid, List.length_take, count]
        omega
      have step := Emitted.command valid (by simp) buffer
      have data : List.replicate repeatCount repeatByte ++ rawData
          = (List.replicate repeatCount repeatByte ++ rawData.take count)
            ++ rawData.drop count := by
        rw [List.append_assoc, List.take_append_drop]
      rw [data]
      simp only [if_pos two]
      exact copyThenRawLongLoop_then step
    by_cases none : repeatCount = 0
    · subst none
      simp only [if_neg two, ne_eq, not_true_eq_false, ↓reduceIte]
      exact copyThenRawLongLoop_then (.nothing buffer)
    · simp only [if_neg two, ne_eq, none, not_false_eq_true, ↓reduceIte]
      exact copyThenRawLongLoop_then
        (cmdCopyThenRepeat_emitted buffer 0 repeatByte (Or.inr none))

/-- `cmd_RepeatThenRaw` emits the repeats and then the raw bytes. -/
theorem cmdRepeatThenRaw_emitted (buffer : Buffer) (repeatCount : Nat)
    (repeatByte : UInt8) {rawData : List UInt8}
    (nonempty : repeatsLeft repeatCount ≠ 0 ∨ rawData.length ≠ 0)
    : Emitted buffer (cmdRepeatThenRaw buffer repeatCount repeatByte rawData) 0
        (List.replicate repeatCount repeatByte ++ rawData) := by
  unfold cmdRepeatThenRaw
  split
  · rw [repeatsLeft_of_le ‹_›] at nonempty
    exact cmdRepeatThenRawShort_emitted buffer repeatByte ‹_› nonempty
  · obtain ⟨final, size, copyLeft, written, rest, run, split, left, result⟩ :=
      copyThenRepeatLongLoop_emitted repeatCount buffer repeatByte 0 (Nat.zero_le 7)
        (Nat.le_refl repeatCount)
    have none : copyLeft = 0 := Nat.le_zero.mp result.left_le
    subst none
    rw [Nat.zero_add] at run
    rw [Buffer.assert_of (Or.inl (by omega))]
    simp only [run]
    rw [← left] at nonempty
    have short : rest ≤ 7 := left ▸ repeatsLeft_le repeatCount
    have last := cmdRepeatThenRawShort_emitted final repeatByte short nonempty
    rw [← split, List.replicate_add, List.append_assoc]
    exact result.finish last

end Capt.Compression
