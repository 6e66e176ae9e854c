import Libcapt.Compression.SplitLoops

/-! How many bytes the helpers write at most for the bytes that their commands cover, for
counts of any size: a ninth more than these and one command's overhead.
-/

namespace Capt.Compression

-----------------------------------------------------------------------------------------
-- The size of a command
-----------------------------------------------------------------------------------------

/-- `buffer.size()`. -/
def Buffer.size (buffer : Buffer) : Nat := buffer.bytes.length

section Commands

variable (buffer : Buffer)

/-- An assertion adds no byte. -/
@[simp]
theorem size_assert (condition : Prop) [Decidable condition]
    : (buffer.assert condition).size = buffer.size :=
  rfl

/-- One byte. -/
@[simp]
theorem size_pushBack (value : Nat) : (buffer.pushBack value).size = buffer.size + 1 :=
  List.length_append

/-- The bytes that are inserted. -/
@[simp]
theorem size_insert (data : List UInt8) : (buffer.insert data).size = buffer.size + data.length :=
  List.length_append

/-- `CopyLong`: one byte. -/
@[simp]
theorem size_copyLong (copyCount : Nat)
    : (ScoaCmd.copyLong buffer copyCount).1.size = buffer.size + 1 := by
  simp [ScoaCmd.copyLong]

/-- `CopyShort`: one byte. -/
@[simp]
theorem size_copyShort (copyCount : Nat)
    : (ScoaCmd.copyShort buffer copyCount).1.size = buffer.size + 1 := by
  simp [ScoaCmd.copyShort]

/-- `CopyThenRaw`: one byte and the given ones. -/
@[simp]
theorem size_copyThenRaw (copyCount : Nat) (rawData : List UInt8)
    : (ScoaCmd.copyThenRaw buffer copyCount rawData).1.size
      = buffer.size + 1 + rawData.length := by
  simp [ScoaCmd.copyThenRaw]

/-- `Extend`: one byte. -/
@[simp]
theorem size_extend (count : Nat) : (ScoaCmd.extend buffer count).1.size = buffer.size + 1 := by
  simp [ScoaCmd.extend]

/-- `CopyThenRawLong`: two bytes and the given ones. -/
@[simp]
theorem size_copyThenRawLong (copyCount : Nat) (rawData : List UInt8)
    : (ScoaCmd.copyThenRawLong buffer copyCount rawData).1.size
      = buffer.size + 2 + rawData.length := by
  simp [ScoaCmd.copyThenRawLong]

/-- `CopyThenRepeat`: two bytes. -/
@[simp]
theorem size_copyThenRepeat (copyCount repeatCount : Nat) (repeatByte : UInt8)
    : (ScoaCmd.copyThenRepeat buffer copyCount repeatCount repeatByte).1.size
      = buffer.size + 2 := by
  simp [ScoaCmd.copyThenRepeat]

/-- `CopyThenRepeatLong`: three bytes. -/
@[simp]
theorem size_copyThenRepeatLong (copyCount repeatCount : Nat) (repeatByte : UInt8)
    : (ScoaCmd.copyThenRepeatLong buffer copyCount repeatCount repeatByte).1.size
      = buffer.size + 3 := by
  simp [ScoaCmd.copyThenRepeatLong]

/-- `RepeatThenRaw`: two bytes and the given ones. -/
@[simp]
theorem size_repeatThenRaw (repeatCount : Nat) (repeatByte : UInt8) (rawData : List UInt8)
    : (ScoaCmd.repeatThenRaw buffer repeatCount repeatByte rawData).1.size
      = buffer.size + 2 + rawData.length := by
  simp [ScoaCmd.repeatThenRaw]

/-- `RepeatThenRawLong`: three bytes and the given ones. -/
@[simp]
theorem size_repeatThenRawLong (repeatCount : Nat) (repeatByte : UInt8) (rawData : List UInt8)
    : (ScoaCmd.repeatThenRawLong buffer repeatCount repeatByte rawData).1.size
      = buffer.size + 3 + rawData.length := by
  simp [ScoaCmd.repeatThenRawLong]

/-- `RepeatX`: one byte. -/
@[simp]
theorem size_repeatX (repeatCount : Nat)
    : (ScoaCmd.repeatX buffer repeatCount).1.size = buffer.size + 1 := by
  simp [ScoaCmd.repeatX]

/-- `RepeatXLong`: two bytes. -/
@[simp]
theorem size_repeatXLong (repeatCount : Nat)
    : (ScoaCmd.repeatXLong buffer repeatCount).1.size = buffer.size + 2 := by
  simp [ScoaCmd.repeatXLong]

/-- `EOL`: one byte. -/
@[simp]
theorem size_eol : (ScoaCmd.eol buffer).1.size = buffer.size + 1 := size_pushBack ..

end Commands

-----------------------------------------------------------------------------------------
-- The loops
-----------------------------------------------------------------------------------------

/-- A long copy covers at least 8 bytes. -/
theorem size_copyLongLoop (fuel : Nat) (buffer : Buffer) {copyCount : Nat} (vsize : Nat)
    (enough : copyCount ≤ fuel)
    : ∃ final rest size,
        copyLongLoop fuel buffer copyCount vsize = (final, rest, size)
        ∧ rest ≤ 7
        ∧ 8 * final.size + rest ≤ 8 * buffer.size + copyCount := by
  obtain ⟨bound, exit⟩ := copyLongLoop_isBounded.invariant
    (fun s => 8 * s.1.size + s.2.1 ≤ 8 * buffer.size + copyCount)
    (s := (buffer, copyCount, vsize)) (Nat.le_refl _) enough (by
      rintro ⟨final, rest, size⟩ long bound
      simp only [copyLongTurn, size_copyLong] at bound long ⊢
      omega)
  exact ⟨_, _, _, rfl, Nat.le_of_not_lt exit, bound⟩

/-- Only the last of the long raw commands can be shorter than 255 bytes, and none is left
then. The rest costs no more than it covers.
-/
theorem size_copyThenRawLongLoop (fuel : Nat) (buffer : Buffer) (copyCount : Nat)
    {rawData : List UInt8} (vsize : Nat) (enough : rawData.length ≤ fuel)
    : ∃ final copyLeft rest size,
        copyThenRawLongLoop fuel buffer copyCount rawData vsize = (final, copyLeft, rest, size)
        ∧ rest.length ≤ min rawData.length 7
        ∧ (rest = rawData ∧ copyLeft = copyCount ∨ copyLeft = 0)
        ∧ 9 * final.size + 10 * rest.length
          ≤ 9 * buffer.size + 10 * rawData.length
            + if rawData.length = 0 ∨ rest.length ≠ 0 then 0 else 10 := by
  obtain ⟨⟨less, copied, bound⟩, exit⟩ := copyThenRawLongLoop_isBounded.invariant
    (fun s =>
      s.2.2.1.length ≤ rawData.length
      ∧ (s.2.2.1 = rawData ∧ s.2.1 = copyCount ∨ s.2.1 = 0)
      ∧ 9 * s.1.size + 10 * s.2.2.1.length
        ≤ 9 * buffer.size + 10 * rawData.length
          + if rawData.length = 0 ∨ s.2.2.1.length ≠ 0 then 0 else 10)
    (s := (buffer, copyCount, rawData, vsize))
    ⟨Nat.le_refl _, .inl ⟨rfl, rfl⟩, Nat.le_add_right ..⟩ enough (by
      rintro ⟨final, copyLeft, rest, size⟩ long ⟨less, copied, bound⟩
      simp only [copyThenRawLongTurn, size_copyThenRawLong, List.length_take,
        List.length_drop, or_true, true_and] at long less bound ⊢
      refine ⟨by omega, ?_⟩
      split at bound <;> split <;> omega)
  exact ⟨_, _, _, _, rfl, Nat.le_min.mpr ⟨less, Nat.le_of_not_lt exit⟩, copied, bound⟩

/-- A long repetition writes 3 bytes for at least 8. -/
theorem size_copyThenRepeatLongLoop (fuel : Nat) (buffer : Buffer) (copyCount : Nat)
    {repeatCount : Nat} (repeatByte : UInt8) (vsize : Nat)
    (enough : repeatCount ≤ fuel)
    : ∃ final copyLeft rest size,
        copyThenRepeatLongLoop fuel buffer copyCount repeatCount repeatByte vsize
          = (final, copyLeft, rest, size)
        ∧ rest ≤ 7
        ∧ 8 * final.size + 3 * rest ≤ 8 * buffer.size + 3 * repeatCount := by
  obtain ⟨bound, exit⟩ := (copyThenRepeatLongLoop_isBounded repeatByte).invariant
    (fun s => 8 * s.1.size + 3 * s.2.2.1 ≤ 8 * buffer.size + 3 * repeatCount)
    (s := (buffer, copyCount, repeatCount, vsize)) (Nat.le_refl _) enough (by
      rintro ⟨final, copyLeft, rest, size⟩ long bound
      simp only [copyThenRepeatLongTurn, size_copyThenRepeatLong] at bound long ⊢
      omega)
  exact ⟨_, _, _, _, rfl, Nat.le_of_not_lt exit, bound⟩

/-- The loop over the fixed byte: two bytes for at least eight repeats, by induction on the fuel.
-/
theorem size_repeatXLongLoop (fuel : Nat) (buffer : Buffer) {repeatCount : Nat} (vsize : Nat)
    (enough : repeatCount ≤ fuel)
    : ∃ final rest size,
        repeatXLongLoop fuel buffer repeatCount vsize = (final, rest, size)
        ∧ 8 * final.size + 2 * rest ≤ 8 * buffer.size + 2 * repeatCount := by
  obtain ⟨bound, _⟩ := repeatXLongLoop_isBounded.invariant
    (fun s => 8 * s.1.size + 2 * s.2.1 ≤ 8 * buffer.size + 2 * repeatCount)
    (s := (buffer, repeatCount, vsize)) (Nat.le_refl _) enough (by
      rintro ⟨final, rest, size⟩ long bound
      simp only [repeatXLongTurn, size_repeatXLong] at bound long ⊢
      omega)
  exact ⟨_, _, _, rfl, bound⟩

-----------------------------------------------------------------------------------------
-- The helpers
-----------------------------------------------------------------------------------------

section Helpers

variable (buffer : Buffer)

/-- Raw bytes cost one command's overhead. -/
theorem size_cmdCopyThenRawShort (copyCount : Nat) {rawData : List UInt8}
    (nonempty : rawData.length ≠ 0)
    : 9 * (cmdCopyThenRawShort buffer copyCount rawData).1.size
      ≤ 9 * buffer.size + 10 * rawData.length + 10 := by
  obtain ⟨final, copyLeft, rest, size, run, small, copied, bound⟩ :=
    size_copyThenRawLongLoop rawData.length (buffer.assert (rawData.length ≠ 0)) copyCount 0
      (Nat.le_refl _)
  rw [size_assert] at bound
  simp only [cmdCopyThenRawShort, run]
  by_cases more : rest.length = 0
  · have none : copyLeft = 0 := by
      rcases copied with ⟨rfl, _⟩ | none
      · exact absurd more nonempty
      · exact none
    rw [if_neg (not_or.mpr ⟨not_not.mpr none, not_not.mpr more⟩)]
    dsimp only
    split at bound <;> omega
  · rw [if_pos (.inr more), size_copyThenRaw]
    split at bound <;> omega

/-- A copy pays for the command of the raw bytes behind it. -/
theorem size_cmdCopyThenRaw {copyCount count : Nat} {rawData : List UInt8}
    (le : copyCount ≤ count) (pos : 0 < count) (nonempty : rawData.length ≠ 0)
    : 9 * (cmdCopyThenRaw buffer copyCount rawData).1.size
      ≤ 9 * buffer.size + 10 * (count + rawData.length) := by
  unfold cmdCopyThenRaw
  split
  · have bound := size_cmdCopyThenRawShort buffer copyCount nonempty
    omega
  · obtain ⟨final, rest, size, run, small, bound⟩ :=
      size_copyLongLoop copyCount (buffer.assert (rawData.length ≠ 0)) 0 (Nat.le_refl _)
    rw [size_assert] at bound
    simp only [run]
    have last := size_cmdCopyThenRawShort final rest nonempty
    omega

/-- The raw data that other commands leave over. -/
theorem size_copyThenRawLongLoop_then (rawData : List UInt8) (vsize : Nat)
    : 9 * (let (buffer, _, rawData, vsize) :=
            copyThenRawLongLoop rawData.length buffer 0 rawData vsize
          if rawData.length ≠ 0 then
            let (buffer, size) := ScoaCmd.copyThenRaw buffer 0 rawData
            (buffer, vsize + size)
          else (buffer, vsize)).1.size
      ≤ 9 * buffer.size + 10 * rawData.length + if rawData.length = 0 then 0 else 10 := by
  obtain ⟨final, copyLeft, rest, size, run, small, copied, bound⟩ :=
    size_copyThenRawLongLoop rawData.length buffer 0 vsize (Nat.le_refl _)
  simp only [run]
  by_cases more : rest.length = 0
  · simp only [more, ne_eq, not_true_eq_false, or_false, ↓reduceIte] at bound ⊢
    exact bound
  · simp only [more, ne_eq, not_false_eq_true, or_true, ↓reduceIte, size_copyThenRaw] at bound ⊢
    split <;> omega

/-- Raw bytes: ten bytes for nine at the most, and one more. -/
theorem size_cmdWriteRaw (rawData : List UInt8)
    : 9 * (cmdWriteRaw buffer rawData).1.size
      ≤ 9 * buffer.size + 10 * rawData.length + 10 := by
  unfold cmdWriteRaw
  split
  · rw [size_copyThenRaw, size_assert]
    omega
  · have bound :=
      size_copyThenRawLongLoop_then (buffer.assert (rawData.length ≠ 0)) rawData 0
    rw [size_assert] at bound
    refine Nat.le_trans bound (Nat.add_le_add_left ?_ _)
    split <;> decide

/-- The last repeats and what is left to copy. -/
theorem size_cmdCopyThenRepeatShort (copyCount repeatCount : Nat) (repeatByte : UInt8)
    : 8 * (cmdCopyThenRepeatShort buffer copyCount repeatCount repeatByte).1.size
      ≤ 8 * buffer.size + 3 * repeatCount + 16 := by
  obtain ⟨final, copyLeft, rest, size, run, small, bound⟩ :=
    size_copyThenRepeatLongLoop repeatCount
      (buffer.assert (copyCount ≠ 0 ∨ repeatCount ≠ 0)) copyCount repeatByte 0 (Nat.le_refl _)
  rw [size_assert] at bound
  simp only [cmdCopyThenRepeatShort, run]
  split
  · rw [size_copyThenRepeat]
    omega
  split
  · rw [size_copyThenRaw]
    dsimp only [List.length_singleton]
    omega
  split
  · rw [size_copyShort]
    omega
  · dsimp only
    omega

/-- A copy followed by repeats: three bytes for every eight repeats at the most. -/
theorem size_cmdCopyThenRepeat (copyCount repeatCount : Nat) (repeatByte : UInt8)
    : 8 * (cmdCopyThenRepeat buffer copyCount repeatCount repeatByte).1.size
      ≤ 8 * buffer.size + copyCount + 3 * repeatCount + 16 := by
  unfold cmdCopyThenRepeat
  split
  · have bound := size_cmdCopyThenRepeatShort buffer copyCount repeatCount repeatByte
    omega
  · obtain ⟨final, rest, size, run, small, bound⟩ :=
      size_copyLongLoop copyCount (buffer.assert (copyCount ≠ 0 ∨ repeatCount ≠ 0)) 0
        (Nat.le_refl _)
    rw [size_assert] at bound
    simp only [run]
    have last := size_cmdCopyThenRepeatShort final rest repeatCount repeatByte
    omega

/-- A copy and a repetition pay for the command of the raw bytes behind them. -/
theorem size_cmdCopyThenRepeat_pays {copyCount repeatCount copies count : Nat}
    (repeatByte : UInt8) (copyLe : copyCount ≤ copies) (pos : 0 < copies)
    (le : repeatCount ≤ count) (two : 2 ≤ count)
    : 9 * (cmdCopyThenRepeat buffer copyCount repeatCount repeatByte).1.size + 10
      ≤ 9 * buffer.size + 10 * (copies + count) := by
  have bound := size_cmdCopyThenRepeat buffer copyCount repeatCount repeatByte
  rcases Nat.lt_or_ge 3 (copies + count) with more | few <;> omega

/-- Repeats of the fixed byte. -/
theorem size_cmdRepeatX (repeatCount : Nat)
    : 8 * (cmdRepeatX buffer repeatCount).1.size ≤ 8 * buffer.size + 2 * repeatCount + 8 := by
  obtain ⟨final, rest, size, run, bound⟩ :=
    size_repeatXLongLoop repeatCount (buffer.assert (repeatCount ≠ 0)) 0 (Nat.le_refl _)
  rw [size_assert] at bound
  simp only [cmdRepeatX, run]
  split
  · rw [size_repeatX]
    omega
  · dsimp only
    omega

/-- Repeats: no more than ten bytes for nine. -/
theorem size_cmdRepeat {repeatCount count : Nat} (repeatByte : UInt8)
    (le : repeatCount ≤ count) (two : 2 ≤ count)
    : 9 * (cmdRepeat buffer repeatCount repeatByte).1.size ≤ 9 * buffer.size + 10 * count := by
  have whole : 8 * (cmdRepeat buffer repeatCount repeatByte).1.size
      ≤ 8 * buffer.size + 3 * repeatCount + 16 := by
    unfold cmdRepeat
    dsimp only
    split
    · have bound := size_cmdRepeatX (buffer.assert (repeatCount ≠ 0)) repeatCount
      rw [size_assert] at bound
      omega
    · have bound :=
        size_cmdCopyThenRepeat (buffer.assert (repeatCount ≠ 0)) 0 repeatCount repeatByte
      rw [size_assert] at bound
      omega
  rcases Nat.lt_or_ge 2 count with more | few <;> omega

/-- The raw bytes behind a repetition need no command of their own, unless the conversion
of its count leaves none or one.
-/
theorem size_cmdRepeatThenRawShort {repeatCount : Nat} (repeatByte : UInt8)
    {rawData : List UInt8} (nonempty : rawData.length ≠ 0)
    : 9 * (cmdRepeatThenRawShort buffer repeatCount repeatByte rawData).1.size
      ≤ 9 * buffer.size + 10 * rawData.length + if repeatCount = 1 then 28 else 20 := by
  have same : (buffer.assert (repeatCount ≠ 0 ∨ rawData.length ≠ 0)).size = buffer.size :=
    size_assert ..
  unfold cmdRepeatThenRawShort
  dsimp only
  generalize buffer.assert (repeatCount ≠ 0 ∨ rawData.length ≠ 0) = start at same ⊢
  have alone := size_cmdCopyThenRepeat start 0 repeatCount repeatByte
  by_cases small : rawData.length ≤ 7
  · rw [if_pos small, if_neg nonempty]
    split
    · rw [size_copyThenRaw]
      split <;> omega
    split
    · rw [size_repeatThenRaw]
      split <;> omega
    · rw [size_copyThenRaw]
      split <;> omega
  rw [if_neg small]
  by_cases two : repeatCount ≥ 2
  · obtain ⟨count, most⟩ : ∃ count, count = min rawData.length 255 := ⟨_, rfl⟩
    have taken : (rawData.take count).length = count := by
      rw [List.length_take]
      omega
    have left : (rawData.drop count).length = rawData.length - count := List.length_drop
    have first := size_repeatThenRawLong start repeatCount repeatByte (rawData.take count)
    rw [taken] at first
    simp only [if_pos two, ← most]
    refine Nat.le_trans (size_copyThenRawLongLoop_then _ (rawData.drop count) _) ?_
    split <;> split <;> omega
  by_cases none : repeatCount = 0
  · subst none
    simp only [if_neg two, ne_eq, not_true_eq_false, ↓reduceIte]
    refine Nat.le_trans (size_copyThenRawLongLoop_then start rawData 0) ?_
    rw [if_neg nonempty, if_neg Nat.zero_ne_one]
    omega
  · simp only [if_neg two, ne_eq, none, not_false_eq_true, ↓reduceIte]
    refine Nat.le_trans (size_copyThenRawLongLoop_then _ rawData _) ?_
    rw [if_neg nonempty]
    split <;> omega

/-- `count` is what `repeatCount` was before its conversion. -/
theorem size_cmdRepeatThenRaw {repeatCount count : Nat} (repeatByte : UInt8)
    {rawData : List UInt8} (le : repeatCount ≤ count) (two : 2 ≤ count)
    (one : repeatCount = 1 → 3 ≤ count) (nonempty : rawData.length ≠ 0)
    : 9 * (cmdRepeatThenRaw buffer repeatCount repeatByte rawData).1.size
      ≤ 9 * buffer.size + 10 * (count + rawData.length) := by
  unfold cmdRepeatThenRaw
  split
  · have bound := @size_cmdRepeatThenRawShort buffer repeatCount repeatByte rawData nonempty
    split at bound <;> omega
  · obtain ⟨final, copyLeft, rest, size, run, small, bound⟩ :=
      size_copyThenRepeatLongLoop repeatCount
        (buffer.assert (repeatCount ≠ 0 ∨ rawData.length ≠ 0)) 0 repeatByte 0 (Nat.le_refl _)
    rw [size_assert] at bound
    simp only [run]
    have last := @size_cmdRepeatThenRawShort final rest repeatByte rawData nonempty
    split at last <;> omega

end Helpers

end Capt.Compression
