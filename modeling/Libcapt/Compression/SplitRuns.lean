import Libcapt.Compression.SplitLoops

/-! The helpers that split long runs, as the source runs them: loops that end when their
condition fails, and calls of one helper by another or by itself. Every call of a helper
ends, and in one way, which the functions of the model compute.
-/

namespace Capt.Compression

open Streams

/-- A call of one of the helpers, with its arguments. -/
inductive SplitCall where
  | copy (copyCount : Nat)
  | copyThenRaw (copyCount : Nat) (rawData : List UInt8)
  | writeRaw (rawData : List UInt8)
  | copyThenRepeat (copyCount repeatCount : Nat) (repeatByte : UInt8)
  | repeatX (repeatCount : Nat)
  | repeats (repeatCount : Nat) (repeatByte : UInt8)
  | repeatThenRaw (repeatCount : Nat) (repeatByte : UInt8) (rawData : List UInt8)
  deriving Repr, DecidableEq

namespace SplitCall

/-- The entry assertion of the helper. -/
def Accepts : SplitCall → Prop
  | copy copyCount => copyCount ≠ 0
  | copyThenRaw _ rawData | writeRaw rawData => rawData.length ≠ 0
  | copyThenRepeat copyCount repeatCount _ => copyCount ≠ 0 ∨ repeatCount ≠ 0
  | repeatX repeatCount | repeats repeatCount _ => repeatCount ≠ 0
  | repeatThenRaw repeatCount _ rawData => repeatCount ≠ 0 ∨ rawData.length ≠ 0

/-- Whether a call is accepted can be decided, by its kind. -/
instance : (call : SplitCall) → Decidable call.Accepts
  | copy _ | copyThenRaw _ _ | writeRaw _ | repeatX _ | repeats _ _ =>
      inferInstanceAs (Decidable (_ ≠ 0))
  | copyThenRepeat _ _ _ | repeatThenRaw _ _ _ =>
      inferInstanceAs (Decidable (_ ≠ 0 ∨ _ ≠ 0))

/-- The helper, in the form of the compressor. -/
def run (buffer : Buffer) : SplitCall → Buffer × Nat
  | copy copyCount => cmdCopy buffer copyCount
  | copyThenRaw copyCount rawData => cmdCopyThenRaw buffer copyCount rawData
  | writeRaw rawData => cmdWriteRaw buffer rawData
  | copyThenRepeat copyCount repeatCount repeatByte =>
      cmdCopyThenRepeat buffer copyCount repeatCount repeatByte
  | repeatX repeatCount => cmdRepeatX buffer repeatCount
  | repeats repeatCount repeatByte => cmdRepeat buffer repeatCount repeatByte
  | repeatThenRaw repeatCount repeatByte rawData =>
      cmdRepeatThenRaw buffer repeatCount repeatByte rawData

/-- `vsize + f(buffer, ...)` -/
def plus (vsize : Nat) (result : Buffer × Nat) : Buffer × Nat :=
  (result.1, vsize + result.2)

/-- The last lines of the helpers that write raw data: what the loop leaves, if anything. -/
def writeRest (buffer : Buffer) (rawData : List UInt8) (vsize : Nat) : Buffer × Nat :=
  if rawData.length ≠ 0 then plus vsize (ScoaCmd.copyThenRaw buffer 0 rawData)
  else (buffer, vsize)

/-- A call of a helper on a buffer ends with a buffer and a size: one constructor for each
way through a helper, with the calls and the loops on it.
-/
inductive Runs : SplitCall → Buffer → Buffer × Nat → Prop
  | copy {buffer final copyCount left vsize}
    (loop : CopyLongEnds (buffer.assert (copyCount ≠ 0), copyCount, 0) (final, left, vsize))
    : Runs (copy copyCount) buffer
        (if left ≠ 0 then plus vsize (ScoaCmd.copyShort final left) else (final, vsize))
  | copyThenRaw {buffer final copyCount rawData left rest vsize} (short : copyCount ≤ 7)
    (loop
      : CopyThenRawLongEnds (buffer.assert (rawData.length ≠ 0), copyCount, rawData, 0)
          (final, left, rest, vsize))
    : Runs (copyThenRaw copyCount rawData) buffer
        (if left ≠ 0 ∨ rest.length ≠ 0 then plus vsize (ScoaCmd.copyThenRaw final left rest)
          else (final, vsize))
  | copyThenRawAgain {buffer final copyCount rawData left vsize result}
    (long : ¬ copyCount ≤ 7)
    (loop
      : CopyLongEnds (buffer.assert (rawData.length ≠ 0), copyCount, 0)
          (final, left, vsize))
    (again : Runs (copyThenRaw left rawData) final result)
    : Runs (copyThenRaw copyCount rawData) buffer (plus vsize result)
  | writeRaw {buffer rawData} (short : rawData.length ≤ 7)
    : Runs (writeRaw rawData) buffer
        (ScoaCmd.copyThenRaw (buffer.assert (rawData.length ≠ 0)) 0 rawData)
  | writeRawLong {buffer final rawData left rest vsize} (long : ¬ rawData.length ≤ 7)
    (loop
      : CopyThenRawLongEnds (buffer.assert (rawData.length ≠ 0), 0, rawData, 0)
          (final, left, rest, vsize))
    : Runs (writeRaw rawData) buffer (writeRest final rest vsize)
  | copyThenRepeat {buffer final copyCount repeatCount repeatByte left rest vsize}
    (short : copyCount ≤ 7)
    (loop
      : CopyThenRepeatLongEnds repeatByte
          (buffer.assert (copyCount ≠ 0 ∨ repeatCount ≠ 0), copyCount, repeatCount, 0)
          (final, left, rest, vsize))
    : Runs (copyThenRepeat copyCount repeatCount repeatByte) buffer
        (if rest ≥ 2 then plus vsize (ScoaCmd.copyThenRepeat final left rest repeatByte)
          else if rest = 1 then plus vsize (ScoaCmd.copyThenRaw final left [repeatByte])
          else if left ≠ 0 then plus vsize (ScoaCmd.copyShort final left)
          else (final, vsize))
  | copyThenRepeatAgain {buffer final copyCount repeatCount repeatByte left vsize result}
    (long : ¬ copyCount ≤ 7)
    (loop
      : CopyLongEnds (buffer.assert (copyCount ≠ 0 ∨ repeatCount ≠ 0), copyCount, 0)
          (final, left, vsize))
    (again : Runs (copyThenRepeat left repeatCount repeatByte) final result)
    : Runs (copyThenRepeat copyCount repeatCount repeatByte) buffer (plus vsize result)
  | repeatX {buffer final repeatCount rest vsize}
    (loop
      : RepeatXLongEnds (buffer.assert (repeatCount ≠ 0), repeatCount, 0)
          (final, rest, vsize))
    : Runs (repeatX repeatCount) buffer
        (if rest ≠ 0 then plus vsize (ScoaCmd.repeatX final rest) else (final, vsize))
  | repeatFixed {buffer repeatCount result}
    (call : Runs (repeatX repeatCount) (buffer.assert (repeatCount ≠ 0)) result)
    : Runs (repeats repeatCount ScoaCmd.repeatXByte) buffer result
  | repeatOther {buffer repeatCount repeatByte result}
    (other : repeatByte ≠ ScoaCmd.repeatXByte)
    (call
      : Runs (copyThenRepeat 0 repeatCount repeatByte) (buffer.assert (repeatCount ≠ 0))
          result)
    : Runs (repeats repeatCount repeatByte) buffer result
  | repeatOnly {buffer repeatCount repeatByte rawData result} (short : repeatCount ≤ 7)
    (small : rawData.length ≤ 7) (empty : rawData.length = 0)
    (call
      : Runs (copyThenRepeat 0 repeatCount repeatByte)
          (buffer.assert (repeatCount ≠ 0 ∨ rawData.length ≠ 0)) result)
    : Runs (repeatThenRaw repeatCount repeatByte rawData) buffer result
  | rawOnly {buffer repeatCount repeatByte rawData} (short : repeatCount ≤ 7)
    (small : rawData.length ≤ 7) (filled : rawData.length ≠ 0) (zero : repeatCount = 0)
    : Runs (repeatThenRaw repeatCount repeatByte rawData) buffer
        (ScoaCmd.copyThenRaw (buffer.assert (repeatCount ≠ 0 ∨ rawData.length ≠ 0)) 0
          rawData)
  | repeatThenRaw {buffer repeatCount repeatByte rawData} (short : repeatCount ≤ 7)
    (small : rawData.length ≤ 7) (filled : rawData.length ≠ 0) (two : repeatCount ≥ 2)
    : Runs (repeatThenRaw repeatCount repeatByte rawData) buffer
        (ScoaCmd.repeatThenRaw (buffer.assert (repeatCount ≠ 0 ∨ rawData.length ≠ 0))
          repeatCount repeatByte rawData)
  | onceThenRaw {buffer repeatCount repeatByte rawData result} (short : repeatCount ≤ 7)
    (small : rawData.length ≤ 7) (filled : rawData.length ≠ 0) (nonzero : repeatCount ≠ 0)
    (one : ¬ repeatCount ≥ 2)
    (call
      : Runs (copyThenRepeat 0 repeatCount repeatByte)
          (buffer.assert (repeatCount ≠ 0 ∨ rawData.length ≠ 0)) result)
    : Runs (repeatThenRaw repeatCount repeatByte rawData) buffer
        (plus result.2 (ScoaCmd.copyThenRaw result.1 0 rawData))
  | repeatThenRawLong {buffer first final repeatCount repeatByte rawData left rest size vsize}
    (short : repeatCount ≤ 7) (large : ¬ rawData.length ≤ 7) (two : repeatCount ≥ 2)
    (command
      : ScoaCmd.repeatThenRawLong (buffer.assert (repeatCount ≠ 0 ∨ rawData.length ≠ 0))
          repeatCount repeatByte (rawData.take (min rawData.length 255)) = (first, size))
    (loop
      : CopyThenRawLongEnds (first, 0, rawData.drop (min rawData.length 255), size)
          (final, left, rest, vsize))
    : Runs (repeatThenRaw repeatCount repeatByte rawData) buffer
        (writeRest final rest vsize)
  | onceThenRawLong {buffer first final repeatCount repeatByte rawData left rest size vsize}
    (short : repeatCount ≤ 7) (large : ¬ rawData.length ≤ 7) (one : ¬ repeatCount ≥ 2)
    (nonzero : repeatCount ≠ 0)
    (call
      : Runs (copyThenRepeat 0 repeatCount repeatByte)
          (buffer.assert (repeatCount ≠ 0 ∨ rawData.length ≠ 0)) (first, size))
    (loop : CopyThenRawLongEnds (first, 0, rawData, size) (final, left, rest, vsize))
    : Runs (repeatThenRaw repeatCount repeatByte rawData) buffer
        (writeRest final rest vsize)
  | rawOnlyLong {buffer final repeatCount repeatByte rawData left rest vsize}
    (short : repeatCount ≤ 7) (large : ¬ rawData.length ≤ 7) (one : ¬ repeatCount ≥ 2)
    (zero : ¬ repeatCount ≠ 0)
    (loop
      : CopyThenRawLongEnds
          (buffer.assert (repeatCount ≠ 0 ∨ rawData.length ≠ 0), 0, rawData, 0)
          (final, left, rest, vsize))
    : Runs (repeatThenRaw repeatCount repeatByte rawData) buffer
        (writeRest final rest vsize)
  | repeatThenRawAgain {buffer final repeatCount repeatByte rawData left rest vsize result}
    (long : ¬ repeatCount ≤ 7)
    (loop
      : CopyThenRepeatLongEnds repeatByte
          (buffer.assert (repeatCount ≠ 0 ∨ rawData.length ≠ 0), 0, repeatCount, 0)
          (final, left, rest, vsize))
    (again : Runs (repeatThenRaw rest repeatByte rawData) final result)
    : Runs (repeatThenRaw repeatCount repeatByte rawData) buffer (plus vsize result)

/-- A call ends as the model's function says, by induction on it. A call of a helper by
itself takes the way of a small count, since the loop before it leaves at most 7.
-/
theorem Runs.run_eq {call : SplitCall} {buffer : Buffer} {result : Buffer × Nat}
    (h : call.Runs buffer result)
    : call.run buffer = result := by
  induction h with
  | copy loop =>
      have final := copyLongEnds_iff.mp loop
      simp only [run, cmdCopy, final]
      rfl
  | copyThenRaw short loop =>
      have final := copyThenRawLongEnds_iff.mp loop
      simp only [run, cmdCopyThenRaw, if_pos short, cmdCopyThenRawShort, final]
      rfl
  | copyThenRawAgain long loop _ ih =>
      have final := copyLongEnds_iff.mp loop
      have few : ¬ _ ≥ 8 := loop.exit
      simp only [run, cmdCopyThenRaw, if_pos (Nat.le_of_not_lt few)] at ih
      simp only [run, cmdCopyThenRaw, if_neg long, final, ih]
      rfl
  | writeRaw short => simp only [run, cmdWriteRaw, if_pos short]
  | writeRawLong long loop =>
      have final := copyThenRawLongEnds_iff.mp loop
      simp only [run, cmdWriteRaw, if_neg long, final]
      rfl
  | copyThenRepeat short loop =>
      have final := copyThenRepeatLongEnds_iff.mp loop
      simp only [run, cmdCopyThenRepeat, if_pos short, cmdCopyThenRepeatShort, final]
      rfl
  | copyThenRepeatAgain long loop _ ih =>
      have final := copyLongEnds_iff.mp loop
      have few : ¬ _ ≥ 8 := loop.exit
      simp only [run, cmdCopyThenRepeat, if_pos (Nat.le_of_not_lt few)] at ih
      simp only [run, cmdCopyThenRepeat, if_neg long, final, ih]
      rfl
  | repeatX loop =>
      have final := repeatXLongEnds_iff.mp loop
      simp only [run, cmdRepeatX, final]
      rfl
  | repeatFixed _ ih => simpa only [run, cmdRepeat, if_true] using ih
  | repeatOther other _ ih => simpa only [run, cmdRepeat, if_neg other] using ih
  | repeatOnly short small empty _ ih =>
      simpa only [run, cmdRepeatThenRaw, if_pos short, cmdRepeatThenRawShort, if_pos small,
        if_pos empty] using ih
  | rawOnly short small filled zero =>
      simp only [run, cmdRepeatThenRaw, if_pos short, cmdRepeatThenRawShort, if_pos small,
        if_neg filled, if_pos zero]
  | repeatThenRaw short small filled two =>
      have nonzero : _ ≠ 0 := Nat.pos_iff_ne_zero.mp (Nat.lt_of_lt_of_le Nat.zero_lt_two two)
      simp only [run, cmdRepeatThenRaw, if_pos short, cmdRepeatThenRawShort, if_pos small,
        if_neg filled, if_neg nonzero, if_pos two]
  | onceThenRaw short small filled nonzero one _ ih =>
      simp only [run] at ih
      simp only [run, cmdRepeatThenRaw, if_pos short, cmdRepeatThenRawShort, if_pos small,
        if_neg filled, if_neg nonzero, if_neg one, ih]
      rfl
  | repeatThenRawLong short large two command loop =>
      have final := copyThenRawLongEnds_iff.mp loop
      simp only [run, cmdRepeatThenRaw, if_pos short, cmdRepeatThenRawShort, if_neg large,
        if_pos two, command, final]
      rfl
  | onceThenRawLong short large one nonzero _ loop ih =>
      have final := copyThenRawLongEnds_iff.mp loop
      simp only [run] at ih
      simp only [run, cmdRepeatThenRaw, if_pos short, cmdRepeatThenRawShort, if_neg large,
        if_neg one, if_pos nonzero, ih, final]
      rfl
  | rawOnlyLong short large one zero loop =>
      have final := copyThenRawLongEnds_iff.mp loop
      simp only [run, cmdRepeatThenRaw, if_pos short, cmdRepeatThenRawShort, if_neg large,
        if_neg one, if_neg zero, final]
      rfl
  | repeatThenRawAgain long loop _ ih =>
      have final := copyThenRepeatLongEnds_iff.mp loop
      have few : ¬ _ ≥ 8 := loop.exit
      simp only [run, cmdRepeatThenRaw, if_pos (Nat.le_of_not_lt few)] at ih
      simp only [run, cmdRepeatThenRaw, if_neg long, final, ih]
      rfl

/-- `cmd_CopyThenRaw` ends: at most 7 are left for the call of itself. -/
theorem exists_runs_copyThenRaw (buffer : Buffer) (copyCount : Nat) (rawData : List UInt8)
    : ∃ result, (copyThenRaw copyCount rawData).Runs buffer result := by
  have few (buffer : Buffer) {copyCount : Nat} (short : copyCount ≤ 7)
      : ∃ result, (copyThenRaw copyCount rawData).Runs buffer result :=
    ⟨_, .copyThenRaw short (copyThenRawLongEnds_iff.mpr rfl)⟩
  by_cases short : copyCount ≤ 7
  · exact few buffer short
  · have loop := copyLongEnds_iff.mpr (Eq.refl
      (copyLongLoop copyCount (buffer.assert (rawData.length ≠ 0)) copyCount 0))
    have left : ¬ _ ≥ 8 := loop.exit
    obtain ⟨result, again⟩ := few _ (Nat.le_of_not_lt left)
    exact ⟨_, .copyThenRawAgain short loop again⟩

/-- A copy followed by repeats ends. -/
theorem exists_runs_copyThenRepeat (buffer : Buffer) (copyCount repeatCount : Nat)
    (repeatByte : UInt8)
    : ∃ result, (copyThenRepeat copyCount repeatCount repeatByte).Runs buffer result := by
  have few (buffer : Buffer) {copyCount : Nat} (short : copyCount ≤ 7)
      : ∃ result, (copyThenRepeat copyCount repeatCount repeatByte).Runs buffer result :=
    ⟨_, .copyThenRepeat short (copyThenRepeatLongEnds_iff.mpr rfl)⟩
  by_cases short : copyCount ≤ 7
  · exact few buffer short
  · have loop := copyLongEnds_iff.mpr (Eq.refl
      (copyLongLoop copyCount (buffer.assert (copyCount ≠ 0 ∨ repeatCount ≠ 0)) copyCount 0))
    have left : ¬ _ ≥ 8 := loop.exit
    obtain ⟨result, again⟩ := few _ (Nat.le_of_not_lt left)
    exact ⟨_, .copyThenRepeatAgain short loop again⟩

/-- The cases are those of the source: by the raw data, then by the repeat count. -/
theorem exists_runs_repeatThenRaw_short (buffer : Buffer) {repeatCount : Nat}
    (repeatByte : UInt8) (rawData : List UInt8) (short : repeatCount ≤ 7)
    : ∃ result, (repeatThenRaw repeatCount repeatByte rawData).Runs buffer result := by
  obtain ⟨⟨first, size⟩, call⟩ := exists_runs_copyThenRepeat
    (buffer.assert (repeatCount ≠ 0 ∨ rawData.length ≠ 0)) 0 repeatCount repeatByte
  by_cases small : rawData.length ≤ 7
  · by_cases empty : rawData.length = 0
    · exact ⟨_, .repeatOnly short small empty call⟩
    by_cases zero : repeatCount = 0
    · exact ⟨_, .rawOnly short small empty zero⟩
    by_cases two : repeatCount ≥ 2
    · exact ⟨_, .repeatThenRaw short small empty two⟩
    · exact ⟨_, .onceThenRaw short small empty zero two call⟩
  · have loop (first : Buffer) (rawData : List UInt8) (size : Nat) :=
      copyThenRawLongEnds_iff.mpr
        (Eq.refl (copyThenRawLongLoop rawData.length first 0 rawData size))
    by_cases two : repeatCount ≥ 2
    · exact ⟨_, .repeatThenRawLong short small two rfl (loop _ _ _)⟩
    by_cases zero : repeatCount ≠ 0
    · exact ⟨_, .onceThenRawLong short small two zero call (loop _ _ _)⟩
    · exact ⟨_, .rawOnlyLong short small two zero (loop _ _ _)⟩

/-- Repeats followed by raw bytes end. -/
theorem exists_runs_repeatThenRaw (buffer : Buffer) (repeatCount : Nat)
    (repeatByte : UInt8) (rawData : List UInt8)
    : ∃ result, (repeatThenRaw repeatCount repeatByte rawData).Runs buffer result := by
  by_cases short : repeatCount ≤ 7
  · exact exists_runs_repeatThenRaw_short buffer repeatByte rawData short
  · have loop := copyThenRepeatLongEnds_iff.mpr (Eq.refl
      (copyThenRepeatLongLoop repeatCount
        (buffer.assert (repeatCount ≠ 0 ∨ rawData.length ≠ 0)) 0 repeatCount repeatByte 0))
    have left : ¬ _ ≥ 8 := loop.exit
    obtain ⟨result, again⟩ := exists_runs_repeatThenRaw_short _ repeatByte rawData
      (Nat.le_of_not_lt left)
    exact ⟨_, .repeatThenRawAgain short loop again⟩

/-- Every call ends. -/
theorem exists_runs (call : SplitCall) (buffer : Buffer)
    : ∃ result, call.Runs buffer result := by
  cases call with
  | copy copyCount => exact ⟨_, .copy (copyLongEnds_iff.mpr rfl)⟩
  | copyThenRaw copyCount rawData =>
      exact exists_runs_copyThenRaw buffer copyCount rawData
  | writeRaw rawData =>
      by_cases short : rawData.length ≤ 7
      · exact ⟨_, .writeRaw short⟩
      · exact ⟨_, .writeRawLong short (copyThenRawLongEnds_iff.mpr rfl)⟩
  | copyThenRepeat copyCount repeatCount repeatByte =>
      exact exists_runs_copyThenRepeat buffer copyCount repeatCount repeatByte
  | repeatX repeatCount => exact ⟨_, .repeatX (repeatXLongEnds_iff.mpr rfl)⟩
  | repeats repeatCount repeatByte =>
      by_cases other : repeatByte = ScoaCmd.repeatXByte
      · subst other
        exact ⟨_, .repeatFixed (.repeatX (repeatXLongEnds_iff.mpr rfl))⟩
      · obtain ⟨result, call⟩ := exists_runs_copyThenRepeat
          (buffer.assert (repeatCount ≠ 0)) 0 repeatCount repeatByte
        exact ⟨_, .repeatOther other call⟩
  | repeatThenRaw repeatCount repeatByte rawData =>
      exact exists_runs_repeatThenRaw buffer repeatCount repeatByte rawData

/-- A call ends, in one way, which the model's function computes. -/
theorem runs_iff {call : SplitCall} {buffer : Buffer} {result : Buffer × Nat}
    : call.Runs buffer result ↔ call.run buffer = result := by
  constructor
  · exact Runs.run_eq
  · rintro rfl
    obtain ⟨result, runs⟩ := exists_runs call buffer
    rw [runs.run_eq]
    exact runs

end SplitCall

end Capt.Compression
