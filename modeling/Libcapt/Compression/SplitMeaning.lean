import Libcapt.Compression.SplitRuns
import Libcapt.Compression.Splitting

/-! What the calls of the splitting helpers write, and which of them keep to the assertions
of the helpers. The two differ: a helper may call itself with nothing left to write, where
its own assertion fails although the output is right.
-/

namespace Capt.Compression

/-- A helper given `buffer` appended the bytes of commands that mean the copy and then the
data, and returned their number. Assertions are not looked at.
-/
def Writes (buffer : Buffer) (result : Buffer × Nat) (copyCount : Nat) (data : List UInt8)
    : Prop :=
  ∃ cmds, result.1.bytes = buffer.bytes ++ encode cmds
    ∧ result.2 = (encode cmds).length
    ∧ Splits cmds copyCount data

/-- What is emitted is written. -/
theorem Emitted.writes {buffer : Buffer} {result : Buffer × Nat} {copyCount : Nat}
    {data : List UInt8} (h : Emitted buffer result copyCount data)
    : Writes buffer result copyCount data := by
  obtain ⟨cmds, rfl, meaning⟩ := h
  exact ⟨cmds, rfl, rfl, meaning⟩

/-- Emitting meets every assertion. -/
theorem Emitted.asserted {buffer : Buffer} {result : Buffer × Nat} {copyCount : Nat}
    {data : List UInt8} (h : Emitted buffer result copyCount data)
    : result.1.asserted = buffer.asserted := by
  obtain ⟨cmds, rfl, _⟩ := h
  rfl

/-- A helper did the same, but one of the assertions on the way failed. -/
def Failed (buffer : Buffer) (result : Buffer × Nat) (copyCount : Nat) (data : List UInt8)
    : Prop :=
  ∃ final, Emitted buffer (final, result.2) copyCount data
    ∧ result.1 = { final with asserted := false }

/-- A call that fails an assertion still writes what it should. -/
theorem Failed.writes {buffer : Buffer} {result : Buffer × Nat} {copyCount : Nat}
    {data : List UInt8} (h : Failed buffer result copyCount data)
    : Writes buffer result copyCount data := by
  obtain ⟨final, emitted, same⟩ := h
  rw [Writes, same]
  exact emitted.writes

/-- When repeats are left behind the loop. -/
theorem repeatsLeft_ne_zero_iff {repeatCount : Nat}
    : repeatsLeft repeatCount ≠ 0 ↔ 1 ≤ repeatCount % 255 ∧ repeatCount % 255 ≤ 7 := by
  unfold repeatsLeft
  split <;> omega

/-- With nothing left to write the assertion fails. -/
theorem cmdCopyThenRepeatShort_nothing (buffer : Buffer) (repeatByte : UInt8)
    : cmdCopyThenRepeatShort buffer 0 0 repeatByte
      = ({ buffer with asserted := false }, 0) := by
  simp [cmdCopyThenRepeatShort, copyThenRepeatLongLoop, Buffer.assert]

/-- The copies leave nothing for the call of the helper by itself. -/
theorem cmdCopyThenRepeat_failed (buffer : Buffer) {copyCount : Nat} (repeatByte : UInt8)
    (some : copyCount ≠ 0) (whole : copyCount % 8 = 0)
    : Failed buffer (cmdCopyThenRepeat buffer copyCount 0 repeatByte) copyCount [] := by
  have long : ¬ copyCount ≤ 7 := by omega
  obtain ⟨final, size, run, emitted⟩ :=
    copyLongLoop_emitted copyCount buffer 0 (Nat.le_refl copyCount)
  rw [whole, Nat.zero_add] at run
  rw [whole, Nat.sub_zero] at emitted
  rw [cmdCopyThenRepeat, if_neg long, Buffer.assert_of (Or.inl some)]
  simp only [run, cmdCopyThenRepeatShort_nothing]
  exact ⟨final, emitted, rfl⟩

/-- The repetitions leave nothing for the call of the helper by itself. -/
theorem cmdRepeatThenRaw_failed (buffer : Buffer) {repeatCount : Nat} (repeatByte : UInt8)
    (some : repeatCount ≠ 0) (none : repeatsLeft repeatCount = 0)
    : Failed buffer (cmdRepeatThenRaw buffer repeatCount repeatByte []) 0
        (List.replicate repeatCount repeatByte) := by
  have long : ¬ repeatCount ≤ 7 := by
    intro short
    rw [repeatsLeft_of_le short] at none
    exact some none
  obtain ⟨final, size, copyLeft, written, rest, run, split, left, result⟩ :=
    copyThenRepeatLongLoop_emitted repeatCount buffer repeatByte 0 (Nat.zero_le 7)
      (Nat.le_refl repeatCount)
  obtain rfl : rest = 0 := left.trans none
  obtain rfl : written = repeatCount := split
  have emitted := result.emitted
  rw [Nat.zero_sub] at emitted
  rw [Nat.zero_add] at run
  rw [cmdRepeatThenRaw, if_neg long, Buffer.assert_of (Or.inl some)]
  simp only [run, cmdRepeatThenRawShort, cmdCopyThenRepeat, List.length_nil, Nat.zero_le,
    ↓reduceIte, cmdCopyThenRepeatShort_nothing]
  exact ⟨final, emitted, rfl⟩

namespace SplitCall

/-- The number of bytes that the call is to copy from the row above, before any others. -/
def copied : SplitCall → Nat
  | copy copyCount | copyThenRaw copyCount _ | copyThenRepeat copyCount _ _ => copyCount
  | writeRaw _ | repeatX _ | repeats _ _ | repeatThenRaw _ _ _ => 0

/-- The bytes that the call is to append after the copy. -/
def data : SplitCall → List UInt8
  | copy _ => []
  | copyThenRaw _ rawData | writeRaw rawData => rawData
  | copyThenRepeat _ repeatCount repeatByte | repeats repeatCount repeatByte =>
      List.replicate repeatCount repeatByte
  | repeatX repeatCount => List.replicate repeatCount ScoaCmd.repeatXByte
  | repeatThenRaw repeatCount repeatByte rawData =>
      List.replicate repeatCount repeatByte ++ rawData

/-- Something is left for the call of the helper by itself, where it makes one: copies take
multiples of 8, and repetitions 255 at once as long as they can and the rest if it is 8 or
more.
-/
def Leftover : SplitCall → Prop
  | copyThenRepeat copyCount repeatCount _ => copyCount % 8 ≠ 0 ∨ repeatCount ≠ 0
  | repeatThenRaw repeatCount _ rawData =>
      (1 ≤ repeatCount % 255 ∧ repeatCount % 255 ≤ 7) ∨ rawData.length ≠ 0
  | copy _ | copyThenRaw _ _ | writeRaw _ | repeatX _ | repeats _ _ => True

/-- A call that leaves something for the last command. -/
theorem run_emitted {call : SplitCall} (buffer : Buffer) (accepts : call.Accepts)
    (left : call.Leftover)
    : Emitted buffer (call.run buffer) call.copied call.data := by
  cases call with
  | copy copyCount => exact cmdCopy_emitted buffer accepts
  | copyThenRaw copyCount rawData => exact cmdCopyThenRaw_emitted buffer copyCount accepts
  | writeRaw rawData => exact cmdWriteRaw_emitted buffer accepts
  | copyThenRepeat copyCount repeatCount repeatByte =>
      exact cmdCopyThenRepeat_emitted buffer copyCount repeatByte left
  | repeatX repeatCount => exact cmdRepeatX_emitted buffer accepts
  | repeats repeatCount repeatByte => exact cmdRepeat_emitted buffer repeatByte accepts
  | repeatThenRaw repeatCount repeatByte rawData =>
      exact cmdRepeatThenRaw_emitted buffer repeatCount repeatByte
        (left.imp_left repeatsLeft_ne_zero_iff.mpr)

/-- A call that leaves nothing. -/
theorem run_failed {call : SplitCall} (buffer : Buffer) (accepts : call.Accepts)
    (nothing : ¬ call.Leftover)
    : Failed buffer (call.run buffer) call.copied call.data := by
  cases call with
  | copyThenRepeat copyCount repeatCount repeatByte =>
      simp only [Leftover, not_or, not_not] at nothing
      obtain ⟨whole, rfl⟩ := nothing
      have some : copyCount ≠ 0 := accepts.resolve_right (not_not_intro rfl)
      exact cmdCopyThenRepeat_failed buffer repeatByte some whole
  | repeatThenRaw repeatCount repeatByte rawData =>
      simp only [Leftover, not_or, not_not] at nothing
      obtain ⟨left, empty⟩ := nothing
      obtain rfl := List.length_eq_zero_iff.mp empty
      have some : repeatCount ≠ 0 := accepts.resolve_right (not_not_intro rfl)
      have none := not_not.mp (mt repeatsLeft_ne_zero_iff.mp left)
      rw [data, List.append_nil]
      exact cmdRepeatThenRaw_failed buffer repeatByte some none
  | copy _ | copyThenRaw _ _ | writeRaw _ | repeatX _ | repeats _ _ =>
      exact absurd trivial nothing

/-- Every accepted call ends, in the way that the compressor computes, and with assertions
compiled out it writes the copy and then the data.
-/
theorem splits (call : SplitCall) (buffer : Buffer) (accepts : call.Accepts)
    : (∀ result, call.Runs buffer result ↔ call.run buffer = result)
      ∧ Writes buffer (call.run buffer) call.copied call.data := by
  refine ⟨fun result => runs_iff, ?_⟩
  by_cases left : call.Leftover
  · exact (run_emitted buffer accepts left).writes
  · exact (run_failed buffer accepts left).writes

/-- A count that takes every branch of the loops: 300 copies and 520 repetitions. -/
theorem splits_copyThenRepeat
    : (∀ result, (copyThenRepeat 300 520 0x11).Runs {} result
          ↔ (copyThenRepeat 300 520 0x11).run {} = result)
      ∧ Writes {} ((copyThenRepeat 300 520 0x11).run {}) 300 (List.replicate 520 0x11) :=
  splits (copyThenRepeat 300 520 0x11) {} (Or.inl (by decide))

/-- No assertion fails in an accepted call, directly or in the calls it makes, exactly when
something is left for the call of the helper by itself.
-/
theorem asserted_iff (call : SplitCall) {buffer : Buffer} (accepts : call.Accepts)
    (asserted : buffer.asserted = true)
    : (∀ result, call.Runs buffer result → result.1.asserted = true) ↔ call.Leftover := by
  simp only [runs_iff, forall_eq']
  constructor
  · intro holds
    by_contra nothing
    obtain ⟨final, _, same⟩ := run_failed buffer accepts nothing
    rw [same] at holds
    cases holds
  · intro left
    exact (run_emitted buffer accepts left).asserted.trans asserted

/-- At ten bytes, eight of which are copied. -/
theorem asserted_iff_copyThenRepeat
    : (∀ result, (copyThenRepeat 8 2 0x11).Runs {} result → result.1.asserted = true)
      ↔ (copyThenRepeat 8 2 0x11).Leftover :=
  asserted_iff (copyThenRepeat 8 2 0x11) (Or.inl (by decide)) rfl

/-- Eight copies alone, and eight repetitions alone, fail an assertion. -/
theorem not_asserted_eight
    : ¬ ((copyThenRepeat 8 0 0x11).Accepts →
          ∀ result, (copyThenRepeat 8 0 0x11).Runs {} result → result.1.asserted = true)
      ∧ ¬ ((repeatThenRaw 8 0x11 []).Accepts →
          ∀ result, (repeatThenRaw 8 0x11 []).Runs {} result → result.1.asserted = true) := by
  constructor
  · intro closed
    have holds := closed (by decide) _ (runs_iff.mpr rfl)
    exact absurd holds (by decide)
  · intro closed
    have holds := closed (by decide) _ (runs_iff.mpr rfl)
    exact absurd holds (by decide)

end SplitCall

end Capt.Compression
