import Libcapt.Compression.ScoaStreambuf
import Libcapt.Streams.Loop

/-! The loops that split long runs, as `while` loops on the buffer, the counts and the size,
and the bounded recursions of the compressor as what they compute.
-/

namespace Capt.Compression

open Streams

/-- One turn of `while (copyCount >= 8)`, on the buffer, the count and the size. -/
def copyLongTurn : Buffer × Nat × Nat → Buffer × Nat × Nat
  | (buffer, copyCount, vsize) =>
    let copy := min copyCount 248
    let copy := copy - copy % 8
    let (buffer, size) := ScoaCmd.copyLong buffer copy
    (buffer, copyCount - copy, vsize + size)

/-- One turn of `while (rawData.size() >= 8)`. Where the source copies nothing in any turn
the count is 0 from the start.
-/
def copyThenRawLongTurn
    : Buffer × Nat × List UInt8 × Nat → Buffer × Nat × List UInt8 × Nat
  | (buffer, copyCount, rawData, vsize) =>
    let count := min rawData.length 255
    let (buffer, size) := ScoaCmd.copyThenRawLong buffer copyCount (rawData.take count)
    (buffer, 0, rawData.drop count, vsize + size)

/-- One turn of `while (repeatCount >= 8)` with a byte to repeat. -/
def copyThenRepeatLongTurn (repeatByte : UInt8)
    : Buffer × Nat × Nat × Nat → Buffer × Nat × Nat × Nat
  | (buffer, copyCount, repeatCount, vsize) =>
    let rep := min repeatCount 255
    let (buffer, size) := ScoaCmd.copyThenRepeatLong buffer copyCount rep repeatByte
    (buffer, 0, repeatCount - rep, vsize + size)

/-- One turn of `while (repeatCount >= 8)` with the fixed byte. -/
def repeatXLongTurn : Buffer × Nat × Nat → Buffer × Nat × Nat
  | (buffer, repeatCount, vsize) =>
    let rep := min repeatCount 255
    let (buffer, size) := ScoaCmd.repeatXLong buffer rep
    (buffer, repeatCount - rep, vsize + size)

/-- How the loop over long copies ends, in any number of turns. -/
abbrev CopyLongEnds : Buffer × Nat × Nat → Buffer × Nat × Nat → Prop :=
  WhileEnds (fun (_, copyCount, _) => copyCount ≥ 8) copyLongTurn

/-- How the loop over long raw stretches ends. -/
abbrev CopyThenRawLongEnds
    : Buffer × Nat × List UInt8 × Nat → Buffer × Nat × List UInt8 × Nat → Prop :=
  WhileEnds (fun (_, _, rawData, _) => rawData.length ≥ 8) copyThenRawLongTurn

/-- How the loop over long repeats ends. -/
abbrev CopyThenRepeatLongEnds (repeatByte : UInt8)
    : Buffer × Nat × Nat × Nat → Buffer × Nat × Nat × Nat → Prop :=
  WhileEnds (fun (_, _, repeatCount, _) => repeatCount ≥ 8)
    (copyThenRepeatLongTurn repeatByte)

/-- How the loop over the fixed byte ends. -/
abbrev RepeatXLongEnds : Buffer × Nat × Nat → Buffer × Nat × Nat → Prop :=
  WhileEnds (fun (_, repeatCount, _) => repeatCount ≥ 8) repeatXLongTurn

/-- Each turn takes something off the count, so the bounded recursion is the loop. -/
theorem copyLongLoop_isBounded
    : IsBounded (fun (_, copyCount, _) => copyCount ≥ 8) copyLongTurn
        (fun (_, copyCount, _) => copyCount)
        fun fuel (buffer, copyCount, vsize) => copyLongLoop fuel buffer copyCount vsize where
  zero _ := rfl
  exit _ _ short := if_neg short
  turn _ _ long := (if_pos long).trans rfl
  smaller := by
    rintro ⟨buffer, copyCount, vsize⟩ long
    simp only [copyLongTurn]
    omega

/-- Every turn writes at least eight bytes of those that are left. -/
theorem copyThenRawLongLoop_isBounded
    : IsBounded (fun (_, _, rawData, _) => rawData.length ≥ 8) copyThenRawLongTurn
        (fun (_, _, rawData, _) => rawData.length)
        fun fuel (buffer, copyCount, rawData, vsize) =>
          copyThenRawLongLoop fuel buffer copyCount rawData vsize where
  zero _ := rfl
  exit _ _ short := if_neg short
  turn _ _ long := (if_pos long).trans rfl
  smaller := by
    rintro ⟨buffer, copyCount, rawData, vsize⟩ long
    simp only [copyThenRawLongTurn, List.length_drop]
    omega

/-- Every turn takes at least eight of the repeats that are left. -/
theorem copyThenRepeatLongLoop_isBounded (repeatByte : UInt8)
    : IsBounded (fun (_, _, repeatCount, _) => repeatCount ≥ 8)
        (copyThenRepeatLongTurn repeatByte) (fun (_, _, repeatCount, _) => repeatCount)
        fun fuel (buffer, copyCount, repeatCount, vsize) =>
          copyThenRepeatLongLoop fuel buffer copyCount repeatCount repeatByte vsize where
  zero _ := rfl
  exit _ _ short := if_neg short
  turn _ _ long := (if_pos long).trans rfl
  smaller := by
    rintro ⟨buffer, copyCount, repeatCount, vsize⟩ long
    simp only [copyThenRepeatLongTurn]
    omega

/-- So does every turn over the fixed byte. -/
theorem repeatXLongLoop_isBounded
    : IsBounded (fun (_, repeatCount, _) => repeatCount ≥ 8) repeatXLongTurn
        (fun (_, repeatCount, _) => repeatCount)
        fun fuel (buffer, repeatCount, vsize) =>
          repeatXLongLoop fuel buffer repeatCount vsize where
  zero _ := rfl
  exit _ _ short := if_neg short
  turn _ _ long := (if_pos long).trans rfl
  smaller := by
    rintro ⟨buffer, repeatCount, vsize⟩ long
    simp only [repeatXLongTurn]
    omega

/-- The loop ends in one way, which its bounded recursion computes. -/
theorem copyLongEnds_iff {buffer : Buffer} {copyCount vsize : Nat}
    {final : Buffer × Nat × Nat}
    : CopyLongEnds (buffer, copyCount, vsize) final
      ↔ copyLongLoop copyCount buffer copyCount vsize = final :=
  copyLongLoop_isBounded.ends_iff (Nat.le_refl copyCount)

/-- The loop ends as the model with fuel says. -/
theorem copyThenRawLongEnds_iff {buffer : Buffer} {copyCount vsize : Nat}
    {rawData : List UInt8} {final : Buffer × Nat × List UInt8 × Nat}
    : CopyThenRawLongEnds (buffer, copyCount, rawData, vsize) final
      ↔ copyThenRawLongLoop rawData.length buffer copyCount rawData vsize = final :=
  copyThenRawLongLoop_isBounded.ends_iff (Nat.le_refl rawData.length)

/-- So does the one over long repeats. -/
theorem copyThenRepeatLongEnds_iff {repeatByte : UInt8} {buffer : Buffer}
    {copyCount repeatCount vsize : Nat} {final : Buffer × Nat × Nat × Nat}
    : CopyThenRepeatLongEnds repeatByte (buffer, copyCount, repeatCount, vsize) final
      ↔ copyThenRepeatLongLoop repeatCount buffer copyCount repeatCount repeatByte vsize
        = final :=
  (copyThenRepeatLongLoop_isBounded repeatByte).ends_iff (Nat.le_refl repeatCount)

/-- So does the one over the fixed byte. -/
theorem repeatXLongEnds_iff {buffer : Buffer} {repeatCount vsize : Nat}
    {final : Buffer × Nat × Nat}
    : RepeatXLongEnds (buffer, repeatCount, vsize) final
      ↔ repeatXLongLoop repeatCount buffer repeatCount vsize = final :=
  repeatXLongLoop_isBounded.ends_iff (Nat.le_refl repeatCount)

end Capt.Compression
