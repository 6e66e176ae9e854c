import Libcapt.Utility.Cropping

/-! When a read of a cropped raster is short although the corners hold more bytes. -/

namespace Capt.Utility.CropStreambuf

open Streams

variable {σ : Type} [Source Fault UInt8 σ]

/-- The states of a reader in use, with the bytes that it has delivered. -/
inductive Reachable (frame : Frame) (content : List UInt8)
    : CropStreambuf σ → List UInt8 → Prop
  | constructed {rasterStream : σ} (source : Supplies rasterStream content)
    : Reachable frame content
        (construct rasterStream frame.origLineSize frame.origLines frame.cropLineSize
          frame.cropLines) []
  | sgetn {this this' : CropStreambuf σ} {delivered data : List UInt8} {n : Nat}
    (h : Reachable frame content this delivered) (some : 1 ≤ n)
    (run : (Source.sgetn n).run this = .ok data this')
    : Reachable frame content this' (delivered ++ data)
  | sbumpc {this this' : CropStreambuf σ} {delivered : List UInt8} {c : Option UInt8}
    (h : Reachable frame content this delivered) (run : Source.sbumpc.run this = .ok c this')
    : Reachable frame content this' (delivered ++ c.toList)
  | sgetc {this this' : CropStreambuf σ} {delivered : List UInt8} {c : Option UInt8}
    (h : Reachable frame content this delivered) (run : Source.sgetc.run this = .ok c this')
    : Reachable frame content this' delivered

variable {frame : Frame} {content : List UInt8} {this : CropStreambuf σ}
  {delivered : List UInt8}

/-- Every reachable state is between reads. -/
theorem Reachable.at (h : Reachable frame content this delivered)
    : ∃ page, At frame content this page delivered := by
  induction h with
  | constructed source => exact ⟨0, construct_at source⟩
  | sgetn _ some run ih =>
      obtain ⟨page, place⟩ := ih
      obtain ⟨data, this', page', read, after, _⟩ := place.xsgetn some
      cases read.symm.trans run
      exact ⟨page', after⟩
  | sbumpc _ run ih =>
      obtain ⟨page, place⟩ := ih
      obtain ⟨this', page', read, after⟩ := place.uflow
      cases read.symm.trans run
      exact ⟨page', after⟩
  | sgetc _ run ih =>
      obtain ⟨page, place⟩ := ih
      obtain ⟨s, read, _, after⟩ := place.underflow
      cases read.symm.trans run
      exact ⟨page, after⟩

/-- The read asks for all the bytes when their number does not wrap and they either are in
the row or are more than a row.
-/
theorem reach_eq_iff (frame : Frame) {n column : Nat} (inside : column < frame.cropLineSize)
    : frame.reach n column = n
      ↔ n < 2 ^ 32 ∧ (frame.cropLineSize < n ∨ column + n ≤ frame.cropLineSize) := by
  have le := frame.lineSize_le
  have small := frame.lineSize_small
  unfold Frame.reach unsigned
  split <;> omega

/-- In every reachable state, a read of `n` bytes gives `n` or all that remain if and only
if it asks for all of them, or no more remain than it asks for.
-/
theorem sgetn_full_iff (reachable : Reachable frame content this delivered) {n : Nat}
    (some : 1 ≤ n)
    : ∃ data this', (Source.sgetn n).run this = .ok data this'
        ∧ delivered ++ data <+: frame.crop content
        ∧ (data.length = min n ((frame.crop content).length - delivered.length)
            ↔ (n < 2 ^ 32
                ∧ (frame.cropLineSize < n ∨ this.lineRead + n ≤ frame.cropLineSize))
              ∨ (frame.crop content).length - delivered.length
                  ≤ frame.reach n this.lineRead) := by
  obtain ⟨page, place⟩ := reachable.at
  obtain ⟨data, this', page', run, after, length⟩ := place.xsgetn some
  have le := frame.reach_le n this.lineRead
  refine ⟨data, this', run, after.isPrefix, ?_⟩
  rw [← reach_eq_iff frame place.column, length, Frame.left]
  omega

/-- A read of no more than a row is a read within the row. -/
theorem run_xsgetn_row {n : Nat} (some : n ≠ 0) (row : unsigned n ≤ this.cropLineSize)
    : (CropStreambuf.xsgetn n).run this = (readLine n).run this := by
  obtain ⟨fuel, rfl⟩ := Nat.exists_eq_succ_of_ne_zero some
  have short : ¬ unsigned (fuel + 1) > this.cropLineSize := Nat.not_lt.mpr row
  rw [CropStreambuf.xsgetn, if_neg some, CropStreambuf.xsgetnLoop, run_get_bind, if_neg short]

/-- Pages of two by two bytes, taken whole. -/
def square : Frame :=
  {
    origLineSize := 2
    origLines := 2
    cropLineSize := 2
    cropLines := 2
    lineSize_pos := by decide
    lineSize_le := by decide
    lines_pos := by decide
    lines_le := by decide
    lineSize_small := by decide
    lines_small := by decide
  }

/-- The state before the first read. -/
theorem square_reachable
    : Reachable square [1, 2, 3, 4] (construct (⟨[1, 2, 3, 4]⟩ : MemoryStreambuf) 2 2 2 2) [] :=
  .constructed (MemoryStreambuf.supplies [1, 2, 3, 4])

/-- Three bytes of a new reader, which are more than a row. -/
theorem sgetn_full_iff_square
    : ∃ data this',
        (Source.sgetn 3).run (construct (⟨[1, 2, 3, 4]⟩ : MemoryStreambuf) 2 2 2 2)
            = .ok data this'
        ∧ [] ++ data <+: square.crop [1, 2, 3, 4]
        ∧ (data.length = min 3 ((square.crop [1, 2, 3, 4]).length - 0)
            ↔ (3 < 2 ^ 32 ∧ (square.cropLineSize < 3 ∨ 0 + 3 ≤ square.cropLineSize))
              ∨ (square.crop [1, 2, 3, 4]).length - 0 ≤ square.reach 3 0) :=
  sgetn_full_iff square_reachable (by decide : 1 ≤ 3)

/-- One byte is read, and then two are asked for. -/
theorem sgetn_short
    : ¬ ∀ (frame : Frame) (content : List UInt8) (this : CropStreambuf MemoryStreambuf)
          (delivered : List UInt8), Reachable frame content this delivered → ∀ n, 1 ≤ n →
          ∃ data this', (Source.sgetn n).run this = .ok data this'
            ∧ data.length = min n ((frame.crop content).length - delivered.length) := by
  intro full
  have first : (Source.sgetn 1).run (construct (⟨[1, 2, 3, 4]⟩ : MemoryStreambuf) 2 2 2 2)
      = .ok [1] ((construct ⟨[2, 3, 4]⟩ 2 2 2 2).moved ⟨[2, 3, 4]⟩ 0 1) := by
    have size : min (unsigned 1) (unsignedSub 2 0) = 1 := by decide +kernel
    have column : unsigned (0 + 1) = 1 := by decide +kernel
    have read : (Source.sgetn 1).run (⟨[1, 2, 3, 4]⟩ : MemoryStreambuf) = .ok [1] ⟨[2, 3, 4]⟩ :=
      rfl
    refine (run_xsgetn_row Nat.one_ne_zero (by decide)).trans ?_
    rw [run_readLine size read column]
    rfl
  have reachable := square_reachable.sgetn (Nat.le_refl 1) first
  obtain ⟨page, place⟩ := reachable.at
  obtain ⟨data, this', page', run, _, length⟩ := place.xsgetn (by decide : 1 ≤ 2)
  obtain ⟨other, this'', run', all⟩ := full _ _ _ _ reachable 2 (by decide)
  cases run.symm.trans run'
  have short : min (square.reach 2 1) (square.left [1, 2, 3, 4] ([] ++ [1])) = 1 := by
    decide +kernel
  have asked : min 2 ((square.crop [1, 2, 3, 4]).length - ([] ++ [(1 : UInt8)]).length) = 2 := by
    decide +kernel
  rw [asked] at all
  have one := length.trans short
  omega

end Capt.Utility.CropStreambuf
