import Libcapt.Compression.DecoderStreambuf
import Libcapt.Streams.Invariant

/-! The decoder uses its stream through the reading members alone. What these keep of the
stream is kept however far the decoder is read, and whether it throws.
-/

namespace Capt.Compression.DecoderStreambuf

open Streams

variable {σ : Type} {J : σ → Prop}

/-- The stream that the decoder reads has the property. -/
def Over (J : σ → Prop) (this : DecoderStreambuf σ) : Prop := J this.stream

section Own

/-- The command log is not the stream. -/
theorem keeps_clog (text : String) : Maintains (Over J) (clog text) :=
  .modify fun _ h => h

/-- Neither is the buffer. -/
theorem keeps_insert (data : List UInt8) : Maintains (Over J) (insert data) :=
  .modify fun _ h => h

/-- A check reads nothing. -/
theorem keeps_checkBounds (value min max : Nat) (paramName : String)
    : Maintains (Over J) (checkBounds value min max paramName) :=
  .ite (fun _ => .throw _) (fun _ => .pure _)

/-- `repeat` reads nothing. -/
theorem keeps_repeats (count : Nat) (repeatByte : UInt8)
    : Maintains (Over J) (repeats count repeatByte) :=
  .ite (fun _ => .pure _) (fun _ => keeps_insert _)

/-- `copy` reads only the buffer. -/
theorem keeps_copy (count : Nat) : Maintains (Over J) (copy count) := by
  refine .ite (fun _ => .pure _) (fun _ => .get fun this h => ?_)
  refine Maintains.ite (fun _ => .throw _) (fun _ => .ite (fun _ => .throw _) fun _ => ?_) this h
  exact keeps_insert _

/-- `raw` reads nothing. -/
theorem keeps_raw (data : List UInt8) : Maintains (Over J) (raw data) :=
  .ite (fun _ => .pure _) (fun _ => keeps_insert _)

/-- `endLine` reads only the buffer. -/
theorem keeps_endLine : Maintains (Over J) (endLine : Action (DecoderStreambuf σ) Unit) := by
  refine .get fun this h => ?_
  exact Maintains.ite (fun _ => .throw _) (fun _ => keeps_copy _) this h

/-- A command without operands reads nothing more. -/
theorem keeps_copyLong (cmd : UInt8)
    : Maintains (Over J) (decodeCopyLong cmd : Action (DecoderStreambuf σ) Nat) := by
  refine (keeps_clog _).bind fun _ => (keeps_checkBounds _ _ _ _).bind fun _ => ?_
  exact (keeps_copy _).bind fun _ => .pure _

/-- The end of a page reads nothing. -/
theorem keeps_endPage : Maintains (Over J) (endPage : Action (DecoderStreambuf σ) Bool) := by
  refine .get fun this kept => ?_
  by_cases odd : (this.videoSize + 1) % 2 ≠ 0
  · rw [if_pos odd]
    exact kept
  · rw [if_neg odd]
    exact kept

end Own

section Reading

variable [FiniteSource Fault UInt8 σ]

/-- The reading members keep the property, on every exit. -/
structure Reads (J : σ → Prop) : Prop where
  sgetn : ∀ n, Maintains J (Source.sgetn n : Action σ (List UInt8))
  sbumpc : Maintains J (Source.sbumpc : Action σ (Option UInt8))

/-- Reading a byte is reading the stream. -/
theorem Reads.mustGet (h : Reads J) : Maintains (Over J) mustGet := by
  have taken : Maintains (Over J) (zoom stream
      (fun s (this : DecoderStreambuf σ) => { this with stream := s }) Source.sbumpc) :=
    .zoom fun whole kept => h.sbumpc whole.stream kept
  refine taken.bind fun v => ?_
  cases v with
  | none => exact .throw _
  | some v => exact .pure _

/-- Reading a block is reading the stream. -/
theorem Reads.mustRead (h : Reads J) (n : Nat) : Maintains (Over J) (mustRead n) := by
  have read : Maintains (Over J) (zoom stream
      (fun s (this : DecoderStreambuf σ) => { this with stream := s }) (Source.sgetn n)) :=
    .zoom fun whole kept => h.sgetn n whole.stream kept
  exact read.bind fun _ => .ite (fun _ => .throw _) (fun _ => .pure _)

/-- The extended commands read the stream by `mustGet` and `mustRead` only. -/
theorem Reads.decodeExtended (h : Reads J) (extendCount cmd : UInt8)
    : Maintains (Over J) (decodeExtended extendCount cmd) := by
  refine .ite (fun _ => ?_) fun _ => .ite (fun _ => ?_) fun _ => .ite (fun _ => ?_) fun _ => ?_
  · refine (keeps_clog _).bind fun _ => (keeps_checkBounds _ _ _ _).bind fun _ => ?_
    exact (keeps_repeats _ _).bind fun _ => .pure _
  · refine h.mustGet.bind fun _ => (keeps_clog _).bind fun _ => ?_
    refine (keeps_checkBounds _ _ _ _).bind fun _ => (keeps_checkBounds _ _ _ _).bind fun _ => ?_
    exact (keeps_copy _).bind fun _ => (keeps_repeats _ _).bind fun _ => .pure _
  · refine h.mustGet.bind fun _ => (keeps_clog _).bind fun _ => (h.mustRead _).bind fun _ => ?_
    refine (keeps_checkBounds _ _ _ _).bind fun _ => (keeps_checkBounds _ _ _ _).bind fun _ => ?_
    exact (keeps_repeats _ _).bind fun _ => (keeps_raw _).bind fun _ => .pure _
  · refine (keeps_clog _).bind fun _ => (h.mustRead _).bind fun _ => ?_
    refine (keeps_checkBounds _ _ _ _).bind fun _ => (keeps_checkBounds _ _ _ _).bind fun _ => ?_
    exact (keeps_copy _).bind fun _ => (keeps_raw _).bind fun _ => .pure _

/-- So does `CopyThenRepeat`. -/
theorem Reads.decodeCopyThenRepeat (h : Reads J) (cmd : UInt8)
    : Maintains (Over J) (decodeCopyThenRepeat cmd) := by
  refine h.mustGet.bind fun _ => (keeps_clog _).bind fun _ => ?_
  refine (keeps_checkBounds _ _ _ _).bind fun _ => (keeps_checkBounds _ _ _ _).bind fun _ => ?_
  exact (keeps_copy _).bind fun _ => (keeps_repeats _ _).bind fun _ => .pure _

/-- So does `CopyThenRaw`. -/
theorem Reads.decodeCopyThenRaw (h : Reads J) (cmd : UInt8)
    : Maintains (Over J) (decodeCopyThenRaw cmd) := by
  refine (keeps_clog _).bind fun _ => (h.mustRead _).bind fun _ => ?_
  refine (keeps_checkBounds _ _ _ _).bind fun _ => (keeps_checkBounds _ _ _ _).bind fun _ => ?_
  exact (keeps_copy _).bind fun _ => (keeps_raw _).bind fun _ => .pure _

/-- So do the byte commands whose two highest bits are set. -/
theorem Reads.decodeShort (h : Reads J) (cmd : UInt8)
    : Maintains (Over J) (decodeShort cmd) := by
  refine .ite (fun _ => ?_) fun _ => .ite (fun _ => ?_) fun _ => .ite (fun _ => ?_) fun _ => ?_
  · exact (keeps_clog _).bind fun _ => (keeps_copy _).bind fun _ => .pure _
  · refine (keeps_clog _).bind fun _ => (keeps_checkBounds _ _ _ _).bind fun _ => ?_
    exact (keeps_repeats _ _).bind fun _ => .pure _
  · refine h.mustGet.bind fun _ => (keeps_clog _).bind fun _ => (h.mustRead _).bind fun _ => ?_
    refine (keeps_checkBounds _ _ _ _).bind fun _ => (keeps_checkBounds _ _ _ _).bind fun _ => ?_
    exact (keeps_repeats _ _).bind fun _ => (keeps_raw _).bind fun _ => .pure _
  · exact .throw _

/-- So does every command, by its first byte. -/
theorem Reads.decodeCommand (h : Reads J) (cmd : UInt8)
    : Maintains (Over J) (decodeCommand cmd) := by
  refine .ite (fun _ => ?_) fun _ => .ite (fun _ => ?_) fun _ => .ite (fun _ => ?_) fun _ => ?_
  · exact (keeps_clog _).bind fun _ => .pure _
  · exact (keeps_clog _).bind fun _ => keeps_endLine.bind fun _ => .pure _
  · exact (keeps_clog _).bind fun _ => .pure _
  refine .ite (fun _ => ?_) fun _ => .ite (fun _ => keeps_copyLong _) fun _ => ?_
  · exact (keeps_clog _).bind fun _ => h.mustGet.bind fun cmd => h.decodeExtended _ cmd
  refine .ite (fun _ => h.decodeCopyThenRepeat _) fun _ => ?_
  exact .ite (fun _ => h.decodeCopyThenRaw _) fun _ => h.decodeShort _

/-- A whole command. -/
theorem Reads.decodeNext (h : Reads J) : Maintains (Over J) decodeNext :=
  h.mustGet.bind fun cmd => h.decodeCommand cmd

/-- The loop over the commands of a line, by induction on its turns. -/
theorem Reads.decodeLoop (h : Reads J) (stop fuel : Nat)
    : Maintains (Over J) (decodeLoop stop fuel) := by
  induction fuel with
  | zero =>
      refine .get fun this kept => ?_
      exact Maintains.ite (fun _ => .throw _) (fun _ => .pure _) this kept
  | succ fuel ih =>
      have turn : Maintains (Over J) (do
          let c ← DecoderStreambuf.decodeNext
          modify fun this : DecoderStreambuf σ => { this with videoSize := this.videoSize + c }
          if c = 0 then DecoderStreambuf.endPage
          else DecoderStreambuf.decodeLoop stop fuel) := by
        refine h.decodeNext.bind fun c => Maintains.bind (.modify fun _ kept => kept) fun _ => ?_
        exact .ite (fun _ => keeps_endPage) (fun _ => ih)
      refine .get fun this kept => ?_
      exact Maintains.ite (fun _ => turn) (fun _ => .pure _) this kept

/-- A whole line. -/
theorem Reads.underflow (h : Reads J) : Maintains (Over J) underflow := by
  refine .get fun this kept => ?_
  cases this.area with
  | cons b rest => exact kept
  | nil =>
      have line : Maintains (Over J) (DecoderStreambuf.decodeLine (σ := σ)) :=
        .get fun this kept => h.decodeLoop _ _ this kept
      refine Maintains.bind line (fun whole => ?_) this kept
      cases whole with
      | false => exact .pure _
      | true =>
          refine .get fun this kept => ?_
          dsimp only
          split
          · exact kept
          · exact kept

/-- Reading the decoder to its end keeps the property. -/
theorem Reads.drains (h : Reads J) {this final : DecoderStreambuf σ} {symbols : List UInt8}
    (drains : Drains this symbols final) (kept : J this.stream)
    : J final.stream := by
  have taken : Maintains (Over J)
      (Source.sbumpc : Action (DecoderStreambuf σ) (Option UInt8)) :=
    Streambuf.maintains_sbumpc (fun _ kept => kept) h.underflow
  induction drains with
  | eof run =>
      have last := taken _ kept
      rw [run] at last
      exact last
  | symbol run _ ih =>
      have middle := taken _ kept
      rw [run] at middle
      exact ih middle

end Reading

end Capt.Compression.DecoderStreambuf
