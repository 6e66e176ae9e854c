import Libcapt.Compression.RoundTrip
import Libcapt.Streams.Comparison

/-! When a compressor that is reset behaves like a new one. -/

namespace Capt.Compression.ScoaStreambuf

open Streams

variable {σ : Type}

/-- What is left of earlier pages, in the lines and in the buffer, makes no difference. -/
structure Alike (this other : ScoaStreambuf σ) : Prop where
  left : this.Sound
  right : other.Sound
  rasterStream : this.rasterStream = other.rasterStream
  linesRemain : this.linesRemain = other.linesRemain
  videoSize : this.videoSize = other.videoSize
  area : this.area = other.area
  size : this.currLine.length = other.currLine.length
  above : this.above = other.above

/-- Two compressors that are alike stay so when both read the same. -/
theorem Alike.afterRead {this other : ScoaStreambuf σ} (h : Alike this other) (raster : σ)
    {data : List UInt8} (le : data.length ≤ this.currLine.length)
    : Alike (this.afterRead raster data) (other.afterRead raster data) := by
  have le' : data.length ≤ other.currLine.length := by
    rwa [← h.size]
  refine ⟨h.left.afterRead raster le, h.right.afterRead raster le', rfl, h.linesRemain,
    h.videoSize, h.area, ?_, h.above⟩
  rw [length_afterRead this raster le, length_afterRead other raster le', h.size]

/-- They compress a line to the same bytes. -/
theorem Alike.lineBytes {this other : ScoaStreambuf σ} (h : Alike this other)
    (line : List UInt8)
    : this.lineBytes line = other.lineBytes line := by
  simp only [ScoaStreambuf.lineBytes, h.above, h.linesRemain, h.videoSize]

/-- They stay alike behind a line. -/
theorem Alike.filled {this other : ScoaStreambuf σ} (h : Alike this other) (raster : σ)
    {line : List UInt8} (full : line.length = this.currLine.length)
    (nonempty : 0 < line.length)
    : Alike (this.filled raster line) (other.filled raster line) := by
  have full' := full.trans h.size
  have left := h.left.afterLine full
  have right := h.right.afterLine full'
  refine ⟨⟨left.asserted, left.small, left.above⟩, ⟨right.asserted, right.small, right.above⟩,
    rfl, ?_, ?_, h.lineBytes line, ?_, ?_⟩
  · exact congrArg (· - 1) h.linesRemain
  · change this.videoSize + _ = other.videoSize + _
    rw [h.videoSize, h.above]
  · simp only [ScoaStreambuf.filled, ScoaStreambuf.afterLine, length_resize]
  · rw [filled_above h.left raster full nonempty, filled_above h.right raster full' nonempty]

/-- Either one may be named first. -/
theorem Alike.symm {this other : ScoaStreambuf σ} (h : Alike this other) : Alike other this :=
  ⟨h.right, h.left, h.rasterStream.symm, h.linesRemain.symm, h.videoSize.symm, h.area.symm,
    h.size.symm, h.above.symm⟩

/-- The compressor once its get area is read. -/
def emptied (this : ScoaStreambuf σ) : ScoaStreambuf σ := { this with area := [] }

/-- Apart from the get area, a compressor that is reset is like a new one. -/
theorem Sound.reset_alike {this : ScoaStreambuf σ} (h : this.Sound) (rasterStream : σ)
    {lineSize : Nat} (lines : Nat) (small : lineSize < 2 ^ 32)
    : Alike (this.reset rasterStream lineSize lines).emptied
        (construct rasterStream lineSize lines) := by
  have reset := h.reset rasterStream lines small
  refine ⟨⟨reset.asserted, reset.small, reset.above⟩, construct_sound rasterStream lines small,
    rfl, rfl, rfl, rfl, ?_, rfl⟩
  change (resize this.currLine lineSize).length = (List.replicate lineSize (0 : UInt8)).length
  rw [length_resize, List.length_replicate]

variable [Source Fault UInt8 σ]

/-- What `underflow` does when the get area is empty, by what the raster does. -/
inductive Underflow (this : ScoaStreambuf σ)
    : EStateM.Result Fault (ScoaStreambuf σ) (Option UInt8) → Prop
  | stop (stop : this.linesRemain = 0) : Underflow this (.ok none this)
  | null (lines : this.linesRemain ≠ 0) (source : this.rasterStream = none)
    : Underflow this (.error (.undefinedBehaviour "rasterStream is null") this)
  | thrown {raster raster' err} (lines : this.linesRemain ≠ 0)
    (source : this.rasterStream = some raster)
    (read : (Source.sgetn this.currLine.length).run raster = .error err raster')
    : Underflow this (.error err { this with rasterStream := some raster' })
  | short {raster raster' data} (lines : this.linesRemain ≠ 0)
    (source : this.rasterStream = some raster)
    (read : (Source.sgetn this.currLine.length).run raster = .ok data raster')
    (short : data.length < this.currLine.length)
    : Underflow this (.ok none (this.afterRead raster' data))
  | empty {raster raster'} (lines : this.linesRemain ≠ 0)
    (source : this.rasterStream = some raster)
    (read : (Source.sgetn this.currLine.length).run raster = .ok [] raster')
    (none : this.currLine = [])
    : Underflow this (.error .unfinished (this.afterRead raster' []))
  | line {raster raster' line} (lines : this.linesRemain ≠ 0)
    (source : this.rasterStream = some raster)
    (read : (Source.sgetn this.currLine.length).run raster = .ok line raster')
    (full : line.length = this.currLine.length) (nonempty : 0 < line.length)
    : Underflow this (.ok (this.lineBytes line).head? (this.filled raster' line))

/-- What `underflow` does to a compressor that is sound, by cases on what is left. -/
theorem Sound.underflow (bounded : Bounded σ) {this : ScoaStreambuf σ} (h : this.Sound)
    (empty : this.area = [])
    : Underflow this (ScoaStreambuf.underflow.run this) := by
  by_cases stop : this.linesRemain = 0
  · rw [run_underflow_stop empty stop]
    exact .stop stop
  cases source : this.rasterStream with
  | none =>
      rw [run_underflow_null empty stop source]
      exact .null stop source
  | some raster =>
      cases read : (Source.sgetn this.currLine.length).run raster with
      | error err raster' =>
          rw [run_underflow_error empty stop source read]
          exact .thrown stop source read
      | ok data raster' =>
          have le := bounded read
          rcases Nat.lt_or_ge data.length this.currLine.length with short | full
          · rw [run_underflow_short empty stop source read short]
            exact .short stop source read short
          have size : data.length = this.currLine.length := Nat.le_antisymm le full
          rcases Nat.eq_zero_or_pos data.length with none | some
          · have noLine : this.currLine = [] :=
              List.length_eq_zero_iff.mp (size.symm.trans none)
            obtain rfl := List.length_eq_zero_iff.mp none
            rw [run_underflow_empty empty stop source read noLine]
            exact .empty stop source read noLine
          · rw [run_underflow_line h empty stop source read size some]
            exact .line stop source read size some

/-- The states of a compressor that is constructed, reset and read in any order. -/
inductive Reachable : ScoaStreambuf σ → Prop
  | constructed {this} (h : Constructed this) : Reachable this
  | reset {this} (h : Reachable this) (rasterStream : σ) {lineSize : Nat} (lines : Nat)
    (small : lineSize < 2 ^ 32)
    : Reachable (this.reset rasterStream lineSize lines)
  | sbumpc {this} (h : Reachable this) : Reachable (after (Streambuf.sbumpc.run this))
  | sgetc {this} (h : Reachable this) : Reachable (after (Streambuf.sgetc.run this))
  | sgetn {this} (h : Reachable this) (n : Nat)
    : Reachable (after ((Streambuf.xsgetn n).run this))

/-- Whatever the raster does, the compressor stays sound. -/
theorem sound_preserved (bounded : Bounded σ) : Streambuf.Preserves (Sound (σ := σ)) := by
  refine ⟨?_, ?_⟩
  · intro this h n
    exact ⟨h.asserted, h.small, h.above⟩
  · intro this h
    change (after (ScoaStreambuf.underflow.run this)).Sound
    by_cases empty : this.area = []
    · have step := h.underflow bounded empty
      generalize run : ScoaStreambuf.underflow.run this = result at step
      cases step with
      | stop _ => exact h
      | null _ _ => exact h
      | thrown _ _ _ => exact ⟨h.asserted, h.small, h.above⟩
      | short _ _ read _ => exact h.afterRead _ (bounded read)
      | empty _ _ read _ => exact h.afterRead _ (bounded read)
      | line _ _ _ full _ =>
          have sound := h.afterLine full
          exact ⟨sound.asserted, sound.small, sound.above⟩
    · obtain ⟨b, rest, some⟩ := List.exists_cons_of_ne_nil empty
      rw [run_underflow_area some]
      exact h

/-- No reachable compressor has failed an assertion, by induction on what was done. -/
theorem Reachable.sound (bounded : Bounded σ) {this : ScoaStreambuf σ} (h : this.Reachable)
    : this.Sound := by
  induction h with
  | constructed h => exact h.idle.sound
  | reset _ rasterStream lines small ih => exact ih.reset rasterStream lines small
  | sbumpc _ ih => exact (sound_preserved bounded).sbumpc ih
  | sgetc _ ih => exact (sound_preserved bounded).sgetc ih
  | sgetn _ n ih => exact (sound_preserved bounded).xsgetn n ih

/-- Both give the same and stay alike. -/
theorem Alike.underflow (bounded : Bounded σ) {this other : ScoaStreambuf σ}
    (h : Alike this other) (empty : this.area = [])
    : Streambuf.Agree Alike (ScoaStreambuf.underflow.run this)
        (ScoaStreambuf.underflow.run other) := by
  have empty' := h.area.symm.trans empty
  have lines' (lines : this.linesRemain ≠ 0) : other.linesRemain ≠ 0 := by
    rwa [← h.linesRemain]
  have step := h.left.underflow bounded empty
  generalize ScoaStreambuf.underflow.run this = result at step
  cases step with
  | stop stop =>
      rw [run_underflow_stop empty' (h.linesRemain.symm.trans stop)]
      exact .ok none h
  | null lines source =>
      rw [run_underflow_null empty' (lines' lines) (h.rasterStream.symm.trans source)]
      exact .error _ h
  | thrown lines source read =>
      rw [h.size] at read
      rw [run_underflow_error empty' (lines' lines) (h.rasterStream.symm.trans source) read]
      exact .error _ ⟨⟨h.left.asserted, h.left.small, h.left.above⟩,
        ⟨h.right.asserted, h.right.small, h.right.above⟩, rfl, h.linesRemain, h.videoSize,
        h.area, h.size, h.above⟩
  | @short _ raster' _ lines source read short =>
      have next := h.afterRead raster' (bounded read)
      rw [h.size] at read short
      rw [run_underflow_short empty' (lines' lines) (h.rasterStream.symm.trans source) read
        short]
      exact .ok none next
  | @empty _ raster' lines source read none =>
      have next := h.afterRead raster' (bounded read)
      have none' : other.currLine = [] := by
        rw [← List.length_eq_zero_iff, ← h.size, none]
        rfl
      rw [h.size] at read
      rw [run_underflow_empty empty' (lines' lines) (h.rasterStream.symm.trans source) read
        none']
      exact .error _ next
  | @line _ raster' _ lines source read full nonempty =>
      have next := h.filled raster' full nonempty
      rw [h.size] at read full
      rw [run_underflow_line h.right empty' (lines' lines) (h.rasterStream.symm.trans source)
        read full nonempty, ← h.lineBytes]
      exact .ok _ next

/-- Being alike is a simulation. -/
theorem alike_simulates (bounded : Bounded σ) : Streambuf.Simulates (Alike (σ := σ)) := by
  refine ⟨fun h => h.area, ?_, fun h empty => h.underflow bounded empty⟩
  intro this other h n
  refine ⟨⟨h.left.asserted, h.left.small, h.left.above⟩,
    ⟨h.right.asserted, h.right.small, h.right.above⟩, h.rasterStream, h.linesRemain,
    h.videoSize, ?_, h.size, h.above⟩
  change this.area.drop n = other.area.drop n
  rw [h.area]

-----------------------------------------------------------------------------------------
-- A fresh start
-----------------------------------------------------------------------------------------

/-- The same bytes are read from both, up to the same end. -/
structure ReadsAlike (this other : ScoaStreambuf σ) : Prop where
  drains : ∀ bytes, (∃ final, Drains this bytes final) ↔ ∃ final, Drains other bytes final
  breaks : ∀ err bytes, Breaks err this bytes ↔ Breaks err other bytes

/-- And so no reader can tell them apart. -/
theorem Alike.readsAlike (bounded : Bounded σ) {this other : ScoaStreambuf σ}
    (h : Alike this other)
    : ReadsAlike this other := by
  refine ⟨?_, ?_⟩
  · intro bytes
    constructor
    · intro ⟨_, drains⟩
      exact (alike_simulates bounded).drains h drains
    · intro ⟨_, drains⟩
      exact (alike_simulates bounded).drains h.symm drains
  · intro err bytes
    constructor
    · exact (alike_simulates bounded).breaks h
    · exact (alike_simulates bounded).breaks h.symm

/-- Reading `n` bytes of the compressed line. -/
theorem iterate_gbump (n : Nat) (this : ScoaStreambuf σ)
    : (Streambuf.gbump 1)^[n] this = { this with area := this.area.drop n } := by
  induction n generalizing this with
  | zero => rfl
  | succ n ih =>
      rw [Function.iterate_succ_apply, ih]
      simp [Streambuf.gbump]

/-- What is in the get area is drained first. -/
theorem drains_emptied {this final : ScoaStreambuf σ} {area bytes : List UInt8}
    (h : this.area = area) (tail : Drains this.emptied bytes final)
    : Drains this (area ++ bytes) final := by
  refine Streambuf.drains_area h ?_
  rw [iterate_gbump, ← h, List.drop_length]
  exact tail

/-- It is drained before an exception as well. -/
theorem breaks_emptied {err : Fault} {this : ScoaStreambuf σ} {area bytes : List UInt8}
    (h : this.area = area) (tail : Breaks err this.emptied bytes)
    : Breaks err this (area ++ bytes) := by
  refine Streambuf.breaks_area h ?_
  rw [iterate_gbump, ← h, List.drop_length]
  exact tail

/-- Reading a compressor ends, by induction on the lines that remain. -/
theorem Sound.ends (bounded : Bounded σ) {this : ScoaStreambuf σ} (h : this.Sound)
    (empty : this.area = [])
    : ∃ bytes, (∃ final, Drains this bytes final) ∨ ∃ err, Breaks err this bytes := by
  induction lines : this.linesRemain generalizing this with
  | zero =>
      have run := run_underflow_stop empty lines
      exact ⟨[], Or.inl ⟨this, .eof (Streambuf.run_sbumpc_eof empty run)⟩⟩
  | succ n ih =>
      have step := h.underflow bounded empty
      generalize run : ScoaStreambuf.underflow.run this = result at step
      cases step with
      | stop stop => rw [lines] at stop; cases stop
      | null _ _ => exact ⟨[], Or.inr ⟨_, .thrown (Streambuf.run_sbumpc_error empty run)⟩⟩
      | thrown _ _ _ => exact ⟨[], Or.inr ⟨_, .thrown (Streambuf.run_sbumpc_error empty run)⟩⟩
      | short _ _ _ _ => exact ⟨[], Or.inl ⟨_, .eof (Streambuf.run_sbumpc_eof empty run)⟩⟩
      | empty _ _ _ _ =>
          exact ⟨[], Or.inr ⟨_, .thrown (Streambuf.run_sbumpc_error empty run)⟩⟩
      | @line _ raster' line _ _ read full nonempty =>
          have after := h.afterLine full
          have some := lineBytes_ne_nil h full nonempty
          have first := run
          rw [List.head?_eq_some_head some] at first
          have rest : (this.filled raster' line).emptied.linesRemain = n := by
            change this.linesRemain - 1 = n
            omega
          have sound : (this.filled raster' line).emptied.Sound :=
            ⟨after.asserted, after.small, after.above⟩
          obtain ⟨bytes, ends⟩ := ih sound rfl rest
          refine ⟨this.lineBytes line ++ bytes, ?_⟩
          rcases ends with ⟨final, drains⟩ | ⟨err, breaks⟩
          · refine Or.inl ⟨final, Streambuf.drains_refill empty first some ?_⟩
            exact drains_emptied rfl drains
          · refine Or.inr ⟨err, Streambuf.breaks_refill empty first some ?_⟩
            exact breaks_emptied rfl breaks

/-- A reset with bytes left to read is not a fresh start: they are read first. -/
theorem Sound.not_readsAlike (bounded : Bounded σ) {this : ScoaStreambuf σ} (h : this.Sound)
    (left : this.area ≠ []) (rasterStream : σ) {lineSize : Nat} (lines : Nat)
    (small : lineSize < 2 ^ 32)
    : ¬ ReadsAlike (this.reset rasterStream lineSize lines)
        (construct rasterStream lineSize lines) := by
  intro reads
  have alike := (h.reset_alike rasterStream lines small).symm.readsAlike bounded
  obtain ⟨bytes, ends⟩ := (construct_sound rasterStream lines small).ends bounded rfl
  have stale : this.area ++ bytes = bytes := by
    rcases ends with ⟨final, drains⟩ | ⟨err, breaks⟩
    · obtain ⟨_, emptied⟩ := (alike.drains bytes).mp ⟨final, drains⟩
      have reset : Drains (this.reset rasterStream lineSize lines) (this.area ++ bytes) _ :=
        drains_emptied rfl emptied
      obtain ⟨_, fresh⟩ := (reads.drains _).mp ⟨_, reset⟩
      exact (fresh.unique drains).1
    · have emptied := (alike.breaks err bytes).mp breaks
      have reset : Breaks err (this.reset rasterStream lineSize lines) (this.area ++ bytes) :=
        breaks_emptied rfl emptied
      exact ((reads.breaks err _).mp reset).unique breaks
  exact left (by simpa using stale)

/-- A reset is a fresh start exactly when nothing is left in the get area. -/
theorem reset_readsAlike_iff (bounded : Bounded σ) {this : ScoaStreambuf σ}
    (reachable : this.Reachable) (rasterStream : σ) {lineSize : Nat} (lines : Nat)
    (small : lineSize < 2 ^ 32)
    : ReadsAlike (this.reset rasterStream lineSize lines)
        (construct rasterStream lineSize lines)
      ↔ this.area = [] := by
  have sound := reachable.sound bounded
  constructor
  · intro reads
    by_contra left
    exact sound.not_readsAlike bounded left rasterStream lines small reads
  · intro empty
    have alike := sound.reset_alike rasterStream lines small
    have same : (this.reset rasterStream lineSize lines).emptied
        = this.reset rasterStream lineSize lines := by
      unfold emptied reset
      rw [empty]
    rw [same] at alike
    exact alike.readsAlike bounded

/-- An idle compressor of a page of two bytes. -/
theorem reset_readsAlike_iff_fresh
    : ReadsAlike
          ((construct (⟨[7, 8]⟩ : MemoryStreambuf) 2 1).reset (⟨[9, 9]⟩ : MemoryStreambuf) 2 1)
          (construct (⟨[9, 9]⟩ : MemoryStreambuf) 2 1)
      ↔ (construct (⟨[7, 8]⟩ : MemoryStreambuf) 2 1).area = [] :=
  reset_readsAlike_iff MemoryStreambuf.bounded (.constructed (.raster _ 1 (by decide))) _ 1
    (by decide)

/-- One byte of a page is read, then the compressor is reset: the rest of the page is
still to be read.
-/
theorem reset_after_oneByte
    : ∃ this : ScoaStreambuf MemoryStreambuf, this.Reachable
        ∧ ¬ ReadsAlike (this.reset (⟨[9, 9]⟩ : MemoryStreambuf) 2 1)
            (construct (⟨[9, 9]⟩ : MemoryStreambuf) 2 1) := by
  have start : (construct (⟨[7, 8]⟩ : MemoryStreambuf) 2 1).Reachable :=
    .constructed (.raster _ 1 (by decide))
  have left : (after (Streambuf.sbumpc.run (construct (⟨[7, 8]⟩ : MemoryStreambuf) 2 1))).area
      = [7, 8, 0x42] := by
    decide +kernel
  have reachable := start.sbumpc
  refine ⟨_, reachable, ?_⟩
  refine (reachable.sound MemoryStreambuf.bounded).not_readsAlike MemoryStreambuf.bounded ?_ _ 1
    (by decide)
  rw [left]
  simp

end Capt.Compression.ScoaStreambuf
