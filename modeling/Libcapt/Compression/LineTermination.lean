import Libcapt.Compression.Reset

/-! When the encoding of a line ends: always, except for an empty line. -/

namespace Capt.Compression

open Streams

/-- The state of an empty line: nothing advances its index. The pending segments are
whatever they were.
-/
structure ScoaState.Stuck (state : ScoaState) : Prop where
  line : state.line = []
  index : state.index = 0

namespace ScoaState.Stuck

variable {state : ScoaState}

/-- An iterator that is stuck is not empty. -/
theorem not_empty (h : state.Stuck) : ¬ state.Empty := by
  simp [Empty, h.line, h.index]

/-- The assertion of `peek` does not hold. -/
theorem not_peekAsserts (h : state.Stuck) : ¬ state.PeekAsserts := by
  simp [PeekAsserts, h.index]

/-- It gives the same segment for ever. -/
theorem get (h : state.Stuck) : state.get = (state.curr, state) := by
  simp [ScoaState.get, peek, next, nextLoop, flush, h.line, h.index]

/-- A command leaves the state as it is, whatever it is written for. -/
theorem nextCmd (h : state.Stuck) (buffer : Buffer) (line : List UInt8)
    : (Compression.nextCmd buffer line state).2.1 = state := by
  unfold Compression.nextCmd
  simp only [h.get]
  split
  · split
    · rfl
    split
    · split <;> rfl
    · rfl
  split
  · split <;> rfl
  · rfl

/-- The loop goes on for ever: no number of iterations is enough, by induction on it. -/
theorem encodeLoop (h : state.Stuck) (bound : Nat) (buffer : Buffer) (line : List UInt8)
    (videoSize : Nat)
    : Compression.encodeLoop bound buffer line state videoSize = none := by
  induction bound generalizing buffer videoSize with
  | zero => rw [Compression.encodeLoop, if_neg h.not_empty]
  | succ bound ih =>
      rw [Compression.encodeLoop, if_neg h.not_empty]
      simp only [h.nextCmd]
      exact ih ..

end ScoaState.Stuck

/-- On an empty line the iterator is stuck. -/
theorem ScoaState.ofLines_stuck (prevLine : List UInt8)
    : (ScoaState.ofLines [] prevLine).Stuck :=
  ⟨rfl, rfl⟩

-----------------------------------------------------------------------------------------
-- Underflow
-----------------------------------------------------------------------------------------

namespace ScoaStreambuf

variable {σ : Type} [Source Fault UInt8 σ] {this : ScoaStreambuf σ}

/-- The call of `underflow` returns, and no assertion failed up to then. -/
def Returns (this : ScoaStreambuf σ) : Prop :=
  ∃ c this', underflow.run this = .ok c this' ∧ this'.buffer.asserted = true

/-- In every reachable state of a compressor whose source has the next line, `underflow`
returns unless it has to encode an empty line. Then the loop over the segments never ends,
and the first iteration fails the assertion of `Peek`.
-/
theorem underflow_returns_iff (bounded : Bounded σ) (reachable : this.Reachable)
    {raster raster' : σ} {line : List UInt8} (source : this.rasterStream = some raster)
    (read : (Source.sgetn this.currLine.length).run raster = .ok line raster')
    (full : line.length = this.currLine.length)
    : (this.Returns ↔ this.currLine ≠ [] ∨ this.area ≠ [] ∨ this.linesRemain = 0)
      ∧ (this.currLine = [] →
          ¬ (ScoaState.ofLines this.currLine this.above).PeekAsserts
          ∧ ∀ bound buffer videoSize,
              encodeLoop bound buffer this.currLine (.ofLines this.currLine this.above) videoSize
                = none) := by
  have sound := reachable.sound bounded
  constructor
  · constructor
    · rintro ⟨c, this', run, _⟩
      by_contra none
      simp only [not_or, ne_eq, not_not] at none
      obtain ⟨noLine, empty, lines⟩ := none
      obtain rfl : line = [] := List.length_eq_zero_iff.mp (by rw [full, noLine]; rfl)
      rw [run_underflow_empty empty lines source read noLine] at run
      cases run
    · intro cases
      by_cases empty : this.area = []
      · by_cases stop : this.linesRemain = 0
        · exact ⟨none, this, run_underflow_stop empty stop, sound.asserted⟩
        · have nonempty : this.currLine ≠ [] := by
            rcases cases with nonempty | left | done
            · exact nonempty
            · exact absurd empty left
            · exact absurd done stop
          have pos : 0 < line.length := by
            rw [full]
            exact List.length_pos_iff.mpr nonempty
          exact ⟨_, _, run_underflow_line sound empty stop source read full pos, rfl⟩
      · obtain ⟨b, rest, left⟩ := List.exists_cons_of_ne_nil empty
        exact ⟨some b, this, run_underflow_area left, sound.asserted⟩
  · intro noLine
    rw [noLine]
    have stuck := ScoaState.ofLines_stuck this.above
    exact ⟨stuck.not_peekAsserts, fun bound buffer => stuck.encodeLoop bound buffer []⟩

/-- A page of one byte. -/
theorem underflow_returns_iff_oneByte
    : let this := construct (⟨[7]⟩ : MemoryStreambuf) 1 1
      (this.Returns ↔ this.currLine ≠ [] ∨ this.area ≠ [] ∨ this.linesRemain = 0)
      ∧ (this.currLine = [] →
          ¬ (ScoaState.ofLines this.currLine this.above).PeekAsserts
          ∧ ∀ bound buffer videoSize,
              encodeLoop bound buffer this.currLine (.ofLines this.currLine this.above) videoSize
                = none) :=
  underflow_returns_iff MemoryStreambuf.bounded (.constructed (.raster _ 1 (by decide))) rfl rfl
    rfl

/-- A page of one empty line. -/
theorem underflow_emptyLine
    : ¬ (construct (⟨[]⟩ : MemoryStreambuf) 0 1).Returns
      ∧ ¬ (ScoaState.ofLines [] []).PeekAsserts
      ∧ ∀ bound buffer videoSize,
          encodeLoop bound buffer [] (.ofLines [] []) videoSize = none := by
  have stuck := ScoaState.ofLines_stuck []
  refine ⟨?_, stuck.not_peekAsserts, fun bound buffer => stuck.encodeLoop bound buffer []⟩
  rintro ⟨c, this', run, _⟩
  have unfinished : underflow.run (construct (⟨[]⟩ : MemoryStreambuf) 0 1)
      = .error .unfinished _ :=
    run_underflow_empty rfl Nat.one_ne_zero rfl rfl rfl
  rw [unfinished] at run
  cases run

end ScoaStreambuf

end Capt.Compression
