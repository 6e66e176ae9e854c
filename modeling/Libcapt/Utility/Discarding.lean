import Libcapt.Utility.CropStreambuf

/-! What `discard` counts and where `discardLines` stops. The attempt that meets
end-of-file is counted as a byte, so a count of 0, on which `discardLines` would stop, is
never returned for a line that has bytes.
-/

namespace Capt.Utility

open Streams

variable {σ : Type} [Source Fault UInt8 σ]

-----------------------------------------------------------------------------------------
-- The loop of `discard`
-----------------------------------------------------------------------------------------

/-- `while (read != count)` for any `std::streamsize`, from the number of bytes read before
to the number returned.
-/
inductive Discards (count : Int) : σ → Int → Int → σ → Prop
  | done {s} : Discards count s count count s
  | eof {s s' read} (more : read ≠ count) (run : Source.sbumpc.run s = .ok none s')
    : Discards count s read (read + 1) s'
  | byte {s middle s' b read final} (more : read ≠ count)
    (run : Source.sbumpc.run s = .ok (some b) middle)
    (rest : Discards count middle (read + 1) final s')
    : Discards count s read final s'

/-- The loop ends in at most one way. -/
theorem Discards.unique {count read first second : Int} {s left right : σ}
    (h : Discards count s read first left) (hr : Discards count s read second right)
    : first = second ∧ left = right := by
  induction h with
  | done =>
      cases hr with
      | done => exact ⟨rfl, rfl⟩
      | eof more _ => exact absurd rfl more
      | byte more _ _ => exact absurd rfl more
  | eof more run =>
      cases hr with
      | done => exact absurd rfl more
      | eof _ other =>
          rw [run] at other
          cases other
          exact ⟨rfl, rfl⟩
      | byte _ other _ =>
          rw [run] at other
          cases other
  | byte more run _ ih =>
      cases hr with
      | done => exact absurd rfl more
      | eof _ other =>
          rw [run] at other
          cases other
      | byte _ other rest =>
          rw [run] at other
          cases other
          exact ih rest

/-- A count that the source can still give is reached: exactly the bytes in between are
taken.
-/
theorem discards_within {symbols : List UInt8} (n : Nat) {read : Int} {s : σ}
    (h : Drips s symbols) (within : n ≤ symbols.length)
    : ∃ s', Discards (read + n) s read (read + n) s' ∧ Drips s' (symbols.drop n) := by
  induction n generalizing s symbols read with
  | zero =>
      refine ⟨s, ?_, h⟩
      have same : read + (0 : Nat) = read := Int.add_zero read
      rw [same]
      exact .done
  | succ n ih =>
      cases symbols with
      | nil => cases within
      | cons b rest =>
          obtain ⟨middle, run, next⟩ := h.sbumpc
          obtain ⟨s', loop, final⟩ := ih next (Nat.le_of_succ_le_succ within)
          have same : read + 1 + n = read + (n + 1 : Nat) := by omega
          rw [same] at loop
          exact ⟨s', .byte (by omega) run loop, final⟩

/-- A count that the source does not reach is not reached by the loop either: it takes what
is left, and counts one more.
-/
theorem discards_beyond {symbols : List UInt8} {count read : Int} {s : σ}
    (h : Drips s symbols) (beyond : ¬ (read ≤ count ∧ count ≤ read + symbols.length))
    : ∃ s', Discards count s read (read + symbols.length + 1) s' ∧ Drips s' [] := by
  induction symbols generalizing s read with
  | nil =>
      obtain ⟨s', run, next⟩ := h.sbumpc
      have same : read + ([] : List UInt8).length = read := Int.add_zero read
      have more : read ≠ count := by
        rintro rfl
        exact beyond ⟨Int.le_refl read, Int.le_of_eq same.symm⟩
      rw [same]
      exact ⟨s', .eof more run, next⟩
  | cons b rest ih =>
      obtain ⟨middle, run, next⟩ := h.sbumpc
      rw [List.length_cons] at beyond
      have further : ¬ (read + 1 ≤ count ∧ count ≤ read + 1 + rest.length) := by omega
      obtain ⟨s', loop, final⟩ := ih next further
      have same : read + 1 + rest.length = read + (b :: rest).length := by
        rw [List.length_cons]
        omega
      rw [same] at loop
      exact ⟨s', .byte (by omega) run loop, final⟩

/-- `discard` returns the number of bytes that it removed, which is the smaller one of the
count and of what the source had.
-/
def CountsRemoved (count : Int) (s : σ) (symbols : List UInt8) : Prop :=
  ∃ (removed : Nat) (s' : σ), Discards count s 0 removed s'
    ∧ Drips s' (symbols.drop removed)
    ∧ (removed : Int) = min count symbols.length

/-- The attempt at the end of the source is counted, although it removes nothing. -/
theorem countsRemoved_iff {count : Int} {s : σ} {symbols : List UInt8}
    (source : Drips s symbols)
    : CountsRemoved count s symbols ↔ 0 ≤ count ∧ count ≤ symbols.length := by
  constructor
  · rintro ⟨removed, s', loop, _, same⟩
    by_contra beyond
    have past : ¬ (0 ≤ count ∧ count ≤ 0 + symbols.length) := by omega
    obtain ⟨_, other, _⟩ := discards_beyond source past
    have counted := (loop.unique other).1
    omega
  · rintro ⟨positive, within⟩
    obtain ⟨n, rfl⟩ := Int.eq_ofNat_of_zero_le positive
    obtain ⟨s', loop, rest⟩ := discards_within n source (Int.ofNat_le.mp within)
    rw [Int.zero_add] at loop
    exact ⟨n, s', loop, rest, (Int.min_eq_left within).symm⟩

/-- At a count of an unsigned type the loop is the recursion of the model. -/
theorem Discards.run {count start final : Int} {s s' : σ}
    (h : Discards count s start final s') {n : Nat} (distance : start + n = count)
    : ∃ read : Nat, (discard n).run s = .ok read s' ∧ final = start + read := by
  induction h generalizing n with
  | done =>
      obtain rfl : n = 0 := by omega
      exact ⟨0, rfl, (Int.add_zero _).symm⟩
  | eof more run =>
      cases n with
      | zero => exact absurd (by omega) more
      | succ n =>
          refine ⟨1, ?_, rfl⟩
          rw [discard, run_bind_ok run]
          rfl
  | byte more run _ ih =>
      cases n with
      | zero => exact absurd (by omega) more
      | succ n =>
          obtain ⟨read, rest, same⟩ := @ih n (by omega)
          refine ⟨read + 1, ?_, by omega⟩
          rw [discard, run_bind_ok run]
          simp only
          rw [run_bind_ok rest]
          rfl

/-- A line's bytes are taken as far as they go, and the count is not 0 unless the line has
none.
-/
theorem discards_line {symbols : List UInt8} (size : Nat) {s : σ} (h : Drips s symbols)
    : ∃ read s', Discards size s 0 read s' ∧ Drips s' (symbols.drop size)
        ∧ (read = 0 ↔ size = 0) := by
  rcases Nat.lt_or_ge symbols.length size with beyond | within
  · have past : ¬ ((0 : Int) ≤ size ∧ (size : Int) ≤ 0 + symbols.length) := by omega
    obtain ⟨s', loop, final⟩ := discards_beyond h past
    rw [List.drop_of_length_le (Nat.le_of_lt beyond)]
    exact ⟨_, s', loop, final, by omega⟩
  · obtain ⟨s', loop, final⟩ := discards_within size h within
    rw [Int.zero_add] at loop
    exact ⟨size, s', loop, final, Int.natCast_eq_zero⟩

-----------------------------------------------------------------------------------------
-- The attempts of `discardLines`
-----------------------------------------------------------------------------------------

namespace CropStreambuf

/-- `while (currentLine != origLines)` with the source as each attempt at a line found it,
in order, and the reader that the loop leaves.
-/
inductive LineAttempts : CropStreambuf σ → List σ → CropStreambuf σ → Prop
  | done {this} (all : this.currentLine = this.origLines) : LineAttempts this [] this
  | stopped {this s} (more : this.currentLine ≠ this.origLines)
    (none : Discards this.origLineSize this.rasterStream 0 0 s)
    : LineAttempts this [this.rasterStream] { this with rasterStream := s }
  | line {this s read attempts final} (more : this.currentLine ≠ this.origLines)
    (loop : Discards this.origLineSize this.rasterStream 0 read s) (some : read ≠ 0)
    (rest
      : LineAttempts
          { this with rasterStream := s, currentLine := unsigned (this.currentLine + 1) }
          attempts final)
    : LineAttempts this (this.rasterStream :: attempts) final

/-- The attempts are determined by the reader. -/
theorem LineAttempts.unique {this left right : CropStreambuf σ} {first second : List σ}
    (h : LineAttempts this first left) (hr : LineAttempts this second right)
    : first = second ∧ left = right := by
  induction h generalizing second with
  | done all =>
      cases hr with
      | done _ => exact ⟨rfl, rfl⟩
      | stopped more _ => exact absurd all more
      | line more _ _ _ => exact absurd all more
  | stopped more none =>
      cases hr with
      | done all => exact absurd all more
      | stopped _ other =>
          obtain ⟨_, rfl⟩ := none.unique other
          exact ⟨rfl, rfl⟩
      | line _ other some _ => exact absurd (none.unique other).1.symm some
  | line more loop some _ ih =>
      cases hr with
      | done all => exact absurd all more
      | stopped _ other => exact absurd (loop.unique other).1 some
      | line _ other _ rest =>
          obtain ⟨rfl, rfl⟩ := loop.unique other
          obtain ⟨rfl, same⟩ := ih rest
          exact ⟨rfl, same⟩

/-- The number of lines that are still to be discarded goes down with each line. -/
theorem unsignedSub_succ {origLines currentLine lines : Nat} (small : origLines < 2 ^ 32)
    (left : unsignedSub origLines currentLine = lines + 1)
    : unsignedSub origLines (unsigned (currentLine + 1)) = lines := by
  unfold unsignedSub unsigned at *
  omega

/-- No lines are left at the last line only. -/
theorem unsignedSub_eq_zero_iff {origLines currentLine : Nat} (line : currentLine < 2 ^ 32)
    (small : origLines < 2 ^ 32)
    : unsignedSub origLines currentLine = 0 ↔ currentLine = origLines := by
  unfold unsignedSub unsigned
  omega

/-- Before it there is one line more. -/
theorem exists_unsignedSub_succ {origLines currentLine lines : Nat}
    (left : unsignedSub origLines currentLine = lines) (line : currentLine < 2 ^ 32)
    (small : origLines < 2 ^ 32) (more : currentLine ≠ origLines)
    : ∃ rest, lines = rest + 1
        ∧ unsignedSub origLines (unsigned (currentLine + 1)) = rest := by
  cases lines with
  | zero => exact absurd ((unsignedSub_eq_zero_iff line small).mp left) more
  | succ rest => exact ⟨rest, rfl, unsignedSub_succ small left⟩

/-- The loop of the model makes these attempts, by induction on them. -/
theorem LineAttempts.run {this final : CropStreambuf σ} {attempts : List σ}
    (h : LineAttempts this attempts final) {lines : Nat}
    (left : unsignedSub this.origLines this.currentLine = lines)
    (line : this.currentLine < 2 ^ 32) (small : this.origLines < 2 ^ 32)
    : (discardLinesLoop lines).run this = .ok () final := by
  induction h generalizing lines with
  | done all =>
      obtain rfl : 0 = lines := ((unsignedSub_eq_zero_iff line small).mpr all).symm.trans left
      rfl
  | stopped more none =>
      obtain ⟨rest, rfl, _⟩ := exists_unsignedSub_succ left line small more
      obtain ⟨read, run, zero⟩ := none.run (Int.zero_add _)
      obtain rfl : read = 0 := by omega
      rw [discardLinesLoop, run_get_bind, raster, run_bind_ok (run_zoom_ok run)]
      rfl
  | line more loop some _ ih =>
      obtain ⟨rest, rfl, next⟩ := exists_unsignedSub_succ left line small more
      obtain ⟨read, run, same⟩ := loop.run (Int.zero_add _)
      have nonzero : read ≠ 0 := by omega
      rw [discardLinesLoop, run_get_bind, raster, run_bind_ok (run_zoom_ok run),
        if_neg nonzero, run_modify_bind]
      exact ih next (Nat.mod_lt _ (by decide)) small

/-- The loop makes all its attempts, and the next page starts at its first line. -/
theorem LineAttempts.run_discardLines {this final : CropStreambuf σ} {attempts : List σ}
    (h : LineAttempts this attempts final) (line : this.currentLine < 2 ^ 32)
    (small : this.origLines < 2 ^ 32)
    : discardLines.run this = .ok () { final with currentLine := 0 } := by
  rw [discardLines, run_get_bind, run_bind_ok (h.run rfl line small)]
  rfl

/-- A line without bytes stops the loop at once. -/
theorem exists_attempts_empty {this : CropStreambuf σ} (none : this.origLineSize = 0)
    : ∃ attempts final, LineAttempts this attempts final ∧ attempts.length ≤ 1 := by
  by_cases all : this.currentLine = this.origLines
  · exact ⟨[], this, .done all, Nat.zero_le 1⟩
  · have stop : Discards this.origLineSize this.rasterStream 0 0 this.rasterStream := by
      rw [none]
      exact .done
    exact ⟨_, _, .stopped all stop, Nat.le_refl 1⟩

/-- Otherwise there is one attempt for each line left, whatever the source holds, by
induction on their number; each finds what the lines before it have left.
-/
theorem exists_attempts (lines : Nat) {this : CropStreambuf σ} {symbols : List UInt8}
    (source : Drips this.rasterStream symbols) (some : this.origLineSize ≠ 0)
    (left : unsignedSub this.origLines this.currentLine = lines)
    (line : this.currentLine < 2 ^ 32) (small : this.origLines < 2 ^ 32)
    : ∃ attempts final, LineAttempts this attempts final
        ∧ attempts.length = lines
        ∧ ∀ i s, attempts[i]? = Option.some s →
            Drips s (symbols.drop (i * this.origLineSize)) := by
  induction lines generalizing this symbols with
  | zero =>
      have all := (unsignedSub_eq_zero_iff line small).mp left
      exact ⟨[], this, .done all, rfl, by simp⟩
  | succ lines ih =>
      have more : this.currentLine ≠ this.origLines := by
        intro all
        rw [(unsignedSub_eq_zero_iff line small).mpr all] at left
        cases left
      obtain ⟨read, s, loop, rest, zero⟩ := discards_line this.origLineSize source
      obtain ⟨attempts, final, steps, length, found⟩ := @ih
        { this with rasterStream := s, currentLine := unsigned (this.currentLine + 1) }
        _ rest some (unsignedSub_succ small left) (Nat.mod_lt _ (by decide)) small
      refine ⟨_, final, .line more loop (mt zero.mp some) steps, ?_, ?_⟩
      · rw [List.length_cons, length]
      · intro i s at_i
        cases i with
        | zero =>
            cases at_i
            rw [Nat.zero_mul]
            exact source
        | succ i =>
            have later := found i s at_i
            rw [List.drop_drop] at later
            rw [Nat.succ_mul, Nat.add_comm]
            exact later

-----------------------------------------------------------------------------------------
-- What the counts and the attempts amount to
-----------------------------------------------------------------------------------------

/-- `discardLines` ends, and the attempts that it makes at lines stop with the first one
that finds the source empty.
-/
def StopsAtEnd (this : CropStreambuf σ) : Prop :=
  ∃ attempts final, LineAttempts this attempts final
    ∧ discardLines.run this = .ok () { final with currentLine := 0 }
    ∧ ∀ before s later, attempts = before ++ s :: later → Drips s [] → later = []

/-- Attempts of `size` bytes each stop at the end of the source exactly when the last but
one, which finds the least of those that must find a byte, finds one.
-/
theorem attempts_stop_iff {attempts : List σ} {symbols : List UInt8} {size : Nat}
    (found
      : ∀ i s, attempts[i]? = some s → Drips s (symbols.drop (i * size)))
    : (∀ before s later, attempts = before ++ s :: later → Drips s [] → later = [])
      ↔ attempts.length ≤ 1 ∨ (attempts.length - 2) * size < symbols.length := by
  constructor
  · intro stops
    by_contra wasteful
    simp only [not_or, Nat.not_le, Nat.not_lt] at wasteful
    obtain ⟨two, short⟩ := wasteful
    have inside : attempts.length - 2 < attempts.length := by omega
    have empty := found _ _ (List.getElem?_eq_getElem inside)
    rw [List.drop_of_length_le short] at empty
    have split := (List.take_append_drop (attempts.length - 2) attempts).symm
    rw [List.drop_eq_getElem_cons inside] at split
    have last := stops _ _ _ split empty
    have rest := List.length_drop (i := attempts.length - 2 + 1) (l := attempts)
    rw [last, List.length_nil] at rest
    omega
  · rintro enough before s later rfl empty
    have here := found before.length s (by simp)
    have past := List.drop_eq_nil_iff.mp (here.unique empty)
    rw [List.length_append, List.length_cons] at enough
    by_contra more
    have one : 1 ≤ later.length := List.length_pos_iff.mpr more
    have bound : before.length * size
        ≤ (before.length + (later.length + 1) - 2) * size :=
      Nat.mul_le_mul_right size (by omega)
    omega

/-- When the discarding ends at the end of the source. -/
theorem stopsAtEnd_iff {this : CropStreambuf σ} {symbols : List UInt8}
    (source : Drips this.rasterStream symbols) (line : this.currentLine < 2 ^ 32)
    (small : this.origLines < 2 ^ 32)
    : this.StopsAtEnd
      ↔ this.origLineSize = 0
        ∨ unsignedSub this.origLines this.currentLine ≤ 1
        ∨ (unsignedSub this.origLines this.currentLine - 2) * this.origLineSize
            < symbols.length := by
  by_cases empty : this.origLineSize = 0
  · obtain ⟨attempts, final, steps, length⟩ := exists_attempts_empty empty
    refine iff_of_true ⟨attempts, final, steps, steps.run_discardLines line small, ?_⟩
      (Or.inl empty)
    rintro before s later rfl _
    rw [List.length_append, List.length_cons] at length
    exact List.length_eq_zero_iff.mp (by omega)
  · obtain ⟨attempts, final, steps, length, found⟩ :=
      exists_attempts _ source empty rfl line small
    have stop := attempts_stop_iff found
    rw [or_iff_right empty, ← length, ← stop]
    constructor
    · rintro ⟨other, _, otherSteps, _, stops⟩
      obtain ⟨rfl, _⟩ := steps.unique otherSteps
      exact stops
    · intro stops
      exact ⟨attempts, final, steps, steps.run_discardLines line small, stops⟩

/-- `discard` counts what it removes exactly when the source holds the whole count, and
`discardLines` stops at the end of the source exactly when no line attempt but the last can
find it empty: no bytes in a line, one line left at most, or more bytes than all lines left
but two.
-/
theorem discarding_iff {s : σ} {symbols : List UInt8} (source : Drips s symbols)
    : (∀ count : Int,
        CountsRemoved count s symbols ↔ 0 ≤ count ∧ count ≤ symbols.length)
      ∧ ∀ this : CropStreambuf σ, this.rasterStream = s → this.currentLine < 2 ^ 32 →
          this.origLines < 2 ^ 32 →
          (this.StopsAtEnd
            ↔ this.origLineSize = 0
              ∨ unsignedSub this.origLines this.currentLine ≤ 1
              ∨ (unsignedSub this.origLines this.currentLine - 2) * this.origLineSize
                  < symbols.length) := by
  refine ⟨fun count => countsRemoved_iff source, ?_⟩
  rintro this rfl line small
  exact stopsAtEnd_iff source line small

/-- Two bytes of three, and three lines of two bytes, the last of which finds nothing. -/
theorem discarding_iff_memory
    : CountsRemoved 2 (⟨[1, 2, 3]⟩ : MemoryStreambuf) [1, 2, 3]
      ∧ (construct (⟨[1, 2, 3]⟩ : MemoryStreambuf) 2 3 2 3).StopsAtEnd := by
  have source : Drips (⟨[1, 2, 3]⟩ : MemoryStreambuf) [1, 2, 3] :=
    (MemoryStreambuf.supplies [1, 2, 3]).drips
  obtain ⟨counts, stops⟩ := discarding_iff source
  exact ⟨(counts 2).mpr (by decide),
    (stops _ rfl (by decide) (by decide)).mpr (by decide)⟩

/-- An empty source: one byte is counted, and both lines that are left are attempted. -/
theorem not_discarding_empty
    : ¬ CountsRemoved 1 (⟨[]⟩ : MemoryStreambuf) []
      ∧ ¬ StopsAtEnd
          { construct (⟨[]⟩ : MemoryStreambuf) 1 3 1 1 with currentLine := 1 } := by
  have source : Drips (⟨[]⟩ : MemoryStreambuf) [] := (MemoryStreambuf.supplies []).drips
  constructor
  · rw [countsRemoved_iff source]
    decide
  · rw [stopsAtEnd_iff source (by decide) (by decide)]
    decide

end CropStreambuf

end Capt.Utility
