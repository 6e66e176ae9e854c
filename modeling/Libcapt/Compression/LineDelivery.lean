import Libcapt.Compression.DecoderRuns

/-! What the decoder delivers for a page: all that its commands produce, when none of them
runs over the end of a line and EOP comes between lines.
-/

namespace Capt.Compression

open Streams

/-- No piece runs over the end of a line, and the last line is complete. The current line
lacks `lack` bytes.
-/
def Aligned (lineSize : Nat) : Nat → List (List UInt8) → Prop
  | lack, [] => lack = lineSize
  | lack, piece :: pieces =>
    if piece.length < lack then Aligned lineSize (lack - piece.length) pieces
    else piece.length = lack ∧ Aligned lineSize lineSize pieces

/-- Alignment can be decided piece by piece. -/
instance decidableAligned (lineSize : Nat)
    : ∀ lack pieces, Decidable (Aligned lineSize lack pieces)
  | lack, [] => inferInstanceAs (Decidable (lack = lineSize))
  | lack, piece :: pieces =>
    have := decidableAligned lineSize (lack - piece.length) pieces
    have := decidableAligned lineSize lineSize pieces
    inferInstanceAs (Decidable (if piece.length < lack then _ else _ ∧ _))

example : Aligned 2 2 [[1], [], [2], [3, 4]] ∧ ¬ Aligned 2 2 [[1], [2, 3]] := by
  decide

variable {lineSize lack : Nat} {pieces more : List (List UInt8)}

/-- Nothing is below zero. -/
theorem below_zero (below : Below 0 pieces) : pieces = [] := by
  cases pieces with
  | nil => rfl
  | cons piece pieces => exact absurd below.1 (Nat.lt_irrefl 0)

/-- The pieces of a line are aligned when they do not run over its end, by induction on
the pieces.
-/
theorem aligned_line (some : 0 < lack) (below : Below lack pieces)
    (full : lack ≤ pieces.flatten.length)
    : Aligned lineSize lack (pieces ++ more)
      ↔ pieces.flatten.length = lack ∧ Aligned lineSize lineSize more := by
  induction pieces generalizing lack with
  | nil => exact absurd some (Nat.not_lt.mpr full)
  | cons piece pieces ih =>
      rw [List.flatten_cons, List.length_append] at full ⊢
      rw [List.cons_append, Aligned]
      split
      · rename_i short
        rw [ih (by omega) below.2 (by omega)]
        exact and_congr_left fun _ => by omega
      · rename_i long
        have last := below.2
        rw [Nat.sub_eq_zero_of_le (Nat.le_of_not_lt long)] at last
        rw [below_zero last]
        simp

/-- The pieces before EOP are aligned when they are empty, by induction on the pieces. -/
theorem aligned_rest (below : Below lack pieces) (short : pieces.flatten.length < lack)
    : Aligned lineSize lack pieces ↔ lack = lineSize + pieces.flatten.length := by
  induction pieces generalizing lack with
  | nil => rfl
  | cons piece pieces ih =>
      rw [List.flatten_cons, List.length_append] at short ⊢
      rw [Aligned, if_pos (by omega), ih below.2 (by omega)]
      omega

/-- The commands of the page at the front of the input extend the buffer by the pieces, and
`rest` follows the page.
-/
def PageOf (lineSize : Nat) (buffer input : List UInt8) (pieces : List (List UInt8))
    (rest : List UInt8)
    : Prop :=
  ∃ left, Appends lineSize buffer input pieces left ∧ Command.Begins left .eop rest

/-- The commands of a line come before those of the rest of the page. -/
theorem Appends.pageOf {buffer input left rest : List UInt8}
    (h : Appends lineSize buffer input pieces left)
    (tail : PageOf lineSize (buffer ++ pieces.flatten) left more rest)
    : PageOf lineSize buffer input (pieces ++ more) rest := by
  induction h with
  | nil =>
      rw [List.flatten_nil, List.append_nil] at tail
      exact tail
  | cons begins some inside _ ih =>
      rw [List.flatten_cons, ← List.append_assoc] at tail
      obtain ⟨last, appends, ends⟩ := ih tail
      exact ⟨last, .cons begins some inside appends, ends⟩

namespace DecoderStreambuf

variable {σ : Type} {this this' : DecoderStreambuf σ} {input out : List UInt8}

/-- The last line has the size of a line. -/
theorem length_lastLine (enough : this.lineSize ≤ this.buffer.length)
    : this.lastLine.length = this.lineSize := by
  rw [lastLine, List.length_drop]
  omega

/-- Of a buffer that ends in a line, the last line is that one. -/
theorem lastLine_eq {buffer line : List UInt8} (same : this.buffer = buffer ++ line)
    (size : line.length = this.lineSize)
    : this.lastLine = line := by
  rw [lastLine, same, List.length_append, size, Nat.add_sub_cancel, List.drop_left]

variable [FiniteSource Fault UInt8 σ]

/-- The get area is read before the rest. -/
theorem drains_filled {line : List UInt8} (drains : Drains { this with area := line } out this')
    : ∃ rest, out = line ++ rest ∧ Drains this.emptied rest this' := by
  have area : Streambuf.area { this with area := line } = line := rfl
  obtain ⟨rest, same, left⟩ := Streambuf.drains_of_area area drains
  have emptied : (Streambuf.gbump 1)^[line.length] { this with area := line } = this.emptied := by
    rw [iterate_gbump]
    simp only [List.drop_length]
    rfl
  rw [emptied] at left
  exact ⟨rest, same, left⟩

/-- A line that was decoded is read from the get area. -/
theorem drains_complete {middle : DecoderStreambuf σ} (empty : this.area = [])
    (run : decodeLine.run this = .ok true middle) (nonempty : 0 < middle.lineSize)
    (drains : Drains this out this')
    : middle.lineSize ≤ middle.buffer.length
      ∧ ∃ rest, out = middle.lastLine ++ rest ∧ Drains middle.emptied rest this' := by
  have underflow := run_underflow_empty empty
  rw [run] at underflow
  simp only at underflow
  by_cases outside : middle.buffer.length < middle.lineSize ∨ middle.lineSize = 0
  · rw [if_pos outside] at underflow
    rcases Streambuf.drains_of_empty empty drains with ⟨ended, _⟩ | ⟨c, filled, next, _⟩
    · cases underflow.symm.trans ended
    · cases underflow.symm.trans next
  · rw [if_neg outside] at underflow
    have enough : middle.lineSize ≤ middle.buffer.length := by omega
    have some : middle.lastLine ≠ [] := by
      rw [← List.length_pos_iff, length_lastLine enough]
      exact nonempty
    refine ⟨enough, ?_⟩
    rcases Streambuf.drains_of_empty empty drains with ⟨ended, _⟩ | ⟨c, filled, next, tail⟩
    · have same := underflow.symm.trans ended
      injection same with none
      exact absurd (List.head?_eq_none_iff.mp none) some
    · have same := underflow.symm.trans next
      injection same with _ same
      subst same
      exact drains_filled (tail some)

/-- At the end of the page nothing is read. -/
theorem drains_end {middle : DecoderStreambuf σ} (empty : this.area = [])
    (run : decodeLine.run this = .ok false middle) (drains : Drains this out this')
    : out = [] ∧ this' = middle := by
  have underflow := run_underflow_end empty run
  rcases Streambuf.drains_of_empty empty drains with ⟨ended, rfl⟩ | ⟨c, filled, next, _⟩
  · cases underflow.symm.trans ended
    exact ⟨rfl, rfl⟩
  · cases underflow.symm.trans next

/-- After an exception there is no end-of-file. -/
theorem not_drains_error {middle : DecoderStreambuf σ} {err : Fault} (empty : this.area = [])
    (run : decodeLine.run this = .error err middle)
    : ¬ Drains this out this' := by
  intro drains
  have underflow := run_underflow_error empty run
  rcases Streambuf.drains_of_empty empty drains with ⟨ended, _⟩ | ⟨c, filled, next, _⟩
  · cases underflow.symm.trans ended
  · cases underflow.symm.trans next

-----------------------------------------------------------------------------------------
-- A page
-----------------------------------------------------------------------------------------

/-- The page was read to its end, and `out` is what was delivered of it. -/
structure Delivered (this this' : DecoderStreambuf σ) (input out : List UInt8)
    (pieces : List (List UInt8)) (rest : List UInt8)
    : Prop where
  page : PageOf this.lineSize this.buffer input pieces rest
  stream : SuppliesFinitely this'.stream rest
  buffer : this'.buffer = this.buffer ++ pieces.flatten
  length : out.length ≤ pieces.flatten.length
  whole : out = pieces.flatten ↔ Aligned this.lineSize this.lineSize pieces

/-- At the end of the page the bytes of the last line are lost. -/
theorem Loop.delivered_end (loop : Loop this.lineEnd this input (.ok false this'))
    (small : this'.buffer.length + this.lineSize < 2 ^ 32)
    : ∃ pieces rest, Delivered this this' input [] pieces rest := by
  obtain ⟨pieces, left, rest, appended, short, begins, final⟩ := loop.ended
  have buffer := appended.buffer
  have below := appended.below
  have length := congrArg List.length buffer
  rw [List.length_append] at length
  rw [lineEnd_eq (by omega)] at below short
  rw [Nat.add_sub_cancel_left] at below
  refine ⟨pieces, rest, ⟨left, appended.appends, begins⟩, final, buffer, Nat.zero_le _, ?_⟩
  rw [aligned_rest below (by omega), eq_comm, List.eq_nil_iff_length_eq_zero]
  omega

/-- A line is delivered whole when its pieces do not run over its end. -/
theorem Loop.delivered_line {middle : DecoderStreambuf σ} {more : List UInt8}
    (loop : Loop this.lineEnd this input (.ok true middle)) (nonempty : 0 < this.lineSize)
    (small : this'.buffer.length + this.lineSize < 2 ^ 32)
    (enough : middle.lineSize ≤ middle.buffer.length)
    (tail
      : ∀ left, SuppliesFinitely middle.stream left →
          ∃ pieces rest, Delivered middle.emptied this' left more pieces rest)
    : ∃ pieces rest, Delivered this this' input (middle.lastLine ++ more) pieces rest := by
  obtain ⟨first, left, appended, done, supply⟩ := loop.complete
  obtain ⟨pieces, rest, page, stream, buffer, length, whole⟩ := tail left supply
  have kept : middle.emptied.lineSize = this.lineSize := appended.lineSize
  have lineLength := (length_lastLine enough).trans kept
  have middleBuffer : middle.emptied.buffer = this.buffer ++ first.flatten := appended.buffer
  have below := appended.below
  have lengths := congrArg List.length buffer
  have middleLength := congrArg List.length appended.buffer
  rw [middleBuffer, List.length_append, List.length_append] at lengths
  rw [List.length_append] at middleLength
  rw [lineEnd_eq (by omega)] at below done
  rw [Nat.add_sub_cancel_left] at below
  rw [kept] at page whole
  rw [middleBuffer] at page buffer
  refine ⟨first ++ pieces, rest, appended.appends.pageOf page, stream, ?_, ?_, ?_⟩
  · rw [buffer, List.flatten_append, List.append_assoc]
  · rw [List.flatten_append, List.length_append, List.length_append]
    omega
  · rw [aligned_line nonempty below (by omega), ← whole, List.flatten_append]
    constructor
    · intro same
      have bytes := congrArg List.length same
      rw [List.length_append, List.length_append] at bytes
      obtain ⟨_, same⟩ := List.append_inj same (by omega)
      exact ⟨by omega, same⟩
    · rintro ⟨full, rfl⟩
      rw [lastLine_eq appended.buffer (full.trans kept.symm)]

/-- A page that was read to its end, by induction on the bytes delivered. -/
theorem drains_delivered (nonempty : 0 < this.lineSize) (empty : this.area = [])
    (supply : SuppliesFinitely this.stream input) (drains : Drains this out this')
    (small : this'.buffer.length + this.lineSize < 2 ^ 32)
    : ∃ pieces rest, Delivered this this' input out pieces rest := by
  induction size : out.length using Nat.strongRecOn generalizing this input out with
  | ind n ih =>
      have loop := decodeLine_loop nonempty supply
      cases run : decodeLine.run this with
      | error err middle => exact absurd drains (not_drains_error empty run)
      | ok complete middle =>
          rw [run] at loop
          have kept : middle.emptied.lineSize = this.lineSize := loop.lineSize
          cases complete with
          | false =>
              obtain ⟨rfl, rfl⟩ := drains_end empty run drains
              exact loop.delivered_end small
          | true =>
              have some : 0 < middle.emptied.lineSize := by rwa [kept]
              obtain ⟨enough, more, rfl, tail⟩ := drains_complete empty run some drains
              have lineLength : middle.lastLine.length = middle.emptied.lineSize :=
                length_lastLine enough
              rw [List.length_append] at size
              refine loop.delivered_line nonempty small enough fun left supply => ?_
              have less : more.length < n := by omega
              exact ih more.length less some rfl supply tail (by rwa [kept]) rfl

/-- Whatever the input, and whatever was decoded before: a page that was read to a clean end
is delivered whole if and only if no command runs over the end of a line and EOP comes
between lines.
-/
theorem delivery_iff (nonempty : 0 < this.lineSize) (empty : this.area = [])
    (supply : SuppliesFinitely this.stream input) (drains : Drains this out this')
    (small : this'.buffer.length + this.lineSize < 2 ^ 32)
    : ∃ pieces rest, PageOf this.lineSize this.buffer input pieces rest
        ∧ SuppliesFinitely this'.stream rest ∧ this'.buffer = this.buffer ++ pieces.flatten
        ∧ (out = pieces.flatten ↔ Aligned this.lineSize this.lineSize pieces) := by
  obtain ⟨pieces, rest, delivered⟩ := drains_delivered nonempty empty supply drains small
  exact ⟨pieces, rest, delivered.page, delivered.stream, delivered.buffer, delivered.whole⟩

/-- A page of one byte. -/
theorem delivery_iff_oneByte
    : let this : DecoderStreambuf MemoryStreambuf := construct ⟨[0x08, 7, 0x40, 0x42]⟩ 1
      ∃ pieces rest, PageOf this.lineSize this.buffer [0x08, 7, 0x40, 0x42] pieces rest
        ∧ SuppliesFinitely (⟨[]⟩ : MemoryStreambuf) rest ∧ [7] = this.buffer ++ pieces.flatten
        ∧ ([7] = pieces.flatten ↔ Aligned this.lineSize this.lineSize pieces) := by
  have drains
      : Drains (construct (⟨[0x08, 7, 0x40, 0x42]⟩ : MemoryStreambuf) 1) [7]
          { stream := ⟨[]⟩, lineSize := 1, buffer := [7] } :=
    .symbol rfl (.eof rfl)
  exact delivery_iff (by decide) rfl (MemoryStreambuf.suppliesFinitely _) drains (by decide)

/-- A command of three bytes where a line has two. -/
theorem delivery_overrun
    : ¬ ∀ (this this' : DecoderStreambuf MemoryStreambuf) (out : List UInt8),
          0 < this.lineSize → this.area = [] → Drains this out this' →
          this'.buffer.length + this.lineSize < 2 ^ 32 → this'.buffer = this.buffer ++ out := by
  intro whole
  have drains
      : Drains (construct (⟨[0x18, 1, 2, 3, 0x40, 0x42]⟩ : MemoryStreambuf) 2) [2, 3]
          { stream := ⟨[]⟩, lineSize := 2, buffer := [1, 2, 3] } :=
    .symbol rfl (.symbol rfl (.eof rfl))
  have same := whole _ _ _ (by decide) rfl drains (by decide)
  cases same

end DecoderStreambuf

end Capt.Compression
