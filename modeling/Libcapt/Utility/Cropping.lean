import Libcapt.Streams.Selection
import Libcapt.Utility.CropStreambuf

/-! Cropping gives exactly the bytes of the top left corners, in order, and leaves the
source at the end of the page with the last of them.
-/

namespace Capt.Utility

open Streams

-----------------------------------------------------------------------------------------
-- The frame
-----------------------------------------------------------------------------------------

/-- The sizes of a page and of its corner, as 32-bit values. -/
structure Frame where
  origLineSize : Nat
  origLines : Nat
  cropLineSize : Nat
  cropLines : Nat
  lineSize_pos : 1 ≤ cropLineSize
  lineSize_le : cropLineSize ≤ origLineSize
  lines_pos : 1 ≤ cropLines
  lines_le : cropLines ≤ origLines
  lineSize_small : origLineSize < 2 ^ 32
  lines_small : origLines < 2 ^ 32

namespace Frame

/-- The byte at `pos` is in the corner: its column is below the crop's line size, and its
row within its page below the crop's number of lines.
-/
def Selected (frame : Frame) (pos : Nat) : Prop :=
  pos % frame.origLineSize < frame.cropLineSize
    ∧ pos / frame.origLineSize % frame.origLines < frame.cropLines

/-- Whether a byte is selected can be decided. -/
instance (frame : Frame) : DecidablePred frame.Selected :=
  fun _ => inferInstanceAs (Decidable (_ ∧ _))

/-- The bytes of the corners of all pages. -/
def crop (frame : Frame) (content : List UInt8) : List UInt8 :=
  select frame.Selected 0 content

/-- The number of bytes of the corners that are still to be delivered. -/
def left (frame : Frame) (content delivered : List UInt8) : Nat :=
  (frame.crop content).length - delivered.length

/-- The number of bytes that a read of `n` bytes asks for, when `column` bytes of the row
were read: the loop reads on over the ends of rows, and without it a read stays in its row.
-/
def reach (frame : Frame) (n column : Nat) : Nat :=
  if frame.cropLineSize < unsigned n then unsigned n
  else min (unsigned n) (frame.cropLineSize - column)

/-- What is delivered is no longer left. -/
theorem left_append (frame : Frame) (content delivered data : List UInt8)
    : frame.left content (delivered ++ data) = frame.left content delivered - data.length := by
  rw [left, left, List.length_append, Nat.sub_sub]

/-- No more than `n` bytes are reached. -/
theorem reach_le (frame : Frame) (n column : Nat) : frame.reach n column ≤ n := by
  have le : unsigned n ≤ n := Nat.mod_le ..
  unfold reach
  split <;> omega

/-- The position of a byte by its page, its row and its column. -/
def position (frame : Frame) (page line column : Nat) : Nat :=
  (page * frame.origLines + line) * frame.origLineSize + column

variable {frame : Frame}

/-- A byte is selected by its column and its line. -/
theorem selected_position {page line column : Nat} (row : line < frame.origLines)
    (inside : column < frame.origLineSize)
    : frame.Selected (frame.position page line column)
      ↔ column < frame.cropLineSize ∧ line < frame.cropLines := by
  have columns : frame.position page line column % frame.origLineSize = column :=
    Nat.mul_add_mod_of_lt inside
  have whole : frame.position page line column / frame.origLineSize
      = page * frame.origLines + line := by
    rw [position, Nat.mul_comm, Nat.mul_add_div (by omega), Nat.div_eq_of_lt inside,
      Nat.add_zero]
  have rows : frame.position page line column / frame.origLineSize % frame.origLines
      = line := by
    rw [whole]
    exact Nat.mul_add_mod_of_lt row
  rw [Selected, columns, rows]

/-- The bytes of the corner in a row. -/
theorem selected_row {page line column count : Nat} (row : line < frame.cropLines)
    (inside : column + count ≤ frame.cropLineSize)
    : ∀ i < count, frame.Selected (frame.position page line column + i) := by
  intro i less
  have le := frame.lineSize_le
  have lines := frame.lines_le
  rw [position, Nat.add_assoc, ← position]
  exact (selected_position (by omega) (by omega)).mpr ⟨by omega, row⟩

/-- The rest of a row is outside the corner. -/
theorem not_selected_margin {page line : Nat} (row : line < frame.origLines)
    : ∀ i < frame.origLineSize - frame.cropLineSize,
        ¬ frame.Selected (frame.position page line frame.cropLineSize + i) := by
  intro i less
  rw [position, Nat.add_assoc, ← position]
  intro selected
  have column := ((selected_position row (by omega)).mp selected).1
  omega

/-- The rows below the corner are outside it. -/
theorem not_selected_below {page line : Nat} (row : line < frame.origLines)
    (below : frame.cropLines ≤ line)
    : ∀ i < frame.origLineSize, ¬ frame.Selected (frame.position page line 0 + i) := by
  intro i less
  rw [position, Nat.add_zero, ← position]
  intro selected
  have line := ((selected_position row less).mp selected).2
  omega

/-- The bytes right of the crop lead to the next line. -/
theorem position_line (page line : Nat)
    : frame.position page line frame.cropLineSize
        + (frame.origLineSize - frame.cropLineSize)
      = frame.position page (line + 1) 0 := by
  have le := frame.lineSize_le
  have next : (page * frame.origLines + (line + 1)) * frame.origLineSize
      = (page * frame.origLines + line) * frame.origLineSize + frame.origLineSize := by
    rw [← Nat.add_assoc, Nat.succ_mul]
  simp only [position, next]
  omega

/-- One line of the original further. -/
theorem position_row (page line : Nat)
    : frame.position page line 0 + frame.origLineSize = frame.position page (line + 1) 0 := by
  rw [position, position, ← Nat.add_assoc, Nat.succ_mul, Nat.add_zero, Nat.add_zero]

/-- One page of the original further. -/
theorem position_page (page : Nat)
    : frame.position page frame.origLines 0 = frame.position (page + 1) 0 0 := by
  simp only [position, Nat.succ_mul, Nat.add_zero]

end Frame

namespace CropStreambuf

variable {σ : Type} {frame : Frame} {content : List UInt8}

/-- The reader works on pages of the frame. -/
structure Sized (frame : Frame) (this : CropStreambuf σ) : Prop where
  origLineSize : this.origLineSize = frame.origLineSize
  origLines : this.origLines = frame.origLines
  cropLineSize : this.cropLineSize = frame.cropLineSize
  cropLines : this.cropLines = frame.cropLines

/-- The reader with its source at `s`, in the given row and column. -/
def moved (this : CropStreambuf σ) (s : σ) (line column : Nat) : CropStreambuf σ :=
  { this with rasterStream := s, currentLine := line, lineRead := column }

/-- The sizes stay when the stream and the position change. -/
theorem Sized.moved {this : CropStreambuf σ} (h : Sized frame this) (s : σ)
    (line column : Nat)
    : Sized frame (this.moved s line column) :=
  ⟨h.origLineSize, h.origLines, h.cropLineSize, h.cropLines⟩

/-- A difference that is not negative. -/
theorem unsignedSub_eq {a b : Nat} (le : b ≤ a) (small : a < 2 ^ 32)
    : unsignedSub a b = a - b := by
  unfold unsignedSub unsigned
  omega

variable [Source Fault UInt8 σ]

/-- The source is at `pos` or at its end, and the corners' bytes before `pos` are
`delivered`.
-/
structure Reached (frame : Frame) (content : List UInt8) (this : CropStreambuf σ) (pos : Nat)
    (delivered : List UInt8)
    : Prop where
  sized : Sized frame this
  source : Supplies this.rasterStream (content.drop pos)
  split : frame.crop content = delivered ++ select frame.Selected pos (content.drop pos)

/-- Between reads: the source is at a byte of a corner or at its end. -/
structure At (frame : Frame) (content : List UInt8) (this : CropStreambuf σ) (page : Nat)
    (delivered : List UInt8)
    : Prop where
  reached
    : Reached frame content this (frame.position page this.currentLine this.lineRead) delivered
  line : this.currentLine < frame.cropLines
  column : this.lineRead < frame.cropLineSize

/-- A new stream stands at the start of the first page, with nothing delivered. -/
theorem construct_at {rasterStream : σ} (source : Supplies rasterStream content)
    : At frame content
        (construct rasterStream frame.origLineSize frame.origLines frame.cropLineSize
          frame.cropLines) 0 [] := by
  have start : frame.position 0 0 0 = 0 := by
    simp [Frame.position]
  refine ⟨⟨⟨rfl, rfl, rfl, rfl⟩, ?_, ?_⟩, frame.lines_pos, frame.lineSize_pos⟩
  · change Supplies rasterStream (content.drop (frame.position 0 0 0))
    rw [start]
    exact source
  · change _ = [] ++ select _ (frame.position 0 0 0) (content.drop (frame.position 0 0 0))
    rw [start]
    rfl

-----------------------------------------------------------------------------------------
-- Discarding
-----------------------------------------------------------------------------------------

/-- Discarding takes the bytes up to the count or to the end, by induction on the count;
the attempt at the end is counted.
-/
theorem run_discard (count : Nat) {s : σ} {symbols : List UInt8} (h : Supplies s symbols)
    : ∃ read s', (discard count).run s = .ok read s' ∧ Supplies s' (symbols.drop count)
        ∧ (count ≠ 0 → read ≠ 0) := by
  induction count generalizing s symbols with
  | zero => exact ⟨0, s, rfl, h, fun nonzero => absurd rfl nonzero⟩
  | succ count ih =>
      obtain ⟨middle, run, next⟩ := h.sbumpc
      cases symbols with
      | nil =>
          refine ⟨1, middle, ?_, next, fun _ => Nat.one_ne_zero⟩
          rw [discard, run_bind_ok run]
          rfl
      | cons b rest =>
          obtain ⟨read, s', run', final, _⟩ := ih next
          refine ⟨read + 1, s', ?_, final, fun _ => Nat.succ_ne_zero read⟩
          rw [discard, run_bind_ok run]
          simp only [List.head?_cons]
          rw [run_bind_ok run']
          rfl

/-- Discarding bytes outside the corners moves the source over them. -/
theorem Reached.discard {this : CropStreambuf σ} {pos : Nat} {delivered : List UInt8}
    (h : Reached frame content this pos delivered) (count : Nat)
    (outside : ∀ i < count, ¬ frame.Selected (pos + i))
    : ∃ read s, (raster (Utility.discard count)).run this
          = .ok read (this.moved s this.currentLine this.lineRead)
        ∧ (∀ line column, Reached frame content (this.moved s line column) (pos + count) delivered)
        ∧ (count ≠ 0 → read ≠ 0) := by
  obtain ⟨read, s, run, source, nonzero⟩ := run_discard count h.source
  refine ⟨read, s, run_zoom_ok run, ?_, nonzero⟩
  intro line column
  rw [List.drop_drop] at source
  refine ⟨h.sized.moved s line column, source, ?_⟩
  rw [h.split, select_skip frame.Selected count outside, List.drop_drop]

/-- The rows below the corner are discarded, by induction on their number. -/
theorem Reached.discardLinesLoop (lines : Nat) {this : CropStreambuf σ} {page : Nat}
    {delivered : List UInt8}
    (h : Reached frame content this (frame.position page this.currentLine 0) delivered)
    (below : frame.cropLines ≤ this.currentLine)
    (rest : this.currentLine + lines = frame.origLines)
    : ∃ s, (CropStreambuf.discardLinesLoop lines).run this
          = .ok () (this.moved s frame.origLines this.lineRead)
        ∧ ∀ line column,
            Reached frame content (this.moved s line column) (frame.position (page + 1) 0 0)
              delivered := by
  have small := frame.lines_small
  induction lines generalizing this with
  | zero =>
      have last : this.currentLine = frame.origLines := rest
      rw [last, Frame.position_page] at h
      refine ⟨this.rasterStream, ?_, ?_⟩
      · rw [← last]
        rfl
      · intro line column
        exact ⟨h.sized.moved _ line column, h.source, h.split⟩
  | succ lines ih =>
      have some : frame.origLineSize ≠ 0 := by
        have low := frame.lineSize_pos
        have le := frame.lineSize_le
        omega
      have line : unsigned (this.currentLine + 1) = this.currentLine + 1 :=
        unsigned_eq (by omega)
      obtain ⟨read, s, run, reached, nonzero⟩ := h.discard frame.origLineSize
        (Frame.not_selected_below (by omega) below)
      have next := reached (this.currentLine + 1) this.lineRead
      rw [Frame.position_row] at next
      obtain ⟨s', loop, final⟩ := ih next (Nat.le_succ_of_le below)
        (by change this.currentLine + 1 + lines = _; omega)
      refine ⟨s', ?_, final⟩
      rw [← h.sized.origLineSize] at run
      simp only [CropStreambuf.discardLinesLoop, EStateM.run_bind, EStateM.run_get, run,
        nonzero some, EStateM.run_modify, ↓reduceIte]
      change (CropStreambuf.discardLinesLoop lines).run
        (this.moved s (unsigned (this.currentLine + 1)) this.lineRead) = _
      rw [line, loop]
      rfl

/-- `endLine` after it has discarded the margin. -/
theorem run_endLine {this : CropStreambuf σ} {read margin line : Nat} {s : σ}
    (count : unsignedSub this.origLineSize this.cropLineSize = margin)
    (next : unsigned (this.currentLine + 1) = line)
    (run
      : (raster (Utility.discard margin)).run this
        = .ok read (this.moved s this.currentLine this.lineRead))
    : CropStreambuf.endLine.run this
      = (if line = this.cropLines then discardLines
          else pure () : Action (CropStreambuf σ) Unit).run (this.moved s line 0) := by
  unfold CropStreambuf.endLine
  rw [run_get_bind, count, run_bind_ok run, run_modify_bind, run_get_bind, ← next]
  rfl

/-- The lines below the crop, by the loop over their number. -/
theorem run_discardLines {this : CropStreambuf σ} {lines : Nat} {s : σ}
    (rest : unsignedSub this.origLines this.currentLine = lines)
    (run
      : (CropStreambuf.discardLinesLoop lines).run this
        = .ok () (this.moved s this.origLines this.lineRead))
    : discardLines.run this = .ok () (this.moved s 0 this.lineRead) := by
  unfold discardLines
  rw [run_get_bind, rest, run_bind_ok run]
  rfl

/-- At the end of a row of the corner, the rest of the row is discarded, and after the
corner's last row the rest of the page.
-/
theorem Reached.endLine {this : CropStreambuf σ} {page : Nat} {delivered : List UInt8}
    (h : Reached frame content this
      (frame.position page this.currentLine frame.cropLineSize) delivered)
    (line : this.currentLine < frame.cropLines)
    : ∃ this' page', CropStreambuf.endLine.run this = .ok () this'
        ∧ At frame content this' page' delivered ∧ this'.lineRead = 0 := by
  have low := frame.lineSize_le
  have lines := frame.lines_le
  have small := frame.lines_small
  have margin : unsignedSub this.origLineSize this.cropLineSize
      = frame.origLineSize - frame.cropLineSize := by
    rw [h.sized.origLineSize, h.sized.cropLineSize]
    exact unsignedSub_eq low frame.lineSize_small
  have next : unsigned (this.currentLine + 1) = this.currentLine + 1 := unsigned_eq (by omega)
  obtain ⟨read, s, run, reached, _⟩ := h.discard (frame.origLineSize - frame.cropLineSize)
    (Frame.not_selected_margin (by omega))
  rw [Frame.position_line] at reached
  rw [run_endLine margin next run, h.sized.cropLines]
  by_cases last : this.currentLine + 1 = frame.cropLines
  · -- the rows below are discarded as well
    have start := reached (this.currentLine + 1) 0
    have below : unsignedSub (this.moved s (this.currentLine + 1) 0).origLines
        (this.moved s (this.currentLine + 1) 0).currentLine
        = frame.origLines - (this.currentLine + 1) := by
      change unsignedSub this.origLines (this.currentLine + 1) = _
      rw [h.sized.origLines]
      exact unsignedSub_eq (by omega) small
    obtain ⟨s', loop, final⟩ := start.discardLinesLoop
      (frame.origLines - (this.currentLine + 1)) (Nat.le_of_eq last.symm)
      (Nat.add_sub_of_le (show this.currentLine + 1 ≤ frame.origLines by omega))
    refine ⟨this.moved s' 0 0, page + 1, ?_,
      ⟨final 0 0, frame.lines_pos, frame.lineSize_pos⟩, rfl⟩
    rw [if_pos last]
    refine run_discardLines below (loop.trans ?_)
    rw [← h.sized.origLines]
    rfl
  · refine ⟨this.moved s (this.currentLine + 1) 0, page, ?_,
      ⟨reached _ _, ?_, frame.lineSize_pos⟩, rfl⟩
    · rw [if_neg last]
      rfl
    · change this.currentLine + 1 < frame.cropLines
      omega

-----------------------------------------------------------------------------------------
-- Reading
-----------------------------------------------------------------------------------------

/-- `readLine` after it has read from the source. -/
theorem run_readLine {this : CropStreambuf σ} {n count column : Nat} {data : List UInt8} {s : σ}
    (size : min (unsigned n) (unsignedSub this.cropLineSize this.lineRead) = count)
    (read : (Source.sgetn count).run this.rasterStream = .ok data s)
    (next : unsigned (this.lineRead + data.length) = column)
    : (readLine n).run this
      = (if column = this.cropLineSize then do
            CropStreambuf.endLine
            return data
          else return data : Action (CropStreambuf σ) (List UInt8)).run
          (this.moved s this.currentLine column) := by
  unfold readLine
  rw [run_get_bind, size]
  unfold raster
  rw [run_bind_ok (run_zoom_ok read), run_modify_bind, run_get_bind, ← next]
  rfl

/-- Taking more than there is takes everything. -/
theorem cut_length (rest : List UInt8) (count : Nat)
    : rest.take (rest.take count).length = rest.take count
      ∧ rest.drop (rest.take count).length = rest.drop count := by
  rw [List.length_take]
  rcases Nat.le_total count rest.length with enough | short
  · rw [Nat.min_eq_left enough]
    exact ⟨rfl, rfl⟩
  · rw [Nat.min_eq_right short, List.take_length, List.drop_length, List.take_of_length_le short,
      List.drop_of_length_le short]
    exact ⟨rfl, rfl⟩

/-- Bytes of the corner are delivered as they are read. -/
theorem Reached.deliver {this : CropStreambuf σ} {page : Nat} {delivered : List UInt8}
    (h : Reached frame content this (frame.position page this.currentLine this.lineRead)
      delivered)
    (line : this.currentLine < frame.cropLines) {count : Nat}
    (inside : this.lineRead + count ≤ frame.cropLineSize)
    : ∃ data s, (Source.sgetn count).run this.rasterStream = .ok data s
        ∧ data.length = min count (frame.left content delivered)
        ∧ Reached frame content (this.moved s this.currentLine (this.lineRead + data.length))
            (frame.position page this.currentLine (this.lineRead + data.length))
            (delivered ++ data) := by
  obtain ⟨sized, source, split⟩ := h
  generalize start : frame.position page this.currentLine this.lineRead = pos at source split
  obtain ⟨s, read, left⟩ := source.sgetn count
  obtain ⟨taken, dropped⟩ := cut_length (content.drop pos) count
  have le := List.length_take_le count (content.drop pos)
  have stop : frame.position page this.currentLine
      (this.lineRead + ((content.drop pos).take count).length)
      = pos + ((content.drop pos).take count).length := by
    rw [← start]
    exact (Nat.add_assoc ..).symm
  have room : this.lineRead + ((content.drop pos).take count).length ≤ frame.cropLineSize := by
    omega
  have selected : ∀ i < ((content.drop pos).take count).length, frame.Selected (pos + i) := by
    intro i less
    rw [← start]
    exact Frame.selected_row line room i less
  have keep := select_keep frame.Selected _ selected (content.drop pos)
  rw [taken, List.drop_drop] at keep
  refine ⟨(content.drop pos).take count, s, read, ?_, sized.moved _ _ _, ?_, ?_⟩
  · have whole := congrArg List.length split
    rw [keep, List.length_append, List.length_append] at whole
    rw [Frame.left, whole]
    rcases Nat.le_total count (content.drop pos).length with enough | short
    · have full := List.length_take_of_le enough
      omega
    · have none : content.drop (pos + ((content.drop pos).take count).length) = [] := by
        rw [← List.drop_drop, dropped]
        exact List.drop_of_length_le short
      rw [none, select, List.length_nil] at whole ⊢
      omega
  · rw [stop, ← List.drop_drop, dropped]
    exact left
  · rw [stop, split, keep, List.append_assoc]

/-- What was delivered is the front of the cropped content. -/
theorem At.isPrefix {this : CropStreambuf σ} {page : Nat} {delivered : List UInt8}
    (h : At frame content this page delivered)
    : delivered <+: frame.crop content :=
  ⟨_, h.reached.split.symm⟩

/-- Everything is delivered when nothing is left. -/
theorem At.finished {this : CropStreambuf σ} {page : Nat} {delivered : List UInt8}
    (h : At frame content this page delivered) (none : frame.left content delivered = 0)
    : delivered = frame.crop content :=
  h.isPrefix.eq_of_length_le (Nat.le_of_sub_eq_zero none)

/-- A read within the current row stays between reads. It ends the row, or the bytes of the
corners, or is complete.
-/
theorem At.readLine {this : CropStreambuf σ} {page : Nat} {delivered : List UInt8}
    (h : At frame content this page delivered) (n : Nat)
    : ∃ data this' page', (CropStreambuf.readLine n).run this = .ok data this'
        ∧ At frame content this' page' (delivered ++ data)
        ∧ data.length
            = min (min (unsigned n) (frame.cropLineSize - this.lineRead))
                (frame.left content delivered)
        ∧ (data.length = frame.cropLineSize - this.lineRead → this'.lineRead = 0) := by
  obtain ⟨reached, line, column⟩ := h
  have limit := frame.lineSize_le
  have bound := frame.lineSize_small
  have size : min (unsigned n) (unsignedSub this.cropLineSize this.lineRead)
      = min (unsigned n) (frame.cropLineSize - this.lineRead) := by
    rw [reached.sized.cropLineSize, unsignedSub_eq (Nat.le_of_lt column) (by omega)]
  obtain ⟨data, s, read, length, next⟩ := reached.deliver line
    (show this.lineRead + min (unsigned n) (frame.cropLineSize - this.lineRead)
        ≤ frame.cropLineSize by
      omega)
  have wide : unsigned (this.lineRead + data.length) = this.lineRead + data.length :=
    unsigned_eq (by omega)
  have run := run_readLine size read wide
  rw [reached.sized.cropLineSize] at run
  by_cases last : this.lineRead + data.length = frame.cropLineSize
  · rw [last] at next
    obtain ⟨this', page', ended, after, first⟩ := next.endLine line
    refine ⟨data, this', page', ?_, after, length, fun _ => first⟩
    rw [run, if_pos last, last, run_bind_ok ended]
    rfl
  · refine ⟨data, this.moved s this.currentLine (this.lineRead + data.length), page, ?_,
      ⟨next, line, ?_⟩, length, fun full => by omega⟩
    · rw [run, if_neg last]
      rfl
    · change this.lineRead + data.length < frame.cropLineSize
      omega

/-- A block is read row by row, by induction on the bound of the iterations. -/
theorem At.xsgetnLoop (fuel : Nat) {this : CropStreambuf σ} {page : Nat}
    {delivered : List UInt8} (h : At frame content this page delivered) {n : Nat}
    (some : 1 ≤ n) (enough : n ≤ fuel)
    : ∃ data this' page', (CropStreambuf.xsgetnLoop fuel n).run this = .ok data this'
        ∧ At frame content this' page' (delivered ++ data)
        ∧ data.length = min (frame.reach n this.lineRead) (frame.left content delivered) := by
  induction fuel generalizing this page delivered n with
  | zero => omega
  | succ fuel ih =>
      have low := frame.lineSize_pos
      have limit := frame.lineSize_le
      have bound := frame.lineSize_small
      have size := h.reached.sized.cropLineSize
      by_cases long : unsigned n > frame.cropLineSize
      · have inside := h.column
        have wide : unsigned frame.cropLineSize = frame.cropLineSize := unsigned_eq (by omega)
        obtain ⟨first, middle, page', run, next, length, ends⟩ := h.readLine frame.cropLineSize
        have notEmpty : ¬ frame.cropLineSize = 0 := by omega
        rw [wide] at length
        rw [Frame.reach, if_pos long]
        by_cases stop : first.length = 0
        · rw [List.length_eq_zero_iff.mp stop] at next
          refine ⟨[], middle, page', ?_, next, ?_⟩
          · simp only [CropStreambuf.xsgetnLoop, run_get_bind, size, long, notEmpty,
              ↓reduceIte, run_bind_ok run, stop]
            rfl
          · rw [List.length_nil]
            omega
        · have whole : unsigned (n - first.length) = unsigned n - first.length := by
            unfold unsigned at long ⊢
            omega
          have less : unsigned n ≤ n := Nat.mod_le ..
          obtain ⟨rest, this', page'', loop, final, count⟩ := ih next
            (show 1 ≤ n - first.length by omega) (by omega)
          refine ⟨first ++ rest, this', page'', ?_, ?_, ?_⟩
          · simp only [CropStreambuf.xsgetnLoop, run_get_bind, size, long, notEmpty,
              ↓reduceIte, run_bind_ok run, stop, run_bind_ok loop]
            rfl
          · rw [← List.append_assoc]
            exact final
          · -- the rest is read from the start of a row, or nothing is left
            rw [Frame.left_append, Frame.reach, whole] at count
            rw [List.length_append, count]
            rcases Nat.lt_or_ge (frame.left content delivered)
              (frame.cropLineSize - this.lineRead) with last | more
            · omega
            · rw [ends (by omega)]
              split <;> omega
      · obtain ⟨data, this', page', run, next, length, _⟩ := h.readLine n
        refine ⟨data, this', page', ?_, next, ?_⟩
        · simp only [CropStreambuf.xsgetnLoop, run_get_bind, size, long, ↓reduceIte, run]
        · rw [Frame.reach, if_neg long, length]

/-- What a read of any size gives. -/
theorem At.xsgetn {this : CropStreambuf σ} {page : Nat} {delivered : List UInt8}
    (h : At frame content this page delivered) {n : Nat} (some : 1 ≤ n)
    : ∃ data this' page', (CropStreambuf.xsgetn n).run this = .ok data this'
        ∧ At frame content this' page' (delivered ++ data)
        ∧ data.length = min (frame.reach n this.lineRead) (frame.left content delivered) := by
  have nonzero : ¬ n = 0 := by omega
  unfold CropStreambuf.xsgetn
  rw [if_neg nonzero]
  exact h.xsgetnLoop n some (Nat.le_refl n)

/-- A read whose size does not wrap comes up empty only at the end. -/
theorem At.finished_of_empty {this this' : CropStreambuf σ} {page n : Nat}
    {delivered : List UInt8} (h : At frame content this page delivered) (some : 1 ≤ n)
    (small : n < 2 ^ 32) (run : (CropStreambuf.xsgetn n).run this = .ok [] this')
    : delivered = frame.crop content := by
  obtain ⟨data, other, page', read, _, length⟩ := h.xsgetn some
  have column := h.column
  rw [run] at read
  cases read
  apply h.finished
  rw [Frame.reach, unsigned_eq small, List.length_nil] at length
  split at length <;> omega

/-- `uflow` is a read of one byte. -/
theorem run_uflow {this this' : CropStreambuf σ} {data : List UInt8}
    (run : (CropStreambuf.xsgetn 1).run this = .ok data this')
    : CropStreambuf.uflow.run this = .ok data.head? this' := by
  unfold CropStreambuf.uflow
  rw [run_bind_ok run]
  rfl

/-- The source is at the next byte of a corner, or at its end. -/
theorem At.next {this : CropStreambuf σ} {page : Nat} {delivered : List UInt8}
    (h : At frame content this page delivered)
    : (content.drop (frame.position page this.currentLine this.lineRead)).head?
      = (frame.crop content)[delivered.length]? := by
  obtain ⟨reached, line, column⟩ := h
  have lines := frame.lines_le
  have lineSize := frame.lineSize_le
  have selected : frame.Selected (frame.position page this.currentLine this.lineRead) :=
    (Frame.selected_position (by omega) (by omega)).mpr ⟨column, line⟩
  rw [reached.split, List.getElem?_append_right (Nat.le_refl _), Nat.sub_self]
  cases content.drop (frame.position page this.currentLine this.lineRead) with
  | nil => rfl
  | cons b rest =>
      rw [select, if_pos selected]
      rfl

/-- Taking a byte gives the next byte of a corner. -/
theorem At.uflow {this : CropStreambuf σ} {page : Nat} {delivered : List UInt8}
    (h : At frame content this page delivered)
    : ∃ this' page', CropStreambuf.uflow.run this
          = .ok (frame.crop content)[delivered.length]? this'
        ∧ At frame content this' page'
            (delivered ++ (frame.crop content)[delivered.length]?.toList) := by
  obtain ⟨data, this', page', run, after, length⟩ := h.xsgetn (Nat.le_refl 1)
  have le := frame.reach_le 1 this.lineRead
  have first : data.head? = (frame.crop content)[delivered.length]? := by
    cases data with
    | nil =>
        rw [← h.finished_of_empty (Nat.le_refl 1) (by decide) run,
          List.getElem?_eq_none (Nat.le_refl _)]
        rfl
    | cons b rest =>
        rw [after.reached.split, List.append_assoc,
          List.getElem?_append_right (Nat.le_refl _), Nat.sub_self]
        rfl
  refine ⟨this', page', ?_, ?_⟩
  · rw [← first]
    exact run_uflow run
  · rw [← first]
    cases data with
    | nil => exact after
    | cons b rest =>
        cases rest with
        | nil => exact after
        | cons c rest =>
            rw [List.length_cons, List.length_cons] at length
            omega

/-- Looking at the next byte gives it and leaves the reader where it is. -/
theorem At.underflow {this : CropStreambuf σ} {page : Nat} {delivered : List UInt8}
    (h : At frame content this page delivered)
    : ∃ s, CropStreambuf.underflow.run this
          = .ok (frame.crop content)[delivered.length]?
              (this.moved s this.currentLine this.lineRead)
        ∧ (∀ left, Supplies this.rasterStream left → Supplies s left)
        ∧ At frame content (this.moved s this.currentLine this.lineRead) page delivered := by
  have next := h.next
  obtain ⟨reached, line, column⟩ := h
  obtain ⟨s, run, _⟩ := reached.source.sgetc
  have kept : ∀ left, Supplies this.rasterStream left → Supplies s left := by
    intro left supplies
    obtain ⟨s', other, after⟩ := supplies.sgetc
    rw [run, EStateM.Result.ok.injEq] at other
    obtain ⟨_, rfl⟩ := other
    exact after
  rw [next] at run
  refine ⟨s, run_zoom_ok run, kept, ⟨reached.sized.moved _ _ _, ?_, reached.split⟩, line,
    column⟩
  exact kept _ reached.source

-----------------------------------------------------------------------------------------
-- Sequences of reads
-----------------------------------------------------------------------------------------

/-- A read of some bytes, or a look at the next one. -/
inductive Request where
  | sgetn (n : Nat) (positive : 1 ≤ n) (small : n < 2 ^ 32)
  | sbumpc
  | sgetc

/-- Performs a request, and gives the bytes that it takes. -/
def Request.perform : Request → Action (CropStreambuf σ) (List UInt8)
  | sgetn n _ _ => Source.sgetn n
  | sbumpc => do
    let c ← Source.sbumpc
    return c.toList
  | sgetc => do
    let _ ← Source.sgetc
    return []

/-- The requests in order, with all that they give. -/
def performAll : List Request → Action (CropStreambuf σ) (List UInt8)
  | [] => return []
  | request :: requests => do
    let first ← request.perform
    let rest ← performAll requests
    return first ++ rest

/-- One request delivers the next bytes of the cropped content. -/
theorem At.perform {this : CropStreambuf σ} {page : Nat} {delivered : List UInt8}
    (h : At frame content this page delivered) (request : Request)
    : ∃ data this' page', request.perform.run this = .ok data this'
        ∧ At frame content this' page' (delivered ++ data) := by
  cases request with
  | sgetn n positive small =>
      obtain ⟨data, this', page', run, after, _⟩ := h.xsgetn positive
      exact ⟨data, this', page', run, after⟩
  | sbumpc =>
      obtain ⟨this', page', run, after⟩ := h.uflow
      refine ⟨_, this', page', ?_, after⟩
      exact run_bind_ok run
  | sgetc =>
      obtain ⟨s, run, _, after⟩ := h.underflow
      refine ⟨[], _, page, run_bind_ok run, ?_⟩
      rw [List.append_nil]
      exact after

/-- The reader stays between reads, by induction on the requests. -/
theorem At.performAll (requests : List Request) {this : CropStreambuf σ} {page : Nat}
    {delivered : List UInt8} (h : At frame content this page delivered)
    : ∃ data this' page', (CropStreambuf.performAll requests).run this = .ok data this'
        ∧ At frame content this' page' (delivered ++ data) := by
  induction requests generalizing this page delivered with
  | nil => exact ⟨[], this, page, rfl, by rwa [List.append_nil]⟩
  | cons request requests ih =>
      obtain ⟨first, middle, page', run, next⟩ := h.perform request
      obtain ⟨rest, this', page'', run', final⟩ := ih next
      refine ⟨first ++ rest, this', page'', ?_, by rwa [← List.append_assoc]⟩
      rw [CropStreambuf.performAll, run_bind_ok run, run_bind_ok run']
      rfl

/-- Between reads, the delivered bytes are those of the corners before the source's
position.
-/
theorem Reached.delivered {this : CropStreambuf σ} {pos : Nat} {delivered : List UInt8}
    (h : Reached frame content this pos delivered)
    : delivered = frame.crop (content.take pos) := by
  have split := select_append frame.Selected 0 (content.take pos) (content.drop pos)
  rw [List.take_append_drop] at split
  rcases Nat.le_total pos content.length with inside | past
  · rw [List.length_take, Nat.min_eq_left inside, Nat.zero_add] at split
    exact List.append_cancel_right (h.split.symm.trans split)
  · have all := h.split
    rw [List.drop_of_length_le past] at all
    rw [List.take_of_length_le past, all]
    exact (List.append_nil _).symm

/-- Once the corners of some pages are delivered, and nothing more, the source is at the
end of these pages, or at its own end.
-/
theorem At.consumed {this : CropStreambuf σ} {page : Nat} {delivered : List UInt8}
    (h : At frame content this page delivered) {pages : Nat}
    (done : delivered = frame.crop (content.take (pages * (frame.origLineSize * frame.origLines))))
    : min content.length (frame.position page this.currentLine this.lineRead)
      = min content.length (pages * (frame.origLineSize * frame.origLines)) := by
  obtain ⟨reached, line, column⟩ := h
  have lines := frame.lines_le
  have lineSize := frame.lineSize_le
  have here : frame.Selected (frame.position page this.currentLine this.lineRead) :=
    (Frame.selected_position (by omega) (by omega)).mpr ⟨column, line⟩
  have there : frame.Selected (frame.position pages 0 0) :=
    (Frame.selected_position (Nat.lt_of_lt_of_le frame.lines_pos lines)
      (Nat.lt_of_lt_of_le frame.lineSize_pos lineSize)).mpr
      ⟨frame.lineSize_pos, frame.lines_pos⟩
  have ends : frame.position pages 0 0 = pages * (frame.origLineSize * frame.origLines) := by
    rw [Frame.position, Nat.add_zero, Nat.add_zero, Nat.mul_assoc,
      Nat.mul_comm frame.origLines]
  have same := reached.delivered.symm.trans done
  rw [ends] at there
  generalize frame.position page this.currentLine this.lineRead = pos at here same
  generalize pages * (frame.origLineSize * frame.origLines) = stop at there same
  rcases Nat.lt_trichotomy pos stop with before | rfl | behind
  · have past : ¬ pos < content.length := fun inside =>
      select_take_ne frame.Selected before inside here same
    omega
  · rfl
  · have past : ¬ stop < content.length := fun inside =>
      select_take_ne frame.Selected behind inside there same.symm
    omega

/-- Reads of any sizes deliver the bytes of the corners in order, and nothing else. A read
comes up empty only when they are all delivered, a look at the next byte takes nothing, and
when the corners of some pages are delivered the source is at the end of these pages.
-/
theorem cropping (frame : Frame) {content : List UInt8} {rasterStream : σ}
    (source : Supplies rasterStream content) (requests : List Request)
    : ∃ delivered this,
        (performAll requests).run
            (construct rasterStream frame.origLineSize frame.origLines frame.cropLineSize
              frame.cropLines)
          = .ok delivered this
        ∧ delivered <+: frame.crop content
        ∧ (∀ n, 1 ≤ n → n < 2 ^ 32 → ∃ data this',
            (Source.sgetn n).run this = .ok data this'
            ∧ (data = [] → delivered = frame.crop content))
        ∧ (∃ c s this' this'',
            Source.sgetc.run this = .ok c { this with rasterStream := s }
            ∧ (∀ left, Supplies this.rasterStream left → Supplies s left)
            ∧ Source.sbumpc.run { this with rasterStream := s } = .ok c this'
            ∧ Source.sbumpc.run this = .ok c this''
            ∧ (c = none → delivered = frame.crop content))
        ∧ ∃ consumed ≤ content.length,
            Supplies this.rasterStream (content.drop consumed)
            ∧ ∀ pages,
                delivered
                    = frame.crop (content.take (pages * (frame.origLineSize * frame.origLines)))
                  → consumed
                    = min content.length (pages * (frame.origLineSize * frame.origLines)) := by
  obtain ⟨delivered, this, page, run, place⟩ := (construct_at source).performAll requests
  refine ⟨delivered, this, run, ?_, ?_, ?_, ?_⟩
  · exact ⟨_, place.reached.split.symm⟩
  · intro n positive small
    obtain ⟨data, this', _, read, _⟩ := place.xsgetn positive
    refine ⟨data, this', read, ?_⟩
    rintro rfl
    exact place.finished_of_empty positive small read
  · obtain ⟨s, look, kept, still⟩ := place.underflow
    obtain ⟨this', _, take, _⟩ := still.uflow
    obtain ⟨this'', _, directly, _⟩ := place.uflow
    refine ⟨_, s, this', this'', look, kept, take, directly, ?_⟩
    intro none
    have all := List.getElem?_eq_none_iff.mp none
    exact List.IsPrefix.eq_of_length_le ⟨_, place.reached.split.symm⟩ all
  · refine ⟨min content.length (frame.position page this.currentLine this.lineRead),
      Nat.min_le_left _ _, ?_, fun pages done => place.consumed done⟩
    have rest := place.reached.source
    rcases Nat.le_total (frame.position page this.currentLine this.lineRead) content.length
      with inside | past
    · rw [Nat.min_eq_right inside]
      exact rest
    · rw [Nat.min_eq_left past, List.drop_length, ← List.drop_of_length_le past]
      exact rest

/-- Two pages of three by two bytes, cropped to two by one, the second page incomplete. -/
theorem cropping_twoPages
    : ∃ delivered this,
        (performAll [.sgetn 3 (by decide) (by decide), .sgetc, .sbumpc]).run
            (construct (⟨[0, 1, 2, 3, 4, 5, 6, 7]⟩ : MemoryStreambuf) 3 2 2 1)
          = .ok delivered this
        ∧ delivered <+: [0, 1, 6, 7] := by
  obtain ⟨delivered, this, run, front, _⟩ := cropping
    ⟨3, 2, 2, 1, by decide, by decide, by decide, by decide, by decide, by decide⟩
    (MemoryStreambuf.supplies [0, 1, 2, 3, 4, 5, 6, 7])
    [.sgetn 3 (by decide) (by decide), .sgetc, .sbumpc]
  exact ⟨delivered, this, run, front⟩

end CropStreambuf

end Capt.Utility
