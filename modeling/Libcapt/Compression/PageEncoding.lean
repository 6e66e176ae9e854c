import Libcapt.Compression.LineEncoding

/-! What is read from the compressor: the encodings of the complete lines of its raster,
and the end of the page after the last of them.
-/

namespace Capt.Compression

open Streams

-----------------------------------------------------------------------------------------
-- The compressed form of a raster
-----------------------------------------------------------------------------------------

/-- What follows the last line of a page of `videoSize` bytes. -/
def endPage (videoSize : Nat) : List UInt8 :=
  encode ((if (videoSize + 1) % 2 ≠ 0 then [.nop] else []) ++ [.eop])

/-- The compressed form of the next `lines` lines of a raster, under the line `prevLine`
and after `videoSize` bytes of the page. It ends before the first line that the raster
does not have in full.
-/
def compressLines (lineSize : Nat) : List UInt8 → Nat → Nat → List UInt8 → List UInt8
  | _, _, 0, _ => []
  | prevLine, videoSize, lines + 1, raster =>
    if raster.length < lineSize then []
    else
      let line := raster.take lineSize
      let bytes := compressLine prevLine line
      let videoSize := videoSize + bytes.length
      bytes ++
        if lines = 0 then endPage videoSize
        else compressLines lineSize line videoSize lines (raster.drop lineSize)

/-- The compressed form of a page of `lines` lines. -/
def compress (lineSize lines : Nat) (raster : List UInt8) : List UInt8 :=
  compressLines lineSize [] 0 lines raster

/-- The lines of a page without its end: each line under the one before. -/
def compressRows : List UInt8 → List (List UInt8) → List UInt8
  | _, [] => []
  | prevLine, line :: lines => compressLine prevLine line ++ compressRows line lines

/-- A line that the raster has in full is compressed, and then the lines after it. -/
theorem compressLines_cons {lineSize : Nat} {row : List UInt8} (length : row.length = lineSize)
    (prevLine : List UInt8) (videoSize lines : Nat) (rest : List UInt8)
    : compressLines lineSize prevLine videoSize (lines + 1) (row ++ rest)
      = compressLine prevLine row
        ++ if lines = 0 then endPage (videoSize + (compressLine prevLine row).length)
          else compressLines lineSize row (videoSize + (compressLine prevLine row).length)
            lines rest := by
  have enough : ¬ (row ++ rest).length < lineSize := by
    rw [List.length_append]
    omega
  rw [compressLines, if_neg enough, List.take_left' length, List.drop_left' length]

/-- A raster that has every line is compressed to its lines and the end of the page, by
induction on the lines.
-/
theorem compressLines_complete {lineSize : Nat} {rows : List (List UInt8)}
    (size : ∀ row ∈ rows, row.length = lineSize) (some : rows ≠ [])
    (prevLine : List UInt8) (videoSize : Nat) (rest : List UInt8)
    : compressLines lineSize prevLine videoSize rows.length (rows.flatten ++ rest)
      = compressRows prevLine rows
        ++ endPage (videoSize + (compressRows prevLine rows).length) := by
  induction rows generalizing prevLine videoSize with
  | nil => exact absurd rfl some
  | cons row rows ih =>
      have length : row.length = lineSize := size row List.mem_cons_self
      rw [List.length_cons, List.flatten_cons, List.append_assoc, compressLines_cons length]
      cases rows with
      | nil => simp [compressRows]
      | cons next rows =>
          have more := ih (fun row mem => size row (List.mem_cons_of_mem _ mem)) (by simp) row
            (videoSize + (compressLine prevLine row).length)
          rw [compressRows]
          simp only [more, List.length_append, Nat.add_assoc, List.append_assoc]
          simp

/-- A raster that ends before the last line is compressed to its complete lines, by
induction on them.
-/
theorem compressLines_partial {lineSize lines : Nat} {rows : List (List UInt8)}
    (size : ∀ row ∈ rows, row.length = lineSize) (fewer : rows.length < lines)
    {rest : List UInt8} (short : rest.length < lineSize) (prevLine : List UInt8)
    (videoSize : Nat)
    : compressLines lineSize prevLine videoSize lines (rows.flatten ++ rest)
      = compressRows prevLine rows := by
  induction rows generalizing lines prevLine videoSize with
  | nil =>
      obtain ⟨n, rfl⟩ := Nat.exists_eq_succ_of_ne_zero (Nat.ne_of_gt fewer)
      rw [compressLines, List.flatten_nil, List.nil_append, if_pos short]
      rfl
  | cons row rows ih =>
      have length : row.length = lineSize := size row List.mem_cons_self
      rw [List.length_cons] at fewer
      obtain ⟨n, rfl⟩ : ∃ n, lines = n + 2 := ⟨lines - 2, by omega⟩
      have fewer' : rows.length < n + 1 := by omega
      have more := ih (fun row mem => size row (List.mem_cons_of_mem _ mem)) fewer' row
        (videoSize + (compressLine prevLine row).length)
      rw [List.flatten_cons, List.append_assoc, compressLines_cons length,
        if_neg (Nat.succ_ne_zero n), more]
      rfl

namespace ScoaStreambuf

variable {σ : Type}

/-- The line above the next one, when there is one. -/
def above (this : ScoaStreambuf σ) : List UInt8 :=
  if this.videoSize = 0 then [] else this.prevLine

/-- No assertion has failed, sizes are those of 32-bit line sizes, and a previous line has
the size of the current one.
-/
structure Sound (this : ScoaStreambuf σ) : Prop where
  asserted : this.buffer.asserted = true
  small : this.currLine.length < 2 ^ 32
  above : this.videoSize ≠ 0 → this.prevLine.length = this.currLine.length

/-- The line above is as long as the current one, or there is none. -/
theorem Sound.above_length {this : ScoaStreambuf σ} (h : this.Sound)
    : this.above = [] ∨ this.above.length = this.currLine.length := by
  unfold ScoaStreambuf.above
  split
  · exact Or.inl rfl
  · exact Or.inr (h.above ‹_›)

/-- `resize` gives the length it is told. -/
@[simp]
theorem length_resize (line : List UInt8) (size : Nat) : (resize line size).length = size := by
  simp only [resize, List.length_append, List.length_take, List.length_replicate]
  omega

/-- A new compressor is sound. -/
theorem construct_sound (rasterStream : σ) {lineSize : Nat} (lines : Nat)
    (small : lineSize < 2 ^ 32)
    : (construct rasterStream lineSize lines).Sound :=
  ⟨rfl, by simpa [construct] using small, fun nonzero => absurd rfl nonzero⟩

/-- `Reset` keeps a compressor sound, with its new sizes. -/
theorem Sound.reset {this : ScoaStreambuf σ} (h : this.Sound) (rasterStream : σ)
    {lineSize : Nat} (lines : Nat) (small : lineSize < 2 ^ 32)
    : (this.reset rasterStream lineSize lines).Sound :=
  ⟨h.asserted, by simpa [ScoaStreambuf.reset] using small,
    fun nonzero => absurd rfl nonzero⟩

/-- The bytes written for a line, with the end of the page after the last line. -/
def lineBytes (this : ScoaStreambuf σ) (line : List UInt8) : List UInt8 :=
  let bytes := compressLine this.above line
  bytes ++ if this.linesRemain - 1 = 0 then endPage (this.videoSize + bytes.length) else []

/-- The compressor after a line, before its bytes become the get area. -/
def afterLine (this : ScoaStreambuf σ) (line : List UInt8) : ScoaStreambuf σ :=
  { this with
    buffer := { bytes := this.lineBytes line }
    currLine := resize this.prevLine line.length
    prevLine := line
    linesRemain := this.linesRemain - 1
    videoSize := this.videoSize + (compressLine this.above line).length }

/-- One line is appended as its commands. -/
theorem run_encodeLine {this : ScoaStreambuf σ} (h : this.Sound)
    (nonempty : 0 < this.currLine.length)
    : encodeLine.run this = .ok () (this.afterLine this.currLine) := by
  have cleared : ({ bytes := [], asserted := this.buffer.asserted } : Buffer) = {} := by
    rw [h.asserted]
  have loop := encodeLoop_line nonempty h.small h.above_length this.videoSize
  rw [above] at loop
  unfold encodeLine EStateM.run
  simp only [cleared, loop, afterLine, lineBytes, above]
  by_cases last : this.linesRemain - 1 = 0
  · by_cases odd : (this.videoSize + (compressLine
        (if this.videoSize = 0 then [] else this.prevLine) this.currLine).length + 1) % 2 = 0
    · simp [last, odd, endPage, encode, Command.bytes, Command.emit, ScoaCmd.eop,
        Buffer.pushBack]
    · simp [last, odd, endPage, encode, Command.bytes, Command.emit, ScoaCmd.eop,
        ScoaCmd.nop, Buffer.pushBack]
  · simp [last]

/-- A line whose bytes were all there leaves the invariant. -/
theorem Sound.afterLine {this : ScoaStreambuf σ} (h : this.Sound) {line : List UInt8}
    (size : line.length = this.currLine.length)
    : (this.afterLine line).Sound := by
  refine ⟨rfl, ?_, ?_⟩
  · simpa [ScoaStreambuf.afterLine, size] using h.small
  · intro
    simp [ScoaStreambuf.afterLine]

-----------------------------------------------------------------------------------------
-- The cases of underflow
-----------------------------------------------------------------------------------------

/-- `currLine` after a read that gave `data`. -/
def afterRead (this : ScoaStreambuf σ) (raster : σ) (data : List UInt8) : ScoaStreambuf σ :=
  { this with
    rasterStream := some raster
    currLine := data ++ this.currLine.drop data.length }

/-- A read that gives too little leaves the line as long as it was. -/
theorem length_afterRead (this : ScoaStreambuf σ) (raster : σ) {data : List UInt8}
    (le : data.length ≤ this.currLine.length)
    : (this.afterRead raster data).currLine.length = this.currLine.length := by
  simp only [afterRead, List.length_append, List.length_drop]
  omega

/-- A read leaves the compressor sound. -/
theorem Sound.afterRead {this : ScoaStreambuf σ} (h : this.Sound) (raster : σ) {data : List UInt8}
    (le : data.length ≤ this.currLine.length)
    : (this.afterRead raster data).Sound := by
  have length := length_afterRead this raster le
  refine ⟨h.asserted, ?_, ?_⟩
  · rw [length]
    exact h.small
  · rw [length]
    exact h.above

section Underflow

variable [Source Fault UInt8 σ] {this : ScoaStreambuf σ}

/-- Without lines that remain there is nothing more to give. -/
theorem run_underflow_stop (empty : this.area = []) (stop : this.linesRemain = 0)
    : underflow.run this = .ok none this := by
  simp [underflow, empty, stop]

/-- A line is read from the raster stream. -/
theorem run_readLine {raster raster' : σ} {data : List UInt8}
    (source : this.rasterStream = some raster)
    (read : (Source.sgetn this.currLine.length).run raster = .ok data raster')
    : readLine.run this = .ok data.length (this.afterRead raster' data) := by
  simp [readLine, EStateM.run, source, afterRead] at read ⊢
  rw [read]

/-- A line that the raster does not have in full ends the page early. -/
theorem run_underflow_short {raster raster' : σ} {data : List UInt8}
    (empty : this.area = []) (lines : this.linesRemain ≠ 0)
    (source : this.rasterStream = some raster)
    (read : (Source.sgetn this.currLine.length).run raster = .ok data raster')
    (short : data.length < this.currLine.length)
    : underflow.run this = .ok none (this.afterRead raster' data) := by
  have line := run_readLine source read
  simp [underflow, empty, lines, line, short]

/-- An exception of the raster reaches the reader. -/
theorem run_underflow_error {raster raster' : σ} {err : Fault}
    (empty : this.area = []) (lines : this.linesRemain ≠ 0)
    (source : this.rasterStream = some raster)
    (read : (Source.sgetn this.currLine.length).run raster = .error err raster')
    : underflow.run this = .error err { this with rasterStream := some raster' } := by
  have line : readLine.run this = .error err { this with rasterStream := some raster' } := by
    simp [readLine, EStateM.run, source] at read ⊢
    rw [read]
  simp [underflow, empty, lines, line]

/-- The compressor after a line, with the bytes of the line to be read. -/
def filled (this : ScoaStreambuf σ) (raster : σ) (line : List UInt8) : ScoaStreambuf σ :=
  { this.afterLine line with rasterStream := some raster, area := this.lineBytes line }

/-- A full line is encoded into the get area. -/
theorem run_underflow_line {raster raster' : σ} {line : List UInt8} (h : this.Sound)
    (empty : this.area = []) (lines : this.linesRemain ≠ 0)
    (source : this.rasterStream = some raster)
    (read : (Source.sgetn this.currLine.length).run raster = .ok line raster')
    (full : line.length = this.currLine.length) (nonempty : 0 < line.length)
    : underflow.run this = .ok (this.lineBytes line).head? (this.filled raster' line) := by
  have after := run_readLine source read
  have same : (this.afterRead raster' line).currLine = line := by
    simp [afterRead, full]
  have sound := h.afterRead raster' (Nat.le_of_eq full)
  have encoded := run_encodeLine sound (by rwa [same])
  have notShort : ¬ line.length < this.currLine.length := by omega
  rw [same] at encoded
  simp only [underflow, EStateM.run_bind, EStateM.run_get, empty, lines, after, notShort,
    encoded, EStateM.run_modify, ↓reduceIte]
  rfl

/-- While the get area is not empty no line is compressed. -/
theorem run_underflow_area {b : UInt8} {rest : List UInt8} (some : this.area = b :: rest)
    : underflow.run this = .ok (Option.some b) this := by
  simp [underflow, some]

/-- Without a raster stream the pointer is null when a line is needed. -/
theorem run_underflow_null (empty : this.area = []) (lines : this.linesRemain ≠ 0)
    (source : this.rasterStream = none)
    : underflow.run this
      = .error (.undefinedBehaviour "rasterStream is null") this := by
  have line : readLine.run this
      = .error (.undefinedBehaviour "rasterStream is null") this := by
    simp [readLine, EStateM.run, source]
  simp [underflow, empty, lines, line]

/-- The loop over the segments of an empty line does not end. -/
theorem run_underflow_empty {raster raster' : σ} (empty : this.area = [])
    (lines : this.linesRemain ≠ 0) (source : this.rasterStream = some raster)
    (read : (Source.sgetn this.currLine.length).run raster = .ok [] raster')
    (none : this.currLine = [])
    : underflow.run this = .error .unfinished (this.afterRead raster' []) := by
  have loop (buffer : Buffer) (prevLine : List UInt8) (videoSize : Nat)
      : encodeLoop 0 buffer [] (ScoaState.ofLines [] prevLine) videoSize = .none :=
    rfl
  have after := run_readLine source read
  have noLine : (this.afterRead raster' []).currLine = [] := by
    simp [afterRead, none]
  have encoded : encodeLine.run (this.afterRead raster' [])
      = .error .unfinished (this.afterRead raster' []) := by
    unfold encodeLine EStateM.run
    simp only [noLine, List.length_nil, loop]
  simp [underflow, empty, lines, after, none, encoded]

end Underflow

-----------------------------------------------------------------------------------------
-- The compressor supplies the compressed form
-----------------------------------------------------------------------------------------

/-- After a line, that line is the one above. -/
theorem filled_above {this : ScoaStreambuf σ} (h : this.Sound) (raster : σ)
    {line : List UInt8} (size : line.length = this.currLine.length)
    (nonempty : 0 < line.length)
    : (this.filled raster line).above = line := by
  have above := h.above_length
  rw [← size] at above
  have pos := compressLine_ne_nil nonempty (size ▸ h.small) above
  have counted : (this.filled raster line).videoSize ≠ 0 := by
    simp only [filled, afterLine]
    omega
  simp only [ScoaStreambuf.above, if_neg counted]
  rfl

/-- No line is compressed to nothing. -/
theorem lineBytes_ne_nil {this : ScoaStreambuf σ} (h : this.Sound) {line : List UInt8}
    (size : line.length = this.currLine.length) (nonempty : 0 < line.length)
    : this.lineBytes line ≠ [] := by
  have above := h.above_length
  rw [← size] at above
  have pos := compressLine_ne_nil nonempty (size ▸ h.small) above
  intro none
  rw [lineBytes, List.append_eq_nil_iff] at none
  rw [none.1] at pos
  exact Nat.lt_irrefl 0 pos

/-- The compressed form begins with the bytes of the next line. -/
theorem compressLines_line {this : ScoaStreambuf σ} (h : this.Sound) (raster : σ)
    {content : List UInt8} (nonempty : 0 < this.currLine.length)
    (lines : this.linesRemain ≠ 0) (full : this.currLine.length ≤ content.length)
    : let line := content.take this.currLine.length
      compressLines this.currLine.length this.above this.videoSize this.linesRemain content
      = this.lineBytes line
        ++ compressLines this.currLine.length (this.filled raster line).above
            (this.filled raster line).videoSize (this.filled raster line).linesRemain
            (content.drop this.currLine.length) := by
  intro line
  have size : line.length = this.currLine.length := by
    rw [List.length_take]
    omega
  obtain ⟨n, remain⟩ := Nat.exists_eq_succ_of_ne_zero lines
  have enough : ¬ content.length < this.currLine.length := by omega
  rw [filled_above h raster size (by omega), remain, compressLines, if_neg enough]
  simp only [lineBytes, filled, afterLine, remain, Nat.succ_eq_add_one, Nat.add_sub_cancel]
  cases n with
  | zero => simp [compressLines, line]
  | succ n => simp [line]

section Supply

variable [Source Fault UInt8 σ]

/-- What is left to read: the get area, and the compressed form of the lines that the
raster still has.
-/
structure Encodes (lineSize : Nat) (this : ScoaStreambuf σ) (symbols : List UInt8)
    : Prop where
  sound : this.Sound
  nonempty : 0 < lineSize
  size : this.currLine.length = lineSize
  source
    : ∃ raster content, this.rasterStream = some raster ∧ Supplies raster content
        ∧ symbols = this.area
            ++ compressLines lineSize this.above this.videoSize this.linesRemain content

/-- Reading a byte of the get area leaves the others. -/
theorem Encodes.gbump {lineSize : Nat} {this : ScoaStreambuf σ} {symbols rest : List UInt8}
    {b : UInt8} (h : Encodes lineSize this symbols) (filled : this.area = b :: rest)
    : Encodes lineSize (Streambuf.gbump 1 this) symbols.tail := by
  obtain ⟨raster, content, source, supplies, rfl⟩ := h.source
  refine ⟨⟨h.sound.asserted, h.sound.small, h.sound.above⟩, h.nonempty, h.size, raster,
    content, source, supplies, ?_⟩
  rw [filled]
  change _ = this.area.drop 1 ++ _
  rw [filled]
  rfl

/-- An empty get area is refilled with the bytes of a line unless nothing is left. -/
theorem Encodes.underflow {lineSize : Nat} {this : ScoaStreambuf σ} {symbols : List UInt8}
    (h : Encodes lineSize this symbols) (empty : this.area = [])
    : ∃ this', ScoaStreambuf.underflow.run this = .ok symbols.head? this'
        ∧ Encodes lineSize this' symbols
        ∧ (symbols ≠ [] → this'.area ≠ []) := by
  obtain ⟨raster, content, source, supplies, rfl⟩ := h.source
  obtain ⟨sound, nonempty, rfl, _⟩ := h
  rw [empty, List.nil_append]
  by_cases stop : this.linesRemain = 0
  · rw [stop, compressLines]
    refine ⟨this, run_underflow_stop empty stop, ?_, by simp⟩
    refine ⟨sound, nonempty, rfl, raster, content, source, supplies, ?_⟩
    rw [empty, stop, compressLines]
    rfl
  obtain ⟨raster', read, next⟩ := supplies.sgetn this.currLine.length
  rcases Nat.lt_or_ge content.length this.currLine.length with short | full
  · have length : (content.take this.currLine.length).length < this.currLine.length := by
      rw [List.length_take]
      omega
    have none : compressLines this.currLine.length this.above this.videoSize
        this.linesRemain content = [] := by
      obtain ⟨n, remain⟩ := Nat.exists_eq_succ_of_ne_zero stop
      rw [remain, compressLines, if_pos short]
    rw [none]
    have size := length_afterRead this raster' (Nat.le_of_lt length)
    refine ⟨_, run_underflow_short empty stop source read length, ?_, by simp⟩
    refine ⟨sound.afterRead raster' (Nat.le_of_lt length), nonempty, size, raster', _, rfl,
      next, ?_⟩
    obtain ⟨n, remain⟩ := Nat.exists_eq_succ_of_ne_zero stop
    have done : (content.drop this.currLine.length).length < this.currLine.length := by
      rw [List.length_drop]
      omega
    change [] = this.area ++ compressLines _ _ _ this.linesRemain _
    rw [empty, remain, compressLines, if_pos done]
    rfl
  · have size : (content.take this.currLine.length).length = this.currLine.length := by
      rw [List.length_take]
      omega
    have line := compressLines_line sound raster' nonempty stop full
    have bytes := lineBytes_ne_nil sound size (by omega)
    have run := run_underflow_line sound empty stop source read size (by omega)
    rw [line]
    refine ⟨this.filled raster' (content.take this.currLine.length), ?_, ?_, ?_⟩
    · rw [run, List.head?_append_of_ne_nil _ bytes]
    · have after := sound.afterLine size
      refine ⟨⟨after.asserted, after.small, after.above⟩, nonempty, ?_, raster', _, rfl, next,
        rfl⟩
      simp only [filled, afterLine, length_resize, size]
    · intro _
      exact bytes

/-- The compressor keeps its bytes in order: the get area first, then line by line. -/
theorem encodes_refills (lineSize : Nat)
    : Streambuf.Refills (Encodes (σ := σ) lineSize) := by
  refine ⟨?_, Encodes.gbump, Encodes.underflow⟩
  intro this symbols h
  obtain ⟨raster, content, _, _, rfl⟩ := h.source
  exact List.prefix_append ..

/-- A new compressor encodes the content of its raster stream. -/
theorem construct_encodes {rasterStream : σ} {content : List UInt8}
    (source : Supplies rasterStream content) {lineSize : Nat} (lines : Nat)
    (nonempty : 0 < lineSize) (small : lineSize < 2 ^ 32)
    : Encodes lineSize (construct rasterStream lineSize lines)
        (compress lineSize lines content) :=
  ⟨construct_sound rasterStream lines small, nonempty, List.length_replicate, rasterStream,
    content, rfl, source, rfl⟩

/-- Behind a `Reset` it encodes that of the new one. -/
theorem Sound.reset_encodes {this : ScoaStreambuf σ} (h : this.Sound)
    {rasterStream : σ} {content : List UInt8} (source : Supplies rasterStream content)
    {lineSize : Nat} (lines : Nat) (nonempty : 0 < lineSize) (small : lineSize < 2 ^ 32)
    : Encodes lineSize (this.reset rasterStream lineSize lines)
        (this.area ++ compress lineSize lines content) :=
  ⟨h.reset rasterStream lines small, nonempty, length_resize .., rasterStream, content, rfl,
    source, rfl⟩

/-- A new compressor supplies the compressed form of its raster. -/
theorem construct_supplies {rasterStream : σ} {content : List UInt8}
    (source : Supplies rasterStream content) {lineSize : Nat} (lines : Nat)
    (nonempty : 0 < lineSize) (small : lineSize < 2 ^ 32)
    : Supplies (construct rasterStream lineSize lines) (compress lineSize lines content) :=
  (encodes_refills lineSize).isSupply.supplies
    (construct_encodes source lines nonempty small)

end Supply

end ScoaStreambuf

end Capt.Compression
