import Libcapt.Compression.Reset

/-! The structure of a compressed page: the commands of each row draw the row below the
one before it, the video size counts their bytes, and the end of the page makes the total
even.
-/

namespace Capt.Compression

open Streams

variable {σ : Type}

/-- The commands of each row, read by their meaning below the row before, give exactly
that row.
-/
inductive Draws : List UInt8 → List (List UInt8) → List (List Command) → Prop
  | nil (prev) : Draws prev [] []
  | cons {prev row cmds rows rest} (run : RowRun prev [] cmds row)
    (tail : Draws row rows rest)
    : Draws prev (row :: rows) (cmds :: rest)

/-- A command that fits below no row copies nothing. -/
theorem Command.Fits.uncopied {c : Command} {row : List UInt8} (h : c.Fits [] row)
    : c.copyCount = 0 ∧ c ≠ .eol := by
  have none {n : Nat} (h : n = 0 ∨ row.length + n ≤ 0) : n = 0 := by omega
  cases c with
  | eol => exact absurd h (Nat.not_lt_zero _)
  | eop => exact ⟨rfl, nofun⟩
  | nop => exact ⟨rfl, nofun⟩
  | _ => exact ⟨none h, nofun⟩

/-- Nothing is above the first row of a page, so that nothing of it is a copy. -/
theorem RowRun.uncopied {row final : List UInt8} {cmds : List Command}
    (h : RowRun [] row cmds final)
    : ∀ c ∈ cmds, c.copyCount = 0 ∧ c ≠ .eol := by
  induction h with
  | nil => simp
  | @cons row c cmds final valid fits _ ih =>
      intro other mem
      rcases List.mem_cons.mp mem with rfl | mem
      · exact fits.uncopied
      · exact ih other mem

namespace ScoaStreambuf

section Reading

variable [Source Fault UInt8 σ]

/-- Reading a compressor whose get area is empty: `underflow` fills it with the bytes of a
row, they are read, and so on to end-of-file. An entry has the bytes of the get area and
the video size after them.
-/
inductive ReadsRows : ScoaStreambuf σ → List (List UInt8 × Nat) → Prop
  | eof {this this'} (run : underflow.run this = .ok none this') : ReadsRows this []
  | row {this this' b rest} (run : underflow.run this = .ok (some b) this')
    (filled : this'.area ≠ [])
    (tail : ReadsRows this'.emptied rest)
    : ReadsRows this ((this'.area, this'.videoSize) :: rest)

/-- Reading row by row is reading to end-of-file, by induction on the rows. -/
theorem ReadsRows.drains {this : ScoaStreambuf σ} {entries : List (List UInt8 × Nat)}
    (h : ReadsRows this entries) (empty : this.area = [])
    : ∃ final, Drains this (entries.map Prod.fst).flatten final := by
  induction h with
  | eof run => exact ⟨_, .eof (Streambuf.run_sbumpc_eof empty run)⟩
  | @row this this' b rest run filled tail ih =>
      obtain ⟨final, drains⟩ := ih rfl
      exact ⟨final, Streambuf.drains_refill empty run filled (drains_emptied rfl drains)⟩

end Reading

-----------------------------------------------------------------------------------------
-- The rows of a page
-----------------------------------------------------------------------------------------

/-- The padding that makes a page of `videoSize` bytes even once EOP follows. -/
def padding (videoSize : Nat) : List Command :=
  if (videoSize + 1) % 2 ≠ 0 then [.nop] else []

/-- The get areas of a page, one for each row: the bytes of its commands, and those of
`ending` after the last row.
-/
def areas (ending : List Command) : List (List Command) → List (List UInt8)
  | [] => []
  | [cmds] => [encode (cmds ++ ending)]
  | cmds :: next :: rest => encode cmds :: areas ending (next :: rest)

/-- The areas of a page, one behind the other, are its commands. -/
theorem flatten_areas (ending : List Command) {cmds : List (List Command)} (some : cmds ≠ [])
    : (areas ending cmds).flatten = encode (cmds.flatten ++ ending) := by
  induction cmds with
  | nil => exact absurd rfl some
  | cons first rest ih =>
      cases rest with
      | nil => simp [areas]
      | cons next rest =>
          rw [areas, List.flatten_cons, ih (List.cons_ne_nil next rest)]
          simp

/-- `cmds` are the commands of the rows that the compressor has left: they draw the rows,
the get areas hold their bytes and the end of the page, and the video size grows by the
bytes of each row.
-/
structure WritesRows [Source Fault UInt8 σ] (this : ScoaStreambuf σ)
    (rows : List (List UInt8)) (cmds : List (List Command))
    (entries : List (List UInt8 × Nat))
    : Prop where
  draws : Draws this.above rows cmds
  reads : ReadsRows this entries
  bytes
    : entries.map Prod.fst
      = areas (padding (this.videoSize + (encode cmds.flatten).length) ++ [.eop]) cmds
  counted
    : ∀ i < rows.length,
        (entries.map Prod.snd)[i]?
          = some (this.videoSize + (encode (cmds.take (i + 1)).flatten).length)

variable [Source Fault UInt8 σ]

/-- The last row of a page is followed by the end of the page. -/
theorem WritesRows.last {this : ScoaStreambuf σ} {row : List UInt8}
    {cmds : List Command} (run : RowRun this.above [] cmds row)
    (same : compressLine this.above row = encode cmds) {raster' : σ}
    (step : underflow.run this = .ok (this.lineBytes row).head? (this.filled raster' row))
    (some : this.lineBytes row ≠ []) (last : this.linesRemain = 1)
    : WritesRows this [row] [cmds]
        [(this.lineBytes row, this.videoSize + (encode cmds).length)] := by
  have count : (this.filled raster' row).videoSize = this.videoSize + (encode cmds).length := by
    rw [← same]
    rfl
  refine ⟨.cons run (.nil row), ?_, ?_, ?_⟩
  · rw [← count]
    rw [List.head?_eq_some_head some] at step
    have stop : (this.filled raster' row).emptied.linesRemain = 0 := by
      change this.linesRemain - 1 = 0
      rw [last]
    exact .row step some (.eof (run_underflow_stop rfl stop))
  · simp [lineBytes, last, same, endPage, padding, areas]
  · intro i inside
    obtain rfl : i = 0 := by
      rw [List.length_singleton] at inside
      omega
    simp

/-- A row before others is its bytes alone. -/
theorem WritesRows.row {this : ScoaStreambuf σ} {row : List UInt8}
    {cmds : List Command} (run : RowRun this.above [] cmds row)
    (same : compressLine this.above row = encode cmds) {raster' : σ}
    (step : underflow.run this = .ok (this.lineBytes row).head? (this.filled raster' row))
    (some : this.lineBytes row ≠ []) (more : this.linesRemain - 1 ≠ 0)
    (above : (this.filled raster' row).above = row) {next : List UInt8}
    {rows : List (List UInt8)} {rest : List (List Command)}
    {entries : List (List UInt8 × Nat)}
    (tail : WritesRows (this.filled raster' row).emptied (next :: rows) rest entries)
    : WritesRows this (row :: next :: rows) (cmds :: rest)
        ((this.lineBytes row, this.videoSize + (encode cmds).length) :: entries) := by
  have count : (this.filled raster' row).videoSize = this.videoSize + (encode cmds).length := by
    rw [← same]
    rfl
  have count' : (this.filled raster' row).emptied.videoSize
      = this.videoSize + (encode cmds).length :=
    count
  have above' : (this.filled raster' row).emptied.above = row := above
  obtain ⟨draws, reads, bytes, counted⟩ := tail
  rw [count'] at bytes counted
  rw [above'] at draws
  refine ⟨.cons run draws, ?_, ?_, ?_⟩
  · rw [← count]
    rw [List.head?_eq_some_head some] at step
    exact .row step some reads
  · cases draws with
    | cons _ _ =>
        rw [List.map_cons, bytes, areas]
        simp [lineBytes, more, same, Nat.add_assoc]
  · intro i inside
    cases i with
    | zero => simp
    | succ i =>
        rw [List.length_cons] at inside
        rw [List.map_cons, List.getElem?_cons_succ, counted i (by omega)]
        simp [Nat.add_assoc]

/-- The compressor writes the rows that its raster still has, by induction on them. -/
theorem Sound.writesRows {this : ScoaStreambuf σ} (h : this.Sound) (empty : this.area = [])
    {rows : List (List UInt8)} (page : rows ≠ []) (lines : this.linesRemain = rows.length)
    (nonempty : 0 < this.currLine.length)
    (sized : ∀ row ∈ rows, row.length = this.currLine.length) {raster : σ}
    (stream : this.rasterStream = some raster) (source : Supplies raster rows.flatten)
    : ∃ cmds entries, WritesRows this rows cmds entries := by
  induction rows generalizing this raster with
  | nil => exact absurd rfl page
  | cons row rows ih =>
      have size : row.length = this.currLine.length := sized row List.mem_cons_self
      have above := h.above_length
      rw [← size] at above
      obtain ⟨raster', read, source'⟩ := source.sgetn this.currLine.length
      rw [List.flatten_cons, List.take_left' size] at read
      rw [List.flatten_cons, List.drop_left' size] at source'
      rw [List.length_cons] at lines
      have some' := lineBytes_ne_nil h size (size ▸ nonempty)
      have step := run_underflow_line h empty (by omega) stream read size (size ▸ nonempty)
      obtain ⟨cmds, same, run⟩ :=
        compressLine_rowRun (size ▸ nonempty) (size ▸ h.small) above
      cases rows with
      | nil => exact ⟨_, _, .last run same step some' lines⟩
      | cons next rows =>
          have after := h.afterLine size
          have sound : (this.filled raster' row).emptied.Sound :=
            ⟨after.asserted, after.small, after.above⟩
          have length : (this.filled raster' row).emptied.currLine.length
              = this.currLine.length :=
            (length_resize ..).trans size
          obtain ⟨rest, entries, tail⟩ := ih sound rfl (List.cons_ne_nil next rows)
            (by
              change this.linesRemain - 1 = _
              rw [lines]
              rfl)
            (by rwa [length])
            (by
              rw [length]
              exact fun other mem => sized other (List.mem_cons_of_mem row mem))
            rfl source'
          exact ⟨_, _, .row run same step some'
            (by
              rw [lines]
              simp)
            (filled_above h raster' size (size ▸ nonempty)) tail⟩

/-- The stream of a page: row by row the commands that draw the row below the row before,
NOP or nothing, and EOP. The commands of the first row copy nothing; the video size after
each row counts the bytes of the rows up to it; the number of bytes of the page is even.
-/
theorem pageStructure {raster : σ} {lineSize : Nat} {rows : List (List UInt8)}
    (lines : rows ≠ []) (nonempty : 1 ≤ lineSize) (small : lineSize < 2 ^ 32)
    (sized : ∀ row ∈ rows, row.length = lineSize) (source : Supplies raster rows.flatten)
    : ∃ cmds padding entries,
        Draws [] rows cmds
        ∧ (∀ first rest, cmds = first :: rest → ∀ c ∈ first, c.copyCount = 0 ∧ c ≠ .eol)
        ∧ (padding = [] ∨ padding = [.nop])
        ∧ Supplies (construct raster lineSize rows.length)
            (encode (cmds.flatten ++ (padding ++ [.eop])))
        ∧ ReadsRows (construct raster lineSize rows.length) entries
        ∧ entries.map Prod.fst = areas (padding ++ [.eop]) cmds
        ∧ (∀ i < rows.length,
            (entries.map Prod.snd)[i]? = some (encode (cmds.take (i + 1)).flatten).length)
        ∧ (encode (cmds.flatten ++ (padding ++ [.eop]))).length % 2 = 0 := by
  have sound := construct_sound raster rows.length small
  have size : (construct raster lineSize rows.length).currLine.length = lineSize :=
    List.length_replicate
  obtain ⟨cmds, entries, draws, reads, bytes, counted⟩ :=
    sound.writesRows rfl lines rfl (by rwa [size]) (by rwa [size]) rfl source
  have start : (construct raster lineSize rows.length).videoSize = 0 := rfl
  simp only [start, Nat.zero_add] at bytes counted
  refine ⟨cmds, padding (encode cmds.flatten).length, entries, draws, ?_, ?_, ?_, reads, bytes,
    counted, ?_⟩
  · rintro first rest rfl
    cases draws with
    | cons run _ => exact run.uncopied
  · unfold padding
    split
    · exact Or.inr rfl
    · exact Or.inl rfl
  · have supplies := construct_supplies source rows.length nonempty small
    obtain ⟨final, drains, _⟩ := supplies.drains
    obtain ⟨_, byRows⟩ := reads.drains rfl
    have some : cmds ≠ [] := by
      rintro rfl
      cases draws
      exact lines rfl
    rw [bytes, flatten_areas _ some] at byRows
    rwa [(byRows.unique drains).1]
  · unfold padding
    split
    · simp [Command.bytes, Command.emit, ScoaCmd.nop, ScoaCmd.eop, Buffer.pushBack]
      omega
    · simp [Command.bytes, Command.emit, ScoaCmd.eop, Buffer.pushBack]
      omega

/-- A page of two rows, the second of which is a copy of the first. -/
theorem pageStructure_copy
    : ∃ cmds padding entries,
        Draws [] [[7, 8], [7, 8]] cmds
        ∧ (∀ first rest, cmds = first :: rest → ∀ c ∈ first, c.copyCount = 0 ∧ c ≠ .eol)
        ∧ (padding = [] ∨ padding = [.nop])
        ∧ Supplies (construct (⟨[7, 8, 7, 8]⟩ : MemoryStreambuf) 2 2)
            (encode (cmds.flatten ++ (padding ++ [.eop])))
        ∧ ReadsRows (construct (⟨[7, 8, 7, 8]⟩ : MemoryStreambuf) 2 2) entries
        ∧ entries.map Prod.fst = areas (padding ++ [.eop]) cmds
        ∧ (∀ i < 2,
            (entries.map Prod.snd)[i]? = some (encode (cmds.take (i + 1)).flatten).length)
        ∧ (encode (cmds.flatten ++ (padding ++ [.eop]))).length % 2 = 0 :=
  @pageStructure MemoryStreambuf _ _ 2 [[7, 8], [7, 8]] (by decide) (by decide) (by decide)
    (by decide)
    (MemoryStreambuf.supplies [7, 8, 7, 8])

end ScoaStreambuf

end Capt.Compression
