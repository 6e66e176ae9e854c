import Libcapt.Compression.PageDecoding

/-! Whole runs of one compressor and one decoder: any number of pages, complete or cut. -/

namespace Capt.Compression

open Streams

variable {σ τ : Type}

-----------------------------------------------------------------------------------------
-- The rows of a raster
-----------------------------------------------------------------------------------------

/-- The first `lines` rows of a raster that has them. -/
def rowsOf (lineSize : Nat) : Nat → List UInt8 → List (List UInt8)
  | 0, _ => []
  | lines + 1, raster =>
    raster.take lineSize :: rowsOf lineSize lines (raster.drop lineSize)

/-- The rows that a raster has in full. -/
def completeRows (lineSize : Nat) (raster : List UInt8) : List (List UInt8) :=
  rowsOf lineSize (raster.length / lineSize) raster

/-- As many rows as lines. -/
@[simp]
theorem length_rowsOf (lineSize lines : Nat) (raster : List UInt8)
    : (rowsOf lineSize lines raster).length = lines := by
  induction lines generalizing raster with
  | zero => rfl
  | succ lines ih => simp [rowsOf, ih]

/-- Every row has the size of a line. -/
theorem rowsOf_sized {lineSize lines : Nat} {raster : List UInt8}
    (enough : lines * lineSize ≤ raster.length)
    : ∀ row ∈ rowsOf lineSize lines raster, row.length = lineSize := by
  induction lines generalizing raster with
  | zero => simp [rowsOf]
  | succ lines ih =>
      intro row mem
      rw [Nat.succ_mul] at enough
      rcases List.mem_cons.mp mem with rfl | mem
      · rw [List.length_take]
        omega
      · exact ih (by rw [List.length_drop]; omega) row mem

/-- The rows are the beginning of the raster, by induction on them. -/
theorem flatten_rowsOf {lineSize lines : Nat} {raster : List UInt8}
    : (rowsOf lineSize lines raster).flatten = raster.take (lines * lineSize) := by
  induction lines generalizing raster with
  | zero => simp [rowsOf]
  | succ lines ih =>
      rw [rowsOf, List.flatten_cons, ih, Nat.succ_mul, Nat.add_comm, List.take_add]

/-- Rows put together are taken apart again. -/
theorem rowsOf_flatten {lineSize : Nat} {rows : List (List UInt8)}
    (sized : ∀ row ∈ rows, row.length = lineSize) (lines : Nat) (rest : List UInt8)
    : rowsOf lineSize (rows.length + lines) (rows.flatten ++ rest)
      = rows ++ rowsOf lineSize lines rest := by
  induction rows with
  | nil => simp
  | cons row rows ih =>
      have length : row.length = lineSize := sized row List.mem_cons_self
      have others := ih fun row mem => sized row (List.mem_cons_of_mem _ mem)
      rw [List.length_cons, Nat.add_right_comm, rowsOf, List.flatten_cons, List.append_assoc,
        List.take_left' length, List.drop_left' length, others]
      rfl

/-- The compressed form of a page of whole rows. -/
def compressPage (rows : List (List UInt8)) : List UInt8 :=
  compressRows [] rows ++ endPage (compressRows [] rows).length

/-- A page is compressed from its own rows, whatever follows. -/
theorem compress_page {lineSize : Nat} {rows : List (List UInt8)}
    (sized : ∀ row ∈ rows, row.length = lineSize) (nonempty : rows ≠ [])
    (rest : List UInt8)
    : compress lineSize rows.length (rows.flatten ++ rest) = compressPage rows := by
  have complete := compressLines_complete sized nonempty [] 0 rest
  rwa [Nat.zero_add] at complete

/-- Later rows only append to the compressed form, by induction on the earlier ones. -/
theorem compressRows_prefix (prevLine : List UInt8) (rows more : List (List UInt8))
    : compressRows prevLine rows <+: compressRows prevLine (rows ++ more) := by
  induction rows generalizing prevLine with
  | nil => exact List.nil_prefix
  | cons row rows ih => exact (List.prefix_append_right_inj _).mpr (ih row)

/-- The commands of the lines of a page contain neither NOP nor EOP. -/
theorem compressRows_commands {lineSize : Nat} (nonempty : 0 < lineSize)
    (small : lineSize < 2 ^ 32) {prevLine : List UInt8} {rows : List (List UInt8)}
    (above : prevLine = [] ∨ prevLine.length = lineSize)
    (sized : ∀ row ∈ rows, row.length = lineSize)
    : ∃ cmds, compressRows prevLine rows = encode cmds ∧ .nop ∉ cmds ∧ .eop ∉ cmds := by
  induction rows generalizing prevLine with
  | nil => exact ⟨[], rfl, by simp, by simp⟩
  | cons row rows ih =>
      have length : row.length = lineSize := sized row List.mem_cons_self
      obtain ⟨first, same, run⟩
          : ∃ cmds, compressLine prevLine row = encode cmds ∧ RowRun prevLine [] cmds row :=
        compressLine_rowRun (by omega) (by omega) (by rwa [length])
      obtain ⟨rest, same', noNop, noEop⟩ := ih (Or.inr length)
        fun row mem => sized row (List.mem_cons_of_mem _ mem)
      have plain : Command.nop ∉ first ∧ Command.eop ∉ first := run.plain
      refine ⟨first ++ rest, ?_, ?_, ?_⟩
      · rw [compressRows, same, same', encode_append]
      · simp [plain.1, noNop]
      · simp [plain.2, noEop]

-----------------------------------------------------------------------------------------
-- Runs over pages
-----------------------------------------------------------------------------------------

/-- A page to be compressed: its rows, of one size, and a source that has them next. -/
structure Page (σ : Type) [Source Fault UInt8 σ] (lineSize : Nat) where
  rows : List (List UInt8)
  nonempty : rows ≠ []
  sized : ∀ row ∈ rows, row.length = lineSize
  raster : σ
  after : List UInt8
  supplies : Supplies raster (rows.flatten ++ after)

/-- One compressor is reset for each page and then read to end-of-file. -/
inductive Compresses [Source Fault UInt8 σ] {lineSize : Nat}
    : ScoaStreambuf σ → List (Page σ lineSize) → List (List UInt8) → ScoaStreambuf σ → Prop
  | done (this) : Compresses this [] [] this
  | page {this page compressed middle pages outputs final}
    (read : Drains (this.reset page.raster lineSize page.rows.length) compressed middle)
    (next : Compresses middle pages outputs final)
    : Compresses this (page :: pages) (compressed :: outputs) final

/-- One decoder is read to end-of-file for each page, and then has consumed exactly the
compressed pages up to that one.
-/
inductive Decompresses [FiniteSource Fault UInt8 τ]
    : DecoderStreambuf τ → List (List UInt8) → List (List UInt8) → DecoderStreambuf τ → Prop
  | done (this) : Decompresses this [] [] this
  | page {this raster compressed middle rasters outputs final}
    (read : Drains this raster middle)
    (consumed : SuppliesFinitely middle.stream outputs.flatten)
    (next : Decompresses middle rasters outputs final)
    : Decompresses this (raster :: rasters) (compressed :: outputs) final

/-- The compressor before a page: nothing is left to read. -/
structure ScoaStreambuf.Idle (this : ScoaStreambuf σ) : Prop where
  sound : this.Sound
  empty : this.area = []

/-- The default compressor is idle. -/
theorem ScoaStreambuf.default_idle : ({} : ScoaStreambuf σ).Idle :=
  ⟨⟨rfl, by simp, by simp⟩, rfl⟩

section Encoder

variable [Source Fault UInt8 σ] {lineSize : Nat}

/-- Every page is compressed to its compressed form, by induction on the pages. -/
theorem ScoaStreambuf.Idle.compresses {this : ScoaStreambuf σ} (h : this.Idle)
    (nonempty : 0 < lineSize) (small : lineSize < 2 ^ 32) (pages : List (Page σ lineSize))
    : ∃ final, Compresses this pages (pages.map fun page => compressPage page.rows) final := by
  induction pages generalizing this with
  | nil => exact ⟨this, .done this⟩
  | cons page pages ih =>
      have encodes := h.sound.reset_encodes page.supplies page.rows.length nonempty small
      rw [h.empty, List.nil_append, compress_page page.sized page.nonempty] at encodes
      obtain ⟨middle, read, ended⟩ := (encodes_refills lineSize).isSupply.drains encodes
      have idle : middle.Idle := by
        obtain ⟨_, _, _, _, same⟩ := ended.source
        exact ⟨ended.sound, (List.append_eq_nil_iff.mp same.symm).1⟩
      obtain ⟨final, next⟩ := ih idle
      exact ⟨final, .page read next⟩

end Encoder

section Decoder

variable [FiniteSource Fault UInt8 τ]

/-- The compressed forms of pages are decoded to the pages, by induction on them. -/
theorem DecoderStreambuf.Between.decompresses {this : DecoderStreambuf τ}
    (h : this.Between []) (pages : List (List (List UInt8)))
    (sized : ∀ rows ∈ pages, ∀ row ∈ rows, row.length = this.lineSize)
    (small : this.buffer.length + pages.flatten.flatten.length + this.lineSize < 2 ^ 32)
    (start : this.videoSize = 0)
    (supply : SuppliesFinitely this.stream (pages.map compressPage).flatten)
    : ∃ final, Decompresses this (pages.map List.flatten) (pages.map compressPage) final := by
  induction pages generalizing this with
  | nil => exact ⟨this, .done this⟩
  | cons rows pages ih =>
      simp only [List.map_cons, List.flatten_cons, List.flatten_append, List.length_append,
        compressPage, List.append_assoc] at supply small
      rw [← Nat.zero_add (compressRows [] rows).length, ← start] at supply
      obtain ⟨middle, read, ended⟩ := h.drains (sized rows List.mem_cons_self) (by omega) supply
      have length := ended.length
      have lineSize := ended.lineSize
      obtain ⟨final, next⟩ := ih ended.between
        (fun rows mem => by rw [lineSize]; exact sized rows (List.mem_cons_of_mem _ mem))
        (by omega) ended.videoSize ended.stream
      exact ⟨final, .page read ended.stream next⟩

end Decoder

/-- A compressor that has just been constructed. -/
inductive ScoaStreambuf.Constructed : ScoaStreambuf σ → Prop
  | empty : Constructed {}
  | raster (rasterStream : σ) {lineSize : Nat} (lines : Nat) (small : lineSize < 2 ^ 32)
    : Constructed (construct rasterStream lineSize lines)

/-- So is one that was constructed in any way. -/
theorem ScoaStreambuf.Constructed.idle {this : ScoaStreambuf σ} (h : this.Constructed)
    : this.Idle := by
  cases h with
  | empty => exact default_idle
  | raster rasterStream lines small => exact ⟨construct_sound rasterStream lines small, rfl⟩

section RoundTrip

variable [Source Fault UInt8 σ] [FiniteSource Fault UInt8 τ]

/-- Pages that one compressor compresses, one after the other, are decoded from the
concatenation of the results to the same pages, each followed by one end-of-file at which
exactly its compressed form has been consumed.
-/
theorem roundTrip {lineSize : Nat} (nonempty : 0 < lineSize) (pages : List (Page σ lineSize))
    (small : (pages.map fun page => page.rows.flatten).flatten.length + lineSize < 2 ^ 32)
    {encoder : ScoaStreambuf σ} (constructed : encoder.Constructed)
    : ∃ outputs final, Compresses encoder pages outputs final
        ∧ ∀ (stream : τ) (commandLog : Option (List String)),
            SuppliesFinitely stream outputs.flatten →
            ∃ final',
              Decompresses (.construct stream lineSize commandLog)
                (pages.map fun page => page.rows.flatten) outputs final' := by
  obtain ⟨final, compresses⟩ := constructed.idle.compresses nonempty (by omega) pages
  refine ⟨_, final, compresses, ?_⟩
  intro stream commandLog supply
  have between := DecoderStreambuf.construct_between stream commandLog nonempty
    (show lineSize < 2 ^ 32 by omega)
  have sized : ∀ rows ∈ pages.map Page.rows, ∀ row ∈ rows, row.length = lineSize := by
    intro rows mem
    obtain ⟨page, _, rfl⟩ := List.mem_map.mp mem
    exact page.sized
  have total : (pages.map Page.rows).flatten.flatten
      = (pages.map fun page => page.rows.flatten).flatten := by
    rw [List.flatten_flatten, List.map_map]
    rfl
  have decoded := between.decompresses (pages.map Page.rows) sized
    (by rw [total]; change 0 + _ + lineSize < 2 ^ 32; omega) rfl
    (by rw [List.map_map]; exact supply)
  rw [List.map_map, List.map_map] at decoded
  exact decoded

/-- Two pages of one row. -/
theorem roundTrip_twoPages
    : let page (row : List UInt8) (h : row.length = 2) : Page MemoryStreambuf 2 :=
        ⟨[row], by simp, by simpa using h, ⟨row⟩, [], by simpa using MemoryStreambuf.supplies row⟩
      ∃ outputs final,
        Compresses ({} : ScoaStreambuf MemoryStreambuf) [page [1, 1] rfl, page [1, 2] rfl]
          outputs final
        ∧ ∀ (stream : MemoryStreambuf) (commandLog : Option (List String)),
            SuppliesFinitely stream outputs.flatten →
            ∃ final',
              Decompresses (.construct stream 2 commandLog) [[1, 1], [1, 2]] outputs final' :=
  roundTrip (by decide) _ (by decide) .empty

end RoundTrip

section Incomplete

variable [Source Fault UInt8 σ] [FiniteSource Fault UInt8 τ] {lineSize lines : Nat}

/-- A new compressor is drained to its page. -/
theorem construct_drains (nonempty : 0 < lineSize) (small : lineSize < 2 ^ 32) {raster : σ}
    {content : List UInt8} (source : Supplies raster content)
    : ∃ final, Drains (ScoaStreambuf.construct raster lineSize lines)
        (compress lineSize lines content) final := by
  obtain ⟨final, drains, _⟩ :=
    (ScoaStreambuf.construct_supplies source lines nonempty small).drains
  exact ⟨final, drains⟩

/-- A raster of the size of the page is compressed as a page. -/
theorem compress_whole (some : 0 < lines) {content : List UInt8}
    (size : content.length = lines * lineSize)
    : compress lineSize lines content = compressPage (rowsOf lineSize lines content) := by
  have sized := rowsOf_sized (Nat.le_of_eq size.symm)
  have nonempty : rowsOf lineSize lines content ≠ [] := by
    rw [← List.length_pos_iff, length_rowsOf]
    exact some
  have page := compress_page sized nonempty []
  rw [length_rowsOf, flatten_rowsOf, List.append_nil, ← size, List.take_length] at page
  exact page

/-- A raster that ends early is compressed to its complete rows. -/
theorem compress_short (nonempty : 0 < lineSize) {content : List UInt8}
    (short : content.length < lines * lineSize)
    : compress lineSize lines content = compressRows [] (completeRows lineSize content) := by
  have whole := Nat.div_mul_le_self content.length lineSize
  have left : (content.drop (content.length / lineSize * lineSize)).length < lineSize := by
    rw [List.length_drop]
    have modulo := Nat.mod_lt content.length nonempty
    have split := Nat.div_add_mod' content.length lineSize
    omega
  have fewer : (completeRows lineSize content).length < lines := by
    rw [completeRows, length_rowsOf]
    exact Nat.div_lt_of_lt_mul (by rwa [Nat.mul_comm])
  have rows := compressLines_partial (rowsOf_sized whole) fewer left [] 0
  rwa [flatten_rowsOf, List.take_append_drop] at rows

/-- The rows of a longer raster begin with those of a shorter one. -/
theorem rowsOf_begins {content raster : List UInt8} (short : content.length < lines * lineSize)
    (begins : (completeRows lineSize content).flatten <+: raster)
    : ∃ more, rowsOf lineSize lines raster = completeRows lineSize content ++ more := by
  obtain ⟨rest, rfl⟩ := begins
  have sized := rowsOf_sized (Nat.div_mul_le_self content.length lineSize)
  have fewer : (completeRows lineSize content).length ≤ lines := by
    rw [completeRows, length_rowsOf]
    exact Nat.le_of_lt (Nat.div_lt_of_lt_mul (by rwa [Nat.mul_comm]))
  obtain ⟨more, rfl⟩ := Nat.exists_eq_add_of_le fewer
  exact ⟨_, rowsOf_flatten sized more rest⟩

/-- A page that breaks off is a proper front of the whole one. -/
theorem compressPage_proper (rows more : List (List UInt8))
    : compressRows [] rows <+: compressPage (rows ++ more)
      ∧ compressRows [] rows ≠ compressPage (rows ++ more) := by
  have inside := compressRows_prefix [] rows more
  refine ⟨inside.trans (List.prefix_append ..), ?_⟩
  intro same
  have pos := DecoderStreambuf.length_endPage_pos (compressRows [] (rows ++ more)).length
  have le := inside.length_le
  have length := congrArg List.length same
  rw [compressPage, List.length_append] at length
  omega

/-- The first rows of a page. -/
theorem take_rowsOf {k : Nat} (le : k ≤ lines) (content : List UInt8)
    : (rowsOf lineSize lines content).take k = rowsOf lineSize k content := by
  induction k generalizing lines content with
  | zero => rfl
  | succ k ih =>
      obtain ⟨n, rfl⟩ : ∃ n, lines = n + 1 := ⟨lines - 1, by omega⟩
      rw [rowsOf, rowsOf, List.take_succ_cons, ih (by omega)]

/-- On a proper prefix of the compressed form, the decoder throws after whole lines. -/
theorem breaks_proper (nonempty : 0 < lineSize) {content : List UInt8}
    (size : content.length = lines * lineSize)
    (small : lines * lineSize + lineSize < 2 ^ 32) {part : List UInt8}
    (isPrefix : part <+: compressPage (rowsOf lineSize lines content))
    (differs : part ≠ compressPage (rowsOf lineSize lines content)) {stream : τ}
    (commandLog : Option (List String)) (supply : SuppliesFinitely stream part)
    : ∃ k ≤ lines,
        Breaks (.decoderError "unexpected EOF")
          (DecoderStreambuf.construct stream lineSize commandLog)
          (content.take (k * lineSize)) := by
  have between := DecoderStreambuf.construct_between stream commandLog nonempty
    (show lineSize < 2 ^ 32 by omega)
  have all : (rowsOf lineSize lines content).flatten = content := by
    rw [flatten_rowsOf, ← size, List.take_length]
  have room : 0 + (rowsOf lineSize lines content).flatten.length + lineSize < 2 ^ 32 := by
    rw [all, size]
    omega
  obtain ⟨k, le, breaks⟩ := between.breaks (rowsOf_sized (Nat.le_of_eq size.symm)) room supply
    isPrefix differs
  rw [length_rowsOf] at le
  rw [take_rowsOf le, flatten_rowsOf] at breaks
  exact ⟨k, le, breaks⟩

/-- (a) A raster that ends before its last line is compressed to the commands of its
complete lines, without NOP or EOP, and that is a proper prefix of the compressed form of
every page that begins with these lines. (b) From every proper prefix of the compressed
form of a page, whole lines of the page are decoded, and then the decoder throws.
-/
theorem incompletePages (nonempty : 1 ≤ lineSize) (small : lineSize ≤ 65535)
    (some : 1 ≤ lines) (few : lines ≤ 65535)
    : (∀ (raster : σ) (content : List UInt8), Supplies raster content →
        content.length < lines * lineSize →
        (∃ final, Drains (ScoaStreambuf.construct raster lineSize lines)
          (compressRows [] (completeRows lineSize content)) final)
        ∧ (∃ cmds, compressRows [] (completeRows lineSize content) = encode cmds
            ∧ .nop ∉ cmds ∧ .eop ∉ cmds)
        ∧ ∀ (whole : σ) (page : List UInt8), Supplies whole page →
            page.length = lines * lineSize →
            (completeRows lineSize content).flatten <+: page →
            ∃ output final, Drains (ScoaStreambuf.construct whole lineSize lines) output final
              ∧ compressRows [] (completeRows lineSize content) <+: output
              ∧ compressRows [] (completeRows lineSize content) ≠ output)
      ∧ ∀ (raster : σ) (page : List UInt8), Supplies raster page →
          page.length = lines * lineSize →
          ∃ output final, Drains (ScoaStreambuf.construct raster lineSize lines) output final
            ∧ ∀ part, part <+: output → part ≠ output →
                ∀ (stream : τ) (commandLog : Option (List String)),
                  SuppliesFinitely stream part →
                  ∃ k ≤ lines, ∃ what,
                    Breaks (.decoderError what)
                      (DecoderStreambuf.construct stream lineSize commandLog)
                      (page.take (k * lineSize)) := by
  have small' : lineSize < 2 ^ 32 := by omega
  constructor
  · intro raster content source short
    refine ⟨?_, ?_, ?_⟩
    · rw [← compress_short nonempty short]
      exact construct_drains nonempty small' source
    · exact compressRows_commands nonempty small' (Or.inl rfl)
        (rowsOf_sized (Nat.div_mul_le_self ..))
    · intro whole page source' size begins
      obtain ⟨final, drains⟩ := construct_drains nonempty small' source'
      rw [compress_whole some size] at drains
      obtain ⟨more, rows⟩ := rowsOf_begins short begins
      rw [rows] at drains
      exact ⟨_, final, drains, compressPage_proper _ more⟩
  · intro raster page source size
    obtain ⟨final, drains⟩ := construct_drains nonempty small' source
    rw [compress_whole some size] at drains
    refine ⟨_, final, drains, ?_⟩
    intro part isPrefix differs stream commandLog supply
    have area : lines * lineSize ≤ 65535 * 65535 := Nat.mul_le_mul few small
    obtain ⟨k, le, breaks⟩ := breaks_proper nonempty size (by omega) isPrefix differs
      commandLog supply
    exact ⟨k, le, _, breaks⟩

/-- A page of two lines of one byte, with one line missing from the raster and with the
end missing from the stream.
-/
theorem incompletePages_twoLines
    : (∃ final, Drains (ScoaStreambuf.construct (⟨[7]⟩ : MemoryStreambuf) 1 2)
        (compressRows [] (completeRows 1 [7])) final)
      ∧ ∃ output final,
          Drains (ScoaStreambuf.construct (⟨[7, 8]⟩ : MemoryStreambuf) 1 2) output final
          ∧ ∀ part, part <+: output → part ≠ output →
              ∀ (stream : MemoryStreambuf) (commandLog : Option (List String)),
                SuppliesFinitely stream part →
                ∃ k ≤ 2, ∃ what,
                  Breaks (.decoderError what)
                    (DecoderStreambuf.construct stream 1 commandLog)
                    (([7, 8] : List UInt8).take (k * 1)) := by
  have both := @incompletePages MemoryStreambuf MemoryStreambuf _ _ 1 2 (by decide)
    (by decide) (by decide) (by decide)
  have short := both.1 ⟨[7]⟩ [7] (MemoryStreambuf.supplies [7]) (by decide)
  exact ⟨short.1, both.2 ⟨[7, 8]⟩ [7, 8] (MemoryStreambuf.supplies [7, 8]) rfl⟩

end Incomplete

end Capt.Compression
