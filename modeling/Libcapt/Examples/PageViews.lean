import Libcapt.Compression.Reset
import Libcapt.Examples.PageHeaders
import Libcapt.Printer.Reprinting
import Libcapt.Printer.Tray

/-! What the pages of the printing program give to their readers, and where they leave the PBM
stream.
-/

namespace Capt.PrintPbm

open Streams Utility Compression

-----------------------------------------------------------------------------------------
-- The compressor over the buffer of the PBM stream
-----------------------------------------------------------------------------------------

/-- Behind the lines that the compressor is still to read, its raster has `rest`. -/
structure Leads (lineSize : Nat) (rest : List UInt8) (this : ScoaStreambuf MemoryStreambuf)
    : Prop where
  sound : this.Sound
  size : this.currLine.length = lineSize
  raster
    : ∃ left : List UInt8,
        this.rasterStream = some ⟨left⟩ ∧ left.drop (this.linesRemain * lineSize) = rest

section Raster

variable {lineSize : Nat} {rest : List UInt8}

/-- A new compressor on the page leads to what stands behind the page. -/
theorem leads_construct (lines : Nat) (small : lineSize < 2 ^ 32) (left : List UInt8)
    : Leads lineSize (left.drop (lines * lineSize))
        (.construct (⟨left⟩ : MemoryStreambuf) lineSize lines) :=
  ⟨ScoaStreambuf.construct_sound _ lines small, List.length_replicate, left, rfl, rfl⟩

/-- A line takes its size off the raster. What is short of a line is the last of it. -/
theorem leads_preserved : Streambuf.Preserves (Leads lineSize rest) := by
  constructor
  · intro this h n
    exact ⟨⟨h.sound.asserted, h.sound.small, h.sound.above⟩, h.size, h.raster⟩
  · intro this h
    have sound := (ScoaStreambuf.sound_preserved MemoryStreambuf.bounded).underflow h.sound
    obtain ⟨left, raster, behind⟩ := h.raster
    change Leads lineSize rest (after (ScoaStreambuf.underflow.run this))
    by_cases empty : this.area = []
    · have step := h.sound.underflow MemoryStreambuf.bounded empty
      change (after (ScoaStreambuf.underflow.run this)).Sound at sound
      generalize run : ScoaStreambuf.underflow.run this = result at step sound
      cases step with
      | stop _ => exact h
      | null _ _ => exact h
      | thrown _ source read =>
          cases raster.symm.trans source
          cases (run_sgetn_memory _ _).symm.trans read
      | short lines source read short =>
          cases raster.symm.trans source
          cases (run_sgetn_memory _ _).symm.trans read
          rw [List.length_take] at short
          have size := h.size
          have one := Nat.mul_le_mul_right lineSize (Nat.one_le_iff_ne_zero.mpr lines)
          have same := ScoaStreambuf.length_afterRead this
            (⟨left.drop this.currLine.length⟩ : MemoryStreambuf)
            (List.length_take_le this.currLine.length left)
          refine ⟨sound, same.trans size, left.drop this.currLine.length, rfl, ?_⟩
          rw [← behind, List.drop_eq_nil_of_le (show left.length ≤ this.currLine.length by omega),
            List.drop_nil, List.drop_eq_nil_of_le (by omega)]
      | empty _ source read none =>
          cases raster.symm.trans source
          injection (run_sgetn_memory _ _).symm.trans read with _ raster'
          rw [← raster'] at sound ⊢
          refine ⟨sound, ?_, left.drop this.currLine.length, rfl, ?_⟩
          · exact (ScoaStreambuf.length_afterRead this _ (Nat.zero_le _)).trans h.size
          · rw [none, List.length_nil, List.drop_zero]
            exact behind
      | line lines source read full _ =>
          cases raster.symm.trans source
          cases (run_sgetn_memory _ _).symm.trans read
          refine ⟨sound, ?_, left.drop this.currLine.length, rfl, ?_⟩
          · change (ScoaStreambuf.resize this.prevLine _).length = lineSize
            rw [ScoaStreambuf.length_resize, full, h.size]
          · change (left.drop this.currLine.length).drop ((this.linesRemain - 1) * lineSize) = rest
            obtain ⟨n, remain⟩ := Nat.exists_eq_succ_of_ne_zero lines
            rw [← behind, List.drop_drop, h.size, remain, Nat.succ_sub_one, Nat.succ_mul,
              Nat.add_comm]
    · obtain ⟨b, more, some⟩ := List.exists_cons_of_ne_nil empty
      rw [ScoaStreambuf.run_underflow_area some]
      exact h

/-- At the end-of-file the raster is at `rest`. -/
theorem leads_ended {this this' : ScoaStreambuf MemoryStreambuf} (h : Leads lineSize rest this)
    (empty : this.area = []) (run : ScoaStreambuf.underflow.run this = .ok none this')
    : this'.rasterStream = some ⟨rest⟩ := by
  obtain ⟨left, raster, behind⟩ := h.raster
  have step := h.sound.underflow MemoryStreambuf.bounded empty
  generalize result : ScoaStreambuf.underflow.run this = outcome at step
  rw [result] at run
  cases step with
  | stop stop =>
      cases run
      rw [stop, Nat.zero_mul, List.drop_zero] at behind
      rw [raster, behind]
  | null _ _ => cases run
  | thrown _ _ _ => cases run
  | empty _ _ _ _ => cases run
  | short lines source read short =>
      cases run
      cases raster.symm.trans source
      cases (run_sgetn_memory _ _).symm.trans read
      rw [List.length_take] at short
      have size := h.size
      have one := Nat.mul_le_mul_right lineSize (Nat.one_le_iff_ne_zero.mpr lines)
      change some (⟨left.drop this.currLine.length⟩ : MemoryStreambuf) = some ⟨rest⟩
      rw [← behind, List.drop_eq_nil_of_le (show left.length ≤ this.currLine.length by omega),
        List.drop_eq_nil_of_le (by omega)]
  | line _ _ _ full nonempty' =>
      injection run with some
      have bytes := ScoaStreambuf.lineBytes_ne_nil h.sound full nonempty'
      exact absurd (List.head?_eq_none_iff.mp some) bytes

/-- What is still to be read of the compressed page, with its raster before `rest`. -/
def Compresses (lineSize : Nat) (rest : List UInt8) (this : ScoaStreambuf MemoryStreambuf)
    (symbols : List UInt8)
    : Prop :=
  ScoaStreambuf.Encodes lineSize this symbols ∧ Leads lineSize rest this

/-- The compressor refills its get area. -/
theorem compresses_refills : Streambuf.Refills (Compresses lineSize rest) :=
  (ScoaStreambuf.encodes_refills lineSize).and leads_preserved

/-- It feeds a buffered page. -/
theorem compresses_feeds {blockSize : Nat} (positive : 0 < blockSize)
    : BufferedPage.Feeds (Compresses lineSize rest) blockSize := by
  intro s symbols given
  obtain ⟨k, s', run, next, _, some⟩ :=
    compresses_refills.isSupply.isTrickle given blockSize positive
  exact ⟨k, s', run, next, some⟩

end Raster

-----------------------------------------------------------------------------------------
-- Pages
-----------------------------------------------------------------------------------------

section Pages

variable {σ : Type}

/-- The page has the parameters and a stream. -/
def Labelled (params : PageParams) (attached : Bool) (this : BufferedPage σ) : Prop :=
  this.params = params ∧ this.videoStream.isSome = attached

/-- Reading a page keeps its label. -/
theorem labelled_preserved [Source Fault UInt8 σ] (params : PageParams) (attached : Bool)
    : Streambuf.Preserves (Labelled (σ := σ) params attached) := by
  constructor
  · exact fun h _ => h
  · intro this h
    change Labelled params attached (after (BufferedPage.underflow.run this))
    by_cases empty : this.area = []
    · cases source : this.videoStream with
      | none =>
          rw [BufferedPage.run_underflow_detached empty source]
          exact h
      | some stream =>
          have some : true = attached := by
            rw [← h.2, source]
            rfl
          cases read : (Source.sgetn this.blockSize).run stream with
          | ok data stream' =>
              rw [BufferedPage.run_underflow_block empty source read]
              exact ⟨h.1, some⟩
          | error err stream' =>
              unfold BufferedPage.underflow
              rw [run_get_bind, empty]
              simp only [source]
              rw [run_modify_bind, run_bind_error (run_zoom_error read)]
              exact ⟨h.1, some⟩
    · obtain ⟨b, rest, filled⟩ := List.exists_cons_of_ne_nil empty
      unfold BufferedPage.underflow
      rw [run_get_bind, filled]
      exact h

/-- A page that shows the video, with the parameters. -/
structure Replays [Source Fault UInt8 σ] (V : BufferedPage σ → List UInt8 → Prop)
    (params : PageParams) (video : List UInt8)
    : Prop where
  trickle : IsTrickle V
  begins
    : ∀ {page symbols}, V page symbols →
        ∃ page', (BufferedPage.seekpos 0).run page = .ok 0 page' ∧ V page' video
  params : ∀ {page symbols}, V page symbols → page.params = params

/-- The page over its stream, which `R` relates to what it still gives. -/
def Current (R : σ → List UInt8 → Prop) (params : PageParams) (video : List UInt8)
    (this : BufferedPage σ) (symbols : List UInt8)
    : Prop :=
  BufferedPage.Pending R 4096 video this symbols ∧ Labelled params true this

/-- A page without a stream that holds the video. -/
def Kept (params : PageParams) (video : List UInt8) (this : BufferedPage σ)
    (symbols : List UInt8)
    : Prop :=
  BufferedPage.Holds video this symbols ∧ Labelled params false this

/-- A page of which nothing is left to be seen has all of the video in its buffer. -/
theorem Current.whole {R : σ → List UInt8 → Prop} {params : PageParams} {video : List UInt8}
    {this : BufferedPage σ} (h : Current R params video this [])
    : this.buffer = video := by
  have past : video.length ≤ this.gptr := List.drop_eq_nil_iff.mp h.1.symbols.symm
  exact h.1.buffers.isPrefix.eq_of_length_le (past.trans h.1.buffers.gptr)

/-- What is assigned to a page without a stream stays there. -/
theorem Current.moved {R : σ → List UInt8 → Prop} {params : PageParams} {video : List UInt8}
    {this other : BufferedPage σ} (h : Current R params video this [])
    (detached : other.videoStream = none)
    : Kept params video (other.moveAssign this) video := by
  have holds := BufferedPage.holds_moved this (.assign other detached)
  rw [h.whole] at holds
  refine ⟨holds, h.2.1, ?_⟩
  change other.videoStream.isSome = false
  rw [detached]
  rfl

variable [Source Fault UInt8 σ]

/-- The page that was kept replays its video. -/
theorem kept_replays (params : PageParams) (video : List UInt8)
    : Replays (Kept (σ := σ) params video) params video where
  trickle :=
    (BufferedPage.holds_refills.and (labelled_preserved params false)).isSupply.isTrickle
  begins := by
    rintro page symbols ⟨holds, labelled⟩
    refine ⟨page.moved 0, ?_, ⟨holds.videoStream, holds.buffer, Nat.zero_le _, holds.egptr, rfl⟩,
      labelled⟩
    exact BufferedPage.run_setPosition ⟨Int.le_refl 0, Int.natCast_nonneg _⟩
  params := fun kept => kept.2.1

/-- The current page refills its get area. -/
theorem current_refills {R : σ → List UInt8 → Prop} (feeds : BufferedPage.Feeds R 4096)
    (params : PageParams) (video : List UInt8)
    : Streambuf.Refills (Current R params video) :=
  (BufferedPage.pending_refills feeds).and (labelled_preserved params true)

/-- The current page replays its video. -/
theorem current_replays {R : σ → List UInt8 → Prop} (feeds : BufferedPage.Feeds R 4096)
    (params : PageParams) (video : List UInt8)
    : Replays (Current R params video) params video where
  trickle := (current_refills feeds params video).isSupply.isTrickle
  begins := by
    rintro page symbols ⟨pending, labelled⟩
    have start : 0 ≤ (0 : Int) ∧ (0 : Int) ≤ page.buffer.length :=
      ⟨Int.le_refl 0, Int.natCast_nonneg _⟩
    refine ⟨page.moved 0, ?_, ⟨pending.buffers.moved start, rfl⟩, labelled⟩
    apply BufferedPage.run_setPosition
    rwa [pending.buffers.egptr]
  params := fun current => current.2.1

end Pages

-----------------------------------------------------------------------------------------
-- The pages of a file
-----------------------------------------------------------------------------------------

/-- A page of a PBM file: what its header gives, and the bytes of its raster, as many of them as
there are.
-/
structure FilePage where
  params : PageParams
  raster : List UInt8

namespace FilePage

/-- Bytes of a line. -/
def lineSize (this : FilePage) : Nat := this.params.imageLineSize.toNat

/-- The number of lines. -/
def lines (this : FilePage) : Nat := this.params.imageLines.toNat

/-- The page as a printer is to receive it. -/
def sheet (this : FilePage) : Sheet :=
  sheetOf this.params (compress this.lineSize this.lines this.raster)

end FilePage

/-- The page whose raster the stream has next. -/
def pageAt (params : PageParams) (stream : IStream) : FilePage :=
  ⟨params, stream.rdbuf.buffer.take (params.imageLines.toNat * params.imageLineSize.toNat)⟩

/-- The stream behind that raster. -/
def behind (params : PageParams) (stream : IStream) : IStream :=
  { stream with
    rdbuf := ⟨stream.rdbuf.buffer.drop (params.imageLines.toNat * params.imageLineSize.toNat)⟩ }

/-- The first pages of a file. Each is followed by the header of the next one, or by the end of
the file or something that is no header.
-/
def filePages : Nat → IStream → List FilePage
  | 0, _ => []
  | count + 1, stream =>
    match PbmPageProvider.readHeader.run stream with
    | .ok (some params) stream => pageAt params stream :: filePages count (behind params stream)
    | _ => []

/-- The stream has these pages, each with lines that are not empty, and ends behind them. -/
inductive Paged : IStream → List FilePage → Prop
  | ended {stream stream' : IStream}
    (ended : PbmPageProvider.readHeader.run stream = .ok none stream')
    : Paged stream []
  | page {stream stream' : IStream} {params : PageParams} {pages : List FilePage}
    (header : PbmPageProvider.readHeader.run stream = .ok (some params) stream')
    (nonempty : params.imageLineSize ≠ 0) (others : Paged (behind params stream') pages)
    : Paged stream (pageAt params stream' :: pages)

/-- The pages of a file that ends are its first pages, by induction on them. -/
theorem filePages_paged {stream : IStream} {pages : List FilePage} (paged : Paged stream pages)
    (count : Nat)
    : filePages count stream = pages.take count := by
  induction paged generalizing count with
  | ended ended =>
      cases count with
      | zero => rfl
      | succ count => rw [filePages, ended, List.take_nil]
  | page header _ _ ih =>
      cases count with
      | zero => rfl
      | succ count => rw [filePages, header, List.take_succ_cons, ← ih]

/-- Every page of such a file has lines that are not empty. -/
theorem Paged.nonempty {stream : IStream} {pages : List FilePage} (paged : Paged stream pages)
    {page : FilePage} (member : page ∈ pages)
    : page.params.imageLineSize ≠ 0 := by
  induction paged with
  | ended _ => cases member
  | page _ nonempty _ ih =>
      rcases List.mem_cons.mp member with rfl | member
      · exact nonempty
      · exact ih member

/-- Only the lines of the page are compressed, by induction on them. -/
theorem compressLines_take (lineSize : Nat) (prevLine : List UInt8) (videoSize lines : Nat)
    (raster : List UInt8)
    : compressLines lineSize prevLine videoSize lines (raster.take (lines * lineSize))
      = compressLines lineSize prevLine videoSize lines raster := by
  induction lines generalizing prevLine videoSize raster with
  | zero => rfl
  | succ lines ih =>
      have more : lineSize ≤ (lines + 1) * lineSize := Nat.le_mul_of_pos_left _ (Nat.succ_pos _)
      have first : (raster.take ((lines + 1) * lineSize)).take lineSize = raster.take lineSize := by
        rw [List.take_take, Nat.min_eq_left more]
      have others : (raster.take ((lines + 1) * lineSize)).drop lineSize
          = (raster.drop lineSize).take (lines * lineSize) := by
        rw [List.drop_take, Nat.succ_mul, Nat.add_sub_cancel]
      have short : (raster.take ((lines + 1) * lineSize)).length < lineSize
          ↔ raster.length < lineSize := by
        rw [List.length_take]
        omega
      rw [compressLines, compressLines]
      simp only [first, others, short, ih]

/-- A page of the file is printed as its compressed raster. -/
theorem sheet_pageAt (params : PageParams) (stream : IStream)
    : (pageAt params stream).sheet
      = sheetOf params
          (compress params.imageLineSize.toNat params.imageLines.toNat stream.rdbuf.buffer) :=
  congrArg (sheetOf params) (compressLines_take ..)

/-- The page that is compressed from what follows its header. -/
theorem current_pageOf {params : PageParams} (nonempty : params.imageLineSize ≠ 0) (page : Nat)
    (stream : IStream)
    : Current
        (Compresses params.imageLineSize.toNat
          (stream.rdbuf.buffer.drop (params.imageLines.toNat * params.imageLineSize.toNat)))
        params
        (compress params.imageLineSize.toNat params.imageLines.toNat stream.rdbuf.buffer)
        (pageOf page params stream)
        (compress params.imageLineSize.toNat params.imageLines.toNat stream.rdbuf.buffer) := by
  have positive : 0 < params.imageLineSize.toNat := by
    apply Nat.pos_of_ne_zero
    exact fun zero => nonempty (UInt16.toNat_inj.mp zero)
  have small : params.imageLineSize.toNat < 2 ^ 32 :=
    Nat.lt_trans params.imageLineSize.toNat_lt (by decide)
  have given := ScoaStreambuf.construct_encodes (MemoryStreambuf.supplies stream.rdbuf.buffer)
    params.imageLines.toNat positive small
  have leads := leads_construct params.imageLines.toNat small stream.rdbuf.buffer
  exact ⟨⟨⟨⟨_, rfl, given, leads⟩, Nat.le_refl 0, rfl, rfl⟩, rfl⟩, rfl, rfl⟩

/-- The page leaves the stream behind its raster once a read has found the end of it. -/
theorem rdbufOf_ended {lineSize : Nat} {rest : List UInt8} {params : PageParams}
    {video : List UInt8} {this : PbmPage}
    (ended : Call.Ended (Current (Compresses lineSize rest) params video) this)
    (stream : IStream)
    : rdbufOf this stream = ⟨rest⟩ := by
  obtain ⟨n, page, positive, ⟨pending, labelled⟩, run⟩ := ended
  have feeds : BufferedPage.Feeds (Compresses lineSize rest) 4096 :=
    compresses_feeds (by decide)
  obtain ⟨empty, refill⟩ := Streambuf.run_sbumpc_none (BufferedPage.pending_refills feeds) pending
    (Streambuf.run_xsgetn_nil positive run)
  have left := pending.buffers.left
  obtain ⟨same, attached⟩ := labelled
  cases source : page.videoStream with
  | none =>
      rw [source] at attached
      cases attached
  | some scoa =>
      rw [source] at left
      obtain ⟨k, scoa', read, next, _⟩ := feeds left
      have block := read
      rw [← pending.buffers.blockSize] at block
      have found := (BufferedPage.run_underflow_block empty source block).symm.trans refill
      injection found with nothing last
      rw [List.head?_eq_none_iff.mp nothing] at read last
      obtain ⟨drained, atEnd⟩ := Streambuf.run_sbumpc_none compresses_refills left
        (Streambuf.run_xsgetn_nil (by decide) read)
      rw [← last, rdbufOf]
      change (scoa'.rasterStream).getD stream.rdbuf = ⟨rest⟩
      rw [leads_ended left.2 drained atEnd]
      rfl

end Capt.PrintPbm
