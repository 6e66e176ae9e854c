import Libcapt.Utility.Buffering

/-! A buffered page is a view of its source that can be read again. -/

namespace Capt.Utility.BufferedPage

open Streams

variable {σ : Type} {this : BufferedPage σ}

/-- The position that a seek asks for, where the end is that of the bytes buffered so far. -/
def target (this : BufferedPage σ) (off : Int) : SeekDir → Int
  | .beg => off
  | .cur => this.gptr + off
  | .end => this.buffer.length + off

/-- An offset survives the narrowing to `int` where it fits. -/
theorem toInt_eq_iff {off : Int} : toInt off = off ↔ -2 ^ 31 ≤ off ∧ off < 2 ^ 31 := by
  constructor
  · intro same
    have low := Int.le_bmod (x := off) (m := 2 ^ 32) (by decide)
    have high := Int.bmod_lt (x := off) (m := 2 ^ 32) (by decide)
    unfold toInt at same
    omega
  · intro range
    exact Int.bmod_eq_of_le (by omega) (by omega)

variable [Source Fault UInt8 σ]

/-- The stream still gives `rest`; without a stream there is nothing more. -/
def Gives : Option σ → List UInt8 → Prop
  | some stream, rest => Trickles stream rest
  | none, rest => rest = []

/-- The page shows the content: the buffer is what was taken of it, and the stream has
exactly the rest.
-/
structure Views (content : List UInt8) (this : BufferedPage σ) : Prop where
  split : ∃ rest, content = this.buffer ++ rest ∧ Gives this.videoStream rest
  gptr : this.gptr ≤ this.buffer.length
  egptr : this.egptr = this.buffer.length
  blockSize : 0 < this.blockSize

variable {content : List UInt8}

/-- A new page views its stream from the start. -/
theorem construct_views (page : Nat) (params : PageParams) {stream : σ}
    (source : Trickles stream content) {blockSize : Nat} (positive : 0 < blockSize)
    : Views content (construct page params (some stream) blockSize) :=
  ⟨⟨content, rfl, source⟩, Nat.le_refl 0, rfl, positive⟩

/-- What was buffered is the front of the content. -/
theorem Views.isPrefix (h : Views content this) : this.buffer <+: content := by
  obtain ⟨rest, split, _⟩ := h.split
  exact ⟨rest, split.symm⟩

/-- What was not buffered is still in the source. -/
theorem Views.source (h : Views content this)
    : Gives this.videoStream (content.drop this.buffer.length) := by
  obtain ⟨rest, split, gives⟩ := h.split
  rwa [split, List.drop_left]

/-- What a reader is still to see. -/
structure Shows (content : List UInt8) (this : BufferedPage σ) (symbols : List UInt8)
    : Prop where
  views : Views content this
  symbols : symbols = content.drop this.gptr

/-- The page shows the content from its position on. -/
theorem Views.shows (h : Views content this) : Shows content this (content.drop this.gptr) :=
  ⟨h, rfl⟩

/-- What is left of the source, in the words of the buffering. -/
theorem gives_eq_left (stream : Option σ) (rest : List UInt8)
    : Gives stream rest = Left Trickles stream rest := by
  cases stream <;> rfl

/-- A view is a state of the buffering. -/
theorem Views.buffers (h : Views content this)
    : Buffers Trickles this.blockSize content this := by
  obtain ⟨rest, split, gives⟩ := h.split
  rw [gives_eq_left] at gives
  exact ⟨⟨rest, split, gives⟩, h.gptr, h.egptr, rfl⟩

/-- A state of the buffering is a view. -/
theorem Buffers.views {blockSize : Nat} (h : Buffers Trickles blockSize content this)
    (positive : 0 < blockSize)
    : Views content this := by
  obtain ⟨rest, split, left⟩ := h.split
  rw [← gives_eq_left] at left
  exact ⟨⟨rest, split, left⟩, h.gptr, h.egptr, h.blockSize.symm ▸ positive⟩

/-- What a page shows is pending in the words of the buffering. -/
theorem Shows.pending {symbols : List UInt8} (h : Shows content this symbols)
    : Pending Trickles this.blockSize content this symbols :=
  ⟨h.views.buffers, h.symbols⟩

/-- What is pending is shown. -/
theorem Pending.shows {blockSize : Nat} {symbols : List UInt8}
    (h : Pending Trickles blockSize content this symbols) (positive : 0 < blockSize)
    : Shows content this symbols :=
  ⟨h.buffers.views positive, h.symbols⟩

/-- The reading members give the content from the position on. -/
theorem shows_refills : Streambuf.Refills (Shows (σ := σ) content) where
  front := fun h => (pending_refills (feeds_trickles h.views.blockSize)).front h.pending
  gbump := fun h left => (h.pending.gbump left).shows h.views.blockSize
  underflow := fun h empty => by
    have positive := h.views.blockSize
    obtain ⟨this', run, after, filled, _⟩ := h.pending.underflow (feeds_trickles positive) empty
    exact ⟨this', run, after.shows positive, filled⟩

/-- Reading `n` symbols gives those at the position, or as many as there are. -/
theorem Views.sgetn (h : Views content this) (n : Nat)
    : ∃ this', (Source.sgetn n).run this = .ok ((content.drop this.gptr).take n) this'
        ∧ Views content this' ∧ this'.gptr = min (this.gptr + n) content.length := by
  obtain ⟨this', run, after, _, position⟩ := h.buffers.sgetn (feeds_trickles h.blockSize) n
  exact ⟨this', run, after.views h.blockSize, position⟩

/-- Reading one symbol and moving behind it. -/
theorem Views.sbumpc (h : Views content this)
    : ∃ this', Source.sbumpc.run this = .ok content[this.gptr]? this'
        ∧ Views content this' ∧ this'.gptr = min (this.gptr + 1) content.length := by
  obtain ⟨this', run, after, _, position⟩ := h.buffers.sbumpc (feeds_trickles h.blockSize)
  exact ⟨this', run, after.views h.blockSize, position⟩

/-- Looking at one symbol moves nothing. -/
theorem Views.sgetc (h : Views content this)
    : ∃ this', Source.sgetc.run this = .ok content[this.gptr]? this'
        ∧ Views content this' ∧ this'.gptr = this.gptr := by
  obtain ⟨this', run, after, _, position⟩ := h.buffers.sgetc (feeds_trickles h.blockSize)
  exact ⟨this', run, after.views h.blockSize, position⟩

/-- A move inside the buffer keeps the view. -/
theorem Views.moved (h : Views content this) {pos : Int}
    (inside : 0 ≤ pos ∧ pos ≤ this.buffer.length)
    : Views content (this.moved pos) :=
  (h.buffers.moved inside).views h.blockSize

/-- A seek inside the buffer goes where it is told to. -/
theorem Views.seekpos (h : Views content this) {pos : Int}
    (inside : 0 ≤ pos ∧ pos ≤ this.buffer.length)
    : (BufferedPage.seekpos pos).run this = .ok pos (this.moved pos) := by
  apply run_setPosition
  rwa [h.egptr]

/-- Only a relative seek may miss its target, and only by the narrowing. -/
theorem Views.reached_eq_iff (h : Views content this) {off : Int} {dir : SeekDir}
    : this.reached off dir = this.target off dir
      ↔ (dir = .cur → -2 ^ 31 ≤ off ∧ off < 2 ^ 31) := by
  rw [← toInt_eq_iff]
  cases dir with
  | beg => simp [reached, target]
  | cur => simp [reached, target]
  | «end» => simp [reached, target, h.egptr]

/-- A seek gives its target when that is the position that it sets. -/
theorem Views.seekoff_iff (h : Views content this) {off : Int} {dir : SeekDir}
    (inside : 0 ≤ this.target off dir ∧ this.target off dir ≤ this.buffer.length)
    : (seekoff off dir).run this = .ok (this.target off dir) (this.moved (this.target off dir))
      ↔ (dir = .cur → -2 ^ 31 ≤ off ∧ off < 2 ^ 31) := by
  rw [← h.reached_eq_iff, run_seekoff]
  constructor
  · intro run
    by_cases within : 0 ≤ this.reached off dir ∧ this.reached off dir ≤ this.egptr
    · rw [run_setPosition within] at run
      injection run
    · rw [run_setPosition_outside within] at run
      cases run
  · intro same
    rw [same]
    apply run_setPosition
    rwa [h.egptr]

-----------------------------------------------------------------------------------------
-- Sequences of reads and seeks
-----------------------------------------------------------------------------------------

/-- The offset goes through `gbump` as it is. -/
def Fits (off : Int) (dir : SeekDir) : Prop :=
  dir = .cur → -2 ^ 31 ≤ off ∧ off < 2 ^ 31

/-- The states of a page over the content, after any reads, and seeks to positions up to
the number of bytes buffered by then.
-/
inductive Reachable (content : List UInt8) : BufferedPage σ → Prop
  | constructed (page : Nat) (params : PageParams) {stream : σ}
    (source : Trickles stream content) {blockSize : Nat} (positive : 0 < blockSize)
    : Reachable content (construct page params (some stream) blockSize)
  | sgetn {this this' : BufferedPage σ} {n : Nat} {data : List UInt8}
    (h : Reachable content this) (run : (Source.sgetn n).run this = .ok data this')
    : Reachable content this'
  | sbumpc {this this' : BufferedPage σ} {c : Option UInt8} (h : Reachable content this)
    (run : Source.sbumpc.run this = .ok c this')
    : Reachable content this'
  | sgetc {this this' : BufferedPage σ} {c : Option UInt8} (h : Reachable content this)
    (run : Source.sgetc.run this = .ok c this')
    : Reachable content this'
  | seekpos {this this' : BufferedPage σ} {pos result : Int} (h : Reachable content this)
    (inside : 0 ≤ pos ∧ pos ≤ this.buffer.length)
    (run : (seekpos pos).run this = .ok result this')
    : Reachable content this'
  | seekoff {this this' : BufferedPage σ} {off result : Int} {dir : SeekDir}
    (h : Reachable content this)
    (inside : 0 ≤ this.target off dir ∧ this.target off dir ≤ this.buffer.length)
    (fits : Fits off dir) (run : (seekoff off dir).run this = .ok result this')
    : Reachable content this'

/-- Every state of a run is a view, by induction on the run. -/
theorem Reachable.views (h : Reachable content this) : Views content this := by
  induction h with
  | constructed page params source positive => exact construct_views page params source positive
  | @sgetn _ _ n _ _ run ih =>
      obtain ⟨this', read, after, _⟩ := ih.sgetn n
      cases read.symm.trans run
      exact after
  | sbumpc _ run ih =>
      obtain ⟨this', read, after, _⟩ := ih.sbumpc
      cases read.symm.trans run
      exact after
  | sgetc _ run ih =>
      obtain ⟨this', read, after, _⟩ := ih.sgetc
      cases read.symm.trans run
      exact after
  | seekpos _ inside run ih =>
      cases (ih.seekpos inside).symm.trans run
      exact ih.moved inside
  | seekoff _ inside fits run ih =>
      cases ((ih.seekoff_iff inside).mpr fits).symm.trans run
      exact ih.moved inside

/-- In every run of reads and seeks whose offsets go through `gbump` as they are, the page
shows the content: the buffer is a prefix of it and the source has exactly the rest, reads
give the content from the position on, and seeks give their target. A seek gives its target
only if its offset goes through `gbump` as it is.
-/
theorem replayable (reachable : Reachable content this)
    : this.buffer <+: content
      ∧ Gives this.videoStream (content.drop this.buffer.length)
      ∧ (∀ n, ∃ this',
          (Source.sgetn n).run this = .ok ((content.drop this.gptr).take n) this'
          ∧ this'.gptr = min (this.gptr + n) content.length)
      ∧ (∃ this', Source.sbumpc.run this = .ok content[this.gptr]? this'
          ∧ this'.gptr = min (this.gptr + 1) content.length)
      ∧ (∃ this', Source.sgetc.run this = .ok content[this.gptr]? this'
          ∧ this'.gptr = this.gptr)
      ∧ (∀ pos : Int, 0 ≤ pos ∧ pos ≤ this.buffer.length →
          (seekpos pos).run this = .ok pos (this.moved pos))
      ∧ ∀ off dir, 0 ≤ this.target off dir ∧ this.target off dir ≤ this.buffer.length →
          ((seekoff off dir).run this
              = .ok (this.target off dir) (this.moved (this.target off dir))
            ↔ Fits off dir) := by
  have views := reachable.views
  refine ⟨views.isPrefix, views.source, ?_, ?_, ?_, ?_, ?_⟩
  · intro n
    obtain ⟨this', run, _, position⟩ := views.sgetn n
    exact ⟨this', run, position⟩
  · obtain ⟨this', run, _, position⟩ := views.sbumpc
    exact ⟨this', run, position⟩
  · obtain ⟨this', run, _, position⟩ := views.sgetc
    exact ⟨this', run, position⟩
  · intro pos inside
    exact views.seekpos inside
  · intro off dir inside
    exact views.seekoff_iff inside

/-- The parameters of an empty page. -/
def noParams : PageParams :=
  ⟨0, 0, 0, 0, false, false, 0, 0, 0, 0, 0, 0⟩

/-- Three bytes in blocks of two, read to their end, and the position set back to the second. -/
def threeBytes : BufferedPage MemoryStreambuf :=
  {
    buffer := [1, 2, 3]
    videoStream := some ⟨[]⟩
    blockSize := 2
    pageNumber := 1
    params := noParams
    gptr := 1
    egptr := 3
  }

/-- The state is reached by reading the page and seeking back. -/
theorem threeBytes_reachable : Reachable [1, 2, 3] threeBytes := by
  have new : Reachable [1, 2, 3] (construct 1 noParams (some (⟨[1, 2, 3]⟩ : MemoryStreambuf)) 2) :=
    .constructed 1 noParams (MemoryStreambuf.supplies [1, 2, 3]).trickles (by decide)
  have read : Reachable [1, 2, 3] { threeBytes with gptr := 3 } :=
    @Reachable.sgetn _ _ _ _ _ 3 [1, 2, 3] new rfl
  exact @Reachable.seekpos _ _ _ _ threeBytes 1 1 read (by decide) rfl

/-- The last two bytes are read once more, and a seek goes back over them. -/
theorem replayable_threeBytes
    : (∃ this', (Source.sgetn 5).run threeBytes = .ok [2, 3] this' ∧ this'.gptr = 3)
      ∧ (seekoff (-1) .cur).run threeBytes = .ok 0 (threeBytes.moved 0) := by
  obtain ⟨_, _, reads, _, _, _, seeks⟩ := replayable threeBytes_reachable
  exact ⟨reads 5, (seeks (-1) .cur (by decide)).mpr fun _ => by decide⟩

/-- A seek over 2147483648 bytes of the buffer. -/
theorem seekoff_far
    : ¬ ∀ (content : List UInt8) (this : BufferedPage MemoryStreambuf),
          Reachable content this → ∀ off dir,
            0 ≤ this.target off dir ∧ this.target off dir ≤ this.buffer.length →
            (seekoff off dir).run this
              = .ok (this.target off dir) (this.moved (this.target off dir)) := by
  intro seeks
  obtain ⟨size, far⟩ : ∃ size : Nat, size = 2 ^ 31 := ⟨_, rfl⟩
  have new : Reachable (List.replicate size 0)
      (construct 1 noParams (some (⟨List.replicate size 0⟩ : MemoryStreambuf))) :=
    .constructed 1 noParams (MemoryStreambuf.supplies _).trickles (by decide)
  obtain ⟨this, run, views, position⟩ := new.views.sgetn size
  have begin' : 0 ≤ (0 : Int) ∧ (0 : Int) ≤ this.buffer.length := by omega
  have start := (new.sgetn run).seekpos begin' (views.seekpos begin')
  have long : size ≤ this.buffer.length := by
    have inside := views.gptr
    rw [position, List.length_replicate] at inside
    omega
  have target : (this.moved 0).target size .cur = size := Int.zero_add _
  have inside : 0 ≤ (this.moved 0).target size .cur
      ∧ (this.moved 0).target size .cur ≤ (this.moved 0).buffer.length := by
    rw [target]
    exact ⟨Int.natCast_nonneg size, Int.ofNat_le.mpr long⟩
  have fits := (start.views.seekoff_iff inside).mp (seeks _ _ start size .cur inside) rfl
  omega

end Capt.Utility.BufferedPage
