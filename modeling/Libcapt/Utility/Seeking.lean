import Libcapt.Utility.Replay

/-! Seeks to any position. Nothing checks the position that a seek sets, and the next read
takes the page to be at the end of its buffer where it is not within it.
-/

namespace Capt.Utility.BufferedPage

open Streams

variable {σ : Type} {this : BufferedPage σ} [Source Fault UInt8 σ] {content : List UInt8}

/-- The states of a page in use, with its video: the bytes that it has and those that its
stream still gives. A page that was moved from can only be assigned to, which does what it
does on the page before the move.
-/
inductive Lives : List UInt8 → BufferedPage σ → Prop
  | empty (page : Nat) (params : PageParams) (blockSize : Nat)
    : Lives [] (construct page params none blockSize)
  | constructed (page : Nat) (params : PageParams) {stream : σ} {blockSize : Nat}
    {content : List UInt8} (source : Fed blockSize stream content)
    : Lives content (construct page params (some stream) blockSize)
  | sgetn {content : List UInt8} {this this' : BufferedPage σ} {n : Nat} {data : List UInt8}
    (h : Lives content this) (run : (Source.sgetn n).run this = .ok data this')
    : Lives content this'
  | sbumpc {content : List UInt8} {this this' : BufferedPage σ} {c : Option UInt8}
    (h : Lives content this) (run : Source.sbumpc.run this = .ok c this')
    : Lives content this'
  | sgetc {content : List UInt8} {this this' : BufferedPage σ} {c : Option UInt8}
    (h : Lives content this) (run : Source.sgetc.run this = .ok c this')
    : Lives content this'
  | seekpos {content : List UInt8} {this this' : BufferedPage σ} {pos result : Int}
    {which : OpenMode} (h : Lives content this)
    (run : (seekpos pos which).run this = .ok result this')
    : Lives content this'
  | seekoff {content : List UInt8} {this this' : BufferedPage σ} {off result : Int}
    {dir : SeekDir} {which : OpenMode} (h : Lives content this)
    (run : (seekoff off dir which).run this = .ok result this')
    : Lives content this'
  | moveConstruct {content : List UInt8} {other : BufferedPage σ} (h : Lives content other)
    : Lives other.buffer other.moveConstruct
  | moveAssign {content video : List UInt8} {this other : BufferedPage σ}
    (h : Lives content this) (moved : Lives video other)
    : Lives (other.buffer ++ content.drop this.buffer.length) (this.moveAssign other)

-----------------------------------------------------------------------------------------
-- What a seek does
-----------------------------------------------------------------------------------------

section Seek

omit [Source Fault UInt8 σ]

/-- A seek by an offset is a seek to the position that it sets. -/
theorem run_seekoff_eq (off : Int) (dir : SeekDir) (which : OpenMode)
    : (seekoff off dir which).run this = (seekpos (this.reached off dir) which).run this := by
  obtain ⟨input, output⟩ := which
  cases input with
  | false => rfl
  | true => cases dir <;> rfl

/-- Without the bit for reading a seek fails. -/
theorem run_seekpos_closed (pos : Int) {which : OpenMode} (closed : ¬ which.input)
    : (seekpos pos which).run this = .ok (-1) this := by
  obtain ⟨input, output⟩ := which
  cases input with
  | false => rfl
  | true => exact absurd rfl closed

/-- An absolute seek inside the buffer. -/
theorem run_seekpos_open {pos : Int} {which : OpenMode} (opened : which.input)
    (inside : 0 ≤ pos ∧ pos ≤ this.egptr)
    : (seekpos pos which).run this = .ok pos (this.moved pos) := by
  obtain ⟨input, output⟩ := which
  cases input with
  | false => cases opened
  | true => exact run_setPosition inside

/-- An absolute seek outside of the buffer is refused. -/
theorem run_seekpos_outside {pos : Int} {which : OpenMode} (opened : which.input)
    (outside : ¬ (0 ≤ pos ∧ pos ≤ this.egptr))
    : (seekpos pos which).run this
      = .error (.undefinedBehaviour "get pointer outside the buffer") this := by
  obtain ⟨input, output⟩ := which
  cases input with
  | false => cases opened
  | true => exact run_setPosition_outside outside

variable {R : σ → List UInt8 → Prop} {blockSize : Nat}

/-- A seek that returns keeps the view. -/
theorem Buffers.seekpos {this' : BufferedPage σ} (h : Buffers R blockSize content this)
    {pos result : Int} {which : OpenMode}
    (run : (BufferedPage.seekpos pos which).run this = .ok result this')
    : Buffers R blockSize content this' := by
  by_cases opened : which.input
  · by_cases inside : 0 ≤ pos ∧ pos ≤ this.egptr
    · cases (run_seekpos_open opened inside).symm.trans run
      rw [h.egptr] at inside
      exact h.moved inside
    · cases (run_seekpos_outside opened inside).symm.trans run
  · cases (run_seekpos_closed pos opened).symm.trans run
    exact h

/-- The page that is move-constructed has the buffer and no stream. -/
theorem moveConstruct_buffers (other : BufferedPage σ)
    : Buffers R 4096 other.buffer other.moveConstruct :=
  ⟨⟨[], (List.append_nil _).symm, rfl⟩, Nat.zero_le _, rfl, rfl⟩

/-- The page that is assigned to has the other's buffer, and its own stream behind it. -/
theorem Buffers.moveAssign (h : Buffers R blockSize content this) (other : BufferedPage σ)
    : Buffers R blockSize (other.buffer ++ content.drop this.buffer.length)
        (this.moveAssign other) :=
  ⟨⟨_, rfl, h.left⟩, Nat.zero_le _, rfl, h.blockSize⟩

end Seek

/-- A page in use shows its video, by induction on what was done to it. -/
theorem Lives.buffers (h : Lives content this)
    : ∃ R blockSize, Feeds (σ := σ) R blockSize ∧ Buffers R blockSize content this := by
  induction h with
  | empty page params blockSize =>
      exact ⟨fun _ _ => False, blockSize, fun none => none.elim,
        ⟨[], rfl, rfl⟩, Nat.le_refl 0, rfl, rfl⟩
  | @constructed page params stream blockSize content source =>
      exact ⟨Fed blockSize, blockSize, feeds_fed blockSize,
        ⟨content, rfl, source⟩, Nat.le_refl 0, rfl, rfl⟩
  | @sgetn _ _ _ n _ _ run ih =>
      obtain ⟨R, blockSize, feeds, buffers⟩ := ih
      obtain ⟨this', read, after, _⟩ := buffers.sgetn feeds n
      cases read.symm.trans run
      exact ⟨R, blockSize, feeds, after⟩
  | sbumpc _ run ih =>
      obtain ⟨R, blockSize, feeds, buffers⟩ := ih
      obtain ⟨this', read, after, _⟩ := buffers.sbumpc feeds
      cases read.symm.trans run
      exact ⟨R, blockSize, feeds, after⟩
  | sgetc _ run ih =>
      obtain ⟨R, blockSize, feeds, buffers⟩ := ih
      obtain ⟨this', read, after, _⟩ := buffers.sgetc feeds
      cases read.symm.trans run
      exact ⟨R, blockSize, feeds, after⟩
  | seekpos _ run ih =>
      obtain ⟨R, blockSize, feeds, buffers⟩ := ih
      exact ⟨R, blockSize, feeds, buffers.seekpos run⟩
  | seekoff _ run ih =>
      obtain ⟨R, blockSize, feeds, buffers⟩ := ih
      rw [run_seekoff_eq] at run
      exact ⟨R, blockSize, feeds, buffers.seekpos run⟩
  | moveConstruct _ _ =>
      exact ⟨fun _ _ => False, 4096, fun none => none.elim, moveConstruct_buffers _⟩
  | moveAssign _ _ ih _ =>
      obtain ⟨R, blockSize, feeds, buffers⟩ := ih
      exact ⟨R, blockSize, feeds, buffers.moveAssign _⟩

-----------------------------------------------------------------------------------------
-- Safe seeks
-----------------------------------------------------------------------------------------

/-- A seek fails and leaves the position, or it returns the position that it sets, which is
within the buffer, and reading goes on with the video from there.
-/
def Seeks (content : List UInt8) (this : BufferedPage σ) (seek : Action (BufferedPage σ) Int)
    : Prop :=
  (∃ this', seek.run this = .ok (-1) this' ∧ this'.gptr = this.gptr
    ∧ this'.gptr ≤ this'.buffer.length)
  ∨ ∃ (p : Nat) (this' : BufferedPage σ), seek.run this = .ok p this' ∧ this'.gptr = p
      ∧ p ≤ this'.buffer.length
      ∧ ∀ n, ∃ this'', (Source.sgetn n).run this' = .ok ((content.drop p).take n) this''

/-- When an absolute seek does what it should. -/
theorem Buffers.seekpos_iff {R : σ → List UInt8 → Prop} {blockSize : Nat}
    (feeds : Feeds R blockSize) (h : Buffers R blockSize content this) (pos : Int)
    (which : OpenMode)
    : Seeks content this (BufferedPage.seekpos pos which)
      ↔ (which.input → 0 ≤ pos ∧ pos ≤ this.buffer.length) := by
  by_cases opened : which.input
  · by_cases inside : 0 ≤ pos ∧ pos ≤ this.buffer.length
    · refine iff_of_true (.inr ⟨pos.toNat, this.moved pos, ?_, rfl, ?_, ?_⟩) (fun _ => inside)
      · rw [Int.toNat_of_nonneg inside.1]
        apply run_seekpos_open opened
        rwa [h.egptr]
      · exact (h.moved inside).gptr
      · intro n
        obtain ⟨this'', read, _⟩ := (h.moved inside).sgetn feeds n
        exact ⟨this'', read⟩
    · refine iff_of_false ?_ (fun within => inside (within opened))
      rw [← h.egptr] at inside
      have thrown := run_seekpos_outside opened inside
      rintro (⟨this', run, _⟩ | ⟨p, this', run, _⟩)
      · cases thrown.symm.trans run
      · cases thrown.symm.trans run
  · refine iff_of_true (.inl ⟨this, run_seekpos_closed pos opened, rfl, h.gptr⟩) ?_
    exact fun reading => absurd reading opened

/-- A seek on a page in use is safe if and only if it fails for its open mode, or the
position that it sets is within the bytes buffered so far.
-/
theorem seeks_iff (lives : Lives content this) (which : OpenMode)
    : (∀ pos : Int, Seeks content this (seekpos pos which)
        ↔ (which.input → 0 ≤ pos ∧ pos ≤ this.buffer.length))
      ∧ ∀ off dir, Seeks content this (seekoff off dir which)
        ↔ (which.input →
            0 ≤ this.reached off dir ∧ this.reached off dir ≤ this.buffer.length) := by
  obtain ⟨R, blockSize, feeds, buffers⟩ := lives.buffers
  constructor
  · intro pos
    exact buffers.seekpos_iff feeds pos which
  · intro off dir
    rw [← buffers.seekpos_iff feeds (this.reached off dir) which]
    simp only [Seeks, run_seekoff_eq]

/-- A new page over three bytes, of which nothing is buffered. -/
theorem threeBytes_lives
    : Lives [1, 2, 3] (construct 1 noParams (some (⟨[1, 2, 3]⟩ : MemoryStreambuf)) 2) :=
  .constructed 1 noParams
    ⟨Trickles, feeds_trickles (by decide), (MemoryStreambuf.supplies [1, 2, 3]).trickles⟩

/-- At the beginning of a page. -/
theorem seeks_iff_begin
    : Seeks [1, 2, 3] (construct 1 noParams (some (⟨[1, 2, 3]⟩ : MemoryStreambuf)) 2)
        (seekpos 0) :=
  ((seeks_iff threeBytes_lives {}).1 0).mpr fun _ => ⟨Int.le_refl 0, Int.le_refl 0⟩

/-- A seek to the third byte of a new page. -/
theorem seekpos_unbuffered
    : ¬ ∀ (content : List UInt8) (this : BufferedPage MemoryStreambuf), Lives content this →
          ∀ pos : Int, Seeks content this (seekpos pos) := by
  intro safe
  obtain ⟨R, blockSize, feeds, buffers⟩ := threeBytes_lives.buffers
  have inside := (buffers.seekpos_iff feeds 2 {}).mp (safe _ _ threeBytes_lives 2) rfl
  exact absurd inside.2 (by decide)

end Capt.Utility.BufferedPage
