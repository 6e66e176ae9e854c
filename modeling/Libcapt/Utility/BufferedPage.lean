import Libcapt.Core.Fault
import Libcapt.Protocol.Status

/-! A page of video data that keeps what it has read, so that it can be read again. -/

namespace Capt.Utility

open Streams

/-- The bits of `std::ios_base::openmode` that select the sequences. -/
structure OpenMode where
  input : Bool := true
  output : Bool := true

/-- `std::ios_base::seekdir`. -/
inductive SeekDir where
  | beg
  | cur
  | «end»
  deriving Repr, DecidableEq

/-- A buffered page over a video stream in state `σ`. The pointers `gptr` and `egptr` are
relative to `eback`, which is at the start of the buffer.
-/
structure BufferedPage (σ : Type) where
  buffer : List UInt8 := []
  videoStream : Option σ := none
  blockSize : Nat := 4096
  pageNumber : Nat := 0
  params : PageParams
  gptr : Nat := 0
  egptr : Nat := 0

namespace BufferedPage

variable {σ : Type}

/-- The constructor. -/
def construct (page : Nat) (params : PageParams) (stream : Option σ) (blockSize : Nat := 4096)
    : BufferedPage σ :=
  { videoStream := stream, blockSize := blockSize, pageNumber := page, params := params }

/-- The move constructor: the stream stays behind, and the new page starts at its begin. -/
def moveConstruct (other : BufferedPage σ) : BufferedPage σ :=
  {
    buffer := other.buffer
    videoStream := none
    pageNumber := other.pageNumber
    params := other.params
    gptr := 0
    egptr := other.buffer.length
  }

/-- The move assignment, which keeps the stream and the block size that `this` has. -/
def moveAssign (this other : BufferedPage σ) : BufferedPage σ :=
  {
    this with
    buffer := other.buffer
    pageNumber := other.pageNumber
    params := other.params
    gptr := 0
    egptr := other.buffer.length
  }

/-- The bytes from `gptr` to `egptr`. -/
def area (this : BufferedPage σ) : List UInt8 :=
  (this.buffer.take this.egptr).drop this.gptr

/-- A conversion to the 32-bit `int`. -/
def toInt (off : Int) : Int := off.bmod (2 ^ 32)

/-- Sets `gptr`, which has no meaning outside the buffer. -/
def setPosition (pos : Int) : Action (BufferedPage σ) Unit := do
  let this ← get
  if 0 ≤ pos ∧ pos ≤ this.egptr then set { this with gptr := pos.toNat }
  else throw (.undefinedBehaviour "get pointer outside the buffer")

/-- Moves the position, which has to lie inside the buffer. -/
def seekpos (pos : Int) (which : OpenMode := {}) : Action (BufferedPage σ) Int := do
  if !which.input then return -1
  else
    setPosition pos
    let this ← get
    return this.gptr

/-- Relative to the position, the offset goes through the `int` of `gbump`. -/
def seekoff (off : Int) (dir : SeekDir) (which : OpenMode := {})
    : Action (BufferedPage σ) Int := do
  if !which.input then return -1
  else
    let this ← get
    match dir with
    | .cur => setPosition (this.gptr + toInt off)
    | .beg => setPosition off
    | .end => setPosition (this.egptr + off)
    let this ← get
    return this.gptr

variable [Source Fault UInt8 σ]

/-- The buffer grows by a block for the time of the read, and then has what was read. -/
def underflow : Action (BufferedPage σ) (Option UInt8) := do
  let this ← get
  match this.area with
  | b :: _ => return some b
  | [] =>
    match this.videoStream with
    | none => return none
    | some stream =>
      let oldSize := this.buffer.length
      modify fun this =>
        { this with buffer := this.buffer ++ List.replicate this.blockSize 0 }
      let s ← zoom (fun _ => stream) (fun s this => { this with videoStream := some s })
        (Source.sgetn this.blockSize)
      modify fun this => { this with buffer := this.buffer.take oldSize ++ s }
      modify fun this => { this with gptr := oldSize, egptr := this.buffer.length }
      let this ← get
      return if s.length = 0 then none else this.area.head?

/-- The page as a stream buffer. -/
instance : Streambuf Fault UInt8 (BufferedPage σ) where
  area := area
  gbump := fun n this => { this with gptr := this.gptr + n }
  underflow := underflow

/-- Its `gbump` moves over the get area. -/
instance : Streambuf.Lawful Fault UInt8 (BufferedPage σ) where
  area_gbump := fun {this b rest} h => by
    change (this.buffer.take this.egptr).drop this.gptr = b :: rest at h
    change (this.buffer.take this.egptr).drop (this.gptr + 1) = rest
    rw [← List.drop_drop, h]
    rfl

end BufferedPage

end Capt.Utility
