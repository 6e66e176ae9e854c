import Libcapt.Core.Fault

/-! A stream buffer over a raster of pages that gives the top left corner of each page. -/

namespace Capt.Utility

open Streams

/-- The buffer that delivers the upper left part of every page of a raster. -/
structure CropStreambuf (σ : Type) where
  rasterStream : σ
  origLineSize : Nat
  origLines : Nat
  cropLineSize : Nat
  cropLines : Nat
  currentLine : Nat := 0
  lineRead : Nat := 0

/-- Takes bytes until `count` attempts are made or one meets end-of-file. Gives the number
of attempts, the last one included.
-/
def discard {σ : Type} [Source Fault UInt8 σ] : Nat → Action σ Nat
  | 0 => return 0
  | count + 1 => do
    match ← Source.sbumpc with
    | none => return 1
    | some _ =>
      let read ← discard count
      return read + 1

namespace CropStreambuf

variable {σ : Type}

/-- The constructor. -/
def construct (rasterStream : σ) (origLineSize origLines cropLineSize cropLines : Nat)
    : CropStreambuf σ :=
  {
    rasterStream := rasterStream
    origLineSize := origLineSize
    origLines := origLines
    cropLineSize := cropLineSize
    cropLines := cropLines
  }

/-- The difference of two `unsigned` values. -/
def unsignedSub (a b : Nat) : Nat := unsigned (a + 2 ^ 32 - b)

variable [Source Fault UInt8 σ]

/-- An action of the raster stream. -/
def raster {α : Type} (action : Action σ α) : Action (CropStreambuf σ) α :=
  zoom rasterStream (fun s this => { this with rasterStream := s }) action

/-- The loop of `discardLines`, which runs while `currentLine != origLines`. -/
def discardLinesLoop : Nat → Action (CropStreambuf σ) Unit
  | 0 => return
  | lines + 1 => do
    let this ← get
    let read ← raster (discard this.origLineSize)
    if read = 0 then return
    else
      modify fun this => { this with currentLine := unsigned (this.currentLine + 1) }
      discardLinesLoop lines

/-- Discards the lines below the crop. -/
def discardLines : Action (CropStreambuf σ) Unit := do
  let this ← get
  discardLinesLoop (unsignedSub this.origLines this.currentLine)
  modify fun this => { this with currentLine := 0 }

/-- Discards what is right of the crop, and below it where the page ends. -/
def endLine : Action (CropStreambuf σ) Unit := do
  let this ← get
  let _ ← raster (discard (unsignedSub this.origLineSize this.cropLineSize))
  modify fun this =>
    { this with lineRead := 0, currentLine := unsigned (this.currentLine + 1) }
  let this ← get
  if this.currentLine = this.cropLines then discardLines
  else return

/-- `xsgetn` after its loop: a read within the current line. -/
def readLine (n : Nat) : Action (CropStreambuf σ) (List UInt8) := do
  let this ← get
  let count := min (unsigned n) (unsignedSub this.cropLineSize this.lineRead)
  let s ← raster (Source.sgetn count)
  modify fun this => { this with lineRead := unsigned (this.lineRead + s.length) }
  let this ← get
  if this.lineRead = this.cropLineSize then
    endLine
    return s
  else return s

/-- The loop of `xsgetn` and what follows it. The recursive call is for a line, and so it
does not enter the loop; each iteration reads at least one byte or ends the call, so that
there are at most `n` of them.
-/
def xsgetnLoop : Nat → Nat → Action (CropStreambuf σ) (List UInt8)
  | 0, _ => throw .unfinished
  | fuel + 1, n => do
    let this ← get
    if unsigned n > this.cropLineSize then
      let s ← if this.cropLineSize = 0 then pure [] else readLine this.cropLineSize
      if s.length = 0 then return []
      else
        let rest ← xsgetnLoop fuel (n - s.length)
        return s ++ rest
    else readLine n

/-- A block of the cropped raster. -/
def xsgetn (n : Nat) : Action (CropStreambuf σ) (List UInt8) :=
  if n = 0 then return []
  else xsgetnLoop n n

/-- The next byte, without a move. -/
def underflow : Action (CropStreambuf σ) (Option UInt8) := raster Source.sgetc

/-- The next byte, as a block of one. -/
def uflow : Action (CropStreambuf σ) (Option UInt8) := do
  let c ← xsgetn 1
  return c.head?

/-- The get area stays empty: every read reaches the members above. -/
instance : Source Fault UInt8 (CropStreambuf σ) where
  sgetn := xsgetn
  sbumpc := uflow
  sgetc := underflow

end CropStreambuf

end Capt.Utility
