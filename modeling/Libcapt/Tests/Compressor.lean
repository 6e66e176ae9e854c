import Libcapt.Compression.ScoaStreambuf
import Libcapt.Examples.PbmHeader
import Libcapt.Protocol.Protocol

/-! The program that compresses a PBM file to the packets of its pages. It has a `readPbmHeader`
of its own, which is the same. What it writes to the console is left out.
-/

namespace Capt

open Streams Compression

/-- The files of the program and its compressor, which reads from the buffer of the PBM stream. -/
structure Compressor where
  pbmStream : IStream
  outStream : IOStream := {}
  scoaStreambuf : ScoaStreambuf MemoryStreambuf := {}

namespace Compressor

/-- An action on the input file. -/
def onPbm {α : Type} (action : Action IStream α) : Action Compressor α :=
  zoom pbmStream (fun pbmStream this => { this with pbmStream := pbmStream }) action

/-- An action on the output file. -/
def onOut {α : Type} (action : Action IOStream α) : Action Compressor α :=
  zoom outStream (fun outStream this => { this with outStream := outStream }) action

/-- What the compressor takes off its raster is taken off the PBM stream. -/
def onScoa {α : Type} (action : Action (ScoaStreambuf MemoryStreambuf) α) : Action Compressor α :=
  zoom
    (fun this => { this.scoaStreambuf with rasterStream := some this.pbmStream.rdbuf })
    (fun scoaStreambuf this => { this with
      scoaStreambuf := scoaStreambuf
      pbmStream := { this.pbmStream with
        rdbuf := scoaStreambuf.rasterStream.getD this.pbmStream.rdbuf } })
    action

/-- The loop over the blocks of a page. -/
def blockLoop : Nat → Action Compressor Unit
  | 0 => throw .unfinished
  | fuel + 1 => do
    let data ← onScoa (Source.sgetn 4096)
    if data.length = 0 then return
    else
      onOut (Protocol.icVideoData data)
      blockLoop fuel

/-- The parameters of a page. Those that are not set have the values that their memory had. -/
def pageParams (uninitialized : PageParams) (lineSize lines : Nat) : PageParams :=
  { uninitialized with
    imageLineSize := UInt16.ofNat lineSize
    imageLines := UInt16.ofNat lines }

/-- The packets of a page. -/
def writePage (fuel : Nat) (params : PageParams) : Action Compressor Unit := do
  onOut (Protocol.icBeginPage params)
  onOut Protocol.icBeginData
  blockLoop fuel
  onOut Protocol.icEndPage

/-- The loop over the pages. Gives their number. -/
def pageLoop (uninitialized : Nat → PageParams) (fuel : Nat) : Nat → Nat → Action Compressor Nat
  | 0, _ => throw .unfinished
  | turns + 1, page => do
    match ← onPbm readPbmHeader with
    | none => return page
    | some (lineSize, lines) =>
      if lineSize % 8 ≠ 0 then throw (.runtimeError "PBM width must be a multiple of 8")
      else
        let lineSize := lineSize / 8
        modify fun this => { this with
          scoaStreambuf := this.scoaStreambuf.reset this.pbmStream.rdbuf lineSize lines }
        writePage fuel (pageParams (uninitialized page) lineSize lines)
        pageLoop uninitialized fuel turns (unsigned (page + 1))

/-- The program once its files are open. Gives the number of the compressed pages. -/
def main (uninitialized : Nat → PageParams) (fuel : Nat) : Action Compressor Nat :=
  pageLoop uninitialized fuel fuel 0

end Compressor

end Capt
