import Libcapt.Compression.DecoderStreambuf
import Libcapt.Tests.VideoDataStreambuf

/-! The program that decodes the pages among packets to a PBM file. What it writes to the console
is left out.
-/

namespace Capt

open Streams Compression

/-- `operator<<` for `unsigned`. -/
def decimal (n : Nat) : List UInt8 := (Nat.toDigits 10 n).map fun digit => UInt8.ofNat digit.toNat

/-- The files of the program. The command log is a list of its lines. -/
structure Decoder where
  filterInput : IOStream
  outfile : IOStream := {}
  cmdout : List String := []

/-- A page and the file that it is written to. -/
structure DecodedPage where
  dec : DecoderStreambuf VideoDataStreambuf
  outfile : IOStream

namespace DecodedPage

/-- An action on the decoder. -/
def onDec {α : Type} (action : Action (DecoderStreambuf VideoDataStreambuf) α)
    : Action DecodedPage α :=
  zoom dec (fun dec this => { this with dec := dec }) action

/-- An action on the output file of a page. -/
def onOutfile {α : Type} (action : Action IOStream α) : Action DecodedPage α :=
  zoom outfile (fun outfile this => { this with outfile := outfile }) action

/-- The loop over the lines of a page. Gives the decoded size. -/
def lineLoop (lineSize : Nat) : Nat → Nat → Action DecodedPage Nat
  | 0, _ => throw .unfinished
  | turns + 1, decodedSize => do
    let line ← onDec (Source.sgetn lineSize)
    if line.length = 0 then return decodedSize
    else
      onOutfile (IOStream.write line)
      lineLoop lineSize turns (decodedSize + line.length)

end DecodedPage

namespace Decoder

/-- An action on the output file. -/
def onOutfile {α : Type} (action : Action IOStream α) : Action Decoder α :=
  zoom outfile (fun outfile this => { this with outfile := outfile }) action

/-- `VideoDataStreambuf videoStreambuf(filterInput)` and its `ReadHeader`. Gives the buffer with
what was read, or nothing where the function returns false.
-/
def readPageHeader : Action Decoder (Option VideoDataStreambuf) :=
  zoom (fun this => VideoDataStreambuf.construct this.filterInput)
    (fun video this => { this with filterInput := video.stream })
    do
      if ← VideoDataStreambuf.readHeader then
        let video ← get
        return some video
      else return none

/-- `DecoderStreambuf dec(videoStreambuf, videoStreambuf.LineSize, &cmdout)` and the loop over
what it gives.
-/
def decodePage (fuel : Nat) (videoStreambuf : VideoDataStreambuf) : Action Decoder Nat :=
  zoom
    (fun this => ⟨.construct { videoStreambuf with stream := this.filterInput }
      videoStreambuf.lineSize (some this.cmdout), this.outfile⟩)
    (fun page this => {
      filterInput := page.dec.stream.stream
      outfile := page.outfile
      cmdout := page.dec.commandLog.getD this.cmdout
    })
    (DecodedPage.lineLoop videoStreambuf.lineSize fuel 0)

/-- `"P4\n" << (videoStreambuf.LineSize * 8) << " " << videoStreambuf.LinesCount << "\n"`. -/
def pbmHeader (lineSize linesCount : Nat) : List UInt8 :=
  [80, 52, 10] ++ decimal (unsigned (lineSize * 8)) ++ [32] ++ decimal linesCount ++ [10]

/-- The loop over the pages. Gives their number. -/
def pageLoop (fuel : Nat) : Nat → Nat → Action Decoder Nat
  | 0, _ => throw .unfinished
  | turns + 1, page => do
    match ← readPageHeader with
    | none => return page
    | some videoStreambuf =>
      onOutfile (IOStream.write
        (pbmHeader videoStreambuf.lineSize videoStreambuf.linesCount))
      let expectedSize := unsigned (videoStreambuf.lineSize * videoStreambuf.linesCount)
      let decodedSize ← decodePage fuel videoStreambuf
      if decodedSize ≠ expectedSize then throw (.decoderError "Raster size mismatch")
      else pageLoop fuel turns (unsigned (page + 1))

/-- The program once its files are open. Gives the number of the decoded pages. -/
def main (fuel : Nat) : Action Decoder Nat := pageLoop fuel fuel 0

end Decoder

end Capt
