import Libcapt.Protocol.Protocol

/-! The program that shows the information of a printer and measures its video buffer. What it
writes to the console is its result, without the progress, and its assertion is compiled out.
-/

namespace Capt.Printerinfo

open Protocol

/-- A value of the type `std::size_t`. -/
def sizeT (n : Nat) : Nat := n % 2 ^ 64

/-- `buffer.size()` at the end of the first statement of the loop. -/
def batch (thresh batchSize count : Nat) : Nat :=
  if thresh ≠ 0 ∧ thresh ≤ count ∧ batchSize ≠ 1 then 1 else batchSize

/-- The loop of `fillBuffer`. -/
def fillLoop (thresh : Nat) : Nat → Nat → Nat → Action IOStream Nat
  | 0, _, _ => throw .unfinished
  | fuel + 1, batchSize, count => do
    let batchSize := batch thresh batchSize count
    let (bs, _) ← pcrGetBasicStatus false
    if bs &&& BasicStatus.imDataBusy ≠ 0 then return count
    else if bs &&& BasicStatus.cmdBusy ≠ 0 then return count
    else if bs &&& BasicStatus.errorBit ≠ 0 then return count
    else
      icVideoData (List.replicate batchSize 0xff)
      fillLoop thresh fuel batchSize (sizeT (count + batchSize))

/-- Sends batches while the printer reports neither a full buffer nor an error, and gives the
number of bytes sent.
-/
def fillBuffer (fuel batchSize thresh : Nat) : Action IOStream Nat :=
  fillLoop thresh fuel batchSize 0

/-- The parameters of the page that is never printed. -/
def dummyParams : PageParams where
  paperSize := 0x09
  tonerDensity := 0x3f
  mode := 0
  resolution := 0x11
  smoothEnable := true
  tonerSaving := false
  marginLeft := 1
  marginTop := 1
  imageLineSize := 620
  imageLines := 7014
  paperWidth := 4960
  paperHeight := 7014

/-- What the program shows: the information, and the size of the buffer where it is measured. -/
structure Shown where
  info : PrinterInfo
  buffSize : Option Nat

/-- The program once its stream is open. Gives its exit code and what it has shown. -/
def main (fuel : Nat) : Action IOStream (Nat × Shown) := do
  let info ← pcGetPrinterInfo
  let code ← pcReserveUnit
  if code ≠ 0 then return (1, ⟨info, none⟩)
  else
    let _ ← pcrClearError
    let _ ← pcrDiscardData
    let _ ← pcrGoOnline 0
    let status ← pcGetExtendedStatus
    if status.paperAvailableBits ≠ 0 then return (0, ⟨info, none⟩)
    else
      icBeginData
      if status.basic &&& BasicStatus.imDataBusy ≠ 0 then return (1, ⟨info, none⟩)
      else
        icBeginPage dummyParams
        let buffSize ← fillBuffer fuel 6144 0
        let _ ← pcrDiscardData
        let buffSize ← fillBuffer fuel 6144 (sizeT (buffSize + 2 ^ 64 - 16384))
        return (0, ⟨info, some buffSize⟩)

end Capt.Printerinfo
