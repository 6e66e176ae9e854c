import Libcapt.Compression.ScoaStreambuf
import Libcapt.Examples.PbmHeader
import Libcapt.Printer.BasicCaptPrinter
import Libcapt.Utility.BufferedPage

/-! The program that prints a PBM file: it waits for the printer, sends page after page, and
sends a page again that the printer rejected. What it writes to the console and its delays are
left out, and its assertions are compiled out.
-/

namespace Capt.PrintPbm

open Streams Call Utility Compression

variable {τ σ : Type}

/-- What the loop of `waitReady` does about a printer that is not ready. -/
inductive Cause where
  | pending
  | serviceCall
  | clearError
  | unknown
  deriving DecidableEq

/-- The tests in their order. The ones up to `CLEANING` differ in what they print alone. -/
def cause (status : ExtendedStatus) : Cause :=
  if status.engine &&& EngineReadyStatus.doorOpen ≠ 0 then .pending
  else if status.engine &&& EngineReadyStatus.noCartridge ≠ 0 then .pending
  else if status.engine &&& EngineReadyStatus.waiting ≠ 0 then .pending
  else if status.engine &&& EngineReadyStatus.testPrinting ≠ 0 then .pending
  else if status.engine &&& EngineReadyStatus.noPrintPaper ≠ 0 then .pending
  else if status.engine &&& EngineReadyStatus.jam ≠ 0 then .pending
  else if status.engine &&& EngineReadyStatus.cleaning ≠ 0 then .pending
  else if status.engine &&& EngineReadyStatus.serviceCall ≠ 0 then .serviceCall
  else if status.clearErrorNeeded then .clearError
  else .unknown

/-- The loop of `waitReady`. -/
def waitReadyLoop : Nat → ExtendedStatus → Action (Call τ) ExtendedStatus
  | 0, _ => throw .unfinished
  | fuel + 1, status => do
    if status.ready then return status
    else if ← stopRequested then return status
    else
      match cause status with
      | .pending =>
        let status ← onPrinter BasicCaptPrinter.getStatus
        waitReadyLoop fuel status
      | .serviceCall => throw (.runtimeError "Unrecoverable error: SERVICE_CALL")
      | .clearError =>
        onPrinter (BasicCaptPrinter.clearError (some status))
        let status ← onPrinter BasicCaptPrinter.getStatus
        waitReadyLoop fuel status
      | .unknown => return status

/-- Waits until the printer is ready, unless a stop is requested. -/
def waitReady (fuel : Nat) : Action (Call τ) ExtendedStatus := do
  let status ← onPrinter BasicCaptPrinter.getStatus
  if status.ready then return status
  else waitReadyLoop fuel status

/-- The number of the page is compared with the promoted counter. -/
def prepareBeforePrint (fuel page : Nat) : Nat → Action (Call τ) Unit
  | 0 => throw .unfinished
  | turns + 1 => do
    let status ← waitReady fuel
    if ← stopRequested then return
    else if !status.online ∨ status.start.toNat ≠ page then
      if ← onPrinter (BasicCaptPrinter.goOnline page) then return
      else prepareBeforePrint fuel page turns
    else return

/-- The pages that `writePage` is given. -/
structure Pages (σ : Type) where
  page : BufferedPage σ
  prev : Option (BufferedPage σ)

namespace Pages

/-- `prev && reprint == ReprintStatus::Prev`. -/
def takesPrev (this : Pages σ) (reprint : ReprintStatus) : Bool :=
  this.prev.isSome && reprint == .prev

/-- The page that is referred to: the previous one if it is to be taken. -/
def chosen (this : Pages σ) : Bool → BufferedPage σ
  | true => this.prev.getD this.page
  | false => this.page

/-- Puts a page in place of the chosen one. -/
def withChosen (this : Pages σ) (p : BufferedPage σ) : Bool → Pages σ
  | true => { this with prev := some p }
  | false => { this with page := p }

end Pages

/-- An action on the page that is referred to. -/
def onChosen {α : Type} (takesPrev : Bool) (action : Action (Call (BufferedPage σ)) α)
    : Action (Call (Pages σ)) α :=
  zoom
    (fun this => ⟨this.printer, this.stopToken, this.videoStream.chosen takesPrev⟩)
    (fun inner this =>
      ⟨inner.printer, inner.stopToken,
        this.videoStream.withChosen inner.videoStream takesPrev⟩)
    action

section Writing

variable [Source Fault UInt8 σ]

/-- The loop of `writePage`. The overload of `WriteVideoData` is the one without a token. -/
def writePage (fuel : Nat) : Nat → ReprintStatus → Action (Call (Pages σ)) Bool
  | 0, _ => throw .unfinished
  | turns + 1, reprint => do
    if ← stopRequested then return true
    else
      let this ← get
      let takesPrev := this.videoStream.takesPrev reprint
      let _ ← onChosen takesPrev (onVideo (BufferedPage.seekpos 0))
      let p := this.videoStream.chosen takesPrev
      prepareBeforePrint fuel p.pageNumber fuel
      if ← stopRequested then return true
      else if ← onChosen takesPrev (withoutToken (writeVideoData fuel p.params 0)) then
        if takesPrev then writePage fuel turns .none
        else return true
      else
        match ← waitPrintEnd fuel with
        | none => return true
        | some status =>
          if status.videoDataError then return false
          else writePage fuel turns status.getReprintStatus

/-- `writePage` without a previous page. -/
def writeOnly (fuel : Nat) : Action (Call (BufferedPage σ)) Bool :=
  zoom (fun this => ⟨this.printer, this.stopToken, ⟨this.videoStream, none⟩⟩)
    (fun inner _ => ⟨inner.printer, inner.stopToken, inner.videoStream.page⟩)
    (writePage fuel fuel .none)

/-- The loop of `waitLastPage`. -/
def waitLastPage (fuel : Nat) : Nat → Action (Call (BufferedPage σ)) Bool
  | 0 => throw .unfinished
  | turns + 1 => do
    if ← stopRequested then return true
    else
      match ← waitPrintEnd fuel with
      | none => return true
      | some status =>
        if status.videoDataError then return false
        else if status.getReprintStatus = .none then return true
        else if ← writeOnly fuel then waitLastPage fuel turns
        else return false

end Writing

-----------------------------------------------------------------------------------------
-- The program
-----------------------------------------------------------------------------------------

/-- The pages are compressed from the buffer of the PBM stream. -/
abbrev PbmPage := BufferedPage (ScoaStreambuf MemoryStreambuf)

/-- `BufferedPage prevPage;`, whose parameters are not looked at before they are set. -/
def emptyPage : PbmPage :=
  .construct 0 ⟨0, 0, 0, 0, false, false, 0, 0, 0, 0, 0, 0⟩ none

/-- The page that is compressed from the buffer of a stream. -/
def pageOf (page : Nat) (params : PageParams) (pbmStream : IStream) : PbmPage :=
  .construct page params (some (.construct pbmStream.rdbuf params.imageLineSize.toNat
    params.imageLines.toNat))

/-- The buffer of the stream once a page has read from it. -/
def rdbufOf (page : PbmPage) (pbmStream : IStream) : MemoryStreambuf :=
  (page.videoStream.bind ScoaStreambuf.rasterStream).getD pbmStream.rdbuf

/-- Gives what `writePage` returned, and the page as it left it. -/
def writeCurrPage (fuel page : Nat) (params : PageParams) (prevPage : PbmPage)
    : Action (Call IStream) (Bool × PbmPage) :=
  zoom
    (fun this => ⟨this.printer, this.stopToken,
      ⟨pageOf page params this.videoStream, if page = 0 then none else some prevPage⟩⟩)
    (fun inner this => ⟨inner.printer, inner.stopToken,
      { this.videoStream with rdbuf := rdbufOf inner.videoStream.page this.videoStream }⟩)
    do
      let written ← writePage fuel fuel .none
      let this ← get
      return (written, this.videoStream.page)

/-- The loop over the pages. Gives the number of the pages and the last one, or nothing where
`WritePage` failed.
-/
def pageLoop (fuel : Nat) : Nat → Nat → PbmPage → Action (Call IStream) (Option (Nat × PbmPage))
  | 0, _, _ => throw .unfinished
  | turns + 1, page, prevPage => do
    if ← stopRequested then return some (page, prevPage)
    else
      match ← onVideo PbmPageProvider.readHeader with
      | none => return some (page, prevPage)
      | some params =>
        let (written, currPage) ← writeCurrPage fuel page params prevPage
        if written then pageLoop fuel turns (unsigned (page + 1)) (prevPage.moveAssign currPage)
        else return none

/-- `page != 0 && !waitLastPage(...)` gives false. -/
def lastPageEnded (fuel page : Nat) (prevPage : PbmPage) : Action (Call IStream) Bool :=
  if page = 0 then return true
  else
    zoom (fun this => ⟨this.printer, this.stopToken, prevPage⟩)
      (fun inner this => ⟨inner.printer, inner.stopToken, this.videoStream⟩)
      (waitLastPage fuel fuel)

/-- The program once its streams are open. Its result is its exit code. -/
def main (fuel : Nat) : Action (Call IStream) Nat := do
  onPrinter BasicCaptPrinter.reserveUnit
  onPrinter (BasicCaptPrinter.clearError none)
  match ← pageLoop fuel fuel 0 emptyPage with
  | none => return 1
  | some (page, prevPage) =>
    if ← lastPageEnded fuel page prevPage then
      onPrinter BasicCaptPrinter.goOffline
      onPrinter BasicCaptPrinter.releaseUnit
      return 0
    else return 1

end Capt.PrintPbm
