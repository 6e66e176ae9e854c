import Libcapt.Protocol.Protocol

/-! The printer operations, each a sequence of requests on the printer's stream. -/

namespace Capt

open Streams Protocol

/-- The printer over its stream, with its information once that was asked for. -/
structure BasicCaptPrinter where
  stream : IOStream
  cachedInfo : Option PrinterInfo := none

/-- A stop token. `left` is the number of times that it still answers no; a token without
it never asks to stop.
-/
structure StopToken where
  left : Option Nat := none

/-- What a member function works on: the printer, the token and the video stream. -/
structure Call (σ : Type) where
  printer : BasicCaptPrinter
  stopToken : StopToken
  videoStream : σ

namespace BasicCaptPrinter

/-- An action on the stream of the printer. -/
def onStream {α : Type} (action : Action IOStream α) : Action BasicCaptPrinter α :=
  zoom stream (fun stream this => { this with stream := stream }) action

/-- A code other than zero is an exception. -/
def checkRetcode {σ : Type} (cmdResult : UInt8) (paramName : String) : Action σ Unit :=
  if cmdResult ≠ 0 then
    throw (.unexpectedBehaviourError
      (paramName ++ " returned non-successfull code (0x" ++ hex 2 cmdResult.toNat ++ ")"))
  else return

/-- `CHECK_RETCODE`. -/
def checked (command : Action IOStream UInt8) (paramName : String)
    : Action BasicCaptPrinter Unit := do
  let cmdResult ← onStream command
  checkRetcode cmdResult paramName

/-- `GetStatus`. -/
def getStatus : Action BasicCaptPrinter ExtendedStatus :=
  onStream pcGetExtendedStatus

/-- `GetPrinterInfo`, which asks once. -/
def getPrinterInfo : Action BasicCaptPrinter PrinterInfo := do
  let this ← get
  match this.cachedInfo with
  | some info => return info
  | none =>
    let info ← onStream pcGetPrinterInfo
    modify fun this => { this with cachedInfo := some info }
    return info

/-- `ReserveUnit`, which checks that the unit is reserved then. -/
def reserveUnit : Action BasicCaptPrinter Unit := do
  checked pcReserveUnit "Protocol::PC_RESERVE_UNIT(this->stream)"
  let ex ← getStatus
  if ex.unitReserved then return
  else throw (.unexpectedBehaviourError "failed to reserve unit")

/-- `ClearError`. The status is asked for where none is given, and only looked at behind the
first two commands.
-/
def clearError (status : Option ExtendedStatus) : Action BasicCaptPrinter Unit := do
  let ex ← match status with
    | none => getStatus
    | some ex => pure ex
  checked pcrClearError "Protocol::PCR_CLEAR_ERROR(this->stream)"
  checked pcrDiscardData "Protocol::PCR_DISCARD_DATA(this->stream)"
  if ex.misprint then
    checked pcrClearMisprint "Protocol::PCR_CLEAR_MISPRINT(this->stream)"
  if ex.controller &&& ControllerStatus.engineCommError ≠ 0 then
    checked pcrResetEngine "Protocol::PCR_RESET_ENGINE(this->stream)"

/-- The page number is converted to 16 bits. -/
def goOnline (page : Nat) : Action BasicCaptPrinter Bool := do
  checked (pcrGoOnline (UInt16.ofNat page)) "Protocol::PCR_GO_ONLINE(this->stream, page)"
  let ex ← getStatus
  return ex.online

/-- `Cleaning`. -/
def cleaning : Action BasicCaptPrinter Bool := do
  let cmdResult ← onStream pcrCleaning
  return cmdResult == 0

/-- `GoOffline`, which checks that the printer is offline then. -/
def goOffline : Action BasicCaptPrinter Unit := do
  checked pcrGoOffline "Protocol::PCR_GO_OFFLINE(this->stream)"
  let ex ← getStatus
  if ex.online then throw (.unexpectedBehaviourError "failed to offline")
  else return

/-- `ReleaseUnit`, which does nothing to a unit that is not reserved. -/
def releaseUnit : Action BasicCaptPrinter Unit := do
  let ex ← getStatus
  if ex.unitReserved then
    checked pcrReleaseUnit "Protocol::PCR_RELEASE_UNIT(this->stream)"
    let ex ← getStatus
    if ex.unitReserved then throw (.unexpectedBehaviourError "failed to release unit")
    else return
  else return

end BasicCaptPrinter

namespace Call

variable {σ : Type}

/-- An action on the printer of a call. -/
def onPrinter {α : Type} (action : Action BasicCaptPrinter α) : Action (Call σ) α :=
  zoom printer (fun printer this => { this with printer := printer }) action

/-- An action on the stream of its printer. -/
def onStream {α : Type} (action : Action IOStream α) : Action (Call σ) α :=
  onPrinter (BasicCaptPrinter.onStream action)

/-- An action on the video stream of a call. -/
def onVideo {α : Type} (action : Action σ α) : Action (Call σ) α :=
  zoom videoStream (fun videoStream this => { this with videoStream := videoStream }) action

/-- The call after the caller was asked whether to stop. -/
def polled (this : Call σ) (stop : Bool) : Call σ :=
  {
    printer := {
      this.printer with
      stream := {
        this.printer.stream with
        log := this.printer.stream.log ++ [Event.polled stop]
      }
    }
    stopToken := ⟨this.stopToken.left.map Nat.pred⟩
    videoStream := this.videoStream
  }

/-- `stopToken.stop_requested()`. Once it has answered yes it goes on to do so. -/
def stopRequested : Action (Call σ) Bool := do
  let this ← get
  let stop := this.stopToken.left == some 0
  set (this.polled stop)
  return stop

/-- An overload without a token uses one that never asks to stop. -/
def withoutToken {α : Type} (action : Action (Call σ) α) : Action (Call σ) α :=
  zoom (fun this => { this with stopToken := {} })
    (fun inner this => { inner with stopToken := this.stopToken }) action

/-- The inner loop of `WriteVideoData`. Gives false where the loop returns false from the
function. It ends when the printer is ready, or at the latest when `fuel` is used up.
-/
def pollStatus : Nat → Action (Call σ) Bool
  | 0 => throw .unfinished
  | fuel + 1 => do
    if ← stopRequested then return true
    else
      let (bs, _) ← onStream (pcrGetBasicStatus false)
      if bs &&& BasicStatus.notReady ≠ 0 then return false
      else if bs &&& BasicStatus.imDataBusy = 0 then return true
      else pollStatus fuel

/-- The outer loop of `WriteVideoData`. Gives false where the loop returns false from the
function, and true where it is left at the end of the video stream.
-/
def videoLoop [Source Fault UInt8 σ] (blockSize polls : Nat) : Nat → Action (Call σ) Bool
  | 0 => throw .unfinished
  | fuel + 1 => do
    let buffer ← onVideo (Source.sgetn blockSize)
    if buffer.length = 0 then return true
    else
      if ← pollStatus polls then
        if ← stopRequested then return false
        else
          onStream (icVideoData buffer)
          videoLoop blockSize polls fuel
      else return false

/-- If `blockSize` is zero, it is taken from the printer's information. -/
def transferSize (blockSize : Nat) : Action (Call σ) Nat :=
  if blockSize = 0 then do
    let info ← onPrinter BasicCaptPrinter.getPrinterInfo
    return info.blockSize.toNat
  else return blockSize

/-- With the assertion on the block size compiled out. -/
def writeVideoData [Source Fault UInt8 σ] (fuel : Nat) (params : PageParams) (blockSize : Nat)
    : Action (Call σ) Bool := do
  let blockSize ← transferSize blockSize
  onStream (icBeginPage params)
  onStream icBeginData
  if ← videoLoop blockSize fuel fuel then
    onStream icEndPage
    return true
  else return false

/-- Gives nothing if the caller asked to stop. The delay between the requests has no effect
on the printer.
-/
def waitStatus (func : ExtendedStatus → Bool) : Nat → Action (Call σ) (Option ExtendedStatus)
  | 0 => throw .unfinished
  | fuel + 1 => do
    if ← stopRequested then return none
    else
      let ex ← onPrinter BasicCaptPrinter.getStatus
      if func ex then return some ex
      else waitStatus func fuel

/-- `WaitPrintEnd`. -/
def waitPrintEnd (fuel : Nat) : Action (Call σ) (Option ExtendedStatus) :=
  waitStatus (fun ex => !ex.isPrinting) fuel

/-- The overloads without a token, which give the status itself. -/
def waitStatusWithoutToken (func : ExtendedStatus → Bool) (fuel : Nat)
    : Action (Call σ) ExtendedStatus := do
  match ← withoutToken (waitStatus func fuel) with
  | some ex => return ex
  | none => throw .badOptionalAccess

end Call

end Capt
