/-! The records that requests carry and answers fill. -/

namespace Capt

/-- Any byte; the constants name its bits. -/
abbrev BasicStatus := UInt8

namespace BasicStatus

/-- The printer is not ready to print. -/
def notReady : BasicStatus := 2
/-- A command is still being executed. -/
def cmdBusy : BasicStatus := 4
/-- The buffer takes no image data. -/
def imDataBusy : BasicStatus := 8
/-- The printer is offline. -/
def offline : BasicStatus := 0x10
/-- The unit is not reserved. -/
def unitFree : BasicStatus := 0x40
/-- The printer has an error. -/
def errorBit : BasicStatus := 0x80

end BasicStatus

/-- The bits of the auxiliary status. -/
abbrev AuxStatus := UInt8

namespace AuxStatus

/-- Paper is being delivered. -/
def paperDelivery : AuxStatus := 4
/-- The printer waits for its safe timer. -/
def safeTimer : AuxStatus := 0x80

end AuxStatus

/-- The bits of the controller status. -/
abbrev ControllerStatus := UInt8

namespace ControllerStatus

/-- The image data is no sequence of commands. -/
def invalidData : ControllerStatus := 8
/-- The image data ended without the command for the end of a page. -/
def missingEop : ControllerStatus := 4
/-- The image data came too late. -/
def underrun : ControllerStatus := 2
/-- There was more image data than lines. -/
def overrun : ControllerStatus := 1
/-- The controller cannot reach the engine. -/
def engineCommError : ControllerStatus := 0x10
/-- A page was not printed. -/
def printRejected : ControllerStatus := 0x40

end ControllerStatus

/-- The bits of the engine's status. -/
abbrev EngineReadyStatus := UInt16

namespace EngineReadyStatus

/-- The door is open. -/
def doorOpen : EngineReadyStatus := 0x4000
/-- There is no cartridge. -/
def noCartridge : EngineReadyStatus := 0x2000
/-- The engine is warming up. -/
def waiting : EngineReadyStatus := 0x1000
/-- A test page is being printed. -/
def testPrinting : EngineReadyStatus := 0x400
/-- There is no paper. -/
def noPrintPaper : EngineReadyStatus := 0x200
/-- There is a paper jam. -/
def jam : EngineReadyStatus := 0x100
/-- The engine is being cleaned. -/
def cleaning : EngineReadyStatus := 4
/-- The engine needs repair. -/
def serviceCall : EngineReadyStatus := 2
/-- A page was misprinted. -/
def misPrint : EngineReadyStatus := 0x80
/-- A page was misprinted, by another bit. -/
def misPrint2 : EngineReadyStatus := 0x40

end EngineReadyStatus

/-- Which page is to be printed again, counted from the one in print. -/
inductive ReprintStatus where
  | none
  | prev
  | current
  deriving DecidableEq, Repr

/-- The status with the counters of the pages that were started, printed and delivered. -/
structure ExtendedStatus where
  basic : BasicStatus
  changed : UInt8
  aux : AuxStatus
  controller : ControllerStatus
  paperAvailableBits : UInt8
  engine : EngineReadyStatus
  start : UInt16
  printing : UInt16
  shipped : UInt16
  printed : UInt16
  deriving DecidableEq, Repr

namespace ExtendedStatus

/-- `Online`. -/
def online (this : ExtendedStatus) : Bool :=
  this.basic &&& BasicStatus.offline == 0

/-- `IsPrinting`: paper is moving, a page has been started that is not yet printed, or the engine
is being cleaned.
-/
def isPrinting (this : ExtendedStatus) : Bool :=
  this.aux &&& AuxStatus.paperDelivery != 0 || this.aux &&& AuxStatus.safeTimer != 0
    || (this.online && this.start != this.printing)
    || this.engine &&& EngineReadyStatus.cleaning != 0

/-- `Ready`. -/
def ready (this : ExtendedStatus) : Bool :=
  this.basic &&& BasicStatus.notReady == 0

/-- `UnitReserved`. -/
def unitReserved (this : ExtendedStatus) : Bool :=
  this.basic &&& BasicStatus.unitFree == 0

/-- `VideoDataError`: one of the four bits about the image data is set. -/
def videoDataError (this : ExtendedStatus) : Bool :=
  this.controller &&& ControllerStatus.overrun != 0
    || this.controller &&& ControllerStatus.underrun != 0
    || this.controller &&& ControllerStatus.invalidData != 0
    || this.controller &&& ControllerStatus.missingEop != 0

/-- `Rejected`. -/
def rejected (this : ExtendedStatus) : Bool :=
  this.controller &&& ControllerStatus.printRejected != 0

/-- The counters are promoted to `int` before they are compared. -/
def getReprintStatus (this : ExtendedStatus) : ReprintStatus :=
  if !this.rejected then .none
  else if (this.printed.toNat : Int) + 1 ≠ this.start.toNat then .prev
  else .current

/-- `Misprint`: either of the two bits is set. -/
def misprint (this : ExtendedStatus) : Bool :=
  this.engine &&& EngineReadyStatus.misPrint != 0
    || this.engine &&& EngineReadyStatus.misPrint2 != 0

/-- `ClearErrorNeeded`: an error that the command to clear errors removes. -/
def clearErrorNeeded (this : ExtendedStatus) : Bool :=
  this.videoDataError || this.rejected || this.misprint
    || this.controller &&& ControllerStatus.engineCommError != 0

end ExtendedStatus

/-- What the printer says about itself. -/
structure PrinterInfo where
  deviceId : UInt8
  type : UInt8
  versionMajor : UInt8
  versionMinor : UInt8
  blockSize : UInt16
  buffers : UInt16
  deriving DecidableEq, Repr

/-- The parameters of a page, as its header has them. -/
structure PageParams where
  paperSize : UInt8
  tonerDensity : UInt8
  mode : UInt8
  resolution : UInt8
  smoothEnable : Bool
  tonerSaving : Bool
  marginLeft : UInt16
  marginTop : UInt16
  imageLineSize : UInt16
  imageLines : UInt16
  paperWidth : UInt16
  paperHeight : UInt16

end Capt
