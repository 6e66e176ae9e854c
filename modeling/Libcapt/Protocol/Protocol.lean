import Libcapt.Core.PacketBuilder
import Libcapt.Core.StreamPacket
import Libcapt.Protocol.Status

/-! The packets that the library sends, and the answers that it reads to them. -/

namespace Capt.Protocol

open StreamPacket

/-- An answer has to carry the opcode of its request. -/
def checkOpcode {σ : Type} (actual expected : UInt16) : Action σ Unit :=
  if actual ≠ expected then
    throw (.protocolError
      ("unexpected response opcode: 0x" ++ hexUpper 4 actual.toNat
        ++ " (expected 0x" ++ hexUpper 4 expected.toNat ++ ")"))
  else return

/-- The payload of `IC_BEGIN_PAGE`. -/
def pageHeader (params : PageParams) : PacketBuilder :=
  PacketBuilder.mk []
    |>.appendUint16 0 -- const uint16
    |>.appendUint16 0x03fc -- TargetModel
    |>.appendByte params.paperSize
    |>.appendByte 1
    |>.appendByte 1 -- InputSlot
    |>.appendByte 0
    |>.appendByte params.tonerDensity
    |>.appendByte params.tonerDensity
    |>.appendByte params.tonerDensity
    |>.appendByte params.tonerDensity
    |>.appendByte params.mode
    |>.appendByte params.resolution
    |>.appendByte 3
    |>.appendByte 1
    |>.appendByte 1
    |>.appendByte 1
    |>.appendByte (if params.smoothEnable then 2 else 0)
    |>.appendByte (if params.tonerSaving then 1 else 0)
    |>.appendByte 0
    |>.appendByte 0
    |>.appendUint16 params.marginLeft
    |>.appendUint16 params.marginTop
    |>.appendUint16 params.imageLineSize
    |>.appendUint16 params.imageLines
    |>.appendUint16 params.paperWidth
    |>.appendUint16 params.paperHeight

/-- `IC_BEGIN_PAGE`, which has the header of the page as its payload. -/
def icBeginPage (params : PageParams) : Action IOStream Unit := do
  (pageHeader params).writeTo 0xD0A0
  IOStream.flush

/-- `IC_BEGIN_DATA`. -/
def icBeginData : Action IOStream Unit := do
  PacketHeader.writeTo 0xD0A1 []
  IOStream.flush

/-- `IC_END_PAGE`. -/
def icEndPage : Action IOStream Unit := do
  PacketHeader.writeTo 0xD0A2 []
  IOStream.flush

/-- `IC_VIDEO_DATA`, which has the block as its payload. -/
def icVideoData (data : List UInt8) : Action IOStream Unit := do
  PacketHeader.writeTo 0xC0A0 data
  IOStream.flush

-----------------------------------------------------------------------------------------
-- Requests
-----------------------------------------------------------------------------------------

/-- Sends a packet and reads the answer to it. -/
def request {α : Type} (opcode : UInt16) (payload : List UInt8)
    (answer : Action (Scope IOStream Unit) α)
    : Action IOStream α := do
  PacketHeader.writeTo opcode payload
  IOStream.flush
  withPacket do
    extract ()
    let s ← get
    checkOpcode s.packet.header.opcode opcode
    answer

/-- The fields of an extended status, in the order in which they are read. -/
def readExtendedStatus : Action (Scope IOStream Unit) ExtendedStatus := do
  let basic ← readByte
  if basic &&& BasicStatus.errorBit ≠ 0 then
    throw (.protocolError
      ("PC_GET_EXTENDED_STATUS returned error: 0x" ++ hex 2 basic.toNat))
  else
    let changed ← readByte
    let aux ← readByte
    let controller ← readByte
    let paperAvailableBits ← readByte
    let _ ← readByte
    let engine ← readUint16
    let start ← readUint16
    let printing ← readUint16
    let shipped ← readUint16
    let printed ← readUint16
    return {
      basic := basic
      changed := changed
      aux := aux
      controller := controller
      paperAvailableBits := paperAvailableBits
      engine := engine
      start := start
      printing := printing
      shipped := shipped
      printed := printed
    }

/-- `PC_GET_EXTENDED_STATUS`. -/
def pcGetExtendedStatus : Action IOStream ExtendedStatus :=
  request 0xA0A0 [] readExtendedStatus

/-- The fields of a printer information, in the order in which they are read. -/
def readPrinterInfo : Action (Scope IOStream Unit) PrinterInfo := do
  let _ ← readByte
  let _ ← readByte
  let deviceId ← readByte
  let type ← readByte
  let versionMajor ← readByte
  let versionMinor ← readByte
  let blockSize ← readUint16
  let buffers ← readUint16
  return {
    deviceId := deviceId
    type := type
    versionMajor := versionMajor
    versionMinor := versionMinor
    blockSize := blockSize
    buffers := buffers
  }

/-- `PC_GET_PRINTER_INFO`. -/
def pcGetPrinterInfo : Action IOStream PrinterInfo :=
  request 0xA1A1 [] readPrinterInfo

/-- The second byte is read when the caller asks for it. -/
def readBasicStatus (changed : Bool)
    : Action (Scope IOStream Unit) (BasicStatus × Option UInt8) := do
  let status ← readByte
  if changed then
    let value ← readByte
    return (status, some value)
  else return (status, none)

/-- `PCR_GET_BASIC_STATUS`. -/
def pcrGetBasicStatus (changed : Bool) : Action IOStream (BasicStatus × Option UInt8) :=
  request 0xE0A0 [] (readBasicStatus changed)

/-- The payload of `PCR_GO_ONLINE` and `PCR_CLEANING`. -/
def signedPayload (value : UInt16) : List UInt8 :=
  (PacketBuilder.mk []
    |>.appendUint32 0xadeadbee
    |>.appendUint16 value
    |>.appendByte 0
    |>.appendByte 0).payload

/-- `PCR_GO_ONLINE`, which gives the code of the answer. -/
def pcrGoOnline (pageNumber : UInt16) : Action IOStream UInt8 :=
  request 0xE0A5 (signedPayload pageNumber) readByte

/-- `PCR_CLEANING`, which gives the code of the answer. -/
def pcrCleaning : Action IOStream UInt8 :=
  request 0xE0AD (signedPayload 1) readByte

/-- A command without a payload, which gives the code of the answer. -/
def execCmd (opcode : UInt16) : Action IOStream UInt8 :=
  request opcode [] readByte

/-- `PC_RESERVE_UNIT`. -/
def pcReserveUnit : Action IOStream UInt8 := execCmd 0xA2A0
/-- `PCR_DISCARD_DATA`. -/
def pcrDiscardData : Action IOStream UInt8 := execCmd 0xE0A4
/-- `PCR_CLEAR_ERROR`. -/
def pcrClearError : Action IOStream UInt8 := execCmd 0xE0A2
/-- `PCR_GO_OFFLINE`. -/
def pcrGoOffline : Action IOStream UInt8 := execCmd 0xE0A6
/-- `PCR_RELEASE_UNIT`. -/
def pcrReleaseUnit : Action IOStream UInt8 := execCmd 0xE0A9
/-- `PCR_CLEAR_MISPRINT`. -/
def pcrClearMisprint : Action IOStream UInt8 := execCmd 0xE0A3
/-- `PCR_RESET_ENGINE`. -/
def pcrResetEngine : Action IOStream UInt8 := execCmd 0xE0A1

end Capt.Protocol
