import Libcapt.Printer.PageExchange

/-! The request for the printer's information, from which a block size is taken that the
caller leaves open.
-/

namespace Capt

open Streams Protocol StreamPacket

/-- The chunk that asks for the printer's information. -/
def infoRequest : List UInt8 := PacketHeader.frame 0xA1A1 []

/-- The request for the information is answered. -/
theorem infoRequest_answered : ¬ Unanswered infoRequest :=
  mt unanswered_frame.mp (by decide)

/-- The block size that the answer to a request gives. An answer without one is refused. -/
def answeredBlockSize (answer : List UInt8) : Option UInt16 :=
  if littleValue (answer.take 2) = 0xA1A1 ∧ 14 ≤ littleValue ((answer.drop 2).take 2) then
    some (UInt16.ofNat (littleValue ((answer.drop 10).take 2)))
  else none

variable {stream : IOStream} {header : PacketHeader}

/-- The fields of a packet, by their places. -/
theorem answeredBlockSize_frame {opcode : UInt16} {payload : List UInt8}
    (fits : payload.length ≤ 65531)
    : answeredBlockSize (PacketHeader.frame opcode payload)
      = if opcode = 0xA1A1 ∧ 10 ≤ payload.length then
          some (UInt16.ofNat (littleValue ((payload.drop 6).take 2)))
        else none := by
  have name : littleValue ((PacketHeader.frame opcode payload).take 2) = opcode.toNat :=
    chunkOpcode_frame opcode payload
  have content : (PacketHeader.frame opcode payload).drop 10 = payload.drop 6 := by
    have split : (PacketHeader.frame opcode payload).drop 10
        = ((PacketHeader.frame opcode payload).drop 4).drop 6 := by
      rw [List.drop_drop]
    rw [split, drop_frame]
  have same : opcode.toNat = 0xA1A1 ↔ opcode = 0xA1A1 := UInt16.toNat_inj (b := 0xA1A1)
  have long : 14 ≤ 4 + payload.length ↔ 10 ≤ payload.length := by omega
  unfold answeredBlockSize
  rw [name, content, littleValue_size_frame opcode fits]
  simp only [same, long]

/-- A long enough answer is read as the printer's information. What follows the fields is
left to the destructor of the packet.
-/
theorem run_readPrinterInfo (good : stream.good) {payload : List UInt8}
    (long : 10 ≤ payload.length)
    : ∃ info left, info.blockSize = UInt16.ofNat (littleValue ((payload.drop 6).take 2))
        ∧ readPrinterInfo.run (reading stream header payload [])
          = .ok info (reading stream header left []) := by
  have field : ∀ (a b : UInt8) (left : List UInt8),
      readUint16.run (reading stream header (a :: b :: left) [])
        = .ok (UInt16.ofNat (littleValue [a, b])) (reading stream header left []) := by
    intro a b left
    have read := @run_readInt_front stream header left [] good [a, b]
    unfold readUint16
    exact run_bind_ok read
  match payload, long with
  | _ :: _ :: deviceId :: type :: major :: minor :: b₁ :: b₂ :: n₁ :: n₂ :: left, _ =>
      refine ⟨{
        deviceId := deviceId
        type := type
        versionMajor := major
        versionMinor := minor
        blockSize := UInt16.ofNat (littleValue [b₁, b₂])
        buffers := UInt16.ofNat (littleValue [n₁, n₂])
      }, left, rfl, ?_⟩
      rw [readPrinterInfo, run_bind_ok (run_readByte good _), run_bind_ok (run_readByte good _),
        run_bind_ok (run_readByte good _), run_bind_ok (run_readByte good _),
        run_bind_ok (run_readByte good _), run_bind_ok (run_readByte good _)]
      rw [run_bind_ok (field ..), run_bind_ok (field ..)]
      rfl

/-- Reading the information is not in the log. -/
theorem logged_readPrinterInfo {log : List Event} {device : List Event → List UInt8 → List UInt8}
    : Maintains (Logged Scope.outer log device) readPrinterInfo := by
  refine logged_readByte.bind fun _ => logged_readByte.bind fun _ => ?_
  refine logged_readByte.bind fun _ => logged_readByte.bind fun _ => ?_
  refine logged_readByte.bind fun _ => logged_readByte.bind fun _ => ?_
  exact logged_readUint16.bind fun _ => logged_readUint16.bind fun _ => .pure _

/-- The answer to the request. -/
def infoAnswer (stream : IOStream) : List UInt8 := stream.device stream.log infoRequest

/-- The stream once the printer was asked for its information. -/
def IOStream.informed (this : IOStream) : IOStream :=
  this.recorded (.flushed infoRequest [] (infoAnswer this))

/-- The information is read, with all of the answer around it. -/
theorem run_printerInfo (quiet : stream.Quiet)
    (exchange : Exchange infoRequest (infoAnswer stream)) {blockSize : UInt16}
    (answered : answeredBlockSize (infoAnswer stream) = some blockSize)
    : ∃ info, info.blockSize = blockSize
        ∧ pcGetPrinterInfo.run stream = .ok info stream.informed := by
  obtain ⟨opcode, payload, fits, answer⟩ := exchange.2 infoRequest_answered
  rw [answer, answeredBlockSize_frame fits] at answered
  split at answered
  · rename_i whole
    obtain ⟨rfl, long⟩ := whole
    cases answered
    have good : stream.informed.good := quiet.good
    obtain ⟨info, left, size, read⟩ := @run_readPrinterInfo stream.informed
      ⟨0xA1A1, UInt16.ofNat payload.length⟩ good payload long
    refine ⟨info, size, ?_⟩
    have middle : stream.recorded (.flushed infoRequest [] (PacketHeader.frame 0xA1A1 payload))
        = stream.informed := by
      rw [IOStream.informed, answer]
    apply run_request_whole quiet answer (announces_frame_self 0xA1A1 fits) _ middle
    · rw [drop_frame]
      exact read
    · simp [PacketHeader.frame]
      omega
  · cases answered

/-- An answer without the information makes the request throw. -/
theorem run_printerInfo_refused (quiet : stream.Quiet)
    (exchange : Exchange infoRequest (infoAnswer stream))
    (refused : answeredBlockSize (infoAnswer stream) = none)
    : ∃ err stream', pcGetPrinterInfo.run stream = .error err stream'
        ∧ stream'.log = stream.informed.log := by
  obtain ⟨opcode, payload, fits, answer⟩ := exchange.2 infoRequest_answered
  obtain ⟨err, stream', run, kept, _⟩ := run_request_refused quiet answer takes_readPrinterInfo
    (fun _ _ => logged_readPrinterInfo) (by
      intro size announced
      by_contra long
      have whole := announces_frame fits announced
      have name : opcode = 0xA1A1 :=
        UInt16.toNat_inj.mp ((chunkOpcode_frame opcode payload).symm.trans announced.2.1)
      rw [answer, answeredBlockSize_frame fits, if_pos ⟨name, by omega⟩] at refused
      cases refused)
  refine ⟨err, stream', run, kept.trans ?_⟩
  rw [← answer]
  rfl

-----------------------------------------------------------------------------------------
-- Exceptions of a request
-----------------------------------------------------------------------------------------

/-- Not the exception for a packet that is too long. -/
def Fault.Fits (err : Fault) : Prop := ∀ what, err ≠ .overflowError what

/-- Reading a number raises nothing about a block that does not fit. -/
theorem raises_readLittle (size : Nat) : Raises Fault.Fits (IOStream.readLittle size) := by
  refine .get fun s => .ite (fun _ => ?_) (fun _ => .pure _)
  refine Raises.bind (.get fun s => ?_) fun _ => .pure _
  exact .ite (fun _ => (Raises.set _).bind fun _ => .pure _) (fun _ => .pure _)

/-- Nor does writing a packet whose payload fits. -/
theorem raises_writeTo {opcode : UInt16} {payload : List UInt8} (fits : payload.length ≤ 65531)
    : Raises Fault.Fits (PacketHeader.writeTo opcode payload) := by
  have small : ¬ 4 + payload.length > 65535 := by omega
  have written : ∀ data, Raises Fault.Fits (IOStream.write data) :=
    fun data => .get fun s => .ite (fun _ => .set _) (fun _ => .pure _)
  have number : ∀ value, Raises Fault.Fits (IOStream.writeLittle 2 value) :=
    fun value => .get fun s => .ite (fun _ => written _) (fun _ => .pure _)
  refine .get fun s => .ite (fun _ => ?_) (fun _ => .pure _)
  rw [if_neg small]
  exact (number _).bind fun _ => (number _).bind fun _ => written _

/-- Nor does flushing. -/
theorem raises_flush : Raises Fault.Fits IOStream.flush :=
  .get fun _ => .ite (fun _ => .set _) (fun _ => .pure _)

/-- Nor does sending such a packet. -/
theorem raises_send {opcode : UInt16} {payload : List UInt8} (fits : payload.length ≤ 65531)
    : Raises Fault.Fits (do
        PacketHeader.writeTo opcode payload
        IOStream.flush) :=
  (raises_writeTo fits).bind fun _ => raises_flush

/-- Nor does skipping bytes. -/
theorem raises_skip (count : Nat) : Raises Fault.Fits (skip count) := by
  induction count with
  | zero => exact .pure _
  | succ count ih =>
      have taken : Raises Fault.Fits IOStream.sbumpc :=
        .get fun _ => (Raises.set _).bind fun _ => .pure _
      exact taken.bind fun _ => ih

/-- Nor does discarding the rest of a packet. -/
theorem raises_discard
    : Raises Fault.Fits (discard : Action (Scope IOStream Unit) Unit) := by
  refine .get fun s => .ite (fun _ => .pure _) (fun _ => ?_)
  cases s.packet.stream with
  | none => exact .modify _
  | some stream =>
      refine .ite (fun _ => ?_) (fun _ => .modify _)
      exact Raises.bind (.zoom (raises_skip _)) fun _ => .modify _

/-- Nor does reading a number of a packet. -/
theorem raises_readInt (size : Nat)
    : Raises Fault.Fits (readInt size : Action (Scope IOStream Unit) Nat) := by
  refine .get fun s => .ite (fun _ => .throw nofun) (fun _ => ?_)
  refine (Raises.modify _).bind fun _ => ?_
  cases s.packet.stream with
  | none => exact .throw nofun
  | some stream => exact .zoom (raises_readLittle size)

/-- Nor does reading a byte of it. -/
theorem raises_readByte : Raises Fault.Fits (readByte : Action (Scope IOStream Unit) UInt8) :=
  (raises_readInt 1).bind fun _ => .pure _

/-- Nor does extracting a header. -/
theorem raises_extractHeader : Raises Fault.Fits PacketHeader.extract := by
  have read : Raises Fault.Fits (PacketHeader.onStream (IOStream.readLittle 2)) :=
    .zoom (raises_readLittle 2)
  refine read.bind fun _ => (Raises.modify _).bind fun _ => read.bind fun _ => ?_
  refine .get fun _ => .ite (fun _ => ?_) (fun _ => .pure _)
  exact .ite (fun _ => .throw nofun) (fun _ => .modify _)

/-- Nor does comparing opcodes. -/
theorem raises_checkOpcode {σ : Type} (actual expected : UInt16)
    : Raises Fault.Fits (checkOpcode actual expected : Action σ Unit) :=
  .ite (fun _ => .throw nofun) (fun _ => .pure _)

/-- A request throws what the reading of the answer throws, or that the answer is refused. -/
theorem raises_request {α : Type} (opcode : UInt16) {answer : Action (Scope IOStream Unit) α}
    (h : Raises Fault.Fits answer)
    : Raises Fault.Fits (request opcode [] answer) := by
  have extracted : Raises Fault.Fits (extract () : Action (Scope IOStream Unit) Unit) :=
    raises_discard.bind fun _ => Raises.bind (.zoom raises_extractHeader) fun _ => .modify _
  have body : Raises Fault.Fits (Protocol.receive opcode answer) :=
    extracted.bind fun _ => .get fun _ => (raises_checkOpcode _ _).bind fun _ => h
  have block : Raises Fault.Fits (withPacket (Protocol.receive opcode answer)) := by
    intro outer err outer' run
    cases inner : (Protocol.receive opcode answer).run ⟨outer, {}⟩ with
    | ok value s =>
        rw [run_withPacket_ok inner] at run
        cases run
    | error err' s =>
        rw [run_withPacket_error inner] at run
        cases run
        exact body _ _ _ inner
  exact (raises_writeTo (Nat.zero_le _)).bind fun _ => raises_flush.bind fun _ => block

/-- Nor does asking for the basic status. -/
theorem raises_basicStatus : Raises Fault.Fits (pcrGetBasicStatus false) :=
  raises_request 0xE0A0 (raises_readByte.bind fun _ =>
    .ite (fun _ => raises_readByte.bind fun _ => .pure _) (fun _ => .pure _))

end Capt
