import Libcapt.Core.PacketReading
import Libcapt.Printer.BasicCaptPrinter

/-! Every answer is read by the request that it answers, whether the request returns or
throws, and so no request reads what answers another one.
-/

namespace Capt

open Streams

/-- The opcode of a chunk that is one packet. -/
def chunkOpcode (chunk : List UInt8) : Nat := littleValue (chunk.take 2)

/-- The packets of a page are not answered. -/
def Unanswered (chunk : List UInt8) : Prop :=
  chunkOpcode chunk ∈ [0xD0A0, 0xD0A1, 0xD0A2, 0xC0A0]

/-- A packet of the page is not answered, and every other one by exactly one well-formed
packet, of any opcode and with any payload.
-/
def Exchange (chunk answer : List UInt8) : Prop :=
  (Unanswered chunk → answer = [])
    ∧ (¬ Unanswered chunk →
        ∃ opcode payload, payload.length ≤ 65531 ∧ answer = PacketHeader.frame opcode payload)

/-- A chunk was sent while nothing was unread, and answered as it should be. -/
def Event.Paired : Event → Prop
  | flushed chunk backlog answer => backlog = [] ∧ Exchange chunk answer
  | polled _ => True

/-- Nothing is unread, and so it was whenever a chunk was sent. -/
structure IOStream.Paired (stream : IOStream) : Prop where
  good : stream.good
  input : stream.input = []
  pending : stream.pending = []
  device : ∀ log chunk, Exchange chunk (stream.device log chunk)
  log : ∀ event ∈ stream.log, event.Paired

/-- Whether a chunk is unanswered can be decided by its opcode. -/
instance : DecidablePred Unanswered :=
  fun chunk => inferInstanceAs (Decidable (chunkOpcode chunk ∈ _))

/-- The opcode that a frame asks for. -/
theorem chunkOpcode_frame (opcode : UInt16) (payload : List UInt8)
    : chunkOpcode (PacketHeader.frame opcode payload) = opcode.toNat := by
  have name := PacketHeader.name_frame opcode [] payload
  rw [List.append_nil] at name
  exact name

/-- Whether a packet is answered is said by its opcode. -/
theorem unanswered_frame {opcode : UInt16} {payload : List UInt8}
    : Unanswered (PacketHeader.frame opcode payload)
      ↔ opcode.toNat ∈ [0xD0A0, 0xD0A1, 0xD0A2, 0xC0A0] := by
  rw [Unanswered, chunkOpcode_frame]

/-- Behind the header of a frame stands its payload. -/
theorem drop_frame (opcode : UInt16) (payload : List UInt8)
    : (PacketHeader.frame opcode payload).drop 4 = payload := by
  have behind := PacketHeader.drop_frame_append opcode [] payload
  rw [List.append_nil, List.append_nil] at behind
  exact behind

/-- The size that a packet announces is its own. -/
theorem littleValue_size_frame (opcode : UInt16) {payload : List UInt8}
    (fits : payload.length ≤ 65531)
    : littleValue (((PacketHeader.frame opcode payload).drop 2).take 2) = 4 + payload.length := by
  have total := PacketHeader.size_frame opcode [] fits
  rw [List.append_nil] at total
  exact total

/-- All that is unread is the rest of the packet in scope. -/
def Inside (s : Scope IOStream Unit) : Prop :=
  ∃ stream header left, s = StreamPacket.reading stream header left []
    ∧ (stream.unread []).Paired

/-- Reading a number consumes nothing behind the packet. -/
theorem inside_readInt (size : Nat) : Maintains Inside (StreamPacket.readInt size) := by
  rintro _ ⟨stream, header, left, rfl, quiet⟩
  rcases Nat.lt_or_ge left.length size with past | fits
  · rw [StreamPacket.run_readInt_past past]
    exact ⟨stream, header, left, rfl, quiet⟩
  · have good : stream.good := quiet.good
    rw [StreamPacket.run_readInt good fits]
    exact ⟨stream, header, left.drop size, rfl, quiet⟩

/-- Nor does reading a byte. -/
theorem inside_readByte : Maintains Inside StreamPacket.readByte :=
  (inside_readInt 1).bind fun _ => .pure _

/-- Nor does reading two bytes as a number. -/
theorem inside_readUint16 : Maintains Inside StreamPacket.readUint16 :=
  (inside_readInt 2).bind fun _ => .pure _

namespace Protocol

/-- Comparing opcodes leaves the state alone, whatever is asked of it. -/
theorem maintains_checkOpcode {σ : Type} {I : σ → Prop} (actual expected : UInt16)
    : Maintains I (checkOpcode actual expected) :=
  .ite (fun _ => .throw _) (fun _ => .pure _)

/-- The reader of the extended status stays inside its packet. -/
theorem inside_extendedStatus : Maintains Inside readExtendedStatus := by
  refine inside_readByte.bind fun _ => .ite (fun _ => .throw _) fun _ => ?_
  refine inside_readByte.bind fun _ => inside_readByte.bind fun _ => ?_
  refine inside_readByte.bind fun _ => inside_readByte.bind fun _ => ?_
  refine inside_readByte.bind fun _ => inside_readUint16.bind fun _ => ?_
  refine inside_readUint16.bind fun _ => inside_readUint16.bind fun _ => ?_
  exact inside_readUint16.bind fun _ => inside_readUint16.bind fun _ => .pure _

/-- So does the reader of the printer info, which checks the opcode behind it. -/
theorem inside_printerInfo : Maintains Inside readPrinterInfo := by
  refine inside_readByte.bind fun _ => inside_readByte.bind fun _ => ?_
  refine inside_readByte.bind fun _ => inside_readByte.bind fun _ => ?_
  refine inside_readByte.bind fun _ => inside_readByte.bind fun _ => ?_
  exact inside_readUint16.bind fun _ => inside_readUint16.bind fun _ => .pure _

/-- So does the reader of the basic status, changed or not. -/
theorem inside_basicStatus (changed : Bool) : Maintains Inside (readBasicStatus changed) := by
  refine inside_readByte.bind fun _ => .ite (fun _ => ?_) (fun _ => .pure _)
  exact inside_readByte.bind fun _ => .pure _

-----------------------------------------------------------------------------------------
-- Requests
-----------------------------------------------------------------------------------------

variable {α : Type}

/-- A packet's block ends behind the packet, on every exit. -/
theorem paired_withPacket (opcode : UInt16) {payload : List UInt8} {stream : IOStream}
    {body : Action (Scope IOStream Unit) α} (quiet : (stream.unread []).Paired)
    (fits : payload.length ≤ 65531) (inside : Maintains Inside body)
    : (after ((StreamPacket.withPacket do
        StreamPacket.extract ()
        body).run (stream.unread (PacketHeader.frame opcode payload)))).Paired := by
  have good : stream.good := quiet.good
  have extracted : (StreamPacket.extract ()).run
      ⟨stream.unread (PacketHeader.frame opcode payload ++ []), {}⟩ = .ok () _ :=
    StreamPacket.run_extract_first good fits
  rw [List.append_nil] at extracted
  have kept := inside _ ⟨stream, ⟨opcode, UInt16.ofNat payload.length⟩, payload, rfl, quiet⟩
  rw [StreamPacket.after_withPacket, run_bind_ok extracted]
  obtain ⟨stream', header, left, last, quiet'⟩ := kept
  have good' : stream'.good := quiet'.good
  rw [last, StreamPacket.run_discard good']
  exact quiet'

/-- What a stream on which nothing is unread is after a chunk was sent on it. -/
theorem sent_paired {stream : IOStream} (quiet : stream.Paired) (chunk : List UInt8)
    : ((stream.sent chunk).unread []).Paired
      ∧ (stream.sent chunk).input = stream.device stream.log chunk := by
  have whole : stream.pending ++ chunk = chunk := by
    rw [quiet.pending]
    rfl
  constructor
  · refine ⟨quiet.good, rfl, rfl, quiet.device, ?_⟩
    intro event member
    rcases List.mem_append.mp member with before | now
    · exact quiet.log event before
    · rw [List.mem_singleton.mp now, whole]
      exact ⟨quiet.input, quiet.device _ _⟩
  · rw [IOStream.sent, whole, quiet.input]
    rfl

/-- A request leaves nothing unread, on every exit. -/
theorem paired_request {opcode : UInt16} {payload : List UInt8}
    {answer : Action (Scope IOStream Unit) α} (fits : payload.length ≤ 65531)
    (answered : opcode.toNat ∉ [0xD0A0, 0xD0A1, 0xD0A2, 0xC0A0])
    (inside : Maintains Inside answer)
    : Maintains IOStream.Paired (request opcode payload answer) := by
  intro stream quiet
  obtain ⟨silent, received⟩ := sent_paired quiet (PacketHeader.frame opcode payload)
  obtain ⟨name, content, size, answers⟩ :=
    (quiet.device stream.log (PacketHeader.frame opcode payload)).2
      (mt unanswered_frame.mp answered)
  have body : Maintains Inside (do
      let s ← get
      checkOpcode s.packet.header.opcode opcode
      answer) :=
    .get fun s hs => (maintains_checkOpcode _ _).bind (fun _ => inside) s hs
  have arrived : (stream.sent (PacketHeader.frame opcode payload)).unread
      (PacketHeader.frame name content) = stream.sent (PacketHeader.frame opcode payload) := by
    rw [← answers, ← received]
    rfl
  have kept := paired_withPacket name silent size body
  rw [arrived] at kept
  unfold request
  rw [run_bind_ok (PacketHeader.run_writeTo quiet.good fits),
    run_bind_ok (IOStream.run_flush quiet.good _)]
  exact kept

/-- A packet of the page is sent, or refused as too long. -/
theorem paired_send (opcode : UInt16) (payload : List UInt8)
    (unanswered : opcode.toNat ∈ [0xD0A0, 0xD0A1, 0xD0A2, 0xC0A0])
    : Maintains IOStream.Paired (do
        PacketHeader.writeTo opcode payload
        IOStream.flush) := by
  intro stream quiet
  rcases Nat.lt_or_ge 65531 payload.length with long | fits
  · rw [run_bind_error (PacketHeader.run_writeTo_overflow quiet.good long)]
    exact quiet
  · obtain ⟨silent, received⟩ := sent_paired quiet (PacketHeader.frame opcode payload)
    have nothing := (quiet.device stream.log (PacketHeader.frame opcode payload)).1
      (unanswered_frame.mpr unanswered)
    rw [run_bind_ok (PacketHeader.run_writeTo quiet.good fits), IOStream.run_flush quiet.good]
    have same : (stream.sent (PacketHeader.frame opcode payload)).unread []
        = stream.sent (PacketHeader.frame opcode payload) := by
      rw [← nothing, ← received]
      rfl
    rw [same] at silent
    exact silent

/-- The status is asked for and its answer is read. -/
theorem paired_pcGetExtendedStatus : Maintains IOStream.Paired pcGetExtendedStatus :=
  paired_request (by decide) (by decide) inside_extendedStatus

/-- The printer info is asked for and its answer is read. -/
theorem paired_pcGetPrinterInfo : Maintains IOStream.Paired pcGetPrinterInfo :=
  paired_request (by decide) (by decide) inside_printerInfo

/-- Basic status: one request and one answer. -/
theorem paired_pcrGetBasicStatus (changed : Bool)
    : Maintains IOStream.Paired (pcrGetBasicStatus changed) :=
  paired_request (by decide) (by decide) (inside_basicStatus changed)

/-- The payload has four bytes for the signature, two for the value and two that are zero. -/
theorem signedPayload_length (value : UInt16) : (signedPayload value).length = 8 := rfl

/-- Going online: one request and one answer. -/
theorem paired_pcrGoOnline (pageNumber : UInt16)
    : Maintains IOStream.Paired (pcrGoOnline pageNumber) :=
  paired_request (by rw [signedPayload_length]; decide) (by decide) inside_readByte

/-- Cleaning: one request and one answer. -/
theorem paired_pcrCleaning : Maintains IOStream.Paired pcrCleaning :=
  paired_request (by rw [signedPayload_length]; decide) (by decide) inside_readByte

/-- The commands without a payload whose answer `execCmd` reads. -/
theorem paired_execCmd {opcode : UInt16}
    (answered : opcode.toNat ∉ [0xD0A0, 0xD0A1, 0xD0A2, 0xC0A0])
    : Maintains IOStream.Paired (execCmd opcode) :=
  paired_request (Nat.zero_le _) answered inside_readByte

end Protocol

-----------------------------------------------------------------------------------------
-- Printer operations
-----------------------------------------------------------------------------------------

namespace BasicCaptPrinter

open Protocol

variable {α : Type}

/-- Nothing is unread on the printer's stream. -/
def Paired (this : BasicCaptPrinter) : Prop := this.stream.Paired

/-- What pairs on the stream pairs in the printer, whose other fields are not touched. -/
theorem paired_onStream {action : Action IOStream α} (h : Maintains IOStream.Paired action)
    : Maintains Paired (onStream action) :=
  .zoom fun this paired => h this.stream paired

/-- A check of the answered code comes behind the exchange and sends nothing. -/
theorem paired_checked {command : Action IOStream UInt8} (paramName : String)
    (h : Maintains IOStream.Paired command)
    : Maintains Paired (checked command paramName) :=
  (paired_onStream h).bind fun _ => .ite (fun _ => .throw _) (fun _ => .pure _)

/-- `GetStatus`. -/
theorem paired_getStatus : Maintains Paired getStatus :=
  paired_onStream paired_pcGetExtendedStatus

/-- `GetPrinterInfo`. -/
theorem paired_getPrinterInfo : Maintains Paired getPrinterInfo := by
  refine .get fun this paired => ?_
  cases this.cachedInfo with
  | some info => exact paired
  | none =>
      refine ((paired_onStream paired_pcGetPrinterInfo).bind fun _ => ?_) this paired
      exact Maintains.bind (.modify fun _ h => h) fun _ => .pure _

/-- `ReserveUnit`. -/
theorem paired_reserveUnit : Maintains Paired reserveUnit := by
  refine (paired_checked _ (paired_execCmd (by decide))).bind fun _ => ?_
  exact paired_getStatus.bind fun _ => .ite (fun _ => .pure _) (fun _ => .throw _)

/-- `ClearError`, from a status that is given or fetched. -/
theorem paired_clearError (status : Option ExtendedStatus)
    : Maintains Paired (clearError status) := by
  have resetEngine : ∀ ex : ExtendedStatus, Maintains Paired
      (if ex.controller &&& ControllerStatus.engineCommError ≠ 0 then
        checked pcrResetEngine "Protocol::PCR_RESET_ENGINE(this->stream)"
      else return) := fun ex =>
    .ite (fun _ => paired_checked _ (paired_execCmd (by decide))) (fun _ => .pure _)
  have commands : ∀ ex : ExtendedStatus, Maintains Paired (do
      checked pcrClearError "Protocol::PCR_CLEAR_ERROR(this->stream)"
      checked pcrDiscardData "Protocol::PCR_DISCARD_DATA(this->stream)"
      if ex.misprint then
        checked pcrClearMisprint "Protocol::PCR_CLEAR_MISPRINT(this->stream)"
      if ex.controller &&& ControllerStatus.engineCommError ≠ 0 then
        checked pcrResetEngine "Protocol::PCR_RESET_ENGINE(this->stream)") := by
    intro ex
    refine (paired_checked _ (paired_execCmd (by decide))).bind fun _ => ?_
    refine (paired_checked _ (paired_execCmd (by decide))).bind fun _ => .ite (fun _ => ?_) ?_
    · exact (paired_checked _ (paired_execCmd (by decide))).bind fun _ => resetEngine ex
    · exact fun _ => resetEngine ex
  cases status with
  | none => exact paired_getStatus.bind commands
  | some ex => exact (Maintains.pure ex).bind commands

/-- `GoOnline`. -/
theorem paired_goOnline (page : Nat) : Maintains Paired (goOnline page) := by
  refine (paired_checked _ (paired_pcrGoOnline _)).bind fun _ => ?_
  exact paired_getStatus.bind fun _ => .pure _

/-- `Cleaning`. -/
theorem paired_cleaning : Maintains Paired cleaning :=
  (paired_onStream paired_pcrCleaning).bind fun _ => .pure _

/-- `GoOffline`. -/
theorem paired_goOffline : Maintains Paired goOffline := by
  refine (paired_checked _ (paired_execCmd (by decide))).bind fun _ => ?_
  exact paired_getStatus.bind fun _ => .ite (fun _ => .throw _) (fun _ => .pure _)

/-- `ReleaseUnit`. -/
theorem paired_releaseUnit : Maintains Paired releaseUnit := by
  refine paired_getStatus.bind fun _ => .ite (fun _ => ?_) (fun _ => .pure _)
  refine (paired_checked _ (paired_execCmd (by decide))).bind fun _ => ?_
  exact paired_getStatus.bind fun _ => .ite (fun _ => .throw _) (fun _ => .pure _)

end BasicCaptPrinter

namespace Call

open Protocol

variable {σ α : Type}

/-- The printer of a call is paired. -/
def Paired (this : Call σ) : Prop := this.printer.Paired

/-- What pairs in the printer pairs in a call. -/
theorem paired_onPrinter {action : Action BasicCaptPrinter α}
    (h : Maintains BasicCaptPrinter.Paired action)
    : Maintains Paired (onPrinter action : Action (Call σ) α) :=
  .zoom fun this paired => h this.printer paired

/-- What pairs on the stream pairs in a call. -/
theorem paired_onStream {action : Action IOStream α} (h : Maintains IOStream.Paired action)
    : Maintains Paired (onStream action : Action (Call σ) α) :=
  paired_onPrinter (BasicCaptPrinter.paired_onStream h)

/-- Reading the video stream, also when it throws, is not seen by the device. -/
theorem paired_onVideo (action : Action σ α) : Maintains Paired (onVideo action) :=
  .zoom fun _ paired => paired

/-- A poll of the stop token sends nothing. -/
theorem paired_stopRequested : Maintains Paired (stopRequested : Action (Call σ) Bool) := by
  intro this paired
  refine ⟨paired.good, paired.input, paired.pending, paired.device, ?_⟩
  intro event member
  rcases List.mem_append.mp member with before | now
  · exact paired.log event before
  · rw [List.mem_singleton.mp now]
    trivial

/-- The wait for room in the buffer, by induction on the fuel: each turn is one exchange. -/
theorem paired_pollStatus (fuel : Nat)
    : Maintains Paired (pollStatus fuel : Action (Call σ) Bool) := by
  induction fuel with
  | zero => exact .throw _
  | succ fuel ih =>
      refine paired_stopRequested.bind fun _ => .ite (fun _ => .pure _) fun _ => ?_
      refine (paired_onStream (paired_pcrGetBasicStatus false)).bind fun _ => ?_
      exact .ite (fun _ => .pure _) fun _ => .ite (fun _ => .pure _) (fun _ => ih)

/-- The loop over the blocks, by induction on the fuel: each turn waits, then sends a block. -/
theorem paired_videoLoop [Source Fault UInt8 σ] (blockSize polls fuel : Nat)
    : Maintains Paired (videoLoop blockSize polls fuel : Action (Call σ) Bool) := by
  induction fuel with
  | zero => exact .throw _
  | succ fuel ih =>
      refine (paired_onVideo _).bind fun buffer => .ite (fun _ => .pure _) fun _ => ?_
      refine (paired_pollStatus polls).bind fun _ => .ite (fun _ => ?_) (fun _ => .pure _)
      refine paired_stopRequested.bind fun _ => .ite (fun _ => .pure _) fun _ => ?_
      exact (paired_onStream (paired_send 0xC0A0 buffer (by decide))).bind fun _ => ih

/-- The size of a transfer is asked from the printer info. -/
theorem paired_transferSize (blockSize : Nat)
    : Maintains Paired (transferSize blockSize : Action (Call σ) Nat) := by
  refine .ite (fun _ => ?_) (fun _ => .pure _)
  exact (paired_onPrinter BasicCaptPrinter.paired_getPrinterInfo).bind fun _ => .pure _

/-- `WriteVideoData`: the begin of the page and the blocks carry no answer. -/
theorem paired_writeVideoData [Source Fault UInt8 σ] (fuel : Nat) (params : PageParams)
    (blockSize : Nat)
    : Maintains Paired (writeVideoData fuel params blockSize : Action (Call σ) Bool) := by
  refine (paired_transferSize blockSize).bind fun blockSize => ?_
  refine (paired_onStream (paired_send 0xD0A0 _ (by decide))).bind fun _ => ?_
  refine (paired_onStream (paired_send 0xD0A1 [] (by decide))).bind fun _ => ?_
  refine (paired_videoLoop blockSize fuel fuel).bind fun _ =>
    .ite (fun _ => ?_) (fun _ => .pure _)
  exact (paired_onStream (paired_send 0xD0A2 [] (by decide))).bind fun _ => .pure _

/-- `WaitStatus`, by induction on the fuel. -/
theorem paired_waitStatus (func : ExtendedStatus → Bool) (fuel : Nat)
    : Maintains Paired (waitStatus func fuel : Action (Call σ) (Option ExtendedStatus)) := by
  induction fuel with
  | zero => exact .throw _
  | succ fuel ih =>
      refine paired_stopRequested.bind fun _ => .ite (fun _ => .pure _) fun _ => ?_
      refine (paired_onPrinter BasicCaptPrinter.paired_getStatus).bind fun _ => ?_
      exact .ite (fun _ => .pure _) (fun _ => ih)

/-- A call without a stop token pairs as the one with it does. -/
theorem paired_withoutToken {action : Action (Call σ) α} (h : Maintains Paired action)
    : Maintains Paired (withoutToken action) :=
  .zoom fun this paired => h { this with stopToken := {} } paired

/-- `WaitStatus` without a stop token. -/
theorem paired_waitStatusWithoutToken (func : ExtendedStatus → Bool) (fuel : Nat)
    : Maintains Paired (waitStatusWithoutToken func fuel : Action (Call σ) ExtendedStatus) := by
  refine (paired_withoutToken (paired_waitStatus func fuel)).bind fun status => ?_
  cases status with
  | none => exact .throw _
  | some ex => exact .pure _

end Call

-----------------------------------------------------------------------------------------
-- Runs
-----------------------------------------------------------------------------------------

/-- A call of one of the functions that send packets, with the token and the video stream
that it is given.
-/
inductive Operation (σ : Type) where
  | icBeginPage (params : PageParams)
  | icBeginData
  | icEndPage
  | icVideoData (data : List UInt8)
  | pcGetExtendedStatus
  | pcGetPrinterInfo
  | pcrGetBasicStatus (changed : Bool)
  | pcrGoOnline (pageNumber : UInt16)
  | pcrCleaning
  | pcReserveUnit
  | pcrDiscardData
  | pcrClearError
  | pcrGoOffline
  | pcrReleaseUnit
  | pcrClearMisprint
  | pcrResetEngine
  | getStatus
  | getPrinterInfo
  | reserveUnit
  | clearError (status : Option ExtendedStatus)
  | goOnline (page : Nat)
  | cleaning
  | writeVideoData (stopToken : StopToken) (params : PageParams) (videoStream : σ)
    (blockSize : Nat)
  | goOffline
  | releaseUnit
  | waitStatus (stopToken : StopToken) (func : ExtendedStatus → Bool)
  | waitStatusWithoutToken (func : ExtendedStatus → Bool)

namespace Operation

open BasicCaptPrinter

variable {σ α : Type}

/-- An action that is called for its effect. -/
def ignored {τ : Type} (action : Action τ α) : Action τ Unit := do
  let _ ← action
  return

/-- A call of a member function. -/
def call (stopToken : StopToken) (videoStream : σ) (action : Action (Call σ) α)
    : Action BasicCaptPrinter Unit :=
  zoom (fun printer => ⟨printer, stopToken, videoStream⟩) (fun inner _ => inner.printer)
    (ignored action)

/-- What the program does for each of its operations. -/
def perform [Source Fault UInt8 σ] (fuel : Nat) : Operation σ → Action BasicCaptPrinter Unit
  | icBeginPage params => onStream (Protocol.icBeginPage params)
  | icBeginData => onStream Protocol.icBeginData
  | icEndPage => onStream Protocol.icEndPage
  | icVideoData data => onStream (Protocol.icVideoData data)
  | pcGetExtendedStatus => ignored (onStream Protocol.pcGetExtendedStatus)
  | pcGetPrinterInfo => ignored (onStream Protocol.pcGetPrinterInfo)
  | pcrGetBasicStatus changed => ignored (onStream (Protocol.pcrGetBasicStatus changed))
  | pcrGoOnline pageNumber => ignored (onStream (Protocol.pcrGoOnline pageNumber))
  | pcrCleaning => ignored (onStream Protocol.pcrCleaning)
  | pcReserveUnit => ignored (onStream Protocol.pcReserveUnit)
  | pcrDiscardData => ignored (onStream Protocol.pcrDiscardData)
  | pcrClearError => ignored (onStream Protocol.pcrClearError)
  | pcrGoOffline => ignored (onStream Protocol.pcrGoOffline)
  | pcrReleaseUnit => ignored (onStream Protocol.pcrReleaseUnit)
  | pcrClearMisprint => ignored (onStream Protocol.pcrClearMisprint)
  | pcrResetEngine => ignored (onStream Protocol.pcrResetEngine)
  | getStatus => ignored BasicCaptPrinter.getStatus
  | getPrinterInfo => ignored BasicCaptPrinter.getPrinterInfo
  | reserveUnit => BasicCaptPrinter.reserveUnit
  | clearError status => BasicCaptPrinter.clearError status
  | goOnline page => ignored (BasicCaptPrinter.goOnline page)
  | cleaning => ignored BasicCaptPrinter.cleaning
  | writeVideoData stopToken params videoStream blockSize =>
    call stopToken videoStream (Call.writeVideoData fuel params blockSize)
  | goOffline => BasicCaptPrinter.goOffline
  | releaseUnit => BasicCaptPrinter.releaseUnit
  | waitStatus stopToken func => call stopToken () (Call.waitStatus func fuel)
  | waitStatusWithoutToken func => call {} () (Call.waitStatusWithoutToken func fuel)

/-- Performs operations one after another, going on after those that throw. -/
def performAll [Source Fault UInt8 σ] (fuel : Nat)
    : List (Operation σ) → Action BasicCaptPrinter (List (Except Fault Unit))
  | [] => return []
  | operation :: operations => do
    let outcome ← attempt (operation.perform fuel)
    let others ← performAll fuel operations
    return outcome :: others

/-- An exception that the caller swallows leaves what the body has maintained. -/
theorem paired_ignored {τ : Type} {I : τ → Prop} {action : Action τ α} (h : Maintains I action)
    : Maintains I (ignored action) :=
  h.bind fun _ => .pure _

/-- A call from the printer's side: it is entered paired and left paired. -/
theorem paired_call (stopToken : StopToken) (videoStream : σ) {action : Action (Call σ) α}
    (h : Maintains Call.Paired action)
    : Maintains Paired (call stopToken videoStream action) :=
  .zoom fun printer paired => paired_ignored h ⟨printer, stopToken, videoStream⟩ paired

/-- Every operation pairs, by cases on the operation. -/
theorem paired_perform [Source Fault UInt8 σ] (fuel : Nat) (operation : Operation σ)
    : Maintains Paired (operation.perform fuel) := by
  have command : ∀ {opcode : UInt16}, opcode.toNat ∉ [0xD0A0, 0xD0A1, 0xD0A2, 0xC0A0] →
      Maintains Paired (ignored (onStream (Protocol.execCmd opcode))) :=
    fun answered => paired_ignored (paired_onStream (Protocol.paired_execCmd answered))
  cases operation with
  | icBeginPage params => exact paired_onStream (Protocol.paired_send 0xD0A0 _ (by decide))
  | icBeginData => exact paired_onStream (Protocol.paired_send 0xD0A1 [] (by decide))
  | icEndPage => exact paired_onStream (Protocol.paired_send 0xD0A2 [] (by decide))
  | icVideoData data => exact paired_onStream (Protocol.paired_send 0xC0A0 data (by decide))
  | pcGetExtendedStatus =>
      exact paired_ignored (paired_onStream Protocol.paired_pcGetExtendedStatus)
  | pcGetPrinterInfo => exact paired_ignored (paired_onStream Protocol.paired_pcGetPrinterInfo)
  | pcrGetBasicStatus changed =>
      exact paired_ignored (paired_onStream (Protocol.paired_pcrGetBasicStatus changed))
  | pcrGoOnline pageNumber =>
      exact paired_ignored (paired_onStream (Protocol.paired_pcrGoOnline pageNumber))
  | pcrCleaning => exact paired_ignored (paired_onStream Protocol.paired_pcrCleaning)
  | pcReserveUnit => exact command (by decide)
  | pcrDiscardData => exact command (by decide)
  | pcrClearError => exact command (by decide)
  | pcrGoOffline => exact command (by decide)
  | pcrReleaseUnit => exact command (by decide)
  | pcrClearMisprint => exact command (by decide)
  | pcrResetEngine => exact command (by decide)
  | getStatus => exact paired_ignored paired_getStatus
  | getPrinterInfo => exact paired_ignored paired_getPrinterInfo
  | reserveUnit => exact paired_reserveUnit
  | clearError status => exact paired_clearError status
  | goOnline page => exact paired_ignored (paired_goOnline page)
  | cleaning => exact paired_ignored paired_cleaning
  | writeVideoData stopToken params videoStream blockSize =>
      exact paired_call stopToken videoStream (Call.paired_writeVideoData fuel params blockSize)
  | goOffline => exact paired_goOffline
  | releaseUnit => exact paired_releaseUnit
  | waitStatus stopToken func =>
      exact paired_call stopToken () (Call.paired_waitStatus func fuel)
  | waitStatusWithoutToken func =>
      exact paired_call {} () (Call.paired_waitStatusWithoutToken func fuel)

/-- In a run of any operations, whatever they throw, every chunk is sent while no answer is
unread, and none is unread in the end: each request takes exactly its own answer.
-/
theorem pairing [Source Fault UInt8 σ] (fuel : Nat) (operations : List (Operation σ))
    {printer : BasicCaptPrinter} (quiet : printer.Paired)
    : (after ((performAll fuel operations).run printer)).Paired := by
  have run : Maintains Paired (performAll fuel operations) := by
    induction operations with
    | nil => exact .pure _
    | cons operation operations ih =>
        exact (paired_perform fuel operation).attempt.bind fun _ => ih.bind fun _ => .pure _
  exact run printer quiet

/-- A device that answers every request with the same packet. -/
theorem pairing_sameAnswer
    : (after ((performAll 5
        [.reserveUnit, .goOnline 1,
          .writeVideoData {} ⟨0, 0, 0, 0, false, false, 0, 0, 0, 0, 0, 0⟩
            (⟨[1, 2, 3]⟩ : MemoryStreambuf) 2]).run {
              stream := {
                device := fun _ chunk =>
                  if Unanswered chunk then [] else PacketHeader.frame 0xA2A0 [0, 1]
              }
            })).Paired := by
  refine pairing 5 _ ⟨rfl, rfl, rfl, ?_, ?_⟩
  · intro log chunk
    constructor
    · exact fun unanswered => if_pos unanswered
    · exact fun answered => ⟨0xA2A0, [0, 1], by decide, if_neg answered⟩
  · intro event member
    cases member

end Operation

end Capt
