import Libcapt.Printer.Tray

/-! A printer that does what it is told. It may be busy for a while, but not for ever. -/

namespace Capt

open Streams Protocol

-----------------------------------------------------------------------------------------
-- What a printer was told
-----------------------------------------------------------------------------------------

/-- What a printer was told last, and how often it was asked for its extended and for its basic
status since the last packet of a page.
-/
structure Orders where
  reserved : Bool := false
  online : Bool := false
  asked : Nat := 0
  tried : Nat := 0

namespace Orders

/-- What a chunk tells the printer, by its opcode. -/
def obey (this : Orders) (chunk : List UInt8) : Orders :=
  if chunkOpcode chunk = 0xA2A0 then { this with reserved := true }
  else if chunkOpcode chunk = 0xE0A9 then { this with reserved := false }
  else if chunkOpcode chunk = 0xE0A5 then { this with online := true }
  else if chunkOpcode chunk = 0xE0A6 then { this with online := false }
  else if chunkOpcode chunk = 0xA0A0 then { this with asked := this.asked + 1 }
  else if chunkOpcode chunk = 0xE0A0 then { this with tried := this.tried + 1 }
  else if Unanswered chunk then { this with asked := 0, tried := 0 }
  else this

/-- Only what is sent is obeyed. -/
def see (this : Orders) : Event → Orders
  | .flushed chunk _ _ => this.obey chunk
  | .polled _ => this

variable (this : Orders)

/-- `PC_RESERVE_UNIT`. -/
theorem obey_reserve : this.obey (commandChunk 0xA2A0) = { this with reserved := true } := by
  rw [obey, commandChunk, chunkOpcode_frame]
  rfl

/-- `PCR_RELEASE_UNIT`. -/
theorem obey_release : this.obey (commandChunk 0xE0A9) = { this with reserved := false } := by
  rw [obey, commandChunk, chunkOpcode_frame]
  rfl

/-- `PCR_GO_ONLINE`, for any page. -/
theorem obey_online (page : Nat)
    : this.obey (onlineChunk page) = { this with online := true } := by
  rw [obey, onlineChunk, chunkOpcode_frame]
  rfl

/-- `PCR_GO_OFFLINE`. -/
theorem obey_offline : this.obey (commandChunk 0xE0A6) = { this with online := false } := by
  rw [obey, commandChunk, chunkOpcode_frame]
  rfl

/-- The request for the extended status is counted. -/
theorem obey_ask
    : this.obey extendedStatusRequest = { this with asked := this.asked + 1 } := by
  rw [obey, extendedStatusRequest, chunkOpcode_frame]
  rfl

/-- The request for the basic status is counted. -/
theorem obey_try : this.obey statusRequest = { this with tried := this.tried + 1 } := by
  rw [obey, statusRequest, chunkOpcode_frame]
  rfl

/-- The commands that clear an error, and the request for the information. -/
theorem obey_other {opcode : UInt16}
    (other : opcode ∈ [0xE0A1, 0xE0A2, 0xE0A3, 0xE0A4, 0xA1A1])
    : this.obey (commandChunk opcode) = this := by
  simp only [List.mem_cons, List.not_mem_nil, or_false] at other
  have answered : ¬ Unanswered (commandChunk opcode) := by
    apply mt unanswered_frame.mp
    rcases other with rfl | rfl | rfl | rfl | rfl <;> decide
  rw [obey, if_neg answered, commandChunk, chunkOpcode_frame]
  rcases other with rfl | rfl | rfl | rfl | rfl <;> rfl

/-- A packet of a page changes nothing but the counts. -/
theorem obey_page {opcode : UInt16} (payload : List UInt8)
    (unanswered : opcode.toNat ∈ [0xD0A0, 0xD0A1, 0xD0A2, 0xC0A0])
    : this.obey (PacketHeader.frame opcode payload) = { this with asked := 0, tried := 0 } := by
  have page : Unanswered (PacketHeader.frame opcode payload) := unanswered_frame.mpr unanswered
  rw [obey, if_pos page, chunkOpcode_frame]
  simp only [List.mem_cons, List.not_mem_nil, or_false] at unanswered
  rcases unanswered with name | name | name | name <;> rw [name] <;> rfl

end Orders

/-- The orders at the end of a log. -/
def orders (log : List Event) : Orders := log.foldl Orders.see {}

/-- What is sent last is obeyed last. -/
theorem orders_flushed (log : List Event) (chunk backlog answer : List UInt8)
    : orders (log ++ [.flushed chunk backlog answer]) = (orders log).obey chunk := by
  rw [orders, List.foldl_append]
  rfl

/-- A poll of the stop token tells the printer nothing. -/
theorem orders_polled (log : List Event) (stop : Bool)
    : orders (log ++ [.polled stop]) = orders log := by
  rw [orders, List.foldl_append]
  rfl

-----------------------------------------------------------------------------------------
-- A printer that obeys
-----------------------------------------------------------------------------------------

/-- The conditions that end without the program doing anything. -/
def EngineReadyStatus.passing : List EngineReadyStatus :=
  [doorOpen, noCartridge, waiting, testPrinting, noPrintPaper, jam, cleaning]

/-- The status says what the printer was told. Where it is not ready there is a reason that
passes, or an error that can be cleared. Once it was asked often enough it is ready, and has
printed.
-/
structure ExtendedStatus.Obeys (patience : Nat) (orders : Orders) (this : ExtendedStatus)
    : Prop where
  reserved : this.unitReserved = orders.reserved
  online : this.online = orders.online
  accepted : this.videoDataError = false ∧ this.rejected = false
  settled : patience ≤ orders.asked → this.ready = true ∧ this.isPrinting = false
  passing
    : this.ready = false →
        (∃ reason ∈ EngineReadyStatus.passing, this.engine &&& reason ≠ 0)
          ∨ (this.engine &&& EngineReadyStatus.serviceCall = 0 ∧ this.clearErrorNeeded = true)

/-- The commands without a payload. -/
def printerCommands : List UInt16 :=
  [0xA2A0, 0xE0A9, 0xE0A6, 0xE0A1, 0xE0A2, 0xE0A3, 0xE0A4]

/-- Every command is answered. -/
theorem printerCommands_answered : ∀ opcode ∈ printerCommands, Answered opcode := by
  intro opcode command
  simp only [printerCommands, List.mem_cons, List.not_mem_nil, or_false] at command
  rcases command with rfl | rfl | rfl | rfl | rfl | rfl | rfl <;> decide

/-- The device is a printer that obeys. It takes a block once it was asked often enough. -/
structure Obeys (patience : Nat) (device : List Event → List UInt8 → List UInt8)
    : Prop where
  command
    : ∀ log, ∀ opcode ∈ printerCommands,
        BasicCaptPrinter.Succeeded opcode (device log (commandChunk opcode))
  online : ∀ log page, BasicCaptPrinter.Succeeded 0xE0A5 (device log (onlineChunk page))
  status
    : ∀ log, ∃ status,
        answeredExtendedStatus (device log extendedStatusRequest) = some status
          ∧ status.Obeys patience (orders log)
  takes
    : ∀ log, ∃ status,
        answeredCode 0xE0A0 (device log statusRequest) = some status
          ∧ status &&& BasicStatus.notReady = 0
          ∧ (patience ≤ (orders log).tried → status &&& BasicStatus.imDataBusy = 0)
  info : ∀ log, ∃ info, answerOf 0xA1A1 infoOf (device log infoRequest) = some info
  announces : Announces device

-----------------------------------------------------------------------------------------
-- One that does
-----------------------------------------------------------------------------------------

/-- The status: the printer is warming up until it is settled. -/
def obedientStatus (reserved online settled : Bool) : ExtendedStatus where
  basic :=
    (bif reserved then 0 else BasicStatus.unitFree) ||| (bif online then 0 else BasicStatus.offline)
      ||| (bif settled then 0 else BasicStatus.notReady)
  changed := 0
  aux := 0
  controller := 0
  paperAvailableBits := 0
  engine := bif settled then 0 else EngineReadyStatus.waiting
  start := 0
  printing := 0
  shipped := 0
  printed := 0

/-- Its bytes. -/
def statusPayload (status : ExtendedStatus) : List UInt8 :=
  [status.basic, status.changed, status.aux, status.controller, status.paperAvailableBits, 0]
    ++ littleBytes 2 status.engine.toNat ++ littleBytes 2 status.start.toNat
    ++ littleBytes 2 status.printing.toNat ++ littleBytes 2 status.shipped.toNat
    ++ littleBytes 2 status.printed.toNat

/-- The payloads of this printer: a status, the information, or the code zero. -/
def obedientPayload (patience : Nat) (orders : Orders) (opcode : Nat) : List UInt8 :=
  if opcode = 0xA0A0 then
    statusPayload (obedientStatus orders.reserved orders.online (patience ≤ orders.asked))
  else if opcode = 0xA1A1 then [0, 0, 0, 0, 0, 0, 5, 0, 0, 0]
  else if opcode = 0xE0A0 then [bif patience ≤ orders.tried then 0 else 8]
  else [0]

/-- One answer in the frame of the request, and none to the packets of a page. -/
def obedientDevice (patience : Nat) : List Event → List UInt8 → List UInt8 :=
  answering fun log => obedientPayload patience (orders log)

/-- Eight words. -/
theorem statusPayload_length (status : ExtendedStatus) : (statusPayload status).length = 16 :=
  rfl

/-- Every payload fits in a packet. -/
theorem obedientPayload_fits (patience : Nat) (orders : Orders) (opcode : Nat)
    : (obedientPayload patience orders opcode).length ≤ 65531 := by
  unfold obedientPayload
  split
  · rw [statusPayload_length]
    decide
  · split
    · decide
    · split <;> exact (by decide : 1 ≤ 65531)

/-- The status is read back from its payload. -/
theorem statusOf_obedientStatus
    : ∀ reserved online settled : Bool,
        statusOf (statusPayload (obedientStatus reserved online settled))
          = some (obedientStatus reserved online settled) := by
  decide

/-- The status of this printer says what it was told, in each of the eight cases. -/
theorem obedientStatus_obeys
    : ∀ reserved online settled : Bool,
        let status := obedientStatus reserved online settled
        (status.unitReserved = reserved ∧ status.online = online)
          ∧ (status.videoDataError = false ∧ status.rejected = false)
          ∧ (settled = true → status.ready = true ∧ status.isPrinting = false)
          ∧ (status.ready = false → status.engine &&& EngineReadyStatus.waiting ≠ 0) := by
  decide

/-- A command is answered with the code zero. -/
theorem obedientPayload_command (patience : Nat) (orders : Orders) {opcode : UInt16}
    (command : opcode ∈ printerCommands)
    : obedientPayload patience orders opcode.toNat = [0] := by
  simp only [printerCommands, List.mem_cons, List.not_mem_nil, or_false] at command
  rcases command with rfl | rfl | rfl | rfl | rfl | rfl | rfl <;> rfl

/-- This printer obeys. -/
theorem obeys_obedientDevice (patience : Nat) : Obeys patience (obedientDevice patience) := by
  constructor
  case command =>
    intro log opcode command
    unfold BasicCaptPrinter.Succeeded answeredCode commandChunk
    rw [obedientDevice, answerOf_answering (printerCommands_answered opcode command),
      obedientPayload_command patience _ command]
    rfl
  case online =>
    intro log page
    unfold BasicCaptPrinter.Succeeded answeredCode onlineChunk
    rw [obedientDevice, answerOf_answering (by decide)]
    rfl
  case status =>
    intro log
    have obeys := obedientStatus_obeys (orders log).reserved (orders log).online
      (patience ≤ (orders log).asked)
    refine ⟨obedientStatus (orders log).reserved (orders log).online
      (patience ≤ (orders log).asked), ?_, ?_⟩
    · unfold answeredExtendedStatus extendedStatusRequest
      rw [obedientDevice, answerOf_answering (by decide)]
      exact statusOf_obedientStatus _ _ _
    · obtain ⟨⟨reserved, online⟩, accepted, settled, waiting⟩ := obeys
      refine ⟨reserved, online, accepted, fun asked => settled (decide_eq_true asked), ?_⟩
      exact fun notReady => .inl ⟨_, by decide, waiting notReady⟩
  case takes =>
    intro log
    refine ⟨bif patience ≤ (orders log).tried then 0 else 8, ?_, ?_, ?_⟩
    · unfold answeredCode statusRequest
      rw [obedientDevice, answerOf_answering (by decide)]
      rfl
    · cases decide (patience ≤ (orders log).tried) <;> decide
    · intro tried
      rw [decide_eq_true tried]
      decide
  case info =>
    intro log
    unfold infoRequest
    rw [obedientDevice, answerOf_answering (by decide)]
    exact ⟨_, rfl⟩
  case announces =>
    intro log info given
    unfold infoRequest at given
    rw [obedientDevice, answerOf_answering (by decide)] at given
    cases given
    exact ⟨by decide, by decide⟩

/-- The printer that is connected to the device. -/
def obedientPrinter (patience : Nat) : BasicCaptPrinter where
  stream := { device := obedientDevice patience }

/-- Nothing is unread when the program starts. -/
theorem obedientPrinter_paired (patience : Nat) : (obedientPrinter patience).Paired :=
  paired_answering fun log => obedientPayload_fits patience (orders log)

end Capt
