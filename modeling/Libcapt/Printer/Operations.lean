import Libcapt.Printer.Exchanges

/-! What the printer operations keep, from what their requests keep, and what an operation that
returns has found in the answers.
-/

namespace Capt

open Streams Protocol

/-- The chunk that asks for the extended status. -/
def extendedStatusRequest : List UInt8 := PacketHeader.frame 0xA0A0 []

/-- The status that the answer to this request gives. An answer without one is refused. -/
def answeredExtendedStatus (answer : List UInt8) : Option ExtendedStatus :=
  answerOf 0xA0A0 statusOf answer

/-- The result code that the answer to a command gives. -/
def answeredCode (opcode : UInt16) (answer : List UInt8) : Option UInt8 :=
  answerOf opcode List.head? answer

/-- The chunk of a command without a payload. -/
def commandChunk (opcode : UInt16) : List UInt8 := PacketHeader.frame opcode []

/-- The chunk that puts the printer online for a page. -/
def onlineChunk (page : Nat) : List UInt8 :=
  PacketHeader.frame 0xE0A5 (signedPayload (UInt16.ofNat page))

namespace BasicCaptPrinter

variable {α : Type} {I : BasicCaptPrinter → Prop}

/-- A check of the code keeps what the command keeps. -/
theorem keeps_checked {command : Action IOStream UInt8} (paramName : String)
    (h : Maintains I (onStream command))
    : Maintains I (checked command paramName) :=
  h.bind fun _ => .ite (fun _ => .throw _) (fun _ => .pure _)

/-- Before the first request the status may be given. -/
theorem keeps_clearError (status : Option ExtendedStatus) (ask : Maintains I getStatus)
    (command : ∀ opcode, Answered opcode → Maintains I (onStream (execCmd opcode)))
    : Maintains I (clearError status) := by
  have resetEngine : ∀ ex : ExtendedStatus, Maintains I
      (if ex.controller &&& ControllerStatus.engineCommError ≠ 0 then
        checked pcrResetEngine "Protocol::PCR_RESET_ENGINE(this->stream)"
      else return) := fun ex =>
    .ite (fun _ => keeps_checked _ (command _ (by decide))) (fun _ => .pure _)
  have commands : ∀ ex : ExtendedStatus, Maintains I (do
      checked pcrClearError "Protocol::PCR_CLEAR_ERROR(this->stream)"
      checked pcrDiscardData "Protocol::PCR_DISCARD_DATA(this->stream)"
      if ex.misprint then
        checked pcrClearMisprint "Protocol::PCR_CLEAR_MISPRINT(this->stream)"
      if ex.controller &&& ControllerStatus.engineCommError ≠ 0 then
        checked pcrResetEngine "Protocol::PCR_RESET_ENGINE(this->stream)") := by
    intro ex
    refine (keeps_checked _ (command _ (by decide))).bind fun _ => ?_
    refine (keeps_checked _ (command _ (by decide))).bind fun _ => .ite (fun _ => ?_) ?_
    · exact (keeps_checked _ (command _ (by decide))).bind fun _ => resetEngine ex
    · exact fun _ => resetEngine ex
  cases status with
  | none => exact ask.bind commands
  | some ex => exact (Maintains.pure ex).bind commands

/-- The command, then the status. -/
theorem keeps_reserveUnit (ask : Maintains I getStatus)
    (command : Maintains I (onStream pcReserveUnit))
    : Maintains I reserveUnit := by
  refine (keeps_checked _ command).bind fun _ => ?_
  exact ask.bind fun _ => .ite (fun _ => .pure _) (fun _ => .throw _)

/-- The command with the page number, then the status. -/
theorem keeps_goOnline (page : Nat) (ask : Maintains I getStatus)
    (command : Maintains I (onStream (pcrGoOnline (UInt16.ofNat page))))
    : Maintains I (goOnline page) := by
  refine (keeps_checked _ command).bind fun _ => ?_
  exact ask.bind fun _ => .pure _

/-- The command, then the status. -/
theorem keeps_goOffline (ask : Maintains I getStatus)
    (command : Maintains I (onStream pcrGoOffline))
    : Maintains I goOffline := by
  refine (keeps_checked _ command).bind fun _ => ?_
  exact ask.bind fun _ => .ite (fun _ => .throw _) (fun _ => .pure _)

/-- The status, and where the unit is reserved the command and the status again. -/
theorem keeps_releaseUnit (ask : Maintains I getStatus)
    (command : Maintains I (onStream pcrReleaseUnit))
    : Maintains I releaseUnit := by
  refine ask.bind fun _ => .ite (fun _ => ?_) (fun _ => .pure _)
  refine (keeps_checked _ command).bind fun _ => ?_
  exact ask.bind fun _ => .ite (fun _ => .throw _) (fun _ => .pure _)

-----------------------------------------------------------------------------------------
-- What is said of the log
-----------------------------------------------------------------------------------------

variable {device : List Event → List UInt8 → List UInt8} {K : List Event → Prop}

/-- Nothing is unread on the printer's stream, and its log has the property. -/
def Tells (device : List Event → List UInt8 → List UInt8) (K : List Event → Prop)
    (this : BasicCaptPrinter)
    : Prop :=
  this.stream.Tells device K

/-- A rule about the stream is one about the printer. -/
theorem triple_onStream {P E : IOStream → Prop} {Q : α → IOStream → Prop}
    {action : Action IOStream α} (h : Triple P action Q E)
    : Triple (fun this => P this.stream) (onStream action) (fun a this => Q a this.stream)
        (fun this => E this.stream) := by
  apply Triple.zoom
  intro this start
  apply h.weaken
  · rintro stream rfl
    exact start
  · exact fun _ _ => id
  · exact fun _ => id

/-- What is kept on the stream is kept in the printer. -/
theorem keeps_onStream {action : Action IOStream α}
    (h : Maintains (IOStream.Tells device K) action)
    : Maintains (Tells device K) (onStream action) :=
  .zoom fun this tells => h this.stream tells

/-- Which answer the returned status comes from. -/
theorem tells_getStatus
    : Triple (Tells device K) getStatus
        (fun status => Tells device (Then K extendedStatusRequest
          fun answer => answeredExtendedStatus answer = some status))
        (Tells device (Then K extendedStatusRequest fun _ => True)) :=
  triple_onStream (tells_request (Nat.zero_le _) (by decide) reading_extendedStatus)

/-- A property that admits the request is kept by asking for the status. -/
theorem keeps_getStatus (admits : Admits K extendedStatusRequest)
    : Maintains (Tells device K) getStatus :=
  keeps_onStream (keeps_request (Nat.zero_le _) (by decide) reading_extendedStatus admits)

/-- Which answer the returned code comes from. -/
theorem tells_command {opcode : UInt16} (answered : Answered opcode)
    : Triple (Tells device K) (onStream (execCmd opcode))
        (fun code => Tells device (Then K (commandChunk opcode)
          fun answer => answeredCode opcode answer = some code))
        (Tells device (Then K (commandChunk opcode) fun _ => True)) :=
  triple_onStream (tells_request (Nat.zero_le _) answered reading_byte)

/-- A property that admits the command is kept by it. -/
theorem keeps_command {opcode : UInt16} (answered : Answered opcode)
    (admits : Admits K (commandChunk opcode))
    : Maintains (Tells device K) (onStream (execCmd opcode)) :=
  keeps_onStream (keeps_request (Nat.zero_le _) answered reading_byte admits)

/-- Two bytes fit in a packet. -/
theorem signedPayload_fits (value : UInt16) : (signedPayload value).length ≤ 65531 := by
  rw [signedPayload_length]
  decide

/-- Which answer the code of `PCR_GO_ONLINE` comes from. -/
theorem tells_pcrGoOnline (page : Nat)
    : Triple (Tells device K) (onStream (pcrGoOnline (UInt16.ofNat page)))
        (fun code => Tells device (Then K (onlineChunk page)
          fun answer => answeredCode 0xE0A5 answer = some code))
        (Tells device (Then K (onlineChunk page) fun _ => True)) :=
  triple_onStream (tells_request (signedPayload_fits _) (by decide) reading_byte)

/-- A property that admits the packet is kept by it. -/
theorem keeps_pcrGoOnline (page : Nat) (admits : Admits K (onlineChunk page))
    : Maintains (Tells device K) (onStream (pcrGoOnline (UInt16.ofNat page))) :=
  keeps_onStream (keeps_request (signedPayload_fits _) (by decide) reading_byte admits)

/-- A command is checked: where it returns, the code was zero. -/
theorem triple_checked {P E : BasicCaptPrinter → Prop} {Q : UInt8 → BasicCaptPrinter → Prop}
    {command : Action IOStream UInt8} (paramName : String)
    (h : Triple P (onStream command) Q E) (refused : ∀ code this, Q code this → E this)
    : Triple P (checked command paramName) (fun _ => Q 0) E := by
  refine h.bind fun code => Triple.ite (fun _ => .throw (refused code)) fun zero => ?_
  apply Triple.pure
  intro this given
  rwa [not_not.mp zero] at given

/-- The chunk was answered with the code zero. -/
def Succeeded (opcode : UInt16) (answer : List UInt8) : Prop :=
  answeredCode opcode answer = some 0

/-- The chunk was answered with a status for which the condition holds. -/
def Reported (condition : ExtendedStatus → Prop) (answer : List UInt8) : Prop :=
  ∃ status, answeredExtendedStatus answer = some status ∧ condition status

/-- What is left behind by an operation that returns: a command that succeeded, and a status
with the condition behind it.
-/
def Confirmed (K : List Event → Prop) (opcode : UInt16) (chunk : List UInt8)
    (condition : ExtendedStatus → Prop)
    : List Event → Prop :=
  Then (Then K chunk (Succeeded opcode)) extendedStatusRequest (Reported condition)

/-- A command that returns was answered with the code zero. -/
theorem returns_checked {opcode : UInt16} (answered : Answered opcode) (paramName : String)
    : Triple (Tells device K) (checked (execCmd opcode) paramName)
        (fun _ => Tells device (Then K (commandChunk opcode) (Succeeded opcode)))
        (fun _ => True) :=
  triple_checked paramName (tells_command answered).returning fun _ _ _ => trivial

/-- The status that was read fulfils the condition, and so the answer reported it. -/
theorem tells_reported {condition : ExtendedStatus → Prop} {chunk : List UInt8}
    {status : ExtendedStatus} (holds : condition status) (this : BasicCaptPrinter)
    (tells
      : Tells device (Then K chunk fun answer => answeredExtendedStatus answer = some status)
          this)
    : Tells device (Then K chunk (Reported condition)) this := by
  obtain ⟨paired, same, before, answer, log, kept, given⟩ := tells
  exact ⟨paired, same, before, answer, log, kept, status, given, holds⟩

/-- `ReserveUnit` returns where the command succeeded and the status says so. -/
theorem returns_reserveUnit
    : Triple (Tells device K) reserveUnit
        (fun _ => Tells device
          (Confirmed K 0xA2A0 (commandChunk 0xA2A0) fun status => status.unitReserved))
        (fun _ => True) := by
  refine (returns_checked (by decide) _).bind fun _ => ?_
  refine tells_getStatus.returning.bind fun status => ?_
  refine .ite (fun reserved => .pure ?_) (fun _ => .throw fun _ _ => trivial)
  exact tells_reported reserved

/-- `GoOnline` returns what the status behind the command says. -/
theorem returns_goOnline (page : Nat)
    : Triple (Tells device K) (goOnline page)
        (fun online => Tells device
          (Confirmed K 0xE0A5 (onlineChunk page) fun status => status.online = online))
        (fun _ => True) := by
  have checks : Triple (Tells device K)
      (checked (pcrGoOnline (UInt16.ofNat page)) "Protocol::PCR_GO_ONLINE(this->stream, page)")
      (fun _ => Tells device (Then K (onlineChunk page) (Succeeded 0xE0A5))) (fun _ => True) :=
    triple_checked _ (tells_pcrGoOnline page).returning fun _ _ _ => trivial
  refine checks.bind fun _ => tells_getStatus.returning.bind fun status => .pure ?_
  exact tells_reported rfl

/-- `GoOffline` returns where the command succeeded and the status says so. -/
theorem returns_goOffline
    : Triple (Tells device K) goOffline
        (fun _ => Tells device
          (Confirmed K 0xE0A6 (commandChunk 0xE0A6) fun status => ¬ status.online))
        (fun _ => True) := by
  refine (returns_checked (by decide) _).bind fun _ => ?_
  refine tells_getStatus.returning.bind fun status => ?_
  refine .ite (fun _ => .throw fun _ _ => trivial) (fun offline => .pure ?_)
  exact tells_reported offline

/-- What is left behind by `ReleaseUnit` where it returns: a status that says that the unit is not
reserved, which the printer gave at once or once it was released.
-/
def Released (K : List Event → Prop) (log : List Event) : Prop :=
  Then K extendedStatusRequest (Reported fun status => ¬ status.unitReserved) log
  ∨ Confirmed (Then K extendedStatusRequest (Reported fun status => status.unitReserved)) 0xE0A9
      (commandChunk 0xE0A9) (fun status => ¬ status.unitReserved) log

/-- `ReleaseUnit` returns where a status says that the unit is not reserved. -/
theorem returns_releaseUnit
    : Triple (Tells device K) releaseUnit (fun _ => Tells device (Released K))
        (fun _ => True) := by
  refine tells_getStatus.returning.bind fun status => ?_
  refine .ite (fun reserved => ?_) (fun free => .pure ?_)
  · have release : Triple
        (Tells device (Then K extendedStatusRequest fun answer =>
          answeredExtendedStatus answer = some status))
        (checked pcrReleaseUnit "Protocol::PCR_RELEASE_UNIT(this->stream)")
        (fun _ => Tells device (Then (Then K extendedStatusRequest
          (Reported fun status => status.unitReserved)) (commandChunk 0xE0A9) (Succeeded 0xE0A9)))
        (fun _ => True) :=
      (returns_checked (by decide) _).from (tells_reported reserved)
    refine release.bind fun _ => tells_getStatus.returning.bind fun status => ?_
    refine .ite (fun _ => .throw fun _ _ => trivial) (fun free => .pure ?_)
    exact fun this tells => (tells_reported free this tells).mono fun _ => .inr
  · exact fun this tells => (tells_reported free this tells).mono fun _ => .inl

end BasicCaptPrinter

end Capt
