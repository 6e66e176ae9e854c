import Libcapt.Printer.Pairing
import Libcapt.Protocol.AnswerReading

/-! What the packets of a page and the requests for the basic status between them do on a
stream on which nothing is unread.
-/

namespace Capt

open Streams Protocol

/-- The chunk that asks for the basic status. -/
def statusRequest : List UInt8 := PacketHeader.frame 0xE0A0 []

/-- The request for the basic status is answered. -/
theorem statusRequest_answered : ¬ Unanswered statusRequest :=
  mt unanswered_frame.mp (by decide)

/-- The status that the answer to a request gives. An answer without one is refused. -/
def answeredStatus (answer : List UInt8) : Option BasicStatus :=
  if littleValue (answer.take 2) = 0xE0A0 ∧ 4 < littleValue ((answer.drop 2).take 2) then
    answer[4]?
  else none

/-- A device that does not answer the packets of a page, and that sends each status which it
announces whole. What else it answers to a request is free.
-/
structure Serves (device : List Event → List UInt8 → List UInt8) : Prop where
  silent : ∀ log chunk, Unanswered chunk → device log chunk = []
  complete
    : ∀ log size, Announces 0xE0A0 size (device log statusRequest) →
        (device log statusRequest).length = 4 + size

/-- The header of a packet announces its payload. -/
theorem announces_frame {opcode name : UInt16} {payload : List UInt8} {size : Nat}
    (fits : payload.length ≤ 65531)
    (announced : Announces name size (PacketHeader.frame opcode payload))
    : payload.length = size := by
  obtain ⟨_, _, total⟩ := announced
  rw [littleValue_size_frame opcode fits] at total
  omega

/-- A frame announces the payload that it carries. -/
theorem announces_frame_self (opcode : UInt16) {payload : List UInt8}
    (fits : payload.length ≤ 65531)
    : Announces opcode payload.length (PacketHeader.frame opcode payload) :=
  ⟨by simp [PacketHeader.frame]; omega, chunkOpcode_frame opcode payload,
    littleValue_size_frame opcode fits⟩

/-- A device that answers each request by one packet of any kind is such a device. -/
theorem serves_of_exchange {device : List Event → List UInt8 → List UInt8}
    (h : ∀ log chunk, Exchange chunk (device log chunk))
    : Serves device := by
  constructor
  · intro log chunk unanswered
    exact (h log chunk).1 unanswered
  · intro log size announced
    obtain ⟨opcode, payload, fits, answer⟩ := (h log statusRequest).2 statusRequest_answered
    rw [answer] at announced ⊢
    rw [← announces_frame fits announced]
    simp [PacketHeader.frame]
    omega

/-- Such a device may answer each request by a packet that it chooses. -/
theorem serves_of_packet {opcode : UInt16} {answer : List Event → List UInt8}
    (fits : ∀ log, (answer log).length ≤ 65531)
    : Serves fun log chunk =>
        if Unanswered chunk then [] else PacketHeader.frame opcode (answer log) := by
  apply serves_of_exchange
  intro log chunk
  constructor
  · intro unanswered
    exact if_pos unanswered
  · intro answered
    exact ⟨opcode, answer log, fits log, if_neg answered⟩

namespace IOStream

/-- Nothing is unread, and nothing is waiting to be sent. -/
structure Quiet (this : IOStream) : Prop where
  good : this.good
  input : this.input = []
  pending : this.pending = []
  serves : Serves this.device

/-- The stream after one more event. -/
def recorded (this : IOStream) (event : Event) : IOStream :=
  { this with log := this.log ++ [event] }

variable {this : IOStream}

/-- An event in the log leaves the stream quiet. -/
theorem Quiet.recorded (quiet : this.Quiet) (event : Event) : (this.recorded event).Quiet :=
  ⟨quiet.good, quiet.input, quiet.pending, quiet.serves⟩

/-- All that a chunk changes is the log and what there is to read. -/
theorem Quiet.sent (quiet : this.Quiet) (chunk : List UInt8)
    : this.sent chunk
      = (this.recorded (.flushed chunk [] (this.device this.log chunk))).unread
          (this.device this.log chunk) := by
  obtain ⟨_, unread, waiting, _⟩ := quiet
  cases this
  cases unread
  cases waiting
  rfl

/-- On a quiet stream nothing is unread. -/
theorem Quiet.unread (quiet : this.Quiet) : this.unread [] = this := by
  have nothing := quiet.input
  cases this
  cases nothing
  rfl

end IOStream

variable {stream : IOStream}

/-- The parameters of a page take 34 bytes. -/
theorem pageHeader_length (params : PageParams) : (pageHeader params).payload.length = 34 := by
  simp [pageHeader, PacketBuilder.appendByte, PacketBuilder.appendUint16]

/-- They fit in a packet. -/
theorem pageHeader_fits (params : PageParams) : (pageHeader params).payload.length ≤ 65531 := by
  rw [pageHeader_length]
  decide

/-- A packet of the page is sent while nothing is unread, and not answered. -/
theorem run_send (quiet : stream.Quiet) {opcode : UInt16} {payload : List UInt8}
    (fits : payload.length ≤ 65531) (unanswered : opcode.toNat ∈ [0xD0A0, 0xD0A1, 0xD0A2, 0xC0A0])
    : (do
        PacketHeader.writeTo opcode payload
        IOStream.flush : Action IOStream Unit).run stream
      = .ok () (stream.recorded (.flushed (PacketHeader.frame opcode payload) [] [])) := by
  have nothing : stream.device stream.log (PacketHeader.frame opcode payload) = [] :=
    quiet.serves.silent _ _ (unanswered_frame.mpr unanswered)
  rw [run_bind_ok (PacketHeader.run_writeTo quiet.good fits), IOStream.run_flush quiet.good,
    quiet.sent, nothing, (quiet.recorded _).unread]

section Log

open StreamPacket

/-- The stream that is a part of a state has the given log, and the given device. -/
def Logged {τ : Type} (stream : τ → IOStream) (log : List Event)
    (device : List Event → List UInt8 → List UInt8) (s : τ)
    : Prop :=
  (stream s).log = log ∧ (stream s).device = device

variable {log : List Event} {device : List Event → List UInt8 → List UInt8}

/-- Reading is not in the log. -/
theorem logged_read (n : Nat) : Maintains (Logged id log device) (IOStream.read n) := by
  refine .get fun s same => ?_
  by_cases good : s.good
  · rw [if_pos good]
    exact same
  · rw [if_neg good]
    exact same

/-- Nor is reading a number. -/
theorem logged_readLittle (size : Nat)
    : Maintains (Logged id log device) (IOStream.readLittle size) := by
  refine .get fun s same => ?_
  by_cases good : s.good
  · rw [if_pos good]
    exact (logged_read size).bind (fun _ => .pure _) s same
  · rw [if_neg good]
    exact same

/-- Nor is skipping bytes. -/
theorem logged_skip (count : Nat) : Maintains (Logged id log device) (skip count) := by
  induction count with
  | zero => exact .pure _
  | succ count ih =>
      have taken : Maintains (Logged id log device) IOStream.sbumpc := fun _ same => same
      exact taken.bind fun _ => ih

/-- Nor is extracting a header. -/
theorem logged_header : Maintains (Logged Prod.fst log device) PacketHeader.extract := by
  have read : Maintains (Logged Prod.fst log device)
      (PacketHeader.onStream (IOStream.readLittle 2)) :=
    .zoom fun whole same => logged_readLittle 2 whole.1 same
  refine read.bind fun _ => Maintains.bind (.modify fun _ same => same) fun _ => ?_
  refine read.bind fun size => .get fun s same => ?_
  by_cases good : s.1.good
  · rw [if_pos good]
    have stored : Maintains (Logged Prod.fst log device) (if size < 4 then
          throw (Fault.runtimeError "impossible packet size")
        else modify fun s : IOStream × PacketHeader =>
          (s.1, { s.2 with payloadSize := UInt16.ofNat (size - 4) })) :=
      .ite (fun _ => .throw _) (fun _ => .modify fun _ same => same)
    exact stored s same
  · rw [if_neg good]
    exact same

/-- An action on the stream of a packet. -/
theorem logged_onStream {α : Type} {action : Action IOStream α} (stream : Unit)
    (h : Maintains (Logged id log device) action)
    : Maintains (Logged Scope.outer log device) (onStream stream action) :=
  .zoom fun whole same => h whole.outer same

/-- Nor is the count of a packet's bytes. -/
theorem logged_setRemain (remain : Nat)
    : Maintains (Logged Scope.outer log device)
        (modify (setRemain remain) : Action (Scope IOStream Unit) PUnit) :=
  .modify fun _ same => same

/-- Nor is discarding the rest of a packet. -/
theorem logged_discard
    : Maintains (Logged Scope.outer log device) (discard : Action (Scope IOStream Unit) Unit) := by
  refine .get fun s same => ?_
  by_cases none : s.packet.remain = 0
  · rw [if_pos none]
    exact same
  · rw [if_neg none]
    cases s.packet.stream with
    | none => exact same
    | some stream =>
        have skipped : Maintains (Logged Scope.outer log device)
            (onStream stream (skip s.packet.remain)) :=
          logged_onStream stream (logged_skip s.packet.remain)
        by_cases good : (HasStreams.stream stream s.outer).good
        · simp only [good, ↓reduceIte]
          exact skipped.bind (fun _ => logged_setRemain 0) s same
        · simp only [good, Bool.false_eq_true, ↓reduceIte]
          exact same

/-- Nor is reading a number of a packet. -/
theorem logged_readInt (size : Nat)
    : Maintains (Logged Scope.outer log device)
        (readInt size : Action (Scope IOStream Unit) Nat) := by
  refine .get fun s same => ?_
  by_cases past : s.packet.remain < size
  · rw [if_pos past]
    exact same
  · rw [if_neg past]
    refine (logged_setRemain _).bind (fun _ => ?_) s same
    cases s.packet.stream with
    | none => exact .throw _
    | some stream => exact logged_onStream stream (logged_readLittle size)

/-- Nor is reading a byte of a packet. -/
theorem logged_readByte
    : Maintains (Logged Scope.outer log device)
        (readByte : Action (Scope IOStream Unit) UInt8) :=
  (logged_readInt 1).bind fun _ => .pure _

/-- Nor is reading two bytes of a packet. -/
theorem logged_readUint16
    : Maintains (Logged Scope.outer log device)
        (readUint16 : Action (Scope IOStream Unit) UInt16) :=
  (logged_readInt 2).bind fun _ => .pure _

/-- Nor is receiving an answer whose reader is not. -/
theorem logged_receive {α : Type} {opcode : UInt16} {answer : Action (Scope IOStream Unit) α}
    (h : Maintains (Logged Scope.outer log device) answer)
    : Maintains (Logged Scope.outer log device) (Protocol.receive opcode answer) := by
  have header : Maintains (Logged Scope.outer log device)
      (onHeader () PacketHeader.extract : Action (Scope IOStream Unit) Unit) :=
    .zoom fun whole same => logged_header (whole.outer, whole.packet.header) same
  have extracted : Maintains (Logged Scope.outer log device)
      (extract () : Action (Scope IOStream Unit) Unit) :=
    logged_discard.bind fun _ => header.bind fun _ => .modify fun _ same => same
  refine extracted.bind fun _ => .get fun s same => ?_
  exact (maintains_checkOpcode _ _).bind (fun _ => h) s same

/-- Nor is reading the basic status. -/
theorem logged_readBasicStatus
    : Maintains (Logged Scope.outer log device) (readBasicStatus false) :=
  logged_readByte.bind fun _ =>
    .ite (fun _ => logged_readByte.bind fun _ => .pure _) (fun _ => .pure _)

end Log

-----------------------------------------------------------------------------------------
-- The basic status
-----------------------------------------------------------------------------------------

/-- An answer gives a status where its opcode is right and its payload is not empty. -/
theorem answeredStatus_eq_some_iff {answer : List UInt8} {status : BasicStatus}
    : answeredStatus answer = some status
      ↔ ∃ size, Announces 0xE0A0 size answer ∧ 1 ≤ size ∧ answer[4]? = some status := by
  unfold answeredStatus
  constructor
  · intro h
    split at h
    · rename_i announced
      obtain ⟨name, total⟩ := announced
      have inside : 4 < answer.length := (List.getElem?_eq_some_iff.mp h).1
      exact ⟨_, ⟨by omega, name, (Nat.add_sub_of_le (by omega)).symm⟩, by omega, h⟩
    · cases h
  · rintro ⟨size, ⟨_, name, total⟩, positive, found⟩
    rw [if_pos ⟨name, by omega⟩, found]

/-- A request as the sending of its chunk and the reading of the answer. -/
theorem run_request (quiet : stream.Quiet) {α : Type} (opcode : UInt16)
    (answer : Action (Scope IOStream Unit) α)
    : (request opcode [] answer).run stream
      = (StreamPacket.withPacket (Protocol.receive opcode answer)).run
          (stream.sent (PacketHeader.frame opcode [])) := by
  unfold request
  rw [run_bind_ok (PacketHeader.run_writeTo quiet.good (Nat.zero_le _)),
    run_bind_ok (IOStream.run_flush quiet.good _)]
  rfl

section Answer

variable {α : Type} {opcode : UInt16} {action : Action (Scope IOStream Unit) α}
  {answer : List UInt8}

/-- A whole answer is read from its payload. What the reading leaves of it is left to the
destructor of the packet.
-/
theorem run_request_whole (quiet : stream.Quiet)
    (answered : stream.device stream.log (PacketHeader.frame opcode []) = answer) {size : Nat}
    (announced : Announces opcode size answer) (whole : answer.length = 4 + size)
    {middle : IOStream}
    (recorded
      : stream.recorded (.flushed (PacketHeader.frame opcode []) [] answer) = middle)
    {value : α} {left : List UInt8}
    (read
      : action.run (StreamPacket.reading middle ⟨opcode, UInt16.ofNat size⟩ (answer.drop 4) [])
        = .ok value (StreamPacket.reading middle ⟨opcode, UInt16.ofNat size⟩ left []))
    : (request opcode [] action).run stream = .ok value middle := by
  have good : middle.good := by
    rw [← recorded]
    exact quiet.good
  have length : (answer.drop 4).length = size := by
    rw [List.length_drop]
    omega
  have payload : opened (middle.unread answer) opcode size
      = StreamPacket.reading middle ⟨opcode, UInt16.ofNat size⟩ (answer.drop 4) [] := by
    rw [StreamPacket.reading, length, List.append_nil]
    rfl
  have received : (Protocol.receive opcode action).run ⟨middle.unread answer, {}⟩
      = .ok value (StreamPacket.reading middle ⟨opcode, UInt16.ofNat size⟩ left []) := by
    have start : (Protocol.receive opcode action).run ⟨middle.unread answer, {}⟩
        = action.run (opened (middle.unread answer) opcode size) :=
      run_receive good announced
    rw [start, payload]
    exact read
  rw [run_request quiet, quiet.sent, answered, recorded, StreamPacket.run_withPacket_ok received,
    StreamPacket.run_discard good, ← recorded]
  exact congrArg _ (quiet.recorded _).unread

/-- An answer that is too short for the reading makes the request throw. -/
theorem run_request_refused (quiet : stream.Quiet)
    (answered : stream.device stream.log (PacketHeader.frame opcode []) = answer) {count : Nat}
    (takes : Takes (count + 1) action)
    (logged : ∀ log device, Maintains (Logged Scope.outer log device) action)
    (short : ∀ size, Announces opcode size answer → size < count + 1)
    : ∃ err stream', (request opcode [] action).run stream = .error err stream'
        ∧ Logged id (stream.log ++ [.flushed (PacketHeader.frame opcode []) [] answer])
            stream.device stream' := by
  have kept : Logged id (stream.log ++ [.flushed (PacketHeader.frame opcode []) [] answer])
      stream.device (after ((request opcode [] action).run stream)) := by
    rw [run_request quiet, StreamPacket.after_withPacket]
    apply logged_discard
    apply logged_receive (logged _ _)
    rw [quiet.sent, answered]
    exact ⟨rfl, rfl⟩
  have throws : ¬ Returns (request opcode [] action) stream := by
    intro returns
    obtain ⟨size, announced, inner⟩ := (request_returns quiet.good (Nat.zero_le _)
      takes.empty).mp returns
    have enough := (takes.returns_opened size).mp inner
    rw [quiet.sent] at announced
    change Announces opcode size (stream.device stream.log _) at announced
    rw [answered] at announced
    exact absurd enough (Nat.not_le.mpr (short size announced))
  cases run : (request opcode [] action).run stream with
  | ok value stream' => exact absurd ⟨value, stream', run⟩ throws
  | error err stream' =>
      rw [run] at kept
      exact ⟨err, stream', rfl, kept⟩

end Answer

/-- The status is the first byte of the payload. -/
theorem run_readStatus (good : stream.good) {header : PacketHeader} (status : BasicStatus)
    (left : List UInt8)
    : (readBasicStatus false).run (StreamPacket.reading stream header (status :: left) [])
      = .ok (status, none) (StreamPacket.reading stream header left []) := by
  unfold readBasicStatus
  rw [run_bind_ok (StreamPacket.run_readByte good _)]
  rfl

/-- A status is read, with all of the answer around it. -/
theorem run_basicStatus (quiet : stream.Quiet) {status : BasicStatus}
    (answered : answeredStatus (stream.device stream.log statusRequest) = some status)
    : (pcrGetBasicStatus false).run stream
      = .ok (status, none) (stream.recorded
          (.flushed statusRequest [] (stream.device stream.log statusRequest))) := by
  obtain ⟨size, announced, _, found⟩ := answeredStatus_eq_some_iff.mp answered
  have whole := quiet.serves.complete stream.log size announced
  obtain ⟨inside, value⟩ := List.getElem?_eq_some_iff.mp found
  have first := List.drop_eq_getElem_cons inside
  rw [value, statusRequest] at first
  apply run_request_whole quiet rfl announced whole rfl
  rw [first]
  exact run_readStatus (quiet.recorded _).good status _

/-- An answer without a status makes the request throw. -/
theorem run_basicStatus_refused (quiet : stream.Quiet)
    (refused : answeredStatus (stream.device stream.log statusRequest) = none)
    : ∃ err stream', (pcrGetBasicStatus false).run stream = .error err stream'
        ∧ Logged id (stream.log
            ++ [.flushed statusRequest [] (stream.device stream.log statusRequest)])
            stream.device stream' := by
  apply run_request_refused quiet rfl (takes_readBasicStatus false)
    (fun _ _ => logged_readBasicStatus)
  intro size announced
  by_contra positive
  have whole := quiet.serves.complete stream.log size announced
  have inside : 4 < (stream.device stream.log statusRequest).length := by omega
  have given : answeredStatus (stream.device stream.log statusRequest) = some _ :=
    answeredStatus_eq_some_iff.mpr
      ⟨size, announced, Nat.le_of_not_lt positive, List.getElem?_eq_getElem inside⟩
  rw [refused] at given
  cases given

end Capt
