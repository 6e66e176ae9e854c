import Libcapt.Printer.InfoExchange
import Libcapt.Protocol.StatusAnswer
import Libcapt.Streams.Triple

/-! What a request does on a stream on which nothing is unread: the device sees one chunk,
whatever it answers is taken off the stream, and the answer alone says what is returned.
-/

namespace Capt

open Streams Protocol StreamPacket

/-- The chunk was sent and answered since, and nothing is unread again. -/
structure IOStream.Exchanged (this : IOStream) (chunk : List UInt8) (this' : IOStream) : Prop where
  paired : this'.Paired
  log : this'.log = this.log ++ [.flushed chunk [] (this.device this.log chunk)]
  device : this'.device = this.device

/-- A paired stream is quiet. -/
theorem IOStream.Paired.quiet {stream : IOStream} (paired : stream.Paired) : stream.Quiet :=
  ⟨paired.good, paired.input, paired.pending, serves_of_exchange paired.device⟩

/-- The opcode is none of those of a page. -/
def Answered (opcode : UInt16) : Prop := opcode.toNat ∉ [0xD0A0, 0xD0A1, 0xD0A2, 0xC0A0]

/-- Whether an opcode is answered can be decided. -/
instance : DecidablePred Answered :=
  fun opcode => inferInstanceAs (Decidable (opcode.toNat ∉ _))

/-- What an answer under the opcode gives, from what its payload gives. -/
def answerOf {α : Type} (opcode : UInt16) (decode : List UInt8 → Option α)
    (answer : List UInt8)
    : Option α :=
  if chunkOpcode answer = opcode.toNat then decode (answer.drop 4) else none

/-- A function of the value that an answer gives. -/
theorem answerOf_map {α β : Type} {opcode : UInt16} {decode : List UInt8 → Option α}
    {answer : List UInt8} {value : α} (given : answerOf opcode decode answer = some value)
    (f : α → β)
    : answerOf opcode (fun content => (decode content).map f) answer = some (f value) := by
  unfold answerOf at given ⊢
  split at given
  · rename_i same
    rw [if_pos same]
    exact congrArg (Option.map f) given
  · cases given

/-- The reading of an answer stays within the answer, is not seen by the device, and gives what
the payload decodes to.
-/
structure Reading {α : Type} (answer : Action (Scope IOStream Unit) α)
    (decode : List UInt8 → Option α)
    : Prop where
  inside : Maintains Inside answer
  logged : ∀ log device, Maintains (Logged Scope.outer log device) answer
  value
    : ∀ {stream header content value s}, stream.good = true →
        answer.run (reading stream header content []) = .ok value s →
        decode content = some value
  returns
    : ∀ {stream header content value}, stream.good = true → decode content = some value →
        ∃ left, answer.run (reading stream header content [])
          = .ok value (reading stream header left [])

section Request

variable {stream : IOStream} {α : Type} {opcode : UInt16} {payload : List UInt8}
  {answer : Action (Scope IOStream Unit) α} {decode : List UInt8 → Option α}

/-- A request as the sending of its chunk and the reading of the answer. -/
theorem run_request_sent (paired : stream.Paired) (fits : payload.length ≤ 65531)
    : (request opcode payload answer).run stream
      = (withPacket (Protocol.receive opcode answer)).run
          (stream.sent (PacketHeader.frame opcode payload)) := by
  unfold request
  rw [run_bind_ok (PacketHeader.run_writeTo paired.good fits),
    run_bind_ok (IOStream.run_flush paired.good _)]
  rfl

/-- A request is one exchange, whether it returns or throws. -/
theorem exchanged_request (paired : stream.Paired) (fits : payload.length ≤ 65531)
    (answered : Answered opcode) (reading : Reading answer decode)
    : stream.Exchanged (PacketHeader.frame opcode payload)
        (after ((request opcode payload answer).run stream)) := by
  have kept : Logged id
      (stream.log ++ [.flushed (PacketHeader.frame opcode payload) []
        (stream.device stream.log (PacketHeader.frame opcode payload))])
      stream.device (after ((request opcode payload answer).run stream)) := by
    rw [run_request_sent paired fits, after_withPacket]
    apply logged_discard
    apply logged_receive (reading.logged _ _)
    rw [paired.quiet.sent]
    exact ⟨rfl, rfl⟩
  exact ⟨paired_request fits answered reading.inside stream paired, kept.1, kept.2⟩

/-- The packet that a device answers a request with, read up to its payload. -/
theorem run_receive_frame (good : stream.good) {name : UInt16} {content : List UInt8}
    (size : content.length ≤ 65531)
    : (Protocol.receive opcode answer).run
          ⟨stream.unread (PacketHeader.frame name content), {}⟩
        = (do
            checkOpcode name opcode
            answer).run
            (reading stream ⟨name, UInt16.ofNat content.length⟩ content []) := by
  have extracted : (extract ()).run
      ⟨stream.unread (PacketHeader.frame name content ++ []), {}⟩ = .ok () _ :=
    run_extract_first good size
  rw [List.append_nil] at extracted
  unfold Protocol.receive
  rw [run_bind_ok extracted, run_get_bind]
  rfl

/-- What a request returns is what its answer gives. -/
theorem request_ok_iff (paired : stream.Paired) (fits : payload.length ≤ 65531)
    (answered : Answered opcode) (reads : Reading answer decode) {value : α}
    : (∃ stream', (request opcode payload answer).run stream = .ok value stream')
      ↔ answerOf opcode decode (stream.device stream.log (PacketHeader.frame opcode payload))
        = some value := by
  obtain ⟨name, content, size, reply⟩ :=
    (paired.device stream.log (PacketHeader.frame opcode payload)).2
      (mt unanswered_frame.mp answered)
  have good : (stream.recorded (.flushed (PacketHeader.frame opcode payload) []
      (PacketHeader.frame name content))).good :=
    paired.good
  rw [run_request_sent paired fits, paired.quiet.sent, reply, answerOf, chunkOpcode_frame,
    drop_frame]
  generalize stream.recorded (.flushed (PacketHeader.frame opcode payload) []
    (PacketHeader.frame name content)) = middle at good
  have receive := @run_receive_frame middle _ opcode answer good name content size
  by_cases same : name = opcode
  · cases same
    rw [run_bind_ok (run_checkOpcode_same _ _)] at receive
    rw [if_pos rfl]
    constructor
    · rintro ⟨stream', run⟩
      cases read : answer.run
          (reading middle ⟨opcode, UInt16.ofNat content.length⟩ content []) with
      | ok value' s =>
          cases (run_withPacket_ok (receive.trans read)).symm.trans run
          exact reads.value good read
      | error err s => cases (run_withPacket_error (receive.trans read)).symm.trans run
    · intro given
      obtain ⟨left, read⟩ := @Reading.returns _ _ _ reads _
        ⟨opcode, UInt16.ofNat content.length⟩ _ _ good given
      exact ⟨_, run_withPacket_ok (receive.trans read)⟩
  · obtain ⟨err, refused⟩ := run_checkOpcode_other same
      (reading middle ⟨name, UInt16.ofNat content.length⟩ content [])
    rw [run_bind_error refused] at receive
    rw [if_neg (mt UInt16.toNat_inj.mp same)]
    constructor
    · rintro ⟨stream', run⟩
      cases (run_withPacket_error receive).symm.trans run
    · intro none
      cases none

end Request

-----------------------------------------------------------------------------------------
-- The answers
-----------------------------------------------------------------------------------------

/-- Reading the extended status is not in the log. -/
theorem logged_readExtendedStatus (log : List Event)
    (device : List Event → List UInt8 → List UInt8)
    : Maintains (Logged Scope.outer log device) readExtendedStatus := by
  refine logged_readByte.bind fun _ => .ite (fun _ => .throw _) fun _ => ?_
  refine logged_readByte.bind fun _ => logged_readByte.bind fun _ => ?_
  refine logged_readByte.bind fun _ => logged_readByte.bind fun _ => ?_
  refine logged_readByte.bind fun _ => logged_readUint16.bind fun _ => ?_
  refine logged_readUint16.bind fun _ => logged_readUint16.bind fun _ => ?_
  exact logged_readUint16.bind fun _ => logged_readUint16.bind fun _ => .pure _

/-- The reader of the extended status gives what `statusOf` finds in the payload. -/
theorem reading_extendedStatus : Reading readExtendedStatus statusOf where
  inside := inside_extendedStatus
  logged := logged_readExtendedStatus
  value := fun good run => (readExtendedStatus_iff good).mp ⟨_, run⟩
  returns := fun good given => run_readExtendedStatus_some good given

/-- The result code of a command is the first byte of the payload. -/
theorem reading_byte : Reading readByte List.head? where
  inside := inside_readByte
  logged := fun _ _ => logged_readByte
  value := by
    intro stream header content value s good run
    cases content with
    | nil =>
        obtain ⟨err, s', thrown⟩ := takes_readByte.throws (reading stream header [] []) rfl
          Nat.one_pos
        cases thrown.symm.trans run
    | cons b content =>
        cases (run_readByte good b).symm.trans run
        rfl
  returns := by
    intro stream header content value good given
    cases content with
    | nil => cases given
    | cons b content =>
        cases given
        exact ⟨content, run_readByte good value⟩

/-- The basic status is the first byte, too. -/
theorem reading_basicStatus
    : Reading (readBasicStatus false) (fun content => content.head?.map fun b => (b, none)) where
  inside := inside_basicStatus false
  logged := fun _ _ => logged_readBasicStatus
  value := by
    intro stream header content value s good run
    cases content with
    | nil =>
        obtain ⟨err, s', thrown⟩ := takes_readByte.throws (reading stream header [] []) rfl
          Nat.one_pos
        cases (run_bind_error thrown).symm.trans run
    | cons b content =>
        cases (run_readStatus good b content).symm.trans run
        rfl
  returns := by
    intro stream header content value good given
    cases content with
    | nil => cases given
    | cons b content =>
        cases given
        exact ⟨content, run_readStatus good b content⟩

/-- The information in a payload that is long enough. -/
def infoOf : List UInt8 → Option PrinterInfo
  | _ :: _ :: deviceId :: type :: major :: minor :: b₁ :: b₂ :: n₁ :: n₂ :: _ =>
    some {
      deviceId := deviceId
      type := type
      versionMajor := major
      versionMinor := minor
      blockSize := UInt16.ofNat (littleValue [b₁, b₂])
      buffers := UInt16.ofNat (littleValue [n₁, n₂])
    }
  | _ => none

/-- Ten bytes are enough for the information. -/
theorem infoOf_long {content : List UInt8} (long : 10 ≤ content.length)
    : ∃ info, infoOf content = some info := by
  match content, long with
  | _ :: _ :: _ :: _ :: _ :: _ :: _ :: _ :: _ :: _ :: _, _ => exact ⟨_, rfl⟩

/-- Where the information is in the payload it is read. -/
theorem infoOf_returns {stream : IOStream} {header : PacketHeader} (good : stream.good)
    {content : List UInt8} {info : PrinterInfo} (given : infoOf content = some info)
    : ∃ left, readPrinterInfo.run (reading stream header content [])
        = .ok info (reading stream header left []) := by
  unfold infoOf at given
  split at given
  · rename_i left
    cases given
    refine ⟨left, ?_⟩
    rw [readPrinterInfo, run_bind_ok (run_readByte good _), run_bind_ok (run_readByte good _),
      run_bind_ok (run_readByte good _), run_bind_ok (run_readByte good _),
      run_bind_ok (run_readByte good _), run_bind_ok (run_readByte good _)]
    rw [run_bind_ok (run_readUint16_pair good ..), run_bind_ok (run_readUint16_pair good ..)]
    rfl
  · cases given

/-- The reader of the printer info gives what `infoOf` finds in the payload. -/
theorem reading_printerInfo : Reading readPrinterInfo infoOf where
  inside := inside_printerInfo
  logged := fun _ _ => logged_readPrinterInfo
  value := by
    intro stream header content value s good run
    rcases Nat.lt_or_ge content.length 10 with short | long
    · obtain ⟨err, s', thrown⟩ := takes_readPrinterInfo.throws
        (reading stream header content []) rfl short
      cases thrown.symm.trans run
    · obtain ⟨info, given⟩ := infoOf_long long
      obtain ⟨left, read⟩ := @infoOf_returns stream header good _ _ given
      cases read.symm.trans run
      exact given
  returns := fun good given => infoOf_returns good given

-----------------------------------------------------------------------------------------
-- What is said of the log
-----------------------------------------------------------------------------------------

/-- Nothing is unread on the stream to the device, and its log has the property. -/
structure IOStream.Tells (device : List Event → List UInt8 → List UInt8)
    (K : List Event → Prop) (this : IOStream)
    : Prop where
  paired : this.Paired
  device : this.device = device
  log : K this.log

/-- A log with the property, and behind it the chunk with an answer that is accepted. -/
def Then (K : List Event → Prop) (chunk : List UInt8) (accepted : List UInt8 → Prop)
    (log : List Event)
    : Prop :=
  ∃ before answer, log = before ++ [.flushed chunk [] answer] ∧ K before ∧ accepted answer

/-- The property is not lost when the chunk is sent. -/
def Admits (K : List Event → Prop) (chunk : List UInt8) : Prop :=
  ∀ log answer, K log → K (log ++ [.flushed chunk [] answer])

/-- The property has held of the log at some time. -/
def Once (K : List Event → Prop) (log : List Event) : Prop := ∃ front, front <+: log ∧ K front

/-- What holds now has held once. -/
theorem once_now {K : List Event → Prop} {log : List Event} (holds : K log) : Once K log :=
  ⟨log, List.prefix_refl log, holds⟩

/-- What has held once has held once later on. -/
theorem once_grows {K : List Event → Prop} (log : List Event) (event : Event) (once : Once K log)
    : Once K (log ++ [event]) := by
  obtain ⟨front, isPrefix, held⟩ := once
  exact ⟨front, isPrefix.trans (List.prefix_append ..), held⟩

/-- What occurs in a longer log is its last event, or it has occurred before. -/
theorem occurs_concat {log before after : List Event} {last event : Event}
    (split : log ++ [last] = before ++ event :: after)
    : (before = log ∧ event = last ∧ after = [])
      ∨ ∃ rest, log = before ++ event :: rest ∧ after = rest ++ [last] := by
  rcases List.eq_nil_or_concat after with rfl | ⟨rest, final, rfl⟩
  · obtain ⟨same, one⟩ := List.append_inj' split rfl
    cases one
    exact .inl ⟨same.symm, rfl, rfl⟩
  · rw [List.concat_eq_append, ← List.cons_append, ← List.append_assoc] at split
    obtain ⟨same, one⟩ := List.append_inj' split rfl
    cases one
    exact .inr ⟨rest, same, List.concat_eq_append⟩

variable {device : List Event → List UInt8 → List UInt8} {K K' : List Event → Prop}

/-- A weaker property of the log. -/
theorem IOStream.Tells.mono {stream : IOStream} (h : stream.Tells device K)
    (weaker : ∀ log, K log → K' log)
    : stream.Tells device K' :=
  ⟨h.paired, h.device, weaker _ h.log⟩

/-- What is admitted still holds behind the chunk. -/
theorem Admits.of_then {chunk : List UInt8} {accepted : List UInt8 → Prop} (h : Admits K chunk)
    (log : List Event) (last : Then K chunk accepted log)
    : K log := by
  obtain ⟨before, answer, rfl, kept, _⟩ := last
  exact h before answer kept

section Requests

variable {α : Type} {opcode : UInt16} {payload : List UInt8}
  {answer : Action (Scope IOStream Unit) α} {decode : List UInt8 → Option α}

/-- A request appends its exchange to the log, and returns what the answer gives. -/
theorem tells_request (fits : payload.length ≤ 65531) (answered : Answered opcode)
    (reads : Reading answer decode)
    : Triple (IOStream.Tells device K) (request opcode payload answer)
        (fun value => IOStream.Tells device (Then K (PacketHeader.frame opcode payload)
          fun reply => answerOf opcode decode reply = some value))
        (IOStream.Tells device
          (Then K (PacketHeader.frame opcode payload) fun _ => True)) := by
  intro stream tells
  have exchanged := exchanged_request tells.paired fits answered reads
  constructor
  · intro value stream' run
    rw [run] at exchanged
    have given := (request_ok_iff tells.paired fits answered reads).mp ⟨stream', run⟩
    exact ⟨exchanged.paired, exchanged.device.trans tells.device,
      _, _, exchanged.log, tells.log, given⟩
  · intro err stream' run
    rw [run] at exchanged
    exact ⟨exchanged.paired, exchanged.device.trans tells.device,
      _, _, exchanged.log, tells.log, trivial⟩

/-- A request keeps what its chunk does not disturb. -/
theorem keeps_request (fits : payload.length ≤ 65531) (answered : Answered opcode)
    (reads : Reading answer decode) (admits : Admits K (PacketHeader.frame opcode payload))
    : Maintains (IOStream.Tells device K) (request opcode payload answer) := by
  apply Triple.maintains
  apply (tells_request fits answered reads).weaken (fun _ => id)
  · intro value stream tells
    exact tells.mono admits.of_then
  · intro stream tells
    exact tells.mono admits.of_then

end Requests

-----------------------------------------------------------------------------------------
-- A device that answers
-----------------------------------------------------------------------------------------

/-- A device that answers every request under its opcode, by what has happened before. -/
def answering (payload : List Event → Nat → List UInt8) (log : List Event) (chunk : List UInt8)
    : List UInt8 :=
  if Unanswered chunk then []
  else
    PacketHeader.frame (UInt16.ofNat (chunkOpcode chunk)) (payload log (chunkOpcode chunk))

section Answering

variable {payload : List Event → Nat → List UInt8}

/-- The answer of such a device is decoded from the payload it was given. -/
theorem answerOf_answering {α : Type} {opcode : UInt16} (answered : Answered opcode)
    (decode : List UInt8 → Option α) (log : List Event) (content : List UInt8)
    : answerOf opcode decode (answering payload log (PacketHeader.frame opcode content))
      = decode (payload log opcode.toNat) := by
  have some : ¬ Unanswered (PacketHeader.frame opcode content) := mt unanswered_frame.mp answered
  rw [answering, if_neg some, chunkOpcode_frame, UInt16.ofNat_toNat, answerOf, chunkOpcode_frame,
    if_pos rfl, drop_frame]

/-- A stream to such a device starts with nothing unread. -/
theorem paired_answering (fits : ∀ log opcode, (payload log opcode).length ≤ 65531)
    : IOStream.Paired { device := answering payload } := by
  refine ⟨rfl, rfl, rfl, fun log chunk => ⟨fun page => if_pos page, fun answered => ?_⟩, nofun⟩
  exact ⟨_, _, fits .., if_neg answered⟩

end Answering

end Capt
