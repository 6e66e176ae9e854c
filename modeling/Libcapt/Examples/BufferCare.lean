import Libcapt.Examples.BufferMeasure

/-! The measuring of the video buffer is careful: no packet of a page is sent to a printer that
has not said that it has no paper, and no block to one that has not just said that it takes it.
-/

namespace Capt.Printerinfo

open Streams Protocol
open BasicCaptPrinter (Succeeded Reported)

-----------------------------------------------------------------------------------------
-- What is behind a packet
-----------------------------------------------------------------------------------------

/-- The unit was reserved. -/
def Reserved : List Event → Prop :=
  Once (Then (fun _ => True) (commandChunk 0xA2A0) (Succeeded 0xA2A0))

/-- The unit was reserved, and since then a status said that there is no paper. -/
def Emptied : List Event → Prop :=
  Once (Then Reserved extendedStatusRequest
    (Reported fun status => status.paperAvailableBits = 0))

/-- The last thing asked was the basic status, which reports nothing that forbids a block. -/
def Invited : List Event → Prop :=
  Then (fun _ => True) statusRequest fun answer =>
    ∃ status, answeredCode 0xE0A0 answer = some status
      ∧ status &&& BasicStatus.imDataBusy = 0 ∧ status &&& BasicStatus.cmdBusy = 0
      ∧ status &&& BasicStatus.errorBit = 0

/-- What has to be behind an event. -/
def Behind (before : List Event) : Event → Prop
  | .flushed chunk _ _ =>
    (Unanswered chunk → Emptied before) ∧ (chunkOpcode chunk = 0xC0A0 → Invited before)
  | .polled _ => True

/-- What has to be behind an event is behind each of them. -/
def Careful (log : List Event) : Prop :=
  ∀ before event after, log = before ++ event :: after → Behind before event

/-- One more event that stands where it may. -/
theorem Careful.append {log : List Event} (h : Careful log) {last : Event}
    (behind : Behind log last)
    : Careful (log ++ [last]) := by
  intro before event after split
  rcases occurs_concat split with ⟨rfl, rfl, _⟩ | ⟨rest, inside, _⟩
  · exact behind
  · exact h before event rest inside

/-- Requests may be sent at any time. -/
theorem admits_careful {opcode : UInt16} (payload : List UInt8) (answered : Answered opcode)
    : Admits Careful (PacketHeader.frame opcode payload) := by
  intro log answer careful
  apply careful.append
  constructor
  · exact fun page => absurd (unanswered_frame.mp page) answered
  · intro video
    rw [chunkOpcode_frame] at video
    exact absurd (by simp [video]) answered

-----------------------------------------------------------------------------------------
-- What is sent
-----------------------------------------------------------------------------------------

variable {device : List Event → List UInt8 → List UInt8} {K : List Event → Prop}

/-- The log is careful, and what is said of it beside that holds. -/
def Kept (K : List Event → Prop) (log : List Event) : Prop := Careful log ∧ K log

/-- A request keeps what every event may follow. -/
theorem careful_request {α : Type} {opcode : UInt16} {payload : List UInt8}
    {answer : Action (Scope IOStream Unit) α} {decode : List UInt8 → Option α}
    (grows : ∀ log event, K log → K (log ++ [event])) (fits : payload.length ≤ 65531)
    (answered : Answered opcode) (reads : Reading answer decode)
    : Triple (IOStream.Tells device (Kept K)) (request opcode payload answer)
        (fun value => IOStream.Tells device fun log => Kept K log
          ∧ Then K (PacketHeader.frame opcode payload)
              (fun reply => answerOf opcode decode reply = some value) log)
        (IOStream.Tells device Careful) := by
  have kept : ∀ {accepted : List UInt8 → Prop} {log : List Event},
      Then (Kept K) (PacketHeader.frame opcode payload) accepted log → Kept K log := by
    rintro accepted _ ⟨before, reply, rfl, ⟨careful, holds⟩, _⟩
    exact ⟨admits_careful payload answered before reply careful, grows _ _ holds⟩
  apply (tells_request fits answered reads).weaken (fun _ => id)
  · intro value stream tells
    apply tells.mono
    rintro log last
    refine ⟨kept last, ?_⟩
    obtain ⟨before, reply, split, ⟨_, holds⟩, given⟩ := last
    exact ⟨before, reply, split, holds, given⟩
  · exact fun stream tells => tells.mono fun log last => (kept last).1

/-- A packet of a page is sent where the printer has no paper. -/
theorem careful_begin {opcode : UInt16} {payload : List UInt8}
    (begins : opcode.toNat ∈ [0xD0A0, 0xD0A1])
    : Triple (IOStream.Tells device (Kept Emptied))
        (do
          PacketHeader.writeTo opcode payload
          IOStream.flush)
        (fun _ => IOStream.Tells device (Kept Emptied)) (IOStream.Tells device Careful) := by
  simp only [List.mem_cons, List.not_mem_nil, or_false] at begins
  have unanswered : opcode.toNat ∈ [0xD0A0, 0xD0A1, 0xD0A2, 0xC0A0] := by
    rcases begins with same | same <;> simp [same]
  apply (IOStream.triple_send unanswered _).weaken (fun _ => id) (fun _ _ => id)
    (fun stream tells => tells.mono fun log => And.left)
  rintro log answer ⟨careful, emptied⟩
  refine ⟨careful.append ⟨fun _ => emptied, fun video => ?_⟩, once_grows _ _ emptied⟩
  rw [chunkOpcode_frame] at video
  rcases begins with same | same <;> simp [same] at video

/-- A block is sent where it is invited. -/
theorem careful_videoData (data : List UInt8)
    : Triple (IOStream.Tells device fun log => Kept Emptied log ∧ Invited log) (icVideoData data)
        (fun _ => IOStream.Tells device (Kept Emptied)) (IOStream.Tells device Careful) := by
  apply (IOStream.triple_send (by decide) _).weaken (fun _ => id) (fun _ _ => id)
    (fun stream tells => tells.mono fun log kept => kept.1.1)
  rintro log answer ⟨⟨careful, emptied⟩, invited⟩
  exact ⟨careful.append ⟨fun _ => emptied, fun _ => invited⟩, once_grows _ _ emptied⟩

-----------------------------------------------------------------------------------------
-- The program
-----------------------------------------------------------------------------------------

/-- The loop, by induction on its turns. -/
theorem careful_fillLoop (thresh fuel batchSize count : Nat)
    : Triple (IOStream.Tells device (Kept Emptied)) (fillLoop thresh fuel batchSize count)
        (fun _ => IOStream.Tells device (Kept Emptied)) (IOStream.Tells device Careful) := by
  induction fuel generalizing batchSize count with
  | zero => exact .throw fun stream tells => tells.mono fun log => And.left
  | succ fuel ih =>
      have asks : Triple (IOStream.Tells device (Kept Emptied)) (pcrGetBasicStatus false)
          (fun result => IOStream.Tells device fun log => Kept Emptied log
            ∧ Then Emptied statusRequest
                (fun reply => answeredCode 0xE0A0 reply = some result.1) log)
          (IOStream.Tells device Careful) := by
        apply (careful_request once_grows (Nat.zero_le _) (by decide) reading_basicStatus).weaken
          (fun _ => id) _ (fun _ => id)
        intro result stream tells
        apply tells.mono
        rintro log ⟨kept, before, reply, split, holds, given⟩
        have first := answerOf_map given Prod.fst
        simp only [Option.map_map, Function.comp_def, Option.map_id'] at first
        exact ⟨kept, before, reply, split, holds, first⟩
      refine asks.bind fun result => ?_
      have leave : ∀ {P : List Event → Prop}, Triple
          (IOStream.Tells device fun log => Kept Emptied log ∧ P log)
          (pure count : Action IOStream Nat) (fun _ => IOStream.Tells device (Kept Emptied))
          (IOStream.Tells device Careful) :=
        .pure fun stream tells => tells.mono fun log => And.left
      refine .ite (fun _ => leave) fun free => .ite (fun _ => leave) fun command =>
        .ite (fun _ => leave) fun error => ?_
      refine ((careful_videoData _).from ?_).bind fun _ => ih _ _
      intro stream tells
      apply tells.mono
      rintro log ⟨kept, before, reply, split, _, given⟩
      exact ⟨kept, before, reply, split, trivial, result.1, given, not_not.mp free,
        not_not.mp command, not_not.mp error⟩

/-- A command whose code is not looked at. -/
theorem careful_command {opcode : UInt16} {payload : List UInt8}
    (grows : ∀ log event, K log → K (log ++ [event])) (fits : payload.length ≤ 65531)
    (answered : Answered opcode)
    : Triple (IOStream.Tells device (Kept K)) (request opcode payload StreamPacket.readByte)
        (fun _ => IOStream.Tells device (Kept K)) (IOStream.Tells device Careful) :=
  (careful_request grows fits answered reading_byte).weaken (fun _ => id)
    (fun _ _ tells => tells.mono fun _ => And.left) (fun _ => id)

/-- What is measured once the printer is known to have no paper. -/
theorem careful_measuring (fuel : Nat) (info : PrinterInfo)
    : Triple (IOStream.Tells device (Kept Emptied))
        (do
          icBeginPage dummyParams
          let buffSize ← fillBuffer fuel 6144 0
          let _ ← pcrDiscardData
          let buffSize ← fillBuffer fuel 6144 (sizeT (buffSize + 2 ^ 64 - 16384))
          return (0, Shown.mk info (some buffSize)))
        (fun _ => IOStream.Tells device Careful) (IOStream.Tells device Careful) := by
  have begins : Triple (IOStream.Tells device (Kept Emptied)) (icBeginPage dummyParams)
      (fun _ => IOStream.Tells device (Kept Emptied)) (IOStream.Tells device Careful) :=
    careful_begin (by decide)
  have discards : Triple (IOStream.Tells device (Kept Emptied)) pcrDiscardData
      (fun _ => IOStream.Tells device (Kept Emptied)) (IOStream.Tells device Careful) :=
    careful_command once_grows (Nat.zero_le _) (by decide)
  refine begins.bind fun _ => (careful_fillLoop _ _ _ _).bind fun _ => ?_
  refine discards.bind fun _ => (careful_fillLoop _ _ _ _).bind fun _ => ?_
  exact .pure fun stream tells => tells.mono fun log => And.left

/-- The whole program. -/
theorem careful_main (fuel : Nat)
    : Triple (IOStream.Tells device Careful) (main fuel) (fun _ => IOStream.Tells device Careful)
        (IOStream.Tells device Careful) := by
  have info : Triple (IOStream.Tells device Careful) pcGetPrinterInfo
      (fun _ => IOStream.Tells device Careful) (IOStream.Tells device Careful) :=
    (keeps_request (Nat.zero_le _) (by decide) reading_printerInfo
      (admits_careful _ (by decide))).triple
  have reserve : Triple (IOStream.Tells device Careful) pcReserveUnit
      (fun code => IOStream.Tells device fun log => Careful log ∧ (code = 0 → Reserved log))
      (IOStream.Tells device Careful) := by
    have grows : ∀ (log : List Event) (event : Event), True → True := fun _ _ => id
    apply (careful_request grows (Nat.zero_le _) (by decide) reading_byte).weaken _ _ (fun _ => id)
    · exact fun stream tells => tells.mono fun log careful => ⟨careful, trivial⟩
    · intro code stream tells
      apply tells.mono
      rintro log ⟨⟨careful, _⟩, last⟩
      refine ⟨careful, ?_⟩
      rintro rfl
      exact once_now last
  have clear : Triple (IOStream.Tells device (Kept Reserved)) pcrClearError
      (fun _ => IOStream.Tells device (Kept Reserved)) (IOStream.Tells device Careful) :=
    careful_command once_grows (Nat.zero_le _) (by decide)
  have discards : Triple (IOStream.Tells device (Kept Reserved)) pcrDiscardData
      (fun _ => IOStream.Tells device (Kept Reserved)) (IOStream.Tells device Careful) :=
    careful_command once_grows (Nat.zero_le _) (by decide)
  have online : Triple (IOStream.Tells device (Kept Reserved)) (pcrGoOnline 0)
      (fun _ => IOStream.Tells device (Kept Reserved)) (IOStream.Tells device Careful) :=
    careful_command once_grows (BasicCaptPrinter.signedPayload_fits _) (by decide)
  have asks : Triple (IOStream.Tells device (Kept Reserved)) pcGetExtendedStatus
      (fun status => IOStream.Tells device fun log => Careful log
        ∧ (status.paperAvailableBits = 0 → Emptied log))
      (IOStream.Tells device Careful) := by
    apply (careful_request once_grows (Nat.zero_le _) (by decide) reading_extendedStatus).weaken
      (fun _ => id) _ (fun _ => id)
    intro status stream tells
    apply tells.mono
    rintro log ⟨⟨careful, _⟩, before, reply, split, reserved, given⟩
    exact ⟨careful, fun empty => once_now ⟨before, reply, split, reserved, status, given, empty⟩⟩
  have leave : ∀ {P : List Event → Prop} (result : Nat × Shown), Triple
      (IOStream.Tells device fun log => Careful log ∧ P log)
      (pure result : Action IOStream (Nat × Shown)) (fun _ => IOStream.Tells device Careful)
      (IOStream.Tells device Careful) :=
    fun _ => .pure fun stream tells => tells.mono fun log => And.left
  refine info.bind fun info => reserve.bind fun code => .ite (fun _ => leave _) fun zero => ?_
  have reserved : ∀ stream : IOStream,
      stream.Tells device (fun log => Careful log ∧ (code = 0 → Reserved log)) →
      stream.Tells device (Kept Reserved) :=
    fun stream tells => tells.mono fun log kept => ⟨kept.1, kept.2 (not_not.mp zero)⟩
  refine (clear.from reserved).bind fun _ => discards.bind fun _ => online.bind fun _ => ?_
  refine asks.bind fun status => .ite (fun _ => leave _) fun empty => ?_
  have emptied : ∀ stream : IOStream,
      stream.Tells device
        (fun log => Careful log ∧ (status.paperAvailableBits = 0 → Emptied log)) →
      stream.Tells device (Kept Emptied) :=
    fun stream tells => tells.mono fun log kept => ⟨kept.1, kept.2 (not_not.mp empty)⟩
  have begins : Triple (IOStream.Tells device (Kept Emptied)) icBeginData
      (fun _ => IOStream.Tells device (Kept Emptied)) (IOStream.Tells device Careful) :=
    careful_begin (by decide)
  refine (begins.from emptied).bind fun _ => .ite (fun _ => leave _) ?_
  exact fun _ => careful_measuring fuel info

/-- On a printer that gives one answer to each request, whatever the answers say, and whether the
program returns or throws: every packet of a page is sent behind a reservation that succeeded and a
later status that says that there is no paper, and every block of video data directly behind a
basic status that reports no full buffer, no busy command and no error.
-/
theorem main_careful (fuel : Nat) {stream : IOStream} (quiet : stream.Paired)
    (new : stream.log = [])
    : Careful (after ((main fuel).run stream)).log := by
  have nothing : Careful stream.log := by
    rw [new]
    intro before event after split
    cases before <;> cases split
  have runs : (after ((main fuel).run stream)).Tells stream.device Careful :=
    (careful_main fuel).after (fun _ _ => id) (fun _ => id) ⟨quiet, rfl, nothing⟩
  exact runs.log

/-- At a printer with a buffer of 20000 bytes. -/
theorem main_careful_bufferStream
    : Careful (after ((main 50).run (bufferStream 20000))).log :=
  main_careful 50 (paired_answering fun log => bufferPayload_fits 20000 (held log)) rfl

end Capt.Printerinfo
