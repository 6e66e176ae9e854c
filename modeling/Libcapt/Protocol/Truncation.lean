import Libcapt.Protocol.AnswerReading

/-! Which byte sequences make the functions that read an answer return. An answer whose
header is complete and whose payload ends early is taken for a complete one.
-/

namespace Capt.Protocol

open Streams StreamPacket

/-- The calls that read an answer. -/
inductive Response where
  | extendedStatus
  | printerInfo
  | basicStatus (changed : Bool)
  | goOnline (pageNumber : UInt16)
  | cleaning
  | command (opcode : UInt16)

namespace Response

/-- The call. -/
def call : Response → Action IOStream Unit
  | extendedStatus => do
    let _ ← pcGetExtendedStatus
    return
  | printerInfo => do
    let _ ← pcGetPrinterInfo
    return
  | basicStatus changed => do
    let _ ← pcrGetBasicStatus changed
    return
  | goOnline pageNumber => do
    let _ ← pcrGoOnline pageNumber
    return
  | cleaning => do
    let _ ← pcrCleaning
    return
  | command opcode => do
    let _ ← execCmd opcode
    return

/-- The opcode of its request. -/
def opcode : Response → UInt16
  | extendedStatus => 0xA0A0
  | printerInfo => 0xA1A1
  | basicStatus _ => 0xE0A0
  | goOnline _ => 0xE0A5
  | cleaning => 0xE0AD
  | command opcode => opcode

/-- The payload of its request. -/
def payload : Response → List UInt8
  | extendedStatus => []
  | printerInfo => []
  | basicStatus _ => []
  | goOnline pageNumber => signedPayload pageNumber
  | cleaning => signedPayload 1
  | command _ => []

/-- The number of bytes that the result is built from. -/
def needed : Response → Nat
  | extendedStatus => 16
  | printerInfo => 10
  | basicStatus changed => if changed then 2 else 1
  | goOnline _ => 1
  | cleaning => 1
  | command _ => 1

/-- The bytes that the stream has for the answer. -/
def received (this : Response) (stream : IOStream) : List UInt8 :=
  (stream.sent (PacketHeader.frame this.opcode this.payload)).input

/-- The bytes hold a complete header of the expected opcode, and all that the result is
built from.
-/
def Supplied (this : Response) (bytes : List UInt8) : Prop :=
  4 ≤ bytes.length ∧ littleValue (bytes.take 2) = this.opcode.toNat
    ∧ 4 + this.needed ≤ bytes.length

/-- The stream with other bytes in the memory that no read has filled. -/
def withMemory (stream : IOStream) (memory : Nat → UInt8) : IOStream :=
  { stream with indeterminate := memory }

/-- The memory is no part of the stream's state. -/
@[simp]
theorem withMemory_good (stream : IOStream) (memory : Nat → UInt8)
    : (withMemory stream memory).good = stream.good :=
  rfl

/-- Whatever that memory holds, the call returns only if its result was supplied. -/
def Holds (this : Response) (stream : IOStream) : Prop :=
  ∀ memory, Returns this.call (withMemory stream memory) →
    this.Supplied (this.received stream)

/-- The header announces all that the result is built from, and the bytes end before it.
Only an extended status whose first byte reports an error is refused all the same.
-/
def CutShort (this : Response) (bytes : List UInt8) : Prop :=
  (∃ size, Announces this.opcode size bytes ∧ this.needed ≤ size)
    ∧ bytes.length < 4 + this.needed
    ∧ (this = extendedStatus →
        ∀ b, (bytes.drop 4).head? = some b → b &&& BasicStatus.errorBit = 0)

/-- A call returns where its action does, whatever the value. -/
theorem returns_call {β : Type} (action : Action IOStream β) (stream : IOStream)
    : Returns (do
        let _ ← action
        return) stream ↔ Returns action stream := by
  constructor
  · rintro ⟨_, s', run⟩
    obtain ⟨value, middle, first, _⟩ := run_bind_eq_ok run
    exact ⟨value, middle, first⟩
  · rintro ⟨value, s', run⟩
    exact ⟨(), s', run_bind_ok run⟩

/-- The payload of a request fits in a packet. -/
theorem payload_fits (this : Response) : this.payload.length ≤ 65531 := by
  cases this <;> simp [payload, signedPayload, PacketBuilder.appendByte,
    PacketBuilder.appendUint16, PacketBuilder.appendUint32]

/-- The call returns when the header announces enough bytes, and an extended status does
not report an error.
-/
theorem returns_iff (this : Response) {stream : IOStream} (good : stream.good)
    : Returns this.call stream
      ↔ (∃ size, Announces this.opcode size (this.received stream) ∧ this.needed ≤ size)
        ∧ (this = extendedStatus →
            firstByte (stream.sent (PacketHeader.frame this.opcode this.payload))
              &&& BasicStatus.errorBit = 0) := by
  have simple : ∀ {α : Type} {count : Nat} {answer : Action (Scope IOStream Unit) α},
      Takes (count + 1) answer → this.needed = count + 1 → this ≠ extendedStatus →
      (Returns (request this.opcode this.payload answer) stream
        ↔ (∃ size, Announces this.opcode size (this.received stream) ∧ this.needed ≤ size)
          ∧ (this = extendedStatus →
              firstByte (stream.sent (PacketHeader.frame this.opcode this.payload))
                &&& BasicStatus.errorBit = 0)) := by
    intro α count answer takes same other
    rw [request_returns good this.payload_fits takes.empty]
    constructor
    · rintro ⟨size, announced, returns⟩
      exact ⟨⟨size, announced, same ▸ (takes.returns_opened size).mp returns⟩,
        fun equal => absurd equal other⟩
    · rintro ⟨⟨size, announced, enough⟩, _⟩
      exact ⟨size, announced, (takes.returns_opened size).mpr (same ▸ enough)⟩
  cases this with
  | extendedStatus =>
      have usable : (stream.sent (PacketHeader.frame 0xA0A0 [])).good := good
      refine (returns_call _ _).trans ?_
      refine (request_returns good (Nat.zero_le _) extendedStatus_empty).trans ?_
      constructor
      · rintro ⟨size, announced, returns⟩
        obtain ⟨enough, clear⟩ := (extendedStatus_opened usable size).mp returns
        exact ⟨⟨size, announced, enough⟩, fun _ => clear⟩
      · rintro ⟨⟨size, announced, enough⟩, clear⟩
        exact ⟨size, announced, (extendedStatus_opened usable size).mpr ⟨enough, clear rfl⟩⟩
  | printerInfo =>
      exact (returns_call _ _).trans (simple takes_readPrinterInfo rfl Response.noConfusion)
  | basicStatus changed =>
      refine (returns_call _ _).trans ?_
      cases changed with
      | false => exact simple (takes_readBasicStatus false) rfl Response.noConfusion
      | true => exact simple (takes_readBasicStatus true) rfl Response.noConfusion
  | goOnline pageNumber =>
      exact (returns_call _ _).trans (simple takes_readByte rfl Response.noConfusion)
  | cleaning => exact (returns_call _ _).trans (simple takes_readByte rfl Response.noConfusion)
  | command opcode =>
      exact (returns_call _ _).trans (simple takes_readByte rfl Response.noConfusion)

/-- On a stream that is not good every call throws. -/
theorem not_returns_bad (this : Response) {stream : IOStream} (bad : ¬ stream.good)
    : ¬ Returns this.call stream := by
  have silent : ∀ {α : Type} {action : Action IOStream α}, ¬ Returns action stream →
      ¬ Returns (do
        let _ ← action
        return) stream := by
    intro α action never returns
    exact never ((returns_call action stream).mp returns)
  cases this with
  | extendedStatus => exact silent (request_bad bad extendedStatus_empty)
  | printerInfo => exact silent (request_bad bad takes_readPrinterInfo.empty)
  | basicStatus changed =>
      cases changed with
      | false => exact silent (request_bad bad (takes_readBasicStatus false).empty)
      | true => exact silent (request_bad bad (takes_readBasicStatus true).empty)
  | goOnline pageNumber => exact silent (request_bad bad takes_readByte.empty)
  | cleaning => exact silent (request_bad bad takes_readByte.empty)
  | command opcode => exact silent (request_bad bad takes_readByte.empty)

/-- A call is deceived exactly by a good stream that ends within the part of the payload
that the result is built from, behind a complete header.
-/
theorem holds_iff (this : Response) (stream : IOStream)
    : this.Holds stream ↔ ¬ (stream.good ∧ this.CutShort (this.received stream)) := by
  constructor
  · rintro holds ⟨good, ⟨size, announced, enough⟩, short, clear⟩
    -- the memory that the first byte is read into may hold any byte
    have returns : Returns this.call (withMemory stream fun _ => 0) := by
      refine (this.returns_iff ((withMemory_good ..).trans good)).mpr
        ⟨⟨size, announced, enough⟩, ?_⟩
      intro extended
      have body := clear extended
      change ((this.received stream).drop 4).headD 0 &&& BasicStatus.errorBit = 0
      cases first : (this.received stream).drop 4 with
      | nil => rfl
      | cons b rest =>
          rw [first] at body
          exact body b rfl
    obtain ⟨_, _, whole⟩ := holds _ returns
    omega
  · intro supplied memory returns
    by_cases good : stream.good
    · obtain ⟨⟨size, announced, enough⟩, clear⟩ :=
        (this.returns_iff ((withMemory_good ..).trans good)).mp returns
      refine ⟨announced.1, announced.2.1, ?_⟩
      by_contra short
      refine supplied ⟨good, ⟨size, announced, enough⟩, Nat.lt_of_not_le short, ?_⟩
      intro extended b first
      have byte := clear extended
      change ((this.received stream).drop 4).headD (memory 0)
        &&& BasicStatus.errorBit = 0 at byte
      rw [List.headD_eq_head?_getD, first] at byte
      exact byte
    · exact absurd returns (this.not_returns_bad (by rwa [withMemory_good]))

/-- A basic status of which only the header arrived is one with no bits set. -/
theorem basicStatus_headerOnly
    : ¬ (basicStatus false).Holds { input := [0xA0, 0xE0, 5, 0] } := by
  intro holds
  obtain ⟨_, _, whole⟩ := holds (fun _ => 0) ⟨(), _, rfl⟩
  exact absurd whole (by decide)

end Response

end Capt.Protocol
