import Libcapt.Core.PacketReading
import Libcapt.Protocol.Protocol

/-! When the reading of an answer returns. It depends on the header of the answer, which
announces the number of its bytes, and not on how many of them the stream gives.
-/

namespace Capt.Protocol

open Streams StreamPacket

-----------------------------------------------------------------------------------------
-- Reading fields
-----------------------------------------------------------------------------------------

/-- Reading takes `count` bytes off the announced payload: it returns when so many remain,
and throws when fewer do. Neither depends on what the stream gives.
-/
structure Takes {α : Type} (count : Nat) (read : Action (Scope IOStream Unit) α) : Prop where
  returns
    : ∀ s, s.packet.stream = some () → count ≤ s.packet.remain →
        ∃ value s', read.run s = .ok value s' ∧ s'.packet.stream = some ()
          ∧ s'.packet.remain = s.packet.remain - count
  throws
    : ∀ s, s.packet.stream = some () → s.packet.remain < count →
        ∃ err s', read.run s = .error err s'

/-- Reading a number returns, whether the stream is good, ends, or is not good. -/
theorem run_readLittle_returns (stream : IOStream) (size : Nat)
    : ∃ value stream', (IOStream.readLittle size).run stream = .ok value stream' := by
  unfold IOStream.readLittle
  rw [run_get_bind]
  by_cases good : stream.good
  · rw [if_pos good]
    unfold IOStream.read
    simp only [EStateM.run_bind, EStateM.run_get, good, ↓reduceIte]
    exact ⟨_, _, rfl⟩
  · rw [if_neg good]
    exact ⟨0, stream, rfl⟩

/-- A number of `size` bytes. -/
theorem takes_readInt (size : Nat) : Takes size (readInt size) := by
  constructor
  · intro s attached enough
    obtain ⟨value, stream', run⟩ := run_readLittle_returns s.outer size
    refine ⟨value, ⟨stream', { s.packet with remain := s.packet.remain - size }⟩, ?_, attached,
      rfl⟩
    unfold readInt
    rw [run_get_bind, if_neg (Nat.not_lt.mpr enough), run_modify_bind, attached]
    exact run_onStream run
  · intro s _ few
    refine ⟨.outOfRange "packet payload EOF", s, ?_⟩
    unfold readInt
    rw [run_get_bind, if_pos few]
    rfl

/-- Returning takes nothing. -/
theorem takes_pure {α : Type} (value : α) : Takes 0 (pure value) := by
  constructor
  · intro s attached _
    exact ⟨value, s, rfl, attached, rfl⟩
  · intro s _ few
    exact absurd few (Nat.not_lt_zero _)

/-- What two readings take together. -/
theorem Takes.bind {α β : Type} {first : Action (Scope IOStream Unit) α}
    {next : α → Action (Scope IOStream Unit) β} {count more : Nat} (hf : Takes count first)
    (hn : ∀ value, Takes more (next value))
    : Takes (more + count) (first >>= next) := by
  constructor
  · intro s attached enough
    obtain ⟨value, middle, run, still, left⟩ := hf.returns s attached (by omega)
    obtain ⟨result, s', run', last, fewer⟩ := (hn value).returns middle still (by omega)
    refine ⟨result, s', ?_, last, by omega⟩
    rw [run_bind_ok run, run']
  · intro s attached few
    rcases Nat.lt_or_ge s.packet.remain count with none | some
    · obtain ⟨err, s', run⟩ := hf.throws s attached none
      exact ⟨err, s', run_bind_error run⟩
    · obtain ⟨value, middle, run, still, left⟩ := hf.returns s attached some
      obtain ⟨err, s', run'⟩ := (hn value).throws middle still (by omega)
      refine ⟨err, s', ?_⟩
      rw [run_bind_ok run, run']

/-- One byte. -/
theorem takes_readByte : Takes 1 readByte :=
  (takes_readInt 1).bind fun _ => takes_pure _

/-- Two bytes. -/
theorem takes_readUint16 : Takes 2 readUint16 :=
  (takes_readInt 2).bind fun _ => takes_pure _

/-- Ten bytes. -/
theorem takes_readPrinterInfo : Takes 10 readPrinterInfo := by
  refine takes_readByte.bind fun _ => takes_readByte.bind fun _ => takes_readByte.bind fun _ => ?_
  refine takes_readByte.bind fun _ => takes_readByte.bind fun _ => takes_readByte.bind fun _ => ?_
  exact takes_readUint16.bind fun _ => takes_readUint16.bind fun _ => takes_pure _

/-- One byte, and a second one where a change is asked for. -/
theorem takes_readBasicStatus (changed : Bool)
    : Takes (if changed then 2 else 1) (readBasicStatus changed) := by
  cases changed with
  | false => exact takes_readByte.bind fun _ => takes_pure _
  | true => exact takes_readByte.bind fun _ => takes_readByte.bind fun _ => takes_pure _

-----------------------------------------------------------------------------------------
-- The answer to a request
-----------------------------------------------------------------------------------------

/-- The bytes begin with a header of the given opcode, which announces `size` bytes after
it.
-/
def Announces (opcode : UInt16) (size : Nat) (bytes : List UInt8) : Prop :=
  4 ≤ bytes.length ∧ littleValue (bytes.take 2) = opcode.toNat
    ∧ littleValue ((bytes.drop 2).take 2) = 4 + size

/-- A packet whose header was just read. -/
def opened (stream : IOStream) (opcode : UInt16) (size : Nat) : Scope IOStream Unit :=
  ⟨stream.unread (stream.input.drop 4), ⟨some (), size, ⟨opcode, UInt16.ofNat size⟩⟩⟩

variable {α : Type} {opcode : UInt16} {answer : Action (Scope IOStream Unit) α}
  {stream : IOStream}

/-- The part of a request that reads the answer. -/
def receive (opcode : UInt16) (answer : Action (Scope IOStream Unit) α)
    : Action (Scope IOStream Unit) α := do
  extract ()
  let s ← get
  checkOpcode s.packet.header.opcode opcode
  answer

/-- The opcode that is expected. -/
theorem run_checkOpcode_same {σ : Type} (opcode : UInt16) (s : σ)
    : (checkOpcode opcode opcode).run s = .ok () s := by
  unfold checkOpcode
  rw [if_neg (fun different => different rfl)]
  rfl

/-- Any other opcode is refused. -/
theorem run_checkOpcode_other {σ : Type} {actual expected : UInt16}
    (different : actual ≠ expected) (s : σ)
    : ∃ err, (checkOpcode actual expected).run s = .error err s := by
  unfold checkOpcode
  rw [if_pos different]
  exact ⟨_, rfl⟩

/-- An input of at least four bytes is two pairs of bytes and the rest. -/
theorem header_lengths {bytes : List UInt8} (whole : 4 ≤ bytes.length)
    : (bytes.take 2).length = 2 ∧ ((bytes.drop 2).take 2).length = 2 := by
  constructor
  · rw [List.length_take]
    omega
  · rw [List.length_take, List.length_drop]
    omega

/-- A number of two bytes. -/
theorem littleValue_pair {bytes : List UInt8} (two : bytes.length = 2)
    : littleValue bytes < 65536 := by
  have bound := littleValue_lt bytes
  rw [two] at bound
  exact bound

/-- The first extraction into a packet that holds nothing. -/
theorem run_extract_opened {name size : Nat} (good : stream.good)
    (fits : size < 65536) (whole : 4 ≤ stream.input.length)
    (first : littleValue (stream.input.take 2) = name)
    (second : littleValue ((stream.input.drop 2).take 2) = 4 + size)
    : (extract ()).run ⟨stream, {}⟩ = .ok () (opened stream (UInt16.ofNat name) size) := by
  have remain : (UInt16.ofNat size).toNat = size := UInt16.toNat_ofNat_of_lt fits
  have possible : 4 ≤ PacketHeader.size stream := by
    rw [PacketHeader.size, second]
    exact Nat.le_add_right 4 size
  have header := PacketHeader.run_extract_valid ⟨⟨good, whole⟩, possible⟩ {}
  rw [PacketHeader.announced, PacketHeader.size, first, second, Nat.add_sub_cancel_left]
    at header
  have extracted : (extract ()).run ⟨stream, {}⟩ = .ok () ⟨_, ⟨some (), _, _⟩⟩ :=
    run_extract_header rfl header
  rw [extracted, remain]
  rfl

/-- An answer with a header is read from behind it. -/
theorem run_receive {size : Nat} (good : stream.good)
    (announced : Announces opcode size stream.input)
    : (receive opcode answer).run ⟨stream, {}⟩ = answer.run (opened stream opcode size) := by
  obtain ⟨whole, name, total⟩ := announced
  have bound := littleValue_pair (header_lengths whole).2
  have extracted := run_extract_opened good (by omega) whole name total
  rw [UInt16.ofNat_toNat] at extracted
  have same : (checkOpcode (opened stream opcode size).packet.header.opcode opcode).run
      (opened stream opcode size) = .ok () (opened stream opcode size) :=
    run_checkOpcode_same opcode _
  unfold receive
  rw [run_bind_ok extracted, run_get_bind, run_bind_ok same]

/-- Without a complete header the packet stays empty, and there is nothing to read. -/
theorem run_receive_ended (ended : stream.good → stream.input.length < 4)
    (empty
      : ∀ s, s.packet.stream = some () → s.packet.remain = 0 →
          ∃ err s', answer.run s = .error err s')
    : ∃ err s', (receive opcode answer).run ⟨stream, {}⟩ = .error err s' := by
  have incomplete : ¬ PacketHeader.Complete stream :=
    fun complete => absurd complete.2 (Nat.not_le.mpr (ended complete.1))
  obtain ⟨stream', header⟩ := PacketHeader.run_extract_incomplete incomplete {}
  generalize UInt16.ofNat (stream.number 2) = name at header
  have extracted : (extract ()).run ⟨stream, {}⟩
      = .ok () ⟨stream', ⟨some (), 0, ⟨name, 0⟩⟩⟩ :=
    @run_extract_header stream ⟨stream, {}⟩ {} stream' ⟨name, 0⟩ rfl header
  unfold receive
  rw [run_bind_ok extracted, run_get_bind]
  dsimp only
  by_cases same : name = opcode
  · obtain ⟨err, s', run⟩ := empty ⟨stream', ⟨some (), 0, ⟨name, 0⟩⟩⟩ rfl rfl
    refine ⟨err, s', ?_⟩
    rw [same] at run ⊢
    rw [run_bind_ok (run_checkOpcode_same opcode _), run]
  · obtain ⟨err, run⟩ := run_checkOpcode_other same
      (⟨stream', ⟨some (), 0, ⟨name, 0⟩⟩⟩ : Scope IOStream Unit)
    exact ⟨err, _, run_bind_error run⟩

/-- A complete header that does not announce an answer of this opcode is refused. -/
theorem run_receive_refused (good : stream.good) (whole : 4 ≤ stream.input.length)
    (other : ∀ size, ¬ Announces opcode size stream.input)
    : ∃ err s', (receive opcode answer).run ⟨stream, {}⟩ = .error err s' := by
  obtain ⟨two, short⟩ := header_lengths whole
  have bound := littleValue_pair two
  have limit := littleValue_pair short
  rcases Nat.lt_or_ge (littleValue ((stream.input.drop 2).take 2)) 4 with impossible | possible
  · obtain ⟨stream', header⟩ :=
      PacketHeader.run_extract_refused ⟨⟨good, whole⟩, impossible⟩ {}
    have discarded : discard.run ⟨stream, {}⟩ = .ok () ⟨stream, {}⟩ := rfl
    have extracted : (extract ()).run ⟨stream, {}⟩
        = .error (.runtimeError "impossible packet size")
            ⟨stream', { header := { opcode := UInt16.ofNat (stream.number 2) } }⟩ := by
      unfold extract
      rw [run_bind_ok discarded, run_bind_error (run_onHeader_error header)]
    exact ⟨_, _, run_bind_error extracted⟩
  · obtain ⟨size, total⟩ := Nat.exists_eq_add_of_le possible
    have different : UInt16.ofNat (littleValue (stream.input.take 2)) ≠ opcode := by
      rintro rfl
      exact other size ⟨whole, (UInt16.toNat_ofNat_of_lt bound).symm, total⟩
    obtain ⟨err, run⟩ := run_checkOpcode_other different
      (opened stream (UInt16.ofNat (littleValue (stream.input.take 2))) size)
    refine ⟨err, opened stream (UInt16.ofNat (littleValue (stream.input.take 2))) size, ?_⟩
    unfold receive
    rw [run_bind_ok (run_extract_opened good (by omega) whole rfl total), run_get_bind]
    exact run_bind_error run

/-- An action returns from a state if its run ends without an exception. -/
def Returns {σ β : Type} (action : Action σ β) (s : σ) : Prop :=
  ∃ value s', action.run s = .ok value s'

/-- A request returns when the header of the answer is complete and the answer is read from
behind it without an exception.
-/
theorem request_returns {payload : List UInt8} (good : stream.good)
    (fits : payload.length ≤ 65531)
    (empty
      : ∀ s, s.packet.stream = some () → s.packet.remain = 0 →
          ∃ err s', answer.run s = .error err s')
    : Returns (request opcode payload answer) stream
      ↔ ∃ size, Announces opcode size (stream.sent (PacketHeader.frame opcode payload)).input
          ∧ Returns answer
              (opened (stream.sent (PacketHeader.frame opcode payload)) opcode size) := by
  have sent : (request opcode payload answer).run stream
      = (withPacket (receive opcode answer)).run
          (stream.sent (PacketHeader.frame opcode payload)) := by
    unfold request
    rw [run_bind_ok (PacketHeader.run_writeTo good fits),
      run_bind_ok (IOStream.run_flush good _)]
    rfl
  have usable : (stream.sent (PacketHeader.frame opcode payload)).good := good
  rw [Returns, sent]
  generalize stream.sent (PacketHeader.frame opcode payload) = answered at usable
  constructor
  · rintro ⟨value, outer, run⟩
    by_cases announced : ∃ size, Announces opcode size answered.input
    · obtain ⟨size, announced⟩ := announced
      refine ⟨size, announced, ?_⟩
      cases inner : answer.run (opened answered opcode size) with
      | ok result s => exact ⟨result, s, inner⟩
      | error err s =>
          have failed := (run_receive usable announced : (receive opcode answer).run _ = _)
          rw [inner] at failed
          rw [run_withPacket_error failed] at run
          cases run
    · have failed : ∃ err s', (receive opcode answer).run ⟨answered, {}⟩ = .error err s' := by
        rcases Nat.lt_or_ge answered.input.length 4 with short | whole
        · exact run_receive_ended (fun _ => short) empty
        · exact run_receive_refused usable whole (fun size h => announced ⟨size, h⟩)
      obtain ⟨err, s, failed⟩ := failed
      rw [run_withPacket_error failed] at run
      cases run
  · rintro ⟨size, announced, value, s, run⟩
    have returned := (run_receive usable announced : (receive opcode answer).run _ = _)
    rw [run] at returned
    exact ⟨value, _, run_withPacket_ok returned⟩

/-- A request on a stream that is not good sends nothing and throws. -/
theorem request_bad {payload : List UInt8} (bad : ¬ stream.good)
    (empty
      : ∀ s, s.packet.stream = some () → s.packet.remain = 0 →
          ∃ err s', answer.run s = .error err s')
    : ¬ Returns (request opcode payload answer) stream := by
  have unwritten : (PacketHeader.writeTo opcode payload).run stream = .ok () stream := by
    unfold PacketHeader.writeTo
    rw [run_get_bind, if_neg bad]
    rfl
  have unsent : IOStream.flush.run stream = .ok () stream := by
    unfold IOStream.flush
    rw [run_get_bind, if_neg bad]
    rfl
  have failed : ∃ err s', (receive opcode answer).run ⟨stream, {}⟩ = .error err s' :=
    run_receive_ended (fun good => absurd good bad) empty
  obtain ⟨err, s, failed⟩ := failed
  rintro ⟨value, outer, run⟩
  unfold request at run
  rw [run_bind_ok unwritten, run_bind_ok unsent] at run
  change (withPacket (receive opcode answer)).run stream = _ at run
  rw [run_withPacket_error failed] at run
  cases run

/-- A reader that takes bytes throws at an empty packet. -/
theorem Takes.empty {count : Nat} (h : Takes (count + 1) answer) (s : Scope IOStream Unit)
    (attached : s.packet.stream = some ()) (none : s.packet.remain = 0)
    : ∃ err s', answer.run s = .error err s' :=
  h.throws s attached (by omega)

/-- A reader returns where the packet announces all that it takes. -/
theorem Takes.returns_opened {count : Nat} (h : Takes count answer) (size : Nat)
    : Returns answer (opened stream opcode size) ↔ count ≤ size := by
  constructor
  · rintro ⟨value, s', run⟩
    by_contra few
    obtain ⟨err, s, failed⟩ := h.throws (opened stream opcode size) rfl (Nat.lt_of_not_le few)
    rw [failed] at run
    cases run
  · intro enough
    obtain ⟨value, s', run, _⟩ := h.returns (opened stream opcode size) rfl enough
    exact ⟨value, s', run⟩

-----------------------------------------------------------------------------------------
-- The extended status
-----------------------------------------------------------------------------------------

/-- The first byte after the header as a read of it gives it, at the end of the stream too. -/
def firstByte (stream : IOStream) : UInt8 :=
  (stream.input.drop 4).headD (stream.indeterminate 0)

/-- The first byte of a payload, there or not. -/
theorem run_readByte_opened (good : stream.good) {size : Nat} (positive : 1 ≤ size)
    : ∃ s', readByte.run (opened stream opcode size) = .ok (firstByte stream) s'
        ∧ s'.packet.stream = some () ∧ s'.packet.remain = size - 1 := by
  have number : ∃ stream', (IOStream.readLittle 1).run (stream.unread (stream.input.drop 4))
      = .ok (firstByte stream).toNat stream' := by
    unfold firstByte
    cases stream.input.drop 4 with
    | nil =>
        have ended := IOStream.run_readLittle_short
          (show (stream.unread []).good from good)
          (show (stream.unread []).input.length < 1 from Nat.one_pos)
        change _ = EStateM.Result.ok (littleValue [stream.indeterminate 0]) _ at ended
        rw [littleValue_singleton] at ended
        exact ⟨_, ended⟩
    | cons b rest =>
        have next := IOStream.run_readLittle good [b] rest
        rw [littleValue_singleton] at next
        exact ⟨_, next⟩
  obtain ⟨stream', read⟩ := number
  have value : (readInt 1).run (opened stream opcode size)
      = .ok (firstByte stream).toNat
          ⟨stream', { (opened stream opcode size).packet with remain := size - 1 }⟩ := by
    unfold readInt
    rw [run_get_bind,
      if_neg (show ¬ (opened stream opcode size).packet.remain < 1 from Nat.not_lt.mpr positive),
      run_modify_bind]
    exact run_onStream read
  refine ⟨⟨stream', { (opened stream opcode size).packet with remain := size - 1 }⟩, ?_, rfl,
    rfl⟩
  unfold readByte
  rw [run_bind_ok value, UInt8.ofNat_toNat]
  rfl

/-- What `readExtendedStatus` reads after its first byte. -/
theorem takes_extendedStatusRest (basic : BasicStatus)
    : Takes 15 (do
        let changed ← readByte
        let aux ← readByte
        let controller ← readByte
        let paperAvailableBits ← readByte
        let _ ← readByte
        let engine ← readUint16
        let start ← readUint16
        let printing ← readUint16
        let shipped ← readUint16
        let printed ← readUint16
        return ({
          basic := basic
          changed := changed
          aux := aux
          controller := controller
          paperAvailableBits := paperAvailableBits
          engine := engine
          start := start
          printing := printing
          shipped := shipped
          printed := printed
        } : ExtendedStatus)) := by
  refine takes_readByte.bind fun _ => takes_readByte.bind fun _ => takes_readByte.bind fun _ => ?_
  refine takes_readByte.bind fun _ => takes_readByte.bind fun _ => ?_
  refine takes_readUint16.bind fun _ => takes_readUint16.bind fun _ => ?_
  refine takes_readUint16.bind fun _ => takes_readUint16.bind fun _ => ?_
  exact takes_readUint16.bind fun _ => takes_pure _

/-- The extended status is not read from an empty packet. -/
theorem extendedStatus_empty (s : Scope IOStream Unit)
    (attached : s.packet.stream = some ()) (none : s.packet.remain = 0)
    : ∃ err s', readExtendedStatus.run s = .error err s' := by
  obtain ⟨err, s', run⟩ := takes_readByte.throws s attached (by omega)
  exact ⟨err, s', run_bind_error run⟩

/-- The extended status is read unless its first byte reports an error. -/
theorem extendedStatus_opened (good : stream.good) (size : Nat)
    : Returns readExtendedStatus (opened stream opcode size)
      ↔ 16 ≤ size ∧ firstByte stream &&& BasicStatus.errorBit = 0 := by
  rcases Nat.eq_zero_or_pos size with none | positive
  · constructor
    · rintro ⟨value, s', run⟩
      obtain ⟨err, s, failed⟩ := extendedStatus_empty (opened stream opcode size) rfl none
      rw [failed] at run
      cases run
    · rintro ⟨enough, _⟩
      omega
  · obtain ⟨middle, first, attached, left⟩ := @run_readByte_opened opcode stream good size positive
    rw [Returns, readExtendedStatus, run_bind_ok first]
    by_cases error : firstByte stream &&& BasicStatus.errorBit = 0
    · rw [if_neg (not_not_intro error)]
      constructor
      · rintro ⟨value, s', run⟩
        refine ⟨?_, error⟩
        by_contra few
        obtain ⟨err, s, failed⟩ :=
          (takes_extendedStatusRest (firstByte stream)).throws middle attached (by omega)
        rw [failed] at run
        cases run
      · rintro ⟨enough, _⟩
        obtain ⟨value, s', run, _⟩ :=
          (takes_extendedStatusRest (firstByte stream)).returns middle attached (by omega)
        exact ⟨value, s', run⟩
    · rw [if_pos error]
      constructor
      · rintro ⟨value, s', run⟩
        cases run
      · rintro ⟨_, clear⟩
        exact absurd clear error

end Capt.Protocol
