import Libcapt.Core.PacketReader

/-! The two readers of a payload, one in memory and one on a stream, under the same calls.
They part where a number is asked for while some of its bytes are left, but not all.
-/

namespace Capt

open Streams

/-- A read that both readers have. -/
inductive PacketRead where
  | byte
  | uint16
  | uint32
  | bytes (count : Nat)

namespace PacketRead

/-- The bytes that a read takes. -/
def size : PacketRead → Nat
  | byte => 1
  | uint16 => 2
  | uint32 => 4
  | bytes count => count

/-- What the bytes of a read stand for. -/
def value : PacketRead → List UInt8 → PacketValue
  | byte, data => .byte (UInt8.ofNat (littleValue data))
  | uint16, data => .uint16 (UInt16.ofNat (littleValue data))
  | uint32, data => .uint32 (UInt32.ofNat (littleValue data))
  | bytes _, data => .bytes data

/-- The call on a packet. -/
def operation : PacketRead → PacketOperation
  | byte => .readByte
  | uint16 => .readUint16
  | uint32 => .readUint32
  | bytes count => .readBytes count

/-- The call on a reader in memory. -/
def onReader : PacketRead → Action PacketReader PacketValue
  | byte => do
    let value ← PacketReader.readByte
    return .byte value
  | uint16 => do
    let value ← PacketReader.readUint16
    return .uint16 value
  | uint32 => do
    let value ← PacketReader.readUint32
    return .uint32 value
  | bytes count => do
    let value ← PacketReader.readBytes count
    return .bytes value

/-- A number is asked for while some of its bytes are left, but not all. -/
def Torn (left : Nat) : PacketRead → Prop
  | uint16 => 0 < left ∧ left < 2
  | uint32 => 0 < left ∧ left < 4
  | _ => False

/-- The number of bytes that a read leaves, when one that throws takes none. -/
def remaining (read : PacketRead) (left : Nat) : Nat :=
  if read.size ≤ left then left - read.size else left

/-- No call asks for a number while some of its bytes are left, but not all. -/
def Whole : List PacketRead → Nat → Prop
  | [], _ => True
  | read :: reads, left => ¬ read.Torn left ∧ Whole reads (read.remaining left)

/-- What a packet leaves of its payload. -/
def onPacketLeaves (read : PacketRead) (left : List UInt8) : List UInt8 :=
  (read.operation.meaning left).2

/-- What a reader in memory leaves: a number that it cannot read is taken as far as it is
there.
-/
def onReaderLeaves (read : PacketRead) (left : List UInt8) : List UInt8 :=
  match read with
  | uint16 => if 2 ≤ left.length then left.drop 2 else []
  | uint32 => if 4 ≤ left.length then left.drop 4 else []
  | read => read.onPacketLeaves left

variable {read : PacketRead} {left : List UInt8}

/-- What a read means to a packet. -/
theorem meaning_operation
    : read.operation.meaning left = PacketOperation.taking read.size read.value left := by
  cases read <;> rfl

/-- How many bytes a read leaves. -/
theorem length_onPacketLeaves : (read.onPacketLeaves left).length = read.remaining left.length := by
  rw [onPacketLeaves, meaning_operation, PacketOperation.taking, remaining]
  split
  · exact List.length_drop
  · rfl

/-- A read on a packet throws where fewer bytes are left than it needs. -/
theorem throws_iff
    : (∃ err, (read.operation.meaning left).1 = .error err) ↔ left.length < read.size := by
  rw [meaning_operation, PacketOperation.taking]
  split
  · rename_i enough
    exact iff_of_false (by rintro ⟨err, thrown⟩; cases thrown) (Nat.not_lt.mpr enough)
  · rename_i few
    exact iff_of_true ⟨_, rfl⟩ (Nat.lt_of_not_le few)

/-- A torn number is taken by the reader in memory only. -/
theorem onReaderLeaves_torn (torn : read.Torn left.length)
    : read.onReaderLeaves left = [] ∧ 0 < left.length ∧ left.length < read.size := by
  cases read with
  | byte | bytes _ => exact torn.elim
  | uint16 | uint32 => exact ⟨if_neg (Nat.not_le.mpr torn.2), torn⟩

/-- At the end of the payload there is nothing of a number to take. -/
theorem onReaderLeaves_whole (whole : ¬ read.Torn left.length)
    : read.onReaderLeaves left = read.onPacketLeaves left := by
  cases read with
  | byte | bytes _ => rfl
  | uint16 | uint32 =>
      simp only [Torn, not_and, Nat.not_lt] at whole
      simp only [onReaderLeaves, onPacketLeaves, operation, PacketOperation.meaning,
        PacketOperation.taking]
      split
      · rfl
      · rename_i few
        have none : left.length = 0 := by
          by_contra some
          exact few (whole (Nat.pos_of_ne_zero some))
        exact (List.eq_nil_of_length_eq_zero none).symm

variable {this : PacketReader}

/-- A number of the reader in memory, by the bytes that it is put together from. -/
theorem run_number {α : Type} {number : Action PacketReader α} {count : Nat}
    {convert : List UInt8 → α}
    (same
      : number = do
          let bytes ← PacketReader.takeBytes count
          return convert bytes)
    (value : α → PacketValue)
    : ∃ this',
        (attempt (do
            let number ← number
            return value number)).run this
          = .ok (PacketOperation.taking count (fun bytes => value (convert bytes)) this.left).1
              this'
        ∧ this'.left = if count ≤ this.left.length then this.left.drop count else [] := by
  unfold PacketOperation.taking
  by_cases enough : count ≤ this.left.length
  · obtain ⟨this', run, after⟩ := PacketReader.run_takeBytes enough
    rw [if_pos enough, if_pos enough, same]
    exact ⟨this', run_attempt_ok (run_bind_ok (run_bind_ok run)), after⟩
  · obtain ⟨this', run, after⟩ := PacketReader.run_takeBytes_past (Nat.lt_of_not_le enough)
    rw [if_neg enough, if_neg enough, same]
    exact ⟨this', run_attempt_error (run_bind_error (run_bind_error run)), after⟩

/-- Each call on a reader in memory gives what it gives on a packet. -/
theorem run_onReader (read : PacketRead)
    : ∃ this', (attempt read.onReader).run this = .ok (read.operation.meaning this.left).1 this'
        ∧ this'.left = read.onReaderLeaves this.left := by
  cases read with
  | byte =>
      simp only [onReader, operation, onReaderLeaves, onPacketLeaves, PacketOperation.meaning,
        PacketOperation.taking]
      cases h : this.left with
      | nil =>
          have run := PacketReader.run_readByte_nil h
          exact ⟨this, run_attempt_error (run_bind_error run), h⟩
      | cons b rest =>
          obtain ⟨this', run, after⟩ := PacketReader.run_readByte_cons h
          refine ⟨this', ?_, after⟩
          have value : UInt8.ofNat (littleValue [b]) = b := by
            rw [littleValue_singleton, UInt8.ofNat_toNat]
          simp only [List.length_cons, Nat.le_add_left, ↓reduceIte, List.take_succ_cons,
            List.take_zero, value]
          exact run_attempt_ok (run_bind_ok run)
  | uint16 => exact run_number PacketReader.readUint16_eq .uint16
  | uint32 => exact run_number PacketReader.readUint32_eq .uint32
  | bytes count =>
      simp only [onReader, operation, onReaderLeaves, onPacketLeaves, PacketOperation.meaning,
        PacketOperation.taking]
      by_cases enough : count ≤ this.left.length
      · obtain ⟨this', run, after⟩ := PacketReader.run_readBytes enough
        rw [if_pos enough]
        exact ⟨this', run_attempt_ok (run_bind_ok run), after⟩
      · have run := PacketReader.run_readBytes_past (Nat.lt_of_not_le enough)
        rw [if_neg enough]
        exact ⟨this, run_attempt_error (run_bind_error run), rfl⟩

end PacketRead

-----------------------------------------------------------------------------------------
-- Sequences of calls
-----------------------------------------------------------------------------------------

/-- A call as its caller sees it: what it gave or threw, and the number of bytes that were
left before it and after it.
-/
structure ReadCall where
  outcome : Except Fault PacketValue
  before : Nat
  after : Nat

/-- If the call threw, it took nothing. -/
def ReadCall.Keeps (this : ReadCall) : Prop :=
  ∀ err, this.outcome = .error err → this.after = this.before

/-- Calls one after another, where the caller goes on after an exception. -/
def readCalls {σ : Type} (remain : σ → Nat) (perform : PacketRead → Action σ PacketValue)
    : List PacketRead → Action σ (List ReadCall)
  | [] => return []
  | read :: reads => do
    let before ← get
    let outcome ← attempt (perform read)
    let after ← get
    let others ← readCalls remain perform reads
    return ⟨outcome, remain before, remain after⟩ :: others

/-- What is seen of the calls by what each of them leaves of the payload. -/
def callsOn (leaves : PacketRead → List UInt8 → List UInt8)
    : List PacketRead → List UInt8 → List ReadCall
  | [], _ => []
  | read :: reads, left =>
    ⟨(read.operation.meaning left).1, left.length, (leaves read left).length⟩
      :: callsOn leaves reads (leaves read left)

/-- Calls are made one by one, by induction on them. -/
theorem run_readCalls {σ : Type} {remain : σ → Nat} {perform : PacketRead → Action σ PacketValue}
    {leaves : PacketRead → List UInt8 → List UInt8} {R : σ → List UInt8 → Prop}
    (counts : ∀ s left, R s left → remain s = left.length)
    (step
      : ∀ s left read, R s left →
          ∃ s', (attempt (perform read)).run s = .ok (read.operation.meaning left).1 s'
            ∧ R s' (leaves read left))
    (reads : List PacketRead) {s : σ} {left : List UInt8} (h : R s left)
    : ∃ s', (readCalls remain perform reads).run s = .ok (callsOn leaves reads left) s' := by
  induction reads generalizing s left with
  | nil => exact ⟨s, rfl⟩
  | cons read reads ih =>
      obtain ⟨middle, run, next⟩ := step s left read h
      obtain ⟨s', others⟩ := ih next
      refine ⟨s', ?_⟩
      rw [readCalls, run_get_bind, run_bind_ok run, run_get_bind, run_bind_ok others,
        counts s left h, counts middle _ next]
      rfl

/-- The calls on a reader in memory. -/
def callsOnReader (reads : List PacketRead) : Action PacketReader (List ReadCall) :=
  readCalls (fun this => this.left.length) PacketRead.onReader reads

/-- The calls on a packet that is first read from its stream. -/
def callsOnPacket (reads : List PacketRead) : Action (Scope IOStream Unit) (List ReadCall) := do
  StreamPacket.extract ()
  readCalls (fun s => s.packet.remain) (fun read => read.operation.perform) reads

/-- Every sequence of calls runs on the reader. -/
theorem run_callsOnReader (reads : List PacketRead) (payload : List UInt8)
    : ∃ this, (callsOnReader reads).run { payload := payload }
        = .ok (callsOn PacketRead.onReaderLeaves reads payload) this := by
  apply @run_readCalls _ _ _ _ fun this left => this.left = left
  · rintro this _ rfl
    rfl
  · rintro this _ read rfl
    exact PacketRead.run_onReader read
  · rfl

/-- Every sequence of calls runs on the packet. -/
theorem run_callsOnPacket {stream : IOStream} (good : stream.good) (reads : List PacketRead)
    {payload : List UInt8} (fits : payload.length ≤ 65531) (opcode : UInt16)
    (rest : List UInt8)
    : ∃ s, (callsOnPacket reads).run
          ⟨stream.unread (PacketHeader.frame opcode payload ++ rest), {}⟩
        = .ok (callsOn PacketRead.onPacketLeaves reads payload) s := by
  have performed : ∃ s,
      (readCalls (fun s => s.packet.remain) (fun read => read.operation.perform) reads).run
          (StreamPacket.reading stream ⟨opcode, UInt16.ofNat payload.length⟩ payload rest)
        = .ok (callsOn PacketRead.onPacketLeaves reads payload) s := by
    apply @run_readCalls _ _ _ _ fun s left =>
      s = StreamPacket.reading stream ⟨opcode, UInt16.ofNat payload.length⟩ left rest
    · rintro s left rfl
      rfl
    · rintro s left read rfl
      exact ⟨_, PacketOperation.run_perform good read.operation, rfl⟩
    · rfl
  obtain ⟨s, performed⟩ := performed
  refine ⟨s, ?_⟩
  unfold callsOnPacket
  rw [run_bind_ok (StreamPacket.run_extract_first good fits), performed]

/-- The calls give or throw the same, and none that throws takes anything. -/
def Matching (mine other : List ReadCall) : Prop :=
  mine.map ReadCall.outcome = other.map ReadCall.outcome
    ∧ ∀ call ∈ mine ++ other, call.Keeps

/-- The same call in front of both, where it took nothing if it threw. -/
theorem matching_cons {call : ReadCall} {calls others : List ReadCall} (keeps : call.Keeps)
    : Matching (call :: calls) (call :: others) ↔ Matching calls others := by
  simp only [Matching, List.map_cons, List.cons.injEq, true_and]
  refine and_congr_right fun _ => ?_
  constructor
  · intro all other member
    apply all other
    rcases List.mem_append.mp member with mine | its
    · exact List.mem_append_left _ (List.mem_cons_of_mem _ mine)
    · exact List.mem_append_right _ (List.mem_cons_of_mem _ its)
  · intro all other member
    rcases List.mem_append.mp member with mine | its
    · rcases List.mem_cons.mp mine with rfl | mine
      · exact keeps
      · exact all other (List.mem_append_left _ mine)
    · rcases List.mem_cons.mp its with rfl | its
      · exact keeps
      · exact all other (List.mem_append_right _ its)

/-- A call on a packet that throws takes nothing. -/
theorem PacketRead.keeps_onPacket (read : PacketRead) (left : List UInt8)
    : ReadCall.Keeps
        ⟨(read.operation.meaning left).1, left.length, (read.onPacketLeaves left).length⟩ := by
  intro err thrown
  have few := PacketRead.throws_iff.mp ⟨err, thrown⟩
  rw [PacketRead.length_onPacketLeaves, PacketRead.remaining, if_neg (Nat.not_le.mpr few)]

/-- The readers are at the same byte as long as no number is torn, by induction on the
calls.
-/
theorem matching_callsOn (reads : List PacketRead) (left : List UInt8)
    : Matching (callsOn PacketRead.onReaderLeaves reads left)
        (callsOn PacketRead.onPacketLeaves reads left)
      ↔ PacketRead.Whole reads left.length := by
  induction reads generalizing left with
  | nil => exact iff_of_true ⟨rfl, by simp [callsOn]⟩ trivial
  | cons read reads ih =>
      rw [PacketRead.Whole, callsOn, callsOn]
      by_cases torn : read.Torn left.length
      · refine iff_of_false ?_ (fun whole => whole.1 torn)
        rintro ⟨_, keeps⟩
        obtain ⟨nothing, some, few⟩ := PacketRead.onReaderLeaves_torn torn
        obtain ⟨err, thrown⟩ := PacketRead.throws_iff.mpr few
        have kept := keeps _ (List.mem_append_left _ List.mem_cons_self) err thrown
        rw [nothing] at kept
        exact absurd kept (Nat.ne_of_lt some)
      · rw [PacketRead.onReaderLeaves_whole torn,
          matching_cons (read.keeps_onPacket left), ih, PacketRead.length_onPacketLeaves]
        exact (and_iff_right torn).symm

/-- The two readers give the same for the calls. -/
def Agree (reads : List PacketRead) (payload : List UInt8) (stream : IOStream) (opcode : UInt16)
    (rest : List UInt8)
    : Prop :=
  ∃ mine other this s,
    (callsOnReader reads).run { payload := payload } = .ok mine this
    ∧ (callsOnPacket reads).run ⟨stream.unread (PacketHeader.frame opcode payload ++ rest), {}⟩
      = .ok other s
    ∧ Matching mine other

/-- Both agree where their calls match. -/
theorem agree_iff_matching {reads : List PacketRead} {payload : List UInt8} {stream : IOStream}
    {opcode : UInt16} {rest : List UInt8} (good : stream.good) (fits : payload.length ≤ 65531)
    : Agree reads payload stream opcode rest
      ↔ Matching (callsOn PacketRead.onReaderLeaves reads payload)
          (callsOn PacketRead.onPacketLeaves reads payload) := by
  obtain ⟨this, inMemory⟩ := run_callsOnReader reads payload
  obtain ⟨s, onStream⟩ := run_callsOnPacket good reads fits opcode rest
  constructor
  · rintro ⟨mine, other, _, _, first, second, matching⟩
    cases inMemory.symm.trans first
    cases onStream.symm.trans second
    exact matching
  · intro matching
    exact ⟨_, _, this, s, inMemory, onStream, matching⟩

/-- The readers give the same values, throw at the same calls and take nothing then, unless
a number is asked for while some of its bytes are left, but not all.
-/
theorem readers_agree (reads : List PacketRead) (payload : List UInt8)
    (fits : payload.length ≤ 65531) {stream : IOStream} (good : stream.good) (opcode : UInt16)
    (rest : List UInt8)
    : Agree reads payload stream opcode rest ↔ PacketRead.Whole reads payload.length :=
  (agree_iff_matching good fits).trans (matching_callsOn reads payload)

/-- A number, a byte behind it, and a number where nothing is left. -/
theorem readers_agree_threeBytes
    : Agree [.uint16, .byte, .uint16] [1, 2, 3] {} 0xA0A0 []
      ↔ PacketRead.Whole [.uint16, .byte, .uint16] 3 :=
  readers_agree [.uint16, .byte, .uint16] [1, 2, 3] (by decide) rfl 0xA0A0 []

/-- One byte, of which a 16-bit number is read and then the byte. -/
theorem readers_part
    : ¬ ∀ (reads : List PacketRead) (payload : List UInt8), payload.length ≤ 65531 →
          ∀ stream : IOStream, stream.good → ∀ opcode rest,
            Agree reads payload stream opcode rest := by
  intro agree
  have matching := (agree_iff_matching rfl (by decide)).mp
    (agree [.uint16, .byte] [1] (by decide) {} rfl 0xA0A0 [])
  cases matching.1

end Capt
