import Libcapt.Core.StreamPacket

/-! What an extraction leaves of a packet, whatever the packet was before and whatever the
stream has. A header that is not complete or not possible is taken in part.
-/

namespace Capt

open Streams

namespace StreamPacket

variable {ρ : Type} [DecidableEq ρ]

/-- Skipping never fails, however little is left. -/
theorem run_skip_any (count : Nat) (stream : IOStream)
    : (skip count).run stream = .ok () (stream.unread (stream.input.drop count)) := by
  induction count generalizing stream with
  | zero => rfl
  | succ count ih =>
      have taken : IOStream.sbumpc.run stream
          = .ok stream.input.head? (stream.unread stream.input.tail) := rfl
      rw [skip, run_bind_ok taken, ih, ← List.drop_tail]
      rfl

/-- The streams once the unread bytes of a packet were skipped. -/
def skipped (streams : ρ → IOStream) (packet : StreamPacket ρ) : ρ → IOStream :=
  match packet.stream with
  | none => streams
  | some r =>
    if (streams r).good then
      Function.update streams r ((streams r).unread ((streams r).input.drop packet.remain))
    else streams

/-- An empty packet has nothing to skip. -/
theorem skipped_none (streams : ρ → IOStream) {packet : StreamPacket ρ}
    (none : packet.remain = 0)
    : skipped streams packet = streams := by
  unfold skipped
  cases packet.stream with
  | none => rfl
  | some r =>
      dsimp only
      split
      · rw [none, List.drop_zero]
        exact Function.update_eq_self r streams
      · rfl

/-- Discarding skips the unread bytes if the stream is good, and there are none then. -/
theorem run_discard_any (streams : ρ → IOStream) (packet : StreamPacket ρ)
    : discard.run ⟨streams, packet⟩
      = .ok () ⟨skipped streams packet, { packet with remain := 0 }⟩ := by
  unfold discard
  rw [run_get_bind]
  by_cases none : packet.remain = 0
  · rw [if_pos none, skipped_none streams none]
    cases packet
    cases none
    rfl
  · rw [if_neg none]
    unfold skipped
    obtain ⟨source, remain, header⟩ := packet
    cases source with
    | none => rfl
    | some r =>
        dsimp only
        by_cases good : (streams r).good
        · have taken : (onStream r (skip remain)).run
              (⟨streams, ⟨some r, remain, header⟩⟩ : Scope (ρ → IOStream) ρ)
              = .ok () ⟨Function.update streams r
                  ((streams r).unread ((streams r).input.drop remain)),
                ⟨some r, remain, header⟩⟩ := by
            unfold onStream
            exact run_zoom_ok (run_skip_any remain (streams r))
          change EStateM.run (do
            if (streams r).good then onStream r (skip remain)
            modify (setRemain 0)) _ = _
          rw [if_pos good, if_pos good, run_bind_ok taken]
          rfl
        · change EStateM.run (do
            if (streams r).good then onStream r (skip remain)
            modify (setRemain 0)) _ = _
          rw [if_neg good, if_neg good]
          rfl

/-- The part of `operator>>` that follows the discarding. -/
def takeHeader (r : ρ) : Action (Scope (ρ → IOStream) ρ) Unit := do
  onHeader r PacketHeader.extract
  modify fun s => {
    s with
    packet := { s.packet with remain := s.packet.header.payloadSize.toNat, stream := some r }
  }

/-- Extraction discards the old packet and takes the next header. -/
theorem run_extract_eq (r : ρ) (streams : ρ → IOStream) (packet : StreamPacket ρ)
    : (extract r).run ⟨streams, packet⟩
      = (takeHeader r).run ⟨skipped streams packet, { packet with remain := 0 }⟩ := by
  change (discard >>= fun _ => takeHeader r).run _ = _
  rw [run_bind_ok (run_discard_any streams packet)]

variable {streams : ρ → IOStream} {packet : StreamPacket ρ} {r : ρ} {stream' : IOStream}
  {header' : PacketHeader}

/-- A header that is read. -/
theorem run_takeHeader
    (read : PacketHeader.extract.run (streams r, packet.header) = .ok () (stream', header'))
    : (takeHeader r).run ⟨streams, packet⟩
      = .ok () ⟨Function.update streams r stream', construct r header'⟩ := by
  have header : (onHeader r PacketHeader.extract).run
      (⟨streams, packet⟩ : Scope (ρ → IOStream) ρ)
      = .ok () ⟨Function.update streams r stream', { packet with header := header' }⟩ := by
    unfold onHeader
    exact @run_zoom_ok _ _ _ _
      (fun s : Scope (ρ → IOStream) ρ => (HasStreams.stream r s.outer, s.packet.header)) _ _
      ⟨streams, packet⟩ _ _ read
  unfold takeHeader
  rw [run_bind_ok header]
  rfl

/-- A header that is refused. -/
theorem run_takeHeader_error {err : Fault}
    (read
      : PacketHeader.extract.run (streams r, packet.header) = .error err (stream', header'))
    : (takeHeader r).run ⟨streams, packet⟩
      = .error err ⟨Function.update streams r stream', { packet with header := header' }⟩ := by
  unfold takeHeader
  apply run_bind_error
  unfold onHeader
  exact @run_zoom_error _ _ _ _
    (fun s : Scope (ρ → IOStream) ρ => (HasStreams.stream r s.outer, s.packet.header)) _ _
    ⟨streams, packet⟩ _ _ read

-----------------------------------------------------------------------------------------
-- Failed extractions
-----------------------------------------------------------------------------------------

/-- A packet takes all of its data from a valid header, and without one it owns nothing and
has the header that it had.
-/
def Whole (streams : ρ → IOStream) (packet : StreamPacket ρ) (r : ρ) : Prop :=
  (PacketHeader.Valid (skipped streams packet r) →
    ∃ s, (extract r).run ⟨streams, packet⟩ = .ok () s
      ∧ s.packet.header = PacketHeader.announced (skipped streams packet r)
      ∧ s.packet.remain = s.packet.header.payloadSize.toNat)
  ∧ (¬ PacketHeader.Valid (skipped streams packet r) →
    (after ((extract r).run ⟨streams, packet⟩)).packet.remain = 0
    ∧ (after ((extract r).run ⟨streams, packet⟩)).packet.header = packet.header)

/-- An extraction without a valid header stores what it has of an opcode. -/
theorem header_same_iff (header : PacketHeader) (opcode : UInt16)
    : { header with opcode := opcode } = header ↔ opcode = header.opcode := by
  constructor
  · intro same
    exact congrArg PacketHeader.opcode same
  · rintro rfl
    rfl

/-- With the memory that the streams have, an extraction keeps a packet whole if and only if it
finds a valid header, or the opcode that it stores is the one that the packet had, and either the
announced size is refused or the packet had announced nothing.
-/
theorem whole_iff (streams : ρ → IOStream) (packet : StreamPacket ρ) (r : ρ)
    : Whole streams packet r
      ↔ PacketHeader.Valid (skipped streams packet r)
        ∨ (UInt16.ofNat ((skipped streams packet r).number 2) = packet.header.opcode
          ∧ (PacketHeader.Impossible (skipped streams packet r)
            ∨ packet.header.payloadSize = 0)) := by
  unfold Whole
  rw [run_extract_eq]
  generalize skipped streams packet = found
  by_cases complete : PacketHeader.Complete (found r)
  · by_cases possible : 4 ≤ PacketHeader.size (found r)
    · have valid : PacketHeader.Valid (found r) := ⟨complete, possible⟩
      have read := PacketHeader.run_extract_valid valid packet.header
      have taken : (takeHeader r).run ⟨found, { packet with remain := 0 }⟩
          = .ok () ⟨_, construct r (PacketHeader.announced (found r))⟩ := run_takeHeader read
      refine iff_of_true ⟨fun _ => ⟨_, taken, rfl, rfl⟩, fun invalid => ?_⟩ (.inl valid)
      exact absurd valid invalid
    · have refused : PacketHeader.Impossible (found r) := ⟨complete, Nat.lt_of_not_le possible⟩
      have invalid : ¬ PacketHeader.Valid (found r) := fun valid => possible valid.2
      obtain ⟨stream', read⟩ := PacketHeader.run_extract_refused refused packet.header
      have thrown : (takeHeader r).run ⟨found, { packet with remain := 0 }⟩ = _ :=
        run_takeHeader_error read
      rw [thrown]
      simp only [invalid, refused, after, header_same_iff, not_false_eq_true, false_implies,
        true_implies, true_and, true_or, and_true, false_or]
  · have invalid : ¬ PacketHeader.Valid (found r) := fun valid => complete valid.1
    have unrefused : ¬ PacketHeader.Impossible (found r) := fun refused => complete refused.1
    obtain ⟨stream', read⟩ := PacketHeader.run_extract_incomplete complete packet.header
    have taken : (takeHeader r).run ⟨found, { packet with remain := 0 }⟩ = _ :=
      run_takeHeader read
    have none : packet.header.payloadSize.toNat = 0 ↔ packet.header.payloadSize = 0 :=
      UInt16.toNat_inj (b := 0)
    rw [taken]
    simp only [invalid, unrefused, after, construct, header_same_iff, not_false_eq_true,
      false_implies, true_implies, true_and, false_or, none]
    exact and_comm

-----------------------------------------------------------------------------------------
-- Whatever the memory holds
-----------------------------------------------------------------------------------------

/-- The streams with other bytes in the memory that no read has filled. -/
def withMemory (memory : ρ → Nat → UInt8) (streams : ρ → IOStream) : ρ → IOStream :=
  fun r => { streams r with indeterminate := memory r }

/-- An extraction keeps the packet whole whatever that memory holds. -/
def AlwaysWhole (streams : ρ → IOStream) (packet : StreamPacket ρ) (r : ρ) : Prop :=
  ∀ memory, Whole (withMemory memory streams) packet r

/-- What is read from the stream as an opcode is this one: no part of it is missing, or the stream
is not looked at and gives zero.
-/
def Gives (stream : IOStream) (opcode : UInt16) : Prop :=
  if stream.good then
    2 ≤ stream.input.length ∧ UInt16.ofNat (littleValue (stream.input.take 2)) = opcode
  else opcode = 0

/-- Skipping does not depend on the memory. -/
theorem skipped_withMemory (memory : ρ → Nat → UInt8) (streams : ρ → IOStream)
    (packet : StreamPacket ρ)
    : skipped (withMemory memory streams) packet = withMemory memory (skipped streams packet) := by
  unfold skipped
  cases packet.stream with
  | none => rfl
  | some r =>
      by_cases good : (streams r).good
      · have same : (withMemory memory streams r).good := good
        simp only [good, same, if_true]
        funext other
        by_cases here : other = r
        · cases here
          simp [withMemory, IOStream.unread]
        · simp [withMemory, here]
      · have same : ¬ (withMemory memory streams r).good := good
        simp only [good, same, Bool.false_eq_true, if_false]

/-- Where bytes of an opcode are missing two memories give two opcodes. -/
theorem opcode_of_memory {bytes : List UInt8} (short : bytes.length < 2)
    : UInt16.ofNat (littleValue (bytes ++ ((List.range 2).drop bytes.length).map fun _ => 0))
      ≠ UInt16.ofNat
          (littleValue (bytes ++ ((List.range 2).drop bytes.length).map fun _ => 1)) := by
  match bytes, short with
  | [], _ => decide
  | [b], _ =>
    intro same
    have values := congrArg UInt16.toNat same
    have small := b.toNat_lt
    simp [littleValue_cons, littleValue_nil] at values
    omega

/-- An opcode is read the same whatever the memory holds if and only if no part of it is missing. -/
theorem gives_iff (stream : IOStream) (opcode : UInt16)
    : (∀ memory, UInt16.ofNat ({ stream with indeterminate := memory }.number 2) = opcode)
      ↔ Gives stream opcode := by
  unfold Gives
  by_cases good : stream.good
  · rw [if_pos good]
    constructor
    · intro always
      by_cases short : stream.input.length < 2
      · have zeros := always fun _ => 0
        have ones := always fun _ => 1
        simp only [IOStream.number, good, if_true, IOStream.memory,
          List.take_of_length_le (Nat.le_of_lt short)] at zeros ones
        exact absurd (zeros.trans ones.symm) (opcode_of_memory short)
      · have whole : 2 ≤ stream.input.length := Nat.le_of_not_lt short
        refine ⟨whole, ?_⟩
        rw [← always stream.indeterminate]
        exact congrArg UInt16.ofNat (IOStream.number_whole good whole).symm
    · rintro ⟨whole, same⟩ memory
      rw [← same]
      apply congrArg UInt16.ofNat
      exact @IOStream.number_whole { stream with indeterminate := memory } 2 good whole
  · have zero : ∀ memory, UInt16.ofNat ({ stream with indeterminate := memory }.number 2) = 0 :=
      fun _ => congrArg UInt16.ofNat (if_neg good)
    rw [if_neg good]
    constructor
    · intro always
      exact (always stream.indeterminate).symm.trans (zero _)
    · rintro rfl memory
      exact zero memory

/-- Whatever the memory holds, an extraction keeps a packet whole if and only if it finds a valid
header, or the opcode that it stores is given and is the one that the packet had, and either the
announced size is refused or the packet had announced nothing.
-/
theorem extract_whole_iff (streams : ρ → IOStream) (packet : StreamPacket ρ) (r : ρ)
    : AlwaysWhole streams packet r
      ↔ PacketHeader.Valid (skipped streams packet r)
        ∨ (Gives (skipped streams packet r) packet.header.opcode
          ∧ (PacketHeader.Impossible (skipped streams packet r)
            ∨ packet.header.payloadSize = 0)) := by
  -- a header is complete and possible, or not, whatever the memory holds
  have each : ∀ memory, Whole (withMemory memory streams) packet r
      ↔ PacketHeader.Valid (skipped streams packet r)
        ∨ (UInt16.ofNat
              ({ skipped streams packet r with indeterminate := memory r }.number 2)
            = packet.header.opcode
          ∧ (PacketHeader.Impossible (skipped streams packet r)
            ∨ packet.header.payloadSize = 0)) := by
    intro memory
    rw [whole_iff, skipped_withMemory]
    rfl
  simp only [AlwaysWhole, each, ← gives_iff]
  constructor
  · intro always
    by_cases valid : PacketHeader.Valid (skipped streams packet r)
    · exact .inl valid
    · have stored := fun memory => (always memory).resolve_left valid
      exact .inr ⟨fun memory => (stored fun _ => memory).1, (stored fun _ _ => 0).2⟩
  · rintro (valid | ⟨same, kept⟩) memory
    · exact .inl valid
    · exact .inr ⟨same (memory r), kept⟩

/-- Three bytes are read into a new packet. -/
theorem extract_partial
    : ¬ ∀ (streams : Unit → IOStream) (packet : StreamPacket Unit) (r : Unit),
          Whole streams packet r := by
  intro whole
  have stored := (whole (fun _ => { input := [1, 2, 3] }) {} ()).2 (fun valid => by
    have four := valid.1.2
    exact absurd four (by decide))
  cases stored.2

end StreamPacket

end Capt
