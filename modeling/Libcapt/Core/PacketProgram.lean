import Libcapt.Core.PacketExtraction
import Libcapt.Core.PacketOwnership

/-! Everything that a program can do with its packets, and what a step that reads keeps. -/

namespace Capt

open Streams

/-- A program's streams, and its packets by their names. A name need not have a packet. -/
structure PacketProgram (ρ ι : Type) where
  streams : ρ → IOStream
  packets : ι → Option (StreamPacket ρ)

/-- What a program does with a packet. `operator>>` is `discard` and then `takeHeader`. A
packet is constructed from a header that it reads first, or from one that announces nothing.
-/
inductive PacketStep (ρ ι : Type) where
  | create (i : ι)
  | construct (i : ι) (r : ρ) (header : PacketHeader)
  | receive (i : ι) (r : ρ)
  | discard (i : ι)
  | takeHeader (i : ι) (r : ρ)
  | readInt (i : ι) (size : Nat)
  | readBytes (i : ι) (n : Nat)
  | moveConstruct (i other : ι)
  | moveAssign (i other : ι)
  | destroy (i : ι)

variable {ρ ι : Type} [DecidableEq ρ] [DecidableEq ι]

namespace PacketProgram

/-- The program after an operation on one of its packets. -/
def onPacket {α : Type} (this : PacketProgram ρ ι) (i : ι)
    (action : Action (Scope (ρ → IOStream) ρ) α)
    : PacketProgram ρ ι :=
  match this.packets i with
  | none => this
  | some packet =>
    let s := after (action.run ⟨this.streams, packet⟩)
    { streams := s.outer, packets := Function.update this.packets i (some s.packet) }

/-- The program with another packet at a name, or with none. -/
def put (this : PacketProgram ρ ι) (i : ι) (packet : Option (StreamPacket ρ))
    : PacketProgram ρ ι :=
  { this with packets := Function.update this.packets i packet }

omit [DecidableEq ρ] in
/-- Without a packet there is nothing to do. -/
theorem onPacket_none {this : PacketProgram ρ ι} {i : ι} (at' : this.packets i = none) {α : Type}
    (action : Action (Scope (ρ → IOStream) ρ) α)
    : this.onPacket i action = this := by
  unfold onPacket
  rw [at']

omit [DecidableEq ρ] in
/-- What is done with a packet, put back where it was. -/
theorem onPacket_some {this : PacketProgram ρ ι} {i : ι} {packet : StreamPacket ρ}
    (at' : this.packets i = some packet) {α : Type}
    (action : Action (Scope (ρ → IOStream) ρ) α)
    : this.onPacket i action
      = {
          streams := (after (action.run ⟨this.streams, packet⟩)).outer
          packets :=
            Function.update this.packets i
              (some (after (action.run ⟨this.streams, packet⟩)).packet)
        } := by
  unfold onPacket
  rw [at']

end PacketProgram

/-- The program after a step. -/
def PacketStep.perform (this : PacketProgram ρ ι) : PacketStep ρ ι → PacketProgram ρ ι
  | create i => this.put i (some {})
  | construct i r header => this.put i (some (StreamPacket.construct r header))
  | receive i r =>
    match PacketHeader.extract.run (this.streams r, {}) with
    | .ok _ (stream, header) =>
      {
        streams := Function.update this.streams r stream
        packets := Function.update this.packets i (some (StreamPacket.construct r header))
      }
    | .error _ (stream, _) => { this with streams := Function.update this.streams r stream }
  | discard i => this.onPacket i StreamPacket.discard
  | takeHeader i r => this.onPacket i (StreamPacket.takeHeader r)
  | readInt i size => this.onPacket i (StreamPacket.readInt size)
  | readBytes i n => this.onPacket i (StreamPacket.readBytes n)
  | moveConstruct i other =>
    match this.packets other with
    | none => this
    | some packet =>
      (this.put i (some packet.moved.1)).put other (some packet.moved.2)
  | moveAssign i other =>
    match this.packets i, this.packets other with
    | some target, some packet =>
      (this.put i (some (target.moveAssign packet).1)).put other
        (some (target.moveAssign packet).2)
    | _, _ => this
  | destroy i => (this.onPacket i StreamPacket.discard).put i none

/-- The bytes of a stream that a packet has still to read. -/
def ownedBy (r : ρ) : Option (StreamPacket ρ) → Nat
  | some packet => if packet.stream = some r then packet.remain else 0
  | none => 0

namespace PacketProgram

/-- How many bytes of a stream each packet owns. -/
def owned (this : PacketProgram ρ ι) (r : ρ) : ι → Nat := ownedBy r ∘ this.packets

/-- Everything owned before is owned still, or its stream is at the end of its packet. -/
def Keeps (this next : PacketProgram ρ ι) : Prop :=
  ∀ r, Kept (this.streams r) (this.owned r) (next.streams r) (next.owned r)

/-- Who has bytes to read has a stream. -/
def Attached (packet : Option (StreamPacket ρ)) : Prop :=
  ∀ p, packet = some p → p.remain ≠ 0 → p.stream ≠ none

/-- The streams are within packets, and their owners are attached to them. -/
structure Orderly (this : PacketProgram ρ ι) : Prop where
  held : ∀ r, Held (this.streams r) (this.owned r)
  attached : ∀ i, Attached (this.packets i)

variable {this : PacketProgram ρ ι} {i : ι} {r : ρ}

/-- Putting a packet changes only what that one owns. -/
theorem owned_put (packet : Option (StreamPacket ρ))
    : (this.put i packet).owned r = Function.update (this.owned r) i (ownedBy r packet) :=
  Function.comp_update ..

omit [DecidableEq ρ] in
/-- Every packet stays attached when one that is attached is put among them. -/
theorem attached_update {packets : ι → Option (StreamPacket ρ)} (h : ∀ i, Attached (packets i))
    {packet : Option (StreamPacket ρ)} (attached : Attached packet) (j : ι)
    : Attached (Function.update packets i packet j) := by
  rw [Function.update_apply]
  split
  · exact attached
  · exact h j

omit [DecidableEq ρ] in
/-- An empty packet is attached, to nothing. -/
theorem attached_empty {packet : StreamPacket ρ} (none : packet.remain = 0)
    : Attached (some packet) := by
  rintro _ ⟨⟩ some
  exact absurd none some

omit [DecidableEq ρ] in
/-- A packet with a stream is attached. -/
theorem attached_some {packet : StreamPacket ρ} (source : packet.stream = some r)
    : Attached (some packet) := by
  rintro _ ⟨⟩ _ none
  cases source.symm.trans none

/-- An empty packet owns nothing. -/
theorem ownedBy_empty (r : ρ) {packet : StreamPacket ρ} (none : packet.remain = 0)
    : ownedBy r (some packet) = 0 := by
  rw [ownedBy, none, ite_self]

/-- A packet owns nothing of a stream that is not its own. -/
theorem ownedBy_other {packet : StreamPacket ρ} {r' : ρ} (source : packet.stream = some r)
    (other : r' ≠ r)
    : ownedBy r' (some packet) = 0 :=
  if_neg fun same => other (Option.some.inj (same.symm.trans source))

omit [DecidableEq ι] in
/-- What the packet at a place owns. -/
theorem owned_eq {packet : Option (StreamPacket ρ)} (at' : this.packets i = packet) (r : ρ)
    : this.owned r i = ownedBy r packet := by
  rw [← at']
  rfl

/-- The packet at a name is replaced by one that owns the same. -/
theorem Orderly.put (h : this.Orderly) {packet : Option (StreamPacket ρ)}
    (same : ∀ r, ownedBy r packet = this.owned r i) (attached : Attached packet)
    : (this.put i packet).Orderly ∧ ∀ r, (this.put i packet).owned r = this.owned r := by
  have owned : ∀ r, (this.put i packet).owned r = this.owned r := by
    intro r
    rw [owned_put, same]
    exact Function.update_eq_self i _
  refine ⟨⟨fun r => ?_, attached_update h.attached attached⟩, owned⟩
  rw [owned r]
  exact h.held r

/-- Putting a packet that owns the same keeps the program orderly. -/
theorem Orderly.keeps_put (h : this.Orderly) {packet : Option (StreamPacket ρ)}
    (same : ∀ r, ownedBy r packet = this.owned r i) (attached : Attached packet)
    : (this.put i packet).Orderly ∧ this.Keeps (this.put i packet) := by
  obtain ⟨orderly, owned⟩ := h.put same attached
  refine ⟨orderly, fun r => ?_⟩
  rw [owned r]
  exact kept_refl _ _

/-- A stream and the packet that owns bytes of it are replaced together. -/
theorem Orderly.replace (h : this.Orderly) {stream : IOStream} {packet : StreamPacket ρ}
    (source : packet.stream = some r) (others : ∀ r', r' ≠ r → this.owned r' i = 0)
    (held : Held stream (Function.update (this.owned r) i packet.remain))
    (kept
      : Kept (this.streams r) (this.owned r) stream
          (Function.update (this.owned r) i packet.remain))
    {next : PacketProgram ρ ι} (streams : next.streams = Function.update this.streams r stream)
    (packets : next.packets = Function.update this.packets i (some packet))
    : next.Orderly ∧ this.Keeps next := by
  have updated : ∀ r', next.owned r' = Function.update (this.owned r') i (ownedBy r' packet) := by
    intro r'
    unfold owned
    rw [packets]
    exact Function.comp_update ..
  have mine : next.owned r = Function.update (this.owned r) i packet.remain := by
    rw [updated]
    exact congrArg _ (if_pos source)
  have same : ∀ r', r' ≠ r → next.owned r' = this.owned r' := by
    intro r' other
    rw [updated, ownedBy_other source other, ← others r' other]
    exact Function.update_eq_self i _
  refine ⟨⟨fun r' => ?_, ?_⟩, fun r' => ?_⟩
  · by_cases here : r' = r
    · rw [here, mine, streams, Function.update_self]
      exact held
    · rw [same r' here, streams, Function.update_of_ne here]
      exact h.held r'
  · rw [packets]
    exact attached_update h.attached (attached_some source)
  · by_cases here : r' = r
    · rw [here, mine, streams, Function.update_self]
      exact kept
    · rw [same r' here, streams, Function.update_of_ne here]
      exact kept_refl _ _

-----------------------------------------------------------------------------------------
-- Reading and skipping
-----------------------------------------------------------------------------------------

/-- The streams and a packet once it took bytes of its stream. -/
def took (streams : ρ → IOStream) (packet : StreamPacket ρ) (n : Nat)
    : Scope (ρ → IOStream) ρ :=
  {
    outer :=
      match packet.stream with
      | none => streams
      | some r =>
        Function.update streams r ((streams r).unread ((streams r).input.drop n))
    packet := { packet with remain := packet.remain - n }
  }

/-- The program when one of its packets has taken `n` bytes of its stream. -/
def taken (this : PacketProgram ρ ι) (i : ι) (packet : StreamPacket ρ) (n : Nat)
    : PacketProgram ρ ι :=
  {
    streams := (took this.streams packet n).outer
    packets := Function.update this.packets i (some (took this.streams packet n).packet)
  }

/-- Taking bytes that the packet owns keeps the program orderly. -/
theorem Orderly.taken (h : this.Orderly) {packet : StreamPacket ρ}
    (at' : this.packets i = some packet) {n : Nat} (fits : n ≤ packet.remain)
    : (this.taken i packet n).Orderly ∧ this.Keeps (this.taken i packet n) := by
  cases source : packet.stream with
  | none =>
      have empty : packet.remain = 0 := by
        by_contra some
        exact h.attached i packet at' some source
      have put : this.taken i packet n
          = this.put i (some { packet with remain := packet.remain - n }) := by
        unfold PacketProgram.taken took
        rw [source]
        rfl
      have nothing : packet.remain - n = 0 := by omega
      rw [put]
      refine h.keeps_put (fun r => ?_) (attached_empty nothing)
      rw [owned_eq at', ownedBy_empty r empty]
      exact ownedBy_empty r nothing
  | some r =>
      have mine : this.owned r i = packet.remain := (owned_eq at' r).trans (if_pos source)
      obtain ⟨held, kept⟩ := (h.held r).advance (mine ▸ fits)
      rw [mine] at held kept
      have streams : (this.taken i packet n).streams
          = Function.update this.streams r
              ((this.streams r).unread ((this.streams r).input.drop n)) := by
        unfold PacketProgram.taken took
        rw [source]
      have left : ({ packet with remain := packet.remain - n } : StreamPacket ρ).stream = some r :=
        source
      refine h.replace left (fun r' other => ?_) held kept streams rfl
      rw [owned_eq at' r', ownedBy_other source other]

/-- The packet reads or skips some of its bytes, or nothing. -/
def Reads {α : Type} (action : Action (Scope (ρ → IOStream) ρ) α) : Prop :=
  ∀ (streams : ρ → IOStream) (packet : StreamPacket ρ),
    (∀ r, packet.stream = some r →
      (streams r).good ∧ packet.remain ≤ (streams r).input.length) →
    ∃ n, n ≤ packet.remain
      ∧ after (action.run ⟨streams, packet⟩) = took streams packet n

omit [DecidableEq ι] in
/-- What a packet owns stands in its stream. -/
theorem Orderly.ready (h : this.Orderly) {packet : StreamPacket ρ}
    (at' : this.packets i = some packet) (source : packet.stream = some r)
    : (this.streams r).good ∧ packet.remain ≤ (this.streams r).input.length := by
  obtain ⟨left, packets, good, input, _, unique, _⟩ := h.held r
  refine ⟨good, ?_⟩
  have mine : this.owned r i = packet.remain := (owned_eq at' r).trans (if_pos source)
  by_cases none : packet.remain = 0
  · rw [none]
    exact Nat.zero_le _
  · obtain ⟨all, _⟩ := unique i (mine ▸ none)
    rw [input, List.length_append, ← all, mine]
    exact Nat.le_add_right ..

/-- An action that only reads inside its packet keeps the program orderly. -/
theorem Orderly.onPacket {α : Type} (h : this.Orderly)
    {action : Action (Scope (ρ → IOStream) ρ) α} (reads : Reads action)
    : (this.onPacket i action).Orderly ∧ this.Keeps (this.onPacket i action) := by
  cases at' : this.packets i with
  | none =>
      rw [onPacket_none at']
      exact ⟨h, fun r => kept_refl _ _⟩
  | some packet =>
      obtain ⟨n, fits, left⟩ := reads this.streams packet fun r source => h.ready at' source
      rw [onPacket_some at', left]
      exact h.taken at' fits

omit [DecidableEq ι]

/-- Taking nothing changes nothing. -/
theorem took_zero (streams : ρ → IOStream) (packet : StreamPacket ρ)
    : took streams packet 0 = ⟨streams, packet⟩ := by
  obtain ⟨source, remain, header⟩ := packet
  cases source with
  | none => rfl
  | some r =>
      have same : Function.update streams r ((streams r).unread ((streams r).input.drop 0))
          = streams := by
        rw [List.drop_zero]
        exact Function.update_eq_self r streams
      unfold took
      dsimp only
      rw [same]
      rfl

/-- Discarding reads inside the packet. -/
theorem reads_discard : Reads (StreamPacket.discard : Action (Scope (ρ → IOStream) ρ) Unit) := by
  intro streams packet ready
  refine ⟨packet.remain, Nat.le_refl _, ?_⟩
  rw [StreamPacket.run_discard_any]
  unfold took StreamPacket.skipped
  rw [Nat.sub_self]
  obtain ⟨source, remain, header⟩ := packet
  cases source with
  | none => rfl
  | some r =>
      dsimp only
      rw [if_pos (ready r rfl).1]
      rfl

/-- So does reading a number. -/
theorem reads_readInt (size : Nat)
    : Reads (StreamPacket.readInt size : Action (Scope (ρ → IOStream) ρ) Nat) := by
  intro streams packet ready
  unfold StreamPacket.readInt
  rw [run_get_bind]
  by_cases few : packet.remain < size
  · refine ⟨0, Nat.zero_le _, ?_⟩
    rw [if_pos few, took_zero]
    rfl
  · refine ⟨size, Nat.le_of_not_lt few, ?_⟩
    rw [if_neg few, run_modify_bind]
    obtain ⟨source, remain, header⟩ := packet
    cases source with
    | none => rfl
    | some r =>
        obtain ⟨good, enough⟩ := ready r rfl
        have fits : size ≤ (streams r).input.length :=
          Nat.le_trans (Nat.le_of_not_lt few) enough
        have read : (StreamPacket.onStream r (IOStream.readLittle size)).run
            (⟨streams, ⟨some r, remain - size, header⟩⟩ : Scope (ρ → IOStream) ρ)
            = .ok ((streams r).number size)
                ⟨Function.update streams r ((streams r).afterRead size),
                  ⟨some r, remain - size, header⟩⟩ := by
          unfold StreamPacket.onStream
          exact run_zoom_ok IOStream.run_readLittle_any
        rw [IOStream.afterRead_whole good fits] at read
        dsimp only [StreamPacket.setRemain]
        rw [read]
        rfl

/-- So does reading a block. -/
theorem reads_readBytes (n : Nat)
    : Reads (StreamPacket.readBytes n : Action (Scope (ρ → IOStream) ρ) (List UInt8)) := by
  intro streams packet ready
  unfold StreamPacket.readBytes
  rw [run_get_bind]
  by_cases many : n > packet.remain
  · refine ⟨0, Nat.zero_le _, ?_⟩
    rw [if_pos many, took_zero]
    rfl
  · rw [if_neg many]
    obtain ⟨source, remain, header⟩ := packet
    cases source with
    | none =>
        refine ⟨0, Nat.zero_le _, ?_⟩
        rfl
    | some r =>
        obtain ⟨good, enough⟩ := ready r rfl
        have fits : n ≤ (streams r).input.length :=
          Nat.le_trans (Nat.le_of_not_lt many) enough
        refine ⟨n, Nat.le_of_not_lt many, ?_⟩
        have front := IOStream.run_read good ((streams r).input.take n)
          ((streams r).input.drop n)
        rw [List.take_append_drop, List.length_take, Nat.min_eq_left fits] at front
        have read : (StreamPacket.onStream r (IOStream.read n)).run
            (⟨streams, ⟨some r, remain, header⟩⟩ : Scope (ρ → IOStream) ρ)
            = .ok ((streams r).input.take n)
                ⟨Function.update streams r ((streams r).unread ((streams r).input.drop n)),
                  ⟨some r, remain, header⟩⟩ := by
          unfold StreamPacket.onStream
          exact run_zoom_ok front
        dsimp only
        rw [run_bind_ok read]
        rfl

end PacketProgram

end Capt
