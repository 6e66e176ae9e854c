import Libcapt.Core.PacketProgram

/-! Which runs of a program leave no stream within a packet that nobody owns: only an
assignment can lose a payload.
-/

namespace Capt

open Streams

variable {ρ ι : Type} [DecidableEq ρ] [DecidableEq ι]

namespace PacketProgram

variable {this : PacketProgram ρ ι} {i : ι} {r : ρ}

-----------------------------------------------------------------------------------------
-- Opening and moving packets
-----------------------------------------------------------------------------------------

/-- No packet has bytes of the stream to read. -/
def Free (this : PacketProgram ρ ι) (r : ρ) : Prop := ∀ i, this.owned r i = 0

/-- A header is read while its stream is free, for a packet that owns nothing. -/
theorem Orderly.opened (h : this.Orderly) (idle : ∀ r, this.owned r i = 0) (free : this.Free r)
    (some : (this.streams r).input ≠ [])
    : ∃ stream header,
        (∀ before, PacketHeader.extract.run (this.streams r, before) = .ok () (stream, header))
        ∧ ∀ next : PacketProgram ρ ι,
            next.streams = Function.update this.streams r stream →
            next.packets
              = Function.update this.packets i (.some (StreamPacket.construct r header)) →
            next.Orderly ∧ this.Keeps next := by
  obtain ⟨packet, packets, fits, input, held⟩ := (h.held r).next free some
  have good : (this.streams r).good := by
    obtain ⟨_, _, good, _⟩ := h.held r
    exact good
  have size : (UInt16.ofNat packet.2.length).toNat = packet.2.length :=
    UInt16.toNat_ofNat_of_lt (Nat.lt_of_le_of_lt fits (by decide))
  refine ⟨(this.streams r).unread (packet.2 ++ frames packets),
    ⟨packet.1, UInt16.ofNat packet.2.length⟩, fun before => ?_, fun next => ?_⟩
  · have read := @PacketHeader.run_extract _ packet.1 packet.2 good fits before (frames packets)
    rw [← input] at read
    exact read
  · refine h.replace rfl (fun r' _ => idle r') ?_ fun j owns => absurd (free j) owns
    rw [StreamPacket.construct, size]
    exact held i

/-- A packet that owns nothing takes over what another one owns. -/
theorem Orderly.handed (h : this.Orderly) {other : ι} (different : i ≠ other)
    (idle : ∀ r, this.owned r i = 0) {packet taker left : StreamPacket ρ}
    (at' : this.packets other = some packet) (stream : taker.stream = packet.stream)
    (remain : taker.remain = packet.remain) (empty : left.remain = 0)
    : ((this.put i taker).put other left).Orderly
      ∧ this.Keeps ((this.put i taker).put other left) := by
  have owned : ∀ r, ((this.put i taker).put other left).owned r
      = Function.update (Function.update (this.owned r) i (this.owned r other)) other 0 := by
    intro r
    have same : ownedBy r (some taker) = ownedBy r (some packet) := by
      simp only [ownedBy, stream, remain]
    rw [owned_put, owned_put, ownedBy_empty r empty, owned_eq at' r, same]
  have attached : Attached (some taker) := by
    rintro _ ⟨⟩ some
    rw [stream]
    exact h.attached other packet at' (remain ▸ some)
  refine ⟨⟨fun r => ?_, ?_⟩, fun r => ?_⟩
  · rw [owned]
    exact ((h.held r).handed different (idle r)).1
  · exact attached_update (attached_update h.attached attached) (attached_empty empty)
  · rw [owned]
    exact ((h.held r).handed different (idle r)).2

end PacketProgram

namespace PacketStep

variable {this : PacketProgram ρ ι}

-----------------------------------------------------------------------------------------
-- Steps and runs
-----------------------------------------------------------------------------------------

/-- The steps on streams of well-formed packets. A header is read where there is one, and
while no packet has bytes of the stream to read.
-/
def Allowed (this : PacketProgram ρ ι) : PacketStep ρ ι → Prop
  | create i => this.packets i = none
  | construct i _ header => this.packets i = none ∧ header.payloadSize = 0
  | receive i r => this.packets i = none ∧ this.Free r ∧ (this.streams r).input ≠ []
  | takeHeader i r =>
    (∃ packet, this.packets i = some packet ∧ packet.remain = 0)
      ∧ this.Free r ∧ (this.streams r).input ≠ []
  | discard i | readInt i _ | readBytes i _ | destroy i => this.packets i ≠ none
  | moveConstruct i other => this.packets i = none ∧ this.packets other ≠ none
  | moveAssign i other => this.packets i ≠ none ∧ this.packets other ≠ none

/-- The step assigns over a packet that has bytes to read. -/
def Overwrites (this : PacketProgram ρ ι) : PacketStep ρ ι → Prop
  | moveAssign i _ => ∃ packet, this.packets i = some packet ∧ packet.remain ≠ 0
  | _ => False

end PacketStep

namespace PacketProgram

variable {this : PacketProgram ρ ι} {i other : ι} {r : ρ}

omit [DecidableEq ι] in
/-- Where there is no packet nothing is owned. -/
theorem owned_none (at' : this.packets i = none) (r : ρ) : this.owned r i = 0 :=
  owned_eq at' r

omit [DecidableEq ι] in
/-- An empty packet owns nothing. -/
theorem owned_empty {packet : StreamPacket ρ} (at' : this.packets i = some packet)
    (empty : packet.remain = 0) (r : ρ)
    : this.owned r i = 0 :=
  (owned_eq at' r).trans (ownedBy_empty r empty)

/-- A packet without bytes to read takes a name that owns nothing. -/
theorem Orderly.created (h : this.Orderly) (idle : ∀ r, this.owned r i = 0)
    {packet : StreamPacket ρ} (empty : packet.remain = 0)
    : (this.put i packet).Orderly ∧ this.Keeps (this.put i packet) :=
  h.keeps_put (fun r => (ownedBy_empty r empty).trans (idle r).symm) (attached_empty empty)

/-- Receiving a packet from a stream that is free. -/
theorem Orderly.received (h : this.Orderly) (at' : this.packets i = none) (free : this.Free r)
    (some : (this.streams r).input ≠ [])
    : ((PacketStep.receive i r).perform this).Orderly
      ∧ this.Keeps ((PacketStep.receive i r).perform this) := by
  obtain ⟨stream, header, read, opened⟩ := h.opened (owned_none at') free some
  apply opened <;> simp only [PacketStep.perform, read]

/-- Taking the next header into a packet that is empty. -/
theorem Orderly.tookHeader (h : this.Orderly) {packet : StreamPacket ρ}
    (at' : this.packets i = some packet) (empty : packet.remain = 0) (free : this.Free r)
    (some : (this.streams r).input ≠ [])
    : ((PacketStep.takeHeader i r).perform this).Orderly
      ∧ this.Keeps ((PacketStep.takeHeader i r).perform this) := by
  obtain ⟨stream, header, read, opened⟩ := h.opened (owned_empty at' empty) free some
  have taken
      : (StreamPacket.takeHeader r).run ⟨this.streams, packet⟩
        = .ok () ⟨Function.update this.streams r stream, StreamPacket.construct r header⟩ :=
    StreamPacket.run_takeHeader (read packet.header)
  apply opened <;> simp only [PacketStep.perform, onPacket_some at', taken, after]

/-- The destructor skips what the packet has still to read. -/
theorem Orderly.destroyed (h : this.Orderly)
    : ((PacketStep.destroy i).perform this).Orderly
      ∧ this.Keeps ((PacketStep.destroy i).perform this) := by
  obtain ⟨orderly, keeps⟩ := h.onPacket (i := i) reads_discard
  have idle : ∀ r, (this.onPacket i StreamPacket.discard).owned r i = 0 := by
    intro r
    cases at' : this.packets i with
    | none =>
        rw [onPacket_none at']
        exact owned_none at' r
    | some packet =>
        rw [onPacket_some at', StreamPacket.run_discard_any]
        exact owned_empty (Function.update_self ..) rfl r
  have attached : Attached (none : Option (StreamPacket ρ)) := by
    rintro _ ⟨⟩
  have nothing : ∀ r, ownedBy r none = (this.onPacket i StreamPacket.discard).owned r i :=
    fun r => (idle r).symm
  obtain ⟨gone, same⟩ := orderly.put nothing attached
  refine ⟨gone, fun r => ?_⟩
  change Kept _ _ _ (((this.onPacket i StreamPacket.discard).put i none).owned r)
  rw [same r]
  exact keeps r

/-- A packet moved to a place where there is none. -/
theorem Orderly.moveConstructed (h : this.Orderly) (at' : this.packets i = none)
    (packet : this.packets other ≠ none)
    : ((PacketStep.moveConstruct i other).perform this).Orderly
      ∧ this.Keeps ((PacketStep.moveConstruct i other).perform this) := by
  have different : i ≠ other := by
    rintro rfl
    exact packet at'
  cases from' : this.packets other with
  | none => exact absurd from' packet
  | some packet =>
      simp only [PacketStep.perform, from']
      exact h.handed different (owned_none at') from' rfl rfl rfl

/-- A packet moved over one that is empty. -/
theorem Orderly.moveAssigned (h : this.Orderly) {target packet : StreamPacket ρ}
    (at' : this.packets i = some target) (from' : this.packets other = some packet)
    (empty : target.remain = 0)
    : ((PacketStep.moveAssign i other).perform this).Orderly
      ∧ this.Keeps ((PacketStep.moveAssign i other).perform this) := by
  simp only [PacketStep.perform, at', from']
  by_cases same : i = other
  · subst same
    have once : (this.put i (some (target.moveAssign packet).1)).put i
        (some (target.moveAssign packet).2) = this.put i (some (target.moveAssign packet).2) := by
      simp only [PacketProgram.put, Function.update_idem]
    rw [once]
    exact h.created (owned_empty at' empty) rfl
  · exact h.handed same (owned_empty at' empty) from' rfl rfl rfl

/-- What the packet had still to read is lost when another one is assigned over it. -/
theorem Orderly.overwritten (h : this.Orderly) {target packet : StreamPacket ρ}
    (at' : this.packets i = some target) (from' : this.packets other = some packet)
    (some : target.remain ≠ 0)
    : ¬ this.Keeps ((PacketStep.moveAssign i other).perform this) := by
  cases source : target.stream with
  | none => exact absurd source (h.attached i target at' some)
  | some r =>
      have mine : this.owned r i ≠ 0 := by
        rw [owned_eq at', ownedBy, if_pos source]
        exact some
      obtain ⟨_, _, _, _, _, unique, _⟩ := h.held r
      have alone : ∀ j, j ≠ i → this.owned r j = 0 := by
        intro j different
        by_contra owns
        exact different ((unique i mine).2 j owns)
      intro keeps
      have kept := keeps r
      simp only [PacketStep.perform, at', from'] at kept
      have nothing : ownedBy r (.some (target.moveAssign packet).2) = 0 := ownedBy_empty r rfl
      refine (h.held r).lost mine (fun j => ?_) kept
      rw [owned_put, owned_put, nothing]
      by_cases left : j = other
      · rw [left, Function.update_self]
      · rw [Function.update_of_ne left]
        by_cases taker : j = i
        · rw [taker, Function.update_self]
          exact (owned_eq from' r).symm.trans (alone other fun same => left (taker.trans same.symm))
        · rw [Function.update_of_ne taker]
          exact alone j taker

end PacketProgram

namespace PacketStep

variable {this : PacketProgram ρ ι}

/-- A step that assigns over no unread bytes. -/
theorem keeps_perform (h : this.Orderly) {step : PacketStep ρ ι} (allowed : step.Allowed this)
    (keeps : ¬ step.Overwrites this)
    : (step.perform this).Orderly ∧ this.Keeps (step.perform this) := by
  cases step with
  | create i => exact h.created (PacketProgram.owned_none allowed) rfl
  | construct i r header =>
      obtain ⟨at', none⟩ := allowed
      refine h.created (PacketProgram.owned_none at') ?_
      rw [StreamPacket.construct, none]
      rfl
  | receive i r =>
      obtain ⟨at', free, some⟩ := allowed
      exact h.received at' free some
  | discard i => exact h.onPacket PacketProgram.reads_discard
  | takeHeader i r =>
      obtain ⟨⟨packet, at', empty⟩, free, some⟩ := allowed
      exact h.tookHeader at' empty free some
  | readInt i size => exact h.onPacket (PacketProgram.reads_readInt size)
  | readBytes i n => exact h.onPacket (PacketProgram.reads_readBytes n)
  | moveConstruct i other =>
      obtain ⟨at', packet⟩ := allowed
      exact h.moveConstructed at' packet
  | moveAssign i other =>
      obtain ⟨target, packet⟩ := allowed
      obtain ⟨target, at'⟩ := Option.ne_none_iff_exists'.mp target
      obtain ⟨packet, from'⟩ := Option.ne_none_iff_exists'.mp packet
      refine h.moveAssigned at' from' ?_
      by_contra some
      exact keeps ⟨target, at', some⟩
  | destroy i => exact h.destroyed

/-- A step that assigns over unread bytes. -/
theorem not_keeps_perform (h : this.Orderly) {step : PacketStep ρ ι}
    (allowed : step.Allowed this) (overwrites : step.Overwrites this)
    : ¬ this.Keeps (step.perform this) := by
  cases step with
  | moveAssign i other =>
      obtain ⟨target, at', some⟩ := overwrites
      obtain ⟨packet, from'⟩ := Option.ne_none_iff_exists'.mp allowed.2
      exact h.overwritten at' from' some
  | _ => exact absurd overwrites id

end PacketStep

namespace PacketProgram

/-- A program with well-formed packets in its streams, and none of its own. -/
def Starts (this : PacketProgram ρ ι) : Prop :=
  (∀ i, this.packets i = none)
    ∧ ∀ r, (this.streams r).good
        ∧ ∃ packets : List Packet, (∀ packet ∈ packets, packet.2.length ≤ 65531)
            ∧ (this.streams r).input = frames packets

/-- Every step of a run is as given, in the state that it is made in. -/
def Along (holds : PacketProgram ρ ι → PacketStep ρ ι → Prop)
    : PacketProgram ρ ι → List (PacketStep ρ ι) → Prop
  | _, [] => True
  | this, step :: steps => holds this step ∧ Along holds (step.perform this) steps

variable {this : PacketProgram ρ ι}

omit [DecidableEq ι] in
/-- Where nothing is owned everything is orderly. -/
theorem Starts.orderly (starts : this.Starts) : this.Orderly := by
  obtain ⟨none, streams⟩ := starts
  constructor
  · intro r
    obtain ⟨good, packets, fits, input⟩ := streams r
    refine ⟨[], packets, good, input, fits, fun i owns => ?_, fun more => absurd rfl more⟩
    exact absurd (owned_none (none i) r) owns
  · intro i packet at'
    rw [none i] at at'
    cases at'

/-- Along a run whose steps are allowed, by induction on it. -/
theorem Orderly.along_keeps_iff (h : this.Orderly) {steps : List (PacketStep ρ ι)}
    (allowed : Along (fun this step => step.Allowed this) this steps)
    : Along (fun this step => this.Keeps (step.perform this)) this steps
      ↔ Along (fun this step => ¬ step.Overwrites this) this steps := by
  induction steps generalizing this with
  | nil => exact Iff.rfl
  | cons step steps ih =>
      obtain ⟨first, later⟩ := allowed
      by_cases overwrites : step.Overwrites this
      · have lost := PacketStep.not_keeps_perform h first overwrites
        exact iff_of_false (fun kept => lost kept.1) fun keeps => keeps.1 overwrites
      · obtain ⟨orderly, kept⟩ := PacketStep.keeps_perform h first overwrites
        have rest := ih orderly later
        exact and_congr (iff_of_true kept overwrites) rest

/-- A run leaves no stream within a packet that nobody owns, if and only if it never assigns
over a packet with bytes to read.
-/
theorem run_keeps_iff (this : PacketProgram ρ ι) (starts : this.Starts)
    (steps : List (PacketStep ρ ι))
    (allowed : Along (fun this step => step.Allowed this) this steps)
    : Along (fun this step => this.Keeps (step.perform this)) this steps
      ↔ Along (fun this step => ¬ step.Overwrites this) this steps :=
  starts.orderly.along_keeps_iff allowed

/-- One stream with a packet of one byte. -/
def onePacket : PacketProgram Unit Bool where
  streams := fun _ => { input := frames [(0x0101, [7])] }
  packets := fun _ => none

/-- Nothing is owned at the start. -/
theorem onePacket_starts : onePacket.Starts := by
  refine ⟨fun _ => rfl, fun _ => ⟨rfl, [(0x0101, [7])], ?_, rfl⟩⟩
  intro packet member
  cases List.mem_singleton.mp member
  decide

/-- A packet is read, handed on and destroyed. -/
theorem run_keeps_iff_handed
    : Along (fun this step => this.Keeps (step.perform this)) onePacket
        [.receive false (), .moveConstruct true false, .destroy true] := by
  refine (run_keeps_iff onePacket onePacket_starts _ ?_).mpr ⟨id, id, id, trivial⟩
  refine ⟨⟨rfl, fun _ => rfl, by decide⟩, ⟨rfl, ?_⟩, ?_, trivial⟩
  · exact Option.some_ne_none _
  · exact Option.some_ne_none _

/-- A packet without a stream is assigned over one that has a byte to read. -/
theorem run_loses
    : ¬ ∀ (this : PacketProgram Unit Bool), this.Starts →
          ∀ steps, Along (fun this step => step.Allowed this) this steps →
            Along (fun this step => this.Keeps (step.perform this)) this steps := by
  intro keeps
  obtain ⟨_, _, kept, _⟩ := keeps onePacket onePacket_starts
    [.receive false (), .create true, .moveAssign false true]
    ⟨⟨rfl, fun _ => rfl, by decide⟩, rfl,
      ⟨Option.some_ne_none _, Option.some_ne_none _⟩, trivial⟩
  rcases kept () false (by decide) with ⟨j, owns, _⟩ | atEnd
  · cases j <;> exact owns rfl
  · revert atEnd
    decide

end PacketProgram

end Capt
