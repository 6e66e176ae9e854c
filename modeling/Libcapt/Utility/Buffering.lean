import Libcapt.Utility.BufferedPage

/-! What a buffered page shows of its stream: the bytes in the buffer, and then what the
stream still gives in blocks of the page's size.
-/

namespace Capt.Utility.BufferedPage

open Streams

variable {σ : Type} {this : BufferedPage σ}

/-- The page once a block was read at the end of its buffer. -/
def grown (this : BufferedPage σ) (stream : σ) (data : List UInt8) : BufferedPage σ :=
  {
    this with
    buffer := this.buffer ++ data
    videoStream := some stream
    gptr := this.buffer.length
    egptr := this.buffer.length + data.length
  }

/-- What was read from the source is in the get area. -/
theorem area_grown (stream : σ) (data : List UInt8) : (this.grown stream data).area = data := by
  change ((this.buffer ++ data).take (this.buffer.length + data.length)).drop
    this.buffer.length = data
  rw [← List.length_append, List.take_length, List.drop_left]

/-- The page at another position. -/
def moved (this : BufferedPage σ) (pos : Int) : BufferedPage σ :=
  { this with gptr := pos.toNat }

/-- The position that `seekoff` sets. -/
def reached (this : BufferedPage σ) (off : Int) : SeekDir → Int
  | .beg => off
  | .cur => this.gptr + toInt off
  | .end => this.egptr + off

/-- A seek within the get area gives the position that it sets. -/
theorem run_setPosition {pos : Int} (inside : 0 ≤ pos ∧ pos ≤ this.egptr)
    : (do
        setPosition pos
        let this ← get
        return this.gptr : Action (BufferedPage σ) Int).run this
      = .ok pos (this.moved pos) := by
  have same : ((this.moved pos).gptr : Int) = pos := Int.toNat_of_nonneg inside.1
  have set : (setPosition pos).run this = .ok () (this.moved pos) := by
    unfold setPosition
    rw [run_get_bind, if_pos inside]
    rfl
  rw [run_bind_ok set, run_get_bind, same]
  rfl

/-- A position outside of the buffer is refused. -/
theorem run_setPosition_outside {pos : Int} (outside : ¬ (0 ≤ pos ∧ pos ≤ this.egptr))
    : (do
        setPosition pos
        let this ← get
        return this.gptr : Action (BufferedPage σ) Int).run this
      = .error (.undefinedBehaviour "get pointer outside the buffer") this := by
  have thrown : (setPosition pos).run this
      = .error (.undefinedBehaviour "get pointer outside the buffer") this := by
    unfold setPosition
    rw [run_get_bind, if_neg outside]
    rfl
  exact run_bind_error thrown

/-- A relative seek sets the position that it has computed. -/
theorem run_seekoff (off : Int) (dir : SeekDir)
    : (seekoff off dir).run this
      = (do
          setPosition (this.reached off dir)
          let this ← get
          return this.gptr : Action (BufferedPage σ) Int).run this := by
  cases dir <;> rfl

variable [Source Fault UInt8 σ]

/-- In blocks of this size, the states that `R` relates to a list give it: a block is empty
only when nothing is left.
-/
def Feeds (R : σ → List UInt8 → Prop) (blockSize : Nat) : Prop :=
  ∀ {s symbols}, R s symbols →
    ∃ k s', (Source.sgetn blockSize).run s = .ok (symbols.take k) s'
      ∧ R s' (symbols.drop k) ∧ (symbols ≠ [] → 0 < k)

/-- In blocks of this size the stream gives exactly the list. -/
def Fed (blockSize : Nat) (stream : σ) (symbols : List UInt8) : Prop :=
  ∃ R : σ → List UInt8 → Prop, Feeds R blockSize ∧ R stream symbols

/-- A source that trickles feeds the buffer. -/
theorem feeds_trickles {blockSize : Nat} (positive : 0 < blockSize)
    : Feeds (Trickles (σ := σ)) blockSize := by
  intro s symbols source
  obtain ⟨k, s', read, rest, _, some⟩ := source.sgetn positive
  exact ⟨k, s', read, rest, some⟩

/-- So does one that is fed block by block. -/
theorem feeds_fed (blockSize : Nat) : Feeds (Fed (σ := σ) blockSize) blockSize := by
  rintro s symbols ⟨R, feeds, given⟩
  obtain ⟨k, s', read, rest, some⟩ := feeds given
  exact ⟨k, s', read, ⟨R, feeds, rest⟩, some⟩

/-- What a page's stream still gives; without a stream there is nothing more. -/
def Left (R : σ → List UInt8 → Prop) : Option σ → List UInt8 → Prop
  | some stream, rest => R stream rest
  | none, rest => rest = []

/-- The buffer is what was taken of the content, and the stream has exactly the rest. -/
structure Buffers (R : σ → List UInt8 → Prop) (blockSize : Nat) (content : List UInt8)
    (this : BufferedPage σ)
    : Prop where
  split : ∃ rest, content = this.buffer ++ rest ∧ Left R this.videoStream rest
  gptr : this.gptr ≤ this.buffer.length
  egptr : this.egptr = this.buffer.length
  blockSize : this.blockSize = blockSize

variable {R : σ → List UInt8 → Prop} {blockSize : Nat} {content : List UInt8}

section Views

omit [Source Fault UInt8 σ]

/-- The buffer is the front of the content. -/
theorem Buffers.isPrefix (h : Buffers R blockSize content this) : this.buffer <+: content := by
  obtain ⟨rest, split, _⟩ := h.split
  exact ⟨rest, split.symm⟩

/-- The rest is still in the source. -/
theorem Buffers.left (h : Buffers R blockSize content this)
    : Left R this.videoStream (content.drop this.buffer.length) := by
  obtain ⟨rest, split, left⟩ := h.split
  rwa [split, List.drop_left]

/-- The get area is the buffer from the position on. -/
theorem Buffers.area (h : Buffers R blockSize content this)
    : this.area = this.buffer.drop this.gptr := by
  rw [BufferedPage.area, h.egptr, List.take_length]

/-- A move inside the buffer. -/
theorem Buffers.moved (h : Buffers R blockSize content this) {pos : Int}
    (inside : 0 ≤ pos ∧ pos ≤ this.buffer.length)
    : Buffers R blockSize content (this.moved pos) := by
  refine ⟨h.split, ?_, h.egptr, h.blockSize⟩
  change pos.toNat ≤ this.buffer.length
  omega

/-- What a reader of the page is still to see. -/
structure Pending (R : σ → List UInt8 → Prop) (blockSize : Nat) (content : List UInt8)
    (this : BufferedPage σ) (symbols : List UInt8)
    : Prop where
  buffers : Buffers R blockSize content this
  symbols : symbols = content.drop this.gptr

/-- Where the position is when `n` symbols less are to be seen. -/
theorem Buffers.position {this' : BufferedPage σ} (h : Buffers R blockSize content this)
    {n : Nat} (after : Pending R blockSize content this' ((content.drop this.gptr).drop n))
    : this'.gptr = min (this.gptr + n) content.length := by
  obtain ⟨buffers, symbols⟩ := after
  have before := Nat.le_trans h.gptr h.isPrefix.length_le
  have inside := Nat.le_trans buffers.gptr buffers.isPrefix.length_le
  have lengths := congrArg List.length symbols
  simp only [List.length_drop] at lengths
  omega

/-- Reading a block at the end of the buffer keeps the view. -/
theorem Buffers.grown (h : Buffers R blockSize content this) {stream' : σ} {k : Nat}
    (rest : R stream' ((content.drop this.buffer.length).drop k))
    : Buffers R blockSize content
        (this.grown stream' ((content.drop this.buffer.length).take k)) := by
  obtain ⟨more, split⟩ := h.isPrefix
  have left : content.drop this.buffer.length = more := by
    rw [← split, List.drop_left]
  rw [left] at rest ⊢
  refine ⟨⟨more.drop k, ?_, rest⟩, ?_, ?_, h.blockSize⟩
  · change content = this.buffer ++ more.take k ++ more.drop k
    rw [List.append_assoc, List.take_append_drop, split]
  · change this.buffer.length ≤ (this.buffer ++ more.take k).length
    rw [List.length_append]
    exact Nat.le_add_right ..
  · exact (List.length_append ..).symm

/-- Moving over a byte of the get area keeps the view. -/
theorem Pending.gbump {symbols rest : List UInt8} {b : UInt8}
    (h : Pending R blockSize content this symbols) (left : this.area = b :: rest)
    : Pending R blockSize content { this with gptr := this.gptr + 1 } symbols.tail := by
  obtain ⟨buffers, symbols⟩ := h
  have inside : this.gptr < this.buffer.length := by
    rw [buffers.area] at left
    have length := congrArg List.length left
    rw [List.length_drop, List.length_cons] at length
    omega
  refine ⟨⟨buffers.split, inside, buffers.egptr, buffers.blockSize⟩, ?_⟩
  rw [symbols, List.tail_drop]

end Views

-----------------------------------------------------------------------------------------
-- Reading
-----------------------------------------------------------------------------------------

/-- With an empty get area, `underflow` reads a block. -/
theorem run_underflow_block {stream stream' : σ} {data : List UInt8} (empty : this.area = [])
    (source : this.videoStream = some stream)
    (read : (Source.sgetn this.blockSize).run stream = .ok data stream')
    : underflow.run this = .ok data.head? (this.grown stream' data) := by
  unfold underflow
  rw [run_get_bind, empty]
  simp only [source]
  rw [run_modify_bind, run_bind_ok (run_zoom_ok read), run_modify_bind, run_modify_bind,
    run_get_bind]
  simp only [List.take_left, List.length_append]
  change EStateM.Result.ok (if data.length = 0 then none else (this.grown stream' data).area.head?)
    (this.grown stream' data) = _
  rw [area_grown]
  cases data with
  | nil => rfl
  | cons b rest => rfl

/-- At the end of the buffer of a page without a stream there is nothing more. -/
theorem run_underflow_detached (empty : this.area = []) (source : this.videoStream = none)
    : underflow.run this = .ok none this := by
  simp only [underflow, EStateM.run_bind, EStateM.run_get, empty, source]
  rfl

/-- At the end of the buffer a block of the stream is read, unless nothing is left. -/
theorem Pending.underflow (feeds : Feeds R blockSize) {symbols : List UInt8}
    (h : Pending R blockSize content this symbols) (empty : this.area = [])
    : ∃ this', underflow.run this = .ok symbols.head? this'
        ∧ Pending R blockSize content this' symbols ∧ (symbols ≠ [] → this'.area ≠ [])
        ∧ this.buffer <+: this'.buffer := by
  obtain ⟨buffers, same⟩ := h
  have atEnd : this.gptr = this.buffer.length := by
    have all := buffers.area.symm.trans empty
    exact Nat.le_antisymm buffers.gptr (List.drop_eq_nil_iff.mp all)
  have left := buffers.left
  rw [← atEnd, ← same] at left
  cases source : this.videoStream with
  | none =>
      rw [source] at left
      refine ⟨this, ?_, ⟨buffers, same⟩, fun some => absurd left some, List.prefix_refl _⟩
      rw [run_underflow_detached empty source, left]
      rfl
  | some stream =>
      rw [source] at left
      obtain ⟨k, stream', read, rest, pos⟩ := feeds left
      have block : symbols.take k = (content.drop this.buffer.length).take k := by
        rw [same, atEnd]
      have grown : Buffers R blockSize content (this.grown stream' (symbols.take k)) := by
        rw [block]
        apply buffers.grown
        rwa [← atEnd, ← same]
      rw [← buffers.blockSize] at read
      refine ⟨this.grown stream' (symbols.take k), ?_, ⟨grown, ?_⟩, ?_,
        List.prefix_append ..⟩
      · rw [run_underflow_block empty source read]
        cases symbols with
        | nil => rw [List.take_nil]
        | cons b more =>
            have some := pos (List.cons_ne_nil b more)
            rw [List.head?_take, if_neg (Nat.ne_of_gt some)]
      · rw [same, atEnd]
        rfl
      · intro some
        have more := pos some
        rw [area_grown, ne_eq, List.take_eq_nil_iff, not_or]
        exact ⟨Nat.ne_of_gt more, some⟩

/-- The reading members give the content from the position on. -/
theorem pending_refills (feeds : Feeds R blockSize)
    : Streambuf.Refills (Pending R blockSize content) where
  front := fun {this symbols} h => by
    change this.area <+: symbols
    obtain ⟨more, split⟩ := h.buffers.isPrefix
    rw [h.buffers.area, h.symbols, ← split, List.drop_append_of_le_length h.buffers.gptr]
    exact List.prefix_append ..
  gbump := fun h left => h.gbump left
  underflow := fun h empty => by
    obtain ⟨this', run, after, filled, _⟩ := h.underflow feeds empty
    exact ⟨this', run, after, filled⟩

/-- The same, where the page keeps the bytes that its buffer had. -/
theorem keeping_refills (feeds : Feeds R blockSize) (had : List UInt8)
    : Streambuf.Refills fun (this : BufferedPage σ) symbols =>
        Pending R blockSize content this symbols ∧ had <+: this.buffer where
  front := fun h => (pending_refills feeds).front h.1
  gbump := fun h left => ⟨h.1.gbump left, h.2⟩
  underflow := fun h empty => by
    obtain ⟨this', run, after, filled, more⟩ := h.1.underflow feeds empty
    exact ⟨this', run, ⟨after, h.2.trans more⟩, filled⟩

section Members

variable (feeds : Feeds R blockSize) (h : Buffers R blockSize content this)

include feeds h

/-- A block, by the loop that refills the get area. -/
theorem Buffers.sgetn (n : Nat)
    : ∃ this', (Source.sgetn n).run this = .ok ((content.drop this.gptr).take n) this'
        ∧ Buffers R blockSize content this' ∧ this.buffer <+: this'.buffer
        ∧ this'.gptr = min (this.gptr + n) content.length := by
  obtain ⟨this', run, after, kept⟩ :=
    (keeping_refills feeds this.buffer).run_xsgetn n ⟨⟨h, rfl⟩, List.prefix_refl _⟩
  exact ⟨this', run, after.buffers, kept, h.position after⟩

/-- One symbol, with a move behind it. -/
theorem Buffers.sbumpc
    : ∃ this', Source.sbumpc.run this = .ok content[this.gptr]? this'
        ∧ Buffers R blockSize content this' ∧ this.buffer <+: this'.buffer
        ∧ this'.gptr = min (this.gptr + 1) content.length := by
  obtain ⟨this', run, after, kept⟩ :=
    (keeping_refills feeds this.buffer).run_sbumpc ⟨⟨h, rfl⟩, List.prefix_refl _⟩
  rw [List.head?_drop] at run
  rw [← List.drop_one] at after
  exact ⟨this', run, after.buffers, kept, h.position after⟩

/-- One symbol, without a move. -/
theorem Buffers.sgetc
    : ∃ this', Source.sgetc.run this = .ok content[this.gptr]? this'
        ∧ Buffers R blockSize content this' ∧ this.buffer <+: this'.buffer
        ∧ this'.gptr = this.gptr := by
  obtain ⟨this', run, after, kept⟩ :=
    (keeping_refills feeds this.buffer).run_sgetc ⟨⟨h, rfl⟩, List.prefix_refl _⟩
  rw [List.head?_drop] at run
  have before := Nat.le_trans h.gptr h.isPrefix.length_le
  refine ⟨this', run, after.buffers, kept, (h.position (n := 0) after).trans ?_⟩
  exact Nat.min_eq_left before

end Members

end Capt.Utility.BufferedPage
