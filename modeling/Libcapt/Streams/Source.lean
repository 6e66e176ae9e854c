import Libcapt.Streams.Action

/-! Stream buffers seen from their reader. A source is whatever answers the three public
reading members; the abstract view of one is the list of symbols it still has to give,
and a source supplies a list when its members simulate reading from that list.
-/

namespace Streams

/-- The public reading members of a stream buffer. `sgetn` gives at most the requested
number of symbols, `sbumpc` takes one, `sgetc` looks at one; `none` is end-of-file.
-/
class Source (ε β : outParam Type) (σ : Type) where
  sgetn : Nat → EStateM ε σ (List β)
  sbumpc : EStateM ε σ (Option β)
  sgetc : EStateM ε σ (Option β)

/-- Blocks are never longer than requested, as the standard requires of `xsgetn`. -/
def Bounded {ε β : outParam Type} (σ : Type) [Source ε β σ] : Prop :=
  ∀ {n : Nat} {s s' : σ} {data : List β}, (Source.sgetn n).run s = .ok data s' → data.length ≤ n

/-- A source that knows a bound on the number of symbols it can still give. -/
class FiniteSource (ε β : outParam Type) (σ : Type) extends Source ε β σ where
  bound : σ → Nat

variable {ε β σ : Type}

section Supply

variable [Source ε β σ]

/-- `R` relates each state to the symbols left in it: every reading member answers from
the front of the list, short only at its end, and leaves the rest.
-/
structure IsSupply (R : σ → List β → Prop) : Prop where
  sgetn
    : ∀ {s symbols}, R s symbols → ∀ n,
        ∃ s', (Source.sgetn n).run s = .ok (symbols.take n) s' ∧ R s' (symbols.drop n)
  sbumpc
    : ∀ {s symbols}, R s symbols →
        ∃ s', Source.sbumpc.run s = .ok symbols.head? s' ∧ R s' symbols.tail
  sgetc
    : ∀ {s symbols}, R s symbols →
        ∃ s', Source.sgetc.run s = .ok symbols.head? s' ∧ R s' symbols

/-- `s` gives exactly `symbols` and then end-of-file, for ever; `P` holds of every state
on the way. This is the largest supply relation that stays within `P`.
-/
def SuppliesWithin (P : σ → List β → Prop) (s : σ) (symbols : List β) : Prop :=
  ∃ R : σ → List β → Prop,
    IsSupply R ∧ (∀ s symbols, R s symbols → P s symbols) ∧ R s symbols

/-- `s` gives exactly `symbols` and then end-of-file. -/
abbrev Supplies (s : σ) (symbols : List β) : Prop :=
  SuppliesWithin (fun _ _ => True) s symbols

/-- A relation that is a supply says what a source supplies. -/
theorem IsSupply.supplies {R : σ → List β → Prop} (h : IsSupply R) {s : σ}
    {symbols : List β} (hr : R s symbols)
    : Supplies s symbols :=
  ⟨R, h, fun _ _ _ => trivial, hr⟩

/-- What comes with the supply holds. -/
theorem SuppliesWithin.holds {P : σ → List β → Prop} {s : σ} {symbols : List β}
    (h : SuppliesWithin P s symbols)
    : P s symbols := by
  obtain ⟨R, _, hp, hr⟩ := h
  exact hp s symbols hr

/-- Without it there is still the supply. -/
theorem SuppliesWithin.supplies {P : σ → List β → Prop} {s : σ} {symbols : List β}
    (h : SuppliesWithin P s symbols)
    : Supplies s symbols := by
  obtain ⟨R, hs, _, hr⟩ := h
  exact hs.supplies hr

/-- Reading a block gives the next symbols, as many as are left. -/
theorem SuppliesWithin.sgetn {P : σ → List β → Prop} {s : σ} {symbols : List β}
    (h : SuppliesWithin P s symbols) (n : Nat)
    : ∃ s', (Source.sgetn n).run s = .ok (symbols.take n) s'
        ∧ SuppliesWithin P s' (symbols.drop n) := by
  obtain ⟨R, hs, hp, hr⟩ := h
  obtain ⟨s', run, next⟩ := hs.sgetn hr n
  exact ⟨s', run, R, hs, hp, next⟩

/-- Taking one symbol gives the next one, or end-of-file when none is left. -/
theorem SuppliesWithin.sbumpc {P : σ → List β → Prop} {s : σ} {symbols : List β}
    (h : SuppliesWithin P s symbols)
    : ∃ s', Source.sbumpc.run s = .ok symbols.head? s'
        ∧ SuppliesWithin P s' symbols.tail := by
  obtain ⟨R, hs, hp, hr⟩ := h
  obtain ⟨s', run, next⟩ := hs.sbumpc hr
  exact ⟨s', run, R, hs, hp, next⟩

/-- Looking at the next symbol takes nothing. -/
theorem SuppliesWithin.sgetc {P : σ → List β → Prop} {s : σ} {symbols : List β}
    (h : SuppliesWithin P s symbols)
    : ∃ s', Source.sgetc.run s = .ok symbols.head? s'
        ∧ SuppliesWithin P s' symbols := by
  obtain ⟨R, hs, hp, hr⟩ := h
  obtain ⟨s', run, next⟩ := hs.sgetc hr
  exact ⟨s', run, R, hs, hp, next⟩

/-- The supply relation is itself one, so facts about it can be used as simulations. -/
theorem isSupply_suppliesWithin (P : σ → List β → Prop)
    : IsSupply (SuppliesWithin P) where
  sgetn := fun h n => h.sgetn n
  sbumpc := fun h => h.sbumpc
  sgetc := fun h => h.sgetc

/-- `R` relates each state to the symbols left in it for a reader of blocks: a block may
be short at any time, but it is empty only when nothing is left.
-/
def IsTrickle (R : σ → List β → Prop) : Prop :=
  ∀ {s symbols}, R s symbols → ∀ n, 0 < n →
    ∃ k s', (Source.sgetn n).run s = .ok (symbols.take k) s'
      ∧ R s' (symbols.drop k) ∧ k ≤ n ∧ (symbols ≠ [] → 0 < k)

/-- `s` gives exactly `symbols` in blocks that may be short before the end. -/
def Trickles (s : σ) (symbols : List β) : Prop :=
  ∃ R : σ → List β → Prop, IsTrickle R ∧ R s symbols

/-- A block is a front of what is left, and not empty unless nothing is left. -/
theorem Trickles.sgetn {s : σ} {symbols : List β} (h : Trickles s symbols) {n : Nat}
    (hn : 0 < n)
    : ∃ k s', (Source.sgetn n).run s = .ok (symbols.take k) s'
        ∧ Trickles s' (symbols.drop k) ∧ k ≤ n ∧ (symbols ≠ [] → 0 < k) := by
  obtain ⟨R, hs, hr⟩ := h
  obtain ⟨k, s', run, next, le, pos⟩ := hs hr n hn
  exact ⟨k, s', run, ⟨R, hs, next⟩, le, pos⟩

/-- Blocks that are short only at the end are blocks that may be short. -/
theorem IsSupply.isTrickle {R : σ → List β → Prop} (h : IsSupply R) : IsTrickle R := by
  intro s symbols hr n positive
  obtain ⟨s', run, next⟩ := h.sgetn hr n
  exact ⟨n, s', run, next, Nat.le_refl n, fun _ => positive⟩

/-- A source whose blocks are short only at the end also gives them in the weaker sense. -/
theorem SuppliesWithin.trickles {P : σ → List β → Prop} {s : σ} {symbols : List β}
    (h : SuppliesWithin P s symbols)
    : Trickles s symbols :=
  ⟨SuppliesWithin P, (isSupply_suppliesWithin P).isTrickle, h⟩

/-- `R` relates each state to the symbols left in it for a reader of single symbols. -/
def IsDrip (R : σ → List β → Prop) : Prop :=
  ∀ {s symbols}, R s symbols →
    ∃ s', Source.sbumpc.run s = .ok symbols.head? s' ∧ R s' symbols.tail

/-- `s` gives exactly `symbols`, one at a time, and then end-of-file for ever. -/
def Drips (s : σ) (symbols : List β) : Prop :=
  ∃ R : σ → List β → Prop, IsDrip R ∧ R s symbols

/-- One symbol is the next one. -/
theorem Drips.sbumpc {s : σ} {symbols : List β} (h : Drips s symbols)
    : ∃ s', Source.sbumpc.run s = .ok symbols.head? s' ∧ Drips s' symbols.tail := by
  obtain ⟨R, hs, hr⟩ := h
  obtain ⟨s', run, next⟩ := hs hr
  exact ⟨s', run, R, hs, next⟩

/-- A source gives one list of symbols, by induction on it. -/
theorem Drips.unique {s : σ} {left right : List β} (h : Drips s left) (hr : Drips s right)
    : left = right := by
  induction left generalizing s right with
  | nil =>
      obtain ⟨_, run, _⟩ := h.sbumpc
      obtain ⟨_, other, _⟩ := hr.sbumpc
      rw [run] at other
      cases right with
      | nil => rfl
      | cons b rest => cases other
  | cons b rest ih =>
      obtain ⟨s', run, next⟩ := h.sbumpc
      obtain ⟨_, other, last⟩ := hr.sbumpc
      rw [run] at other
      cases right with
      | nil => cases other
      | cons c more =>
          cases other
          exact congrArg (b :: ·) (ih next last)

/-- A supply gives one symbol at a time as well. -/
theorem IsSupply.isDrip {R : σ → List β → Prop} (h : IsSupply R) : IsDrip R :=
  fun hr => h.sbumpc hr

/-- A source that supplies a list also gives it symbol by symbol. -/
theorem SuppliesWithin.drips {P : σ → List β → Prop} {s : σ} {symbols : List β}
    (h : SuppliesWithin P s symbols)
    : Drips s symbols :=
  ⟨SuppliesWithin P, (isSupply_suppliesWithin P).isDrip, h⟩

end Supply

/-- `s` gives exactly `symbols`, and its bound never falls below what is left. -/
abbrev SuppliesFinitely [FiniteSource ε β σ] (s : σ) (symbols : List β) : Prop :=
  SuppliesWithin (fun s symbols => symbols.length ≤ FiniteSource.bound s) s symbols

section Reading

variable [Source ε β σ]

/-- Reading symbol by symbol from `s` gives `symbols`, then one end-of-file that leaves
the source at `s'`.
-/
inductive Drains : σ → List β → σ → Prop
  | eof {s s'} (run : Source.sbumpc.run s = .ok none s') : Drains s [] s'
  | symbol {s middle s' b rest} (run : Source.sbumpc.run s = .ok (some b) middle)
    (tail : Drains middle rest s')
    : Drains s (b :: rest) s'

/-- Reading symbol by symbol from `s` gives `symbols`, then throws `err`. -/
inductive Breaks (err : ε) : σ → List β → Prop
  | thrown {s s'} (run : Source.sbumpc.run s = .error err s') : Breaks err s []
  | symbol {s middle b rest} (run : Source.sbumpc.run s = .ok (some b) middle)
    (tail : Breaks err middle rest)
    : Breaks err s (b :: rest)

/-- What is read up to end-of-file is determined by the source's state. -/
theorem Drains.unique {s left right : σ} {first second : List β}
    (h : Drains s first left) (hs : Drains s second right)
    : first = second ∧ left = right := by
  induction h generalizing second with
  | eof run =>
      cases hs with
      | eof other =>
          rw [run] at other
          cases other
          exact ⟨rfl, rfl⟩
      | symbol other _ => rw [run] at other; cases other
  | symbol run tail ih =>
      cases hs with
      | eof other => rw [run] at other; cases other
      | symbol other rest =>
          rw [run] at other
          cases other
          obtain ⟨same, state⟩ := ih rest
          exact ⟨by rw [same], state⟩

/-- What is read up to an exception is determined by the source's state. -/
theorem Breaks.unique {err other : ε} {s : σ} {first second : List β}
    (h : Breaks err s first) (hs : Breaks other s second)
    : first = second := by
  induction h generalizing second with
  | thrown run =>
      cases hs with
      | thrown _ => rfl
      | symbol next _ => rw [run] at next; cases next
  | symbol run tail ih =>
      cases hs with
      | thrown next => rw [run] at next; cases next
      | symbol next rest =>
          rw [run] at next
          cases next
          rw [ih rest]

/-- A source that supplies a list is read to end-of-file as that list, and stays there. -/
theorem IsSupply.drains {R : σ → List β → Prop} (h : IsSupply R) {symbols : List β} {s : σ}
    (hr : R s symbols)
    : ∃ s', Drains s symbols s' ∧ R s' [] := by
  induction symbols generalizing s with
  | nil =>
      obtain ⟨s', run, next⟩ := h.sbumpc hr
      exact ⟨s', .eof run, next⟩
  | cons b rest ih =>
      obtain ⟨middle, run, next⟩ := h.sbumpc hr
      obtain ⟨s', tail, final⟩ := ih next
      exact ⟨s', .symbol run tail, final⟩

/-- A supply is drained to its end, by induction on the symbols. -/
theorem SuppliesWithin.drains {P : σ → List β → Prop} {symbols : List β} {s : σ}
    (h : SuppliesWithin P s symbols)
    : ∃ s', Drains s symbols s' ∧ SuppliesWithin P s' [] :=
  (isSupply_suppliesWithin P).drains h

end Reading

/-- A source over a list of symbols in memory. -/
structure MemoryStreambuf (ε β : Type) where
  buffer : List β

namespace MemoryStreambuf

/-- A block is the front of the buffer. -/
def sgetn (n : Nat) : EStateM ε (MemoryStreambuf ε β) (List β) := do
  let this ← get
  set (⟨this.buffer.drop n⟩ : MemoryStreambuf ε β)
  return this.buffer.take n

/-- One symbol, with a move behind it. -/
def sbumpc : EStateM ε (MemoryStreambuf ε β) (Option β) := do
  let this ← get
  set (⟨this.buffer.tail⟩ : MemoryStreambuf ε β)
  return this.buffer.head?

/-- One symbol, without a move. -/
def sgetc : EStateM ε (MemoryStreambuf ε β) (Option β) := do
  let this ← get
  return this.buffer.head?

/-- A buffer in memory is a finite source. -/
instance : FiniteSource ε β (MemoryStreambuf ε β) where
  sgetn := sgetn
  sbumpc := sbumpc
  sgetc := sgetc
  bound := fun this => this.buffer.length

/-- The buffer bounds what can still be read. -/
theorem bounded : Bounded (MemoryStreambuf ε β) := by
  intro n s s' data run
  cases run
  exact List.length_take_le n s.buffer

/-- A source in memory supplies the list it holds. -/
theorem suppliesFinitely (symbols : List β)
    : SuppliesFinitely (⟨symbols⟩ : MemoryStreambuf ε β) symbols := by
  refine ⟨fun s left => s.buffer = left, ?_, fun s left h => by rw [← h]; exact Nat.le_refl _,
    rfl⟩
  constructor
  · rintro s _ rfl n
    exact ⟨⟨s.buffer.drop n⟩, rfl, rfl⟩
  · rintro s _ rfl
    exact ⟨⟨s.buffer.tail⟩, rfl, rfl⟩
  · rintro s _ rfl
    exact ⟨s, rfl, rfl⟩

/-- A buffer supplies its symbols. -/
theorem supplies (symbols : List β)
    : Supplies (⟨symbols⟩ : MemoryStreambuf ε β) symbols :=
  (suppliesFinitely symbols).supplies

end MemoryStreambuf

end Streams
