import Libcapt.Compression.ScoaCmd

/-! The segmentation of a line into copies of the previous line, repetitions of one byte
and raw bytes, one segment at a time with one segment of lookahead.
-/

namespace Capt.Compression

/-- What is done with a segment of a line. -/
inductive ScoaFuncType where
  | copy
  | repeats
  | raw
  deriving Repr, DecidableEq, Inhabited

/-- A segment of a line: what is done, from where, and for how many bytes. -/
structure ScoaFunc where
  type : ScoaFuncType
  index : Nat
  count : Nat
  deriving Repr, DecidableEq, Inhabited

namespace ScoaFunc

/-- The bytes of the line that a segment covers. -/
def payload (f : ScoaFunc) (line : List UInt8) : List UInt8 :=
  (line.drop f.index).take f.count

/-- The assertions of `payload`. -/
def PayloadAsserts (f : ScoaFunc) (line : List UInt8) : Prop :=
  f.index < line.length ∧ f.index + f.count ≤ line.length

/-- The assertions compare numbers. -/
instance (f : ScoaFunc) (line : List UInt8) : Decidable (f.PayloadAsserts line) :=
  inferInstanceAs (Decidable (_ ∧ _))

/-- What is neither copied nor repeated is raw. -/
theorem type_raw {f : ScoaFunc} (notCopy : f.type ≠ .copy) (notRep : f.type ≠ .repeats)
    : f.type = .raw := by
  cases type : f.type with
  | copy => exact absurd type notCopy
  | repeats => exact absurd type notRep
  | raw => rfl

end ScoaFunc

/-- The iterator over the segments of a line. `curr` is the one in front of it. -/
structure ScoaState where
  last : ScoaFunc := default
  curr : ScoaFunc := default
  line : List UInt8
  prevLine : List UInt8
  index : Nat := 0
  deriving Repr, DecidableEq

namespace ScoaState

/-- The pending segment after the byte at `idx`, and the new segment that this byte
begins, if any. The pointer to the pending segment is null only at the first byte.
-/
def nextFunc (prevLine line : List UInt8) (idx : Nat) (last : Option ScoaFunc)
    : Option ScoaFunc × Option ScoaFunc :=
  match last with
  | none =>
    if prevLine ≠ [] ∧ (line)[idx]? = prevLine[idx]? then (none, some ⟨.copy, idx, 1⟩)
    else (none, some ⟨.raw, idx, 1⟩)
  | some last =>
    if idx ≥ 1 ∧ (line)[idx]? = (line)[idx - 1]? ∧ last.type ≠ .copy then
      if last.type = .repeats then (some { last with count := last.count + 1 }, none)
      else if last.count = 1 then (some { last with type := .repeats, count := 2 }, none)
      else (some { last with count := last.count - 1 }, some ⟨.repeats, idx - 1, 2⟩)
    else if prevLine ≠ [] ∧ (line)[idx]? = prevLine[idx]? then
      if last.type = .copy then (some { last with count := last.count + 1 }, none)
      else (some last, some ⟨.copy, idx, 1⟩)
    else if last.type = .raw then (some { last with count := last.count + 1 }, none)
    else (some last, some ⟨.raw, idx, 1⟩)

/-- The end of `Next`, once the line is used up: the pending segment becomes the current
one, and the second time round the state becomes empty.
-/
def flush (state : ScoaState) : ScoaState × Bool :=
  if state.index ≠ 0 ∧ state.index ≤ state.line.length + 1 then
    ({ state with curr := state.last, index := state.index + 1 }, true)
  else (state, false)

/-- The loop of `Next`, which runs while `index < line.size()`: at most `remaining` times.
-/
def nextLoop : Nat → ScoaState → ScoaState × Bool
  | 0, state => state.flush
  | remaining + 1, state =>
    let pending := if state.index = 0 then none else some state.last
    let (last, next) := nextFunc state.prevLine state.line state.index pending
    let state := { state with last := last.getD state.last, index := state.index + 1 }
    match next with
    | none => nextLoop remaining state
    | some f =>
      if state.index > 1 then ({ state with curr := state.last, last := f }, true)
      else nextLoop remaining { state with last := f }

/-- Moves to the next segment, and tells whether there is one. -/
def next (state : ScoaState) : ScoaState × Bool :=
  nextLoop (state.line.length - state.index) state

/-- The constructor. -/
def ofLines (line prevLine : List UInt8) : ScoaState :=
  (next { line := line, prevLine := prevLine }).1

/-- The segment in front. -/
def peek (state : ScoaState) : ScoaFunc := state.curr

/-- The assertion of `peek`. -/
def PeekAsserts (state : ScoaState) : Prop := state.index ≠ 0

/-- So does the one of `Peek`. -/
instance (state : ScoaState) : Decidable state.PeekAsserts :=
  inferInstanceAs (Decidable (_ ≠ _))

/-- The segment in front, with a move behind it. -/
def get (state : ScoaState) : ScoaFunc × ScoaState := (state.peek, state.next.1)

/-- `Empty()`: the index stands past the line. -/
def Empty (state : ScoaState) : Prop := state.index > state.line.length + 1

/-- So does `Empty`. -/
instance (state : ScoaState) : Decidable state.Empty :=
  inferInstanceAs (Decidable (_ > _))

end ScoaState

end Capt.Compression
