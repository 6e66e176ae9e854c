import Libcapt.Compression.ScoaState

/-! The segmentation of a line is a tiling: the segments that `get` gives follow each
other without gaps from the first byte to the last, and each describes its bytes.
-/

namespace Capt.Compression

variable {line prevLine : List UInt8}

/-- `f` covers the bytes of the line from its index up to `stop`, and they are what its
type says.
-/
structure Segment (line prevLine : List UInt8) (f : ScoaFunc) (stop : Nat) : Prop where
  count_pos : 0 < f.count
  ends : f.index + f.count = stop
  bound : stop ≤ line.length
  copied
    : f.type = .copy →
        prevLine ≠ [] ∧ ∀ i, f.index ≤ i → i < stop → (line)[i]? = prevLine[i]?
  repeated
    : f.type = .repeats →
        2 ≤ f.count ∧ ∀ i, f.index ≤ i → i < stop → (line)[i]? = (line)[f.index]?

-----------------------------------------------------------------------------------------
-- One byte
-----------------------------------------------------------------------------------------

/-- One raw byte is a segment. -/
theorem segment_raw {idx : Nat} (h : idx < line.length)
    : Segment line prevLine ⟨.raw, idx, 1⟩ (idx + 1) :=
  ⟨Nat.one_pos, rfl, h, by simp, by simp⟩

/-- One byte that equals the one above is a segment to copy. -/
theorem segment_copy {idx : Nat} (h : idx < line.length) (nonempty : prevLine ≠ [])
    (same : (line)[idx]? = prevLine[idx]?)
    : Segment line prevLine ⟨.copy, idx, 1⟩ (idx + 1) := by
  refine ⟨Nat.one_pos, rfl, h, fun _ => ⟨nonempty, ?_⟩, by simp⟩
  intro i low high
  obtain rfl : i = idx := by
    dsimp only at low
    omega
  exact same

/-- Two equal neighbours are a repetition. -/
theorem segment_pair {idx : Nat} (h : idx + 1 < line.length)
    (same : (line)[idx + 1]? = (line)[idx]?)
    : Segment line prevLine ⟨.repeats, idx, 2⟩ (idx + 2) := by
  refine ⟨Nat.two_pos, rfl, by omega, by simp, fun _ => ⟨Nat.le_refl 2, ?_⟩⟩
  intro i low high
  dsimp only at low ⊢
  rcases Nat.eq_or_lt_of_le low with rfl | low
  · rfl
  · obtain rfl : i = idx + 1 := by omega
    exact same

/-- The first byte begins a segment of one byte. -/
theorem nextFunc_first (h : 0 < line.length)
    : ∃ f, ScoaState.nextFunc prevLine line 0 none = (none, some f)
        ∧ f.index = 0 ∧ Segment line prevLine f 1 := by
  simp only [ScoaState.nextFunc]
  split
  · rename_i same
    exact ⟨_, rfl, rfl, segment_copy h same.1 same.2⟩
  · exact ⟨_, rfl, rfl, segment_raw h⟩

/-- `f` begins where `last` begins, and is a copy only if `last` is one. -/
structure Continues (last f : ScoaFunc) : Prop where
  start : f.index = last.index
  type : f.type = .copy → last.type = .copy

/-- What one more byte does to the pending segment: it is extended by the byte, or it is
closed and a new segment follows it up to the byte.
-/
inductive Extends (line prevLine : List UInt8) (last : ScoaFunc) (idx : Nat)
    : ScoaFunc → Option ScoaFunc → Prop
  | grown {last'} (same : Continues last last')
    (covers : Segment line prevLine last' (idx + 1))
    : Extends line prevLine last idx last' none
  | closed {last' f} (same : Continues last last')
    (covers : Segment line prevLine last' f.index)
    (follows : Segment line prevLine f (idx + 1))
    (apart : last'.type = .copy → f.type ≠ .copy)
    : Extends line prevLine last idx last' (some f)

/-- A step of the search extends the segment that is pending, or begins one behind it. -/
theorem nextFunc_extends {last : ScoaFunc} {idx : Nat} (h : idx < line.length)
    (pending : Segment line prevLine last idx)
    : ∃ last' next, ScoaState.nextFunc prevLine line idx (some last) = (some last', next)
        ∧ Extends line prevLine last idx last' next := by
  have pos := pending.count_pos
  have ends := pending.ends
  unfold ScoaState.nextFunc
  dsimp only
  split
  · rename_i again
    obtain ⟨_, same, notCopy⟩ := again
    split
    · -- the repetition grows
      rename_i rep
      obtain ⟨two, equal⟩ := pending.repeated rep
      refine ⟨_, _, rfl, .grown ⟨rfl, id⟩ ⟨Nat.succ_pos _, ?_, h, ?_, fun _ => ⟨?_, ?_⟩⟩⟩
      · dsimp only
        omega
      · simp [rep]
      · dsimp only
        omega
      · intro i low high
        dsimp only at low ⊢
        rcases Nat.lt_or_ge i idx with before | after
        · exact equal i low before
        · obtain rfl : i = idx := by omega
          rw [same]
          exact equal (i - 1) (by omega) (by omega)
    · rename_i notRep
      have raw := ScoaFunc.type_raw notCopy notRep
      obtain ⟨before, rfl⟩ : ∃ before, idx = before + 1 := ⟨idx - 1, by omega⟩
      rw [Nat.add_sub_cancel] at same ⊢
      split
      · -- a raw segment of one byte becomes a repetition
        rename_i one
        have start : last.index = before := by omega
        refine ⟨_, _, rfl, .grown ⟨rfl, by simp⟩ ?_⟩
        rw [start]
        exact segment_pair h same
      · -- the raw segment loses its last byte to a repetition
        refine ⟨_, _, rfl, .closed ⟨rfl, id⟩ ⟨?_, ?_, ?_, ?_, ?_⟩ (segment_pair h same) (by simp)⟩
        · dsimp only
          omega
        · dsimp only
          omega
        · dsimp only
          omega
        · simp [raw]
        · simp [raw]
  split
  · rename_i notAgain same
    split
    · -- the copy grows
      rename_i copy
      obtain ⟨nonempty, equal⟩ := pending.copied copy
      refine ⟨_, _, rfl, .grown ⟨rfl, id⟩ ⟨Nat.succ_pos _, ?_, h, fun _ => ⟨nonempty, ?_⟩, ?_⟩⟩
      · dsimp only
        omega
      · intro i low high
        rcases Nat.lt_or_ge i idx with before | after
        · exact equal i low before
        · obtain rfl : i = idx := by omega
          exact same.2
      · simp [copy]
    · rename_i notCopy
      exact ⟨_, _, rfl,
        .closed ⟨rfl, id⟩ pending (segment_copy h same.1 same.2) fun copy => absurd copy notCopy⟩
  split
  · -- the raw segment grows
    rename_i raw
    refine ⟨_, _, rfl, .grown ⟨rfl, id⟩ ⟨Nat.succ_pos _, ?_, h, ?_, ?_⟩⟩
    · dsimp only
      omega
    · simp [raw]
    · simp [raw]
  · exact ⟨_, _, rfl, .closed ⟨rfl, id⟩ pending (segment_raw h) (by simp)⟩

-----------------------------------------------------------------------------------------
-- The states of a line
-----------------------------------------------------------------------------------------

namespace ScoaState

/-- The segments given so far tile the line up to `start`: two more are known, or only the
last one, or the line is used up.
-/
inductive At (line prevLine : List UInt8) (state : ScoaState) (start : Nat) : Prop
  | pending (lines : state.line = line ∧ state.prevLine = prevLine)
    (starts : state.curr.index = start)
    (covers : Segment line prevLine state.curr state.last.index)
    (follows : Segment line prevLine state.last state.index)
    (apart : state.curr.type = .copy → state.last.type ≠ .copy)
  | final (lines : state.line = line ∧ state.prevLine = prevLine)
    (starts : state.curr.index = start)
    (covers : Segment line prevLine state.curr line.length)
    (used : state.index = line.length + 1)
  | empty (lines : state.line = line ∧ state.prevLine = prevLine)
    (starts : start = line.length) (used : state.index = line.length + 2)

/-- The segments start inside the line. -/
theorem At.le_length {state : ScoaState} {start : Nat} (h : state.At line prevLine start)
    : start ≤ line.length := by
  cases h with
  | pending lines starts covers follows _ =>
      have ends := covers.ends
      have next := follows.ends
      have bound := follows.bound
      omega
  | final lines starts covers used =>
      have ends := covers.ends
      omega
  | empty lines starts used => omega

/-- A state is empty exactly when its segments have covered the line. -/
theorem At.empty_iff {state : ScoaState} {start : Nat}
    (h : state.At line prevLine start)
    : state.Empty ↔ start = line.length := by
  unfold Empty
  cases h with
  | pending lines starts covers follows _ =>
      have pos := covers.count_pos
      have ends := covers.ends
      have next := follows.ends
      have after := follows.count_pos
      have bound := follows.bound
      rw [lines.1]
      omega
  | final lines starts covers used =>
      have pos := covers.count_pos
      have ends := covers.ends
      rw [lines.1]
      omega
  | empty lines starts used =>
      rw [lines.1]
      omega

/-- The assertion of `peek` holds in every state of a line. -/
theorem At.peekAsserts {state : ScoaState} {start : Nat}
    (h : state.At line prevLine start)
    : state.PeekAsserts := by
  unfold PeekAsserts
  cases h with
  | pending lines starts covers follows _ =>
      have ends := follows.ends
      have pos := follows.count_pos
      omega
  | final _ _ _ used => omega
  | empty _ _ used => omega

/-- From a pending segment, the loop closes it, by induction on the bytes that remain. -/
theorem nextLoop_at (remaining : Nat) (state : ScoaState)
    (lines : state.line = line ∧ state.prevLine = prevLine)
    (covers : Segment line prevLine state.last state.index)
    (left : state.index + remaining = line.length)
    : (nextLoop remaining state).1.At line prevLine state.last.index
      ∧ Continues state.last (nextLoop remaining state).1.curr := by
  have pos := covers.count_pos
  have ends := covers.ends
  induction remaining generalizing state with
  | zero =>
      have flushes : state.index ≠ 0 ∧ state.index ≤ state.line.length + 1 := by
        rw [lines.1]
        omega
      rw [nextLoop, flush, if_pos flushes]
      refine ⟨.final lines rfl ?_ ?_, rfl, id⟩
      · rw [← left]
        exact covers
      · dsimp only
        omega
  | succ remaining ih =>
      have nonzero : state.index ≠ 0 := by omega
      obtain ⟨last', next, run, step⟩ := nextFunc_extends (by omega) covers
      rw [nextLoop]
      simp only [nonzero, ↓reduceIte, lines.1, lines.2, run, Option.getD_some]
      cases step with
      | grown same grown =>
          rw [← same.start]
          obtain ⟨at', next⟩ := ih ⟨last', state.curr, line, prevLine, state.index + 1⟩
            ⟨rfl, rfl⟩ grown (by dsimp only; omega) grown.count_pos grown.ends
          exact ⟨at', next.start.trans same.start, fun copy => same.type (next.type copy)⟩
      | closed same before after apart =>
          have more : state.index + 1 > 1 := by omega
          simp only [more, ↓reduceIte]
          exact ⟨.pending ⟨rfl, rfl⟩ same.start before after apart, same⟩

/-- The constructor goes on from the segment of the first byte. -/
theorem ofLines_eq (h : 0 < line.length)
    : ∃ f n, nextFunc prevLine line 0 none = (none, some f) ∧ f.index = 0
        ∧ Segment line prevLine f 1 ∧ 1 + n = line.length
        ∧ ofLines line prevLine = (nextLoop n ⟨f, default, line, prevLine, 1⟩).1 := by
  obtain ⟨f, run, start, covers⟩ : ∃ f,
      nextFunc prevLine line 0 none = (none, some f) ∧ f.index = 0
        ∧ Segment line prevLine f 1 := nextFunc_first h
  obtain ⟨n, hn⟩ : ∃ n, line.length = n + 1 := ⟨line.length - 1, by omega⟩
  refine ⟨f, n, run, start, covers, by omega, ?_⟩
  unfold ofLines next
  rw [Nat.sub_zero, hn, nextLoop]
  simp only [↓reduceIte, run, Nat.zero_add, gt_iff_lt, Nat.lt_irrefl]

/-- The constructor leaves a state before the first byte of a nonempty line. -/
theorem ofLines_at (h : 0 < line.length) : (ofLines line prevLine).At line prevLine 0 := by
  obtain ⟨f, n, _, start, covers, left, same⟩ := ofLines_eq h
  rw [same, ← start]
  exact (nextLoop_at n ⟨f, default, line, prevLine, 1⟩ ⟨rfl, rfl⟩ covers left).1

/-- Behind the line there is only the last segment to flush. -/
theorem next_behind {state : ScoaState} (behind : state.line.length ≤ state.index)
    : state.next = state.flush := by
  rw [next, Nat.sub_eq_zero_of_le behind, nextLoop]

/-- At the end of the line the pending segment is the last one. -/
theorem flush_last {state : ScoaState} (used : state.index = state.line.length + 1)
    : state.flush = ({ state with curr := state.last, index := state.index + 1 }, true) := by
  apply if_pos
  omega

/-- `get` gives the next segment of the tiling and moves behind it; a copy is followed by
something else.
-/
theorem At.get {state : ScoaState} {start : Nat} (h : state.At line prevLine start)
    (nonempty : ¬ state.Empty)
    : ∃ state', state.get = (state.curr, state')
        ∧ state.curr.index = start
        ∧ Segment line prevLine state.curr (start + state.curr.count)
        ∧ state'.At line prevLine (start + state.curr.count)
        ∧ (state.curr.type = .copy → ¬ state'.Empty → state'.curr.type ≠ .copy) := by
  refine ⟨state.next.1, rfl, ?_⟩
  cases h with
  | pending lines starts covers follows apart =>
      have ends := covers.ends
      have bound := follows.bound
      obtain ⟨at', curr⟩ := nextLoop_at (state.line.length - state.index) state lines follows
        (by rw [lines.1]; omega)
      have stop : start + state.curr.count = state.last.index := by omega
      rw [stop]
      refine ⟨starts, covers, at', fun copy _ copyNext => apart copy (curr.type copyNext)⟩
  | final lines starts covers used =>
      have ends := covers.ends
      have stop : start + state.curr.count = line.length := by omega
      have after : state.next.1.At line prevLine line.length := by
        rw [← lines.1] at used
        rw [next_behind (by omega), flush_last used, ← lines.1]
        exact .empty ⟨rfl, lines.2⟩ rfl (congrArg Nat.succ used)
      rw [stop]
      exact ⟨starts, covers, after, fun _ more => absurd (after.empty_iff.mpr rfl) more⟩
  | empty lines starts used =>
      exfalso
      apply nonempty
      unfold Empty
      rw [lines.1]
      omega

/-- `while (!state.Empty()) segments.push_back(state.Get())`; `none` when the state is not
empty after `fuel` calls.
-/
def drain : Nat → ScoaState → Option (List ScoaFunc)
  | fuel, state =>
    if state.Empty then some []
    else
      match fuel with
      | 0 => none
      | fuel + 1 =>
        let (f, state) := state.get
        (drain fuel state).map (f :: ·)

/-- The segments follow each other without gaps from `start` to the end of the line, and
each describes its bytes.
-/
inductive Tiles (line prevLine : List UInt8) : Nat → List ScoaFunc → Prop
  | done : Tiles line prevLine line.length []
  | segment {start f segments} (starts : f.index = start)
    (covers : Segment line prevLine f (start + f.count))
    (tail : Tiles line prevLine (start + f.count) segments)
    : Tiles line prevLine start (f :: segments)

/-- Draining gives the rest of the tiling, by induction on the bound of its calls; each
call moves forward.
-/
theorem At.drain (fuel : Nat) {state : ScoaState} {start : Nat}
    (h : state.At line prevLine start) (enough : line.length ≤ start + fuel)
    : ∃ segments, state.drain fuel = some segments
        ∧ segments.length ≤ fuel
        ∧ Tiles line prevLine start segments := by
  induction fuel generalizing state start with
  | zero =>
      have le := h.le_length
      obtain rfl : start = line.length := by omega
      have empty := h.empty_iff.mpr rfl
      refine ⟨[], ?_, Nat.le_refl 0, .done⟩
      rw [ScoaState.drain, if_pos empty]
  | succ fuel ih =>
      by_cases empty : state.Empty
      · obtain rfl := h.empty_iff.mp empty
        refine ⟨[], ?_, Nat.zero_le _, .done⟩
        rw [ScoaState.drain, if_pos empty]
      · obtain ⟨state', run, starts, covers, next, _⟩ := h.get empty
        have pos := covers.count_pos
        obtain ⟨segments, drained, length, tail⟩ := ih next (by omega)
        refine ⟨state.curr :: segments, ?_, Nat.succ_le_succ length, .segment starts covers tail⟩
        rw [ScoaState.drain, if_neg empty]
        simp only [run, drained, Option.map_some]

/-- Draining the segmentation of a line ends after at most one call for each of its bytes,
and gives a tiling of the line.
-/
theorem tiling (nonempty : line ≠ [])
    : ∃ segments, (ofLines line prevLine).drain line.length = some segments
        ∧ segments.length ≤ line.length
        ∧ Tiles line prevLine 0 segments :=
  (ofLines_at (List.length_pos_iff.mpr nonempty)).drain line.length (Nat.le_add_left ..)

/-- A line that ends in a repetition which takes a byte from the raw segment before it. -/
theorem tiling_pair
    : ∃ segments, (ofLines [7, 1, 2, 3, 3] [7, 8, 8, 8, 8]).drain 5 = some segments
        ∧ segments.length ≤ 5
        ∧ Tiles [7, 1, 2, 3, 3] [7, 8, 8, 8, 8] 0 segments :=
  @tiling [7, 1, 2, 3, 3] [7, 8, 8, 8, 8] (by decide)

end ScoaState

end Capt.Compression
