import Libcapt.Compression.Segmentation
import Mathlib.Data.List.Chain

/-! The segmentation of a line is in normal form: a segment is as long as its type allows,
and raw bytes are only those that nothing else describes.
-/

namespace Capt.Compression

variable {line prevLine : List UInt8}

/-- The byte is not the one above it. -/
def Fresh (line prevLine : List UInt8) (i : Nat) : Prop :=
  prevLine ≠ [] → (line)[i]? ≠ prevLine[i]?

/-- No raw byte could be copied or repeated, and no repetition begins with a copy. -/
structure Normal (line prevLine : List UInt8) (f : ScoaFunc) : Prop where
  raw : f.type = .raw → ∀ i, f.index ≤ i → i < f.index + f.count → Fresh line prevLine i
  apart
    : f.type = .raw →
        ∀ i, f.index ≤ i → i + 1 < f.index + f.count → (line)[i + 1]? ≠ (line)[i]?
  repeats : f.type = .repeats → Fresh line prevLine f.index

/-- The byte behind a copy or a repetition would not continue it. -/
structure Maximal (line prevLine : List UInt8) (f : ScoaFunc) : Prop where
  copy
    : f.type = .copy → f.index + f.count < line.length →
        (line)[f.index + f.count]? ≠ prevLine[f.index + f.count]?
  repeats
    : f.type = .repeats → f.index + f.count < line.length →
        (line)[f.index + f.count]? ≠ (line)[f.index]?

/-- What can follow a segment. -/
structure Follows (line : List UInt8) (f next : ScoaFunc) : Prop where
  copies : f.type = .copy → next.type ≠ .copy
  raws : f.type = .raw → next.type ≠ .raw
  pair
    : f.type = .raw → next.type = .repeats →
        (line)[f.index + f.count - 1]? ≠ (line)[next.index]?

/-- The normal form of a line's segments. -/
structure NormalForm (line prevLine : List UInt8) (segments : List ScoaFunc) : Prop where
  normal : ∀ f ∈ segments, Normal line prevLine f
  maximal : ∀ f ∈ segments, Maximal line prevLine f
  follows : segments.IsChain (Follows line)

-----------------------------------------------------------------------------------------
-- One byte
-----------------------------------------------------------------------------------------

/-- A copy is normal. -/
theorem normal_copy {idx count : Nat} : Normal line prevLine ⟨.copy, idx, count⟩ :=
  ⟨by simp, by simp, by simp⟩

/-- One raw byte is normal where it is fresh. -/
theorem normal_raw {idx : Nat} (fresh : Fresh line prevLine idx)
    : Normal line prevLine ⟨.raw, idx, 1⟩ := by
  refine ⟨fun _ i low high => ?_, fun _ i low high => ?_, by simp⟩
  · obtain rfl : i = idx := by
      dsimp only at low high
      omega
    exact fresh
  · dsimp only at low high
    omega

/-- Repeats are normal where their first byte is fresh. -/
theorem normal_repeats {idx count : Nat} (fresh : Fresh line prevLine idx)
    : Normal line prevLine ⟨.repeats, idx, count⟩ :=
  ⟨by simp, by simp, fun _ => fresh⟩

/-- The first segment of a line is normal. -/
theorem nextFunc_first_normal {f : ScoaFunc}
    (run : ScoaState.nextFunc prevLine line 0 none = (none, some f))
    : Normal line prevLine f := by
  simp only [ScoaState.nextFunc] at run
  split at run
  · cases run
    exact normal_copy
  · rename_i differs
    cases run
    exact normal_raw fun nonempty same => differs ⟨nonempty, same⟩

/-- `f` begins where `last` begins. Only a raw segment changes its type, to a repetition. -/
structure Turns (last f : ScoaFunc) : Prop where
  start : f.index = last.index
  type : f.type = last.type ∨ last.type = .raw ∧ f.type = .repeats

/-- A segment may stay as it is. -/
theorem Turns.refl (last : ScoaFunc) : Turns last last := ⟨rfl, .inl rfl⟩

/-- A segment that grows twice. -/
theorem Turns.trans {last f next : ScoaFunc} (first : Turns last f) (second : Turns f next)
    : Turns last next := by
  refine ⟨second.start.trans first.start, ?_⟩
  rcases first.type with same | ⟨raw, rep⟩
  · rw [← same]
    exact second.type
  · rcases second.type with same | ⟨raw', _⟩
    · exact .inr ⟨raw, same.trans rep⟩
    · cases rep.symm.trans raw'

/-- What follows a segment does so while it is extended. -/
theorem Follows.turns {f last next : ScoaFunc} (h : Follows line f last) (turns : Turns last next)
    : Follows line f next := by
  obtain ⟨start, type⟩ := turns
  rcases type with same | ⟨raw, rep⟩
  · refine ⟨?_, ?_, ?_⟩
    · rw [same]
      exact h.copies
    · rw [same]
      exact h.raws
    · rw [same, start]
      exact h.pair
  · have notRaw : f.type ≠ .raw := fun raw' => h.raws raw' raw
    refine ⟨fun _ copy => ?_, fun raw' => absurd raw' notRaw, fun raw' => absurd raw' notRaw⟩
    cases rep.symm.trans copy

/-- What one more byte does to the pending segment, with the normal form. -/
inductive Normalizes (line prevLine : List UInt8) (last : ScoaFunc)
    : ScoaFunc → Option ScoaFunc → Prop
  | grown {last'} (turns : Turns last last') (normal : Normal line prevLine last')
    : Normalizes line prevLine last last' none
  | closed {last' f} (turns : Turns last last') (normal : Normal line prevLine last')
    (maximal : Maximal line prevLine last') (next : Normal line prevLine f)
    (follows : Follows line last' f)
    : Normalizes line prevLine last last' (some f)

/-- A pending segment is closed as late as possible. -/
theorem Segment.maximal {last : ScoaFunc} {idx : Nat} (pending : Segment line prevLine last idx)
    (differs : last.type = .repeats → (line)[idx]? ≠ (line)[idx - 1]?)
    (fresh : last.type = .copy → Fresh line prevLine idx)
    : Maximal line prevLine last := by
  have ends := pending.ends
  have pos := pending.count_pos
  constructor
  · intro copy _
    obtain ⟨nonempty, _⟩ := pending.copied copy
    rw [ends]
    exact fresh copy nonempty
  · intro rep _
    obtain ⟨_, equal⟩ := pending.repeated rep
    rw [ends, ← equal (idx - 1) (by omega) (by omega)]
    exact differs rep

/-- Raw bytes need not be maximal. -/
theorem maximal_raw {idx count : Nat} : Maximal line prevLine ⟨.raw, idx, count⟩ :=
  ⟨by simp, by simp⟩

/-- A raw segment may lose its last byte. -/
theorem normal_shorter {index count : Nat} (normal : Normal line prevLine ⟨.raw, index, count⟩)
    : Normal line prevLine ⟨.raw, index, count - 1⟩ := by
  constructor
  case raw =>
    intro _ i low high
    dsimp only at low high
    exact normal.raw rfl i low (by dsimp only; omega)
  case apart =>
    intro _ i low high
    dsimp only at low high
    exact normal.apart rfl i low (by dsimp only; omega)
  case repeats => simp

/-- It may grow by a byte that can not be copied, and that differs from its last one. -/
theorem normal_longer {index count idx : Nat}
    (normal : Normal line prevLine ⟨.raw, index, count⟩) (ends : index + count = idx)
    (fresh : Fresh line prevLine idx) (differs : (line)[idx]? ≠ (line)[idx - 1]?)
    : Normal line prevLine ⟨.raw, index, count + 1⟩ := by
  constructor
  case raw =>
    intro _ i low high
    dsimp only at low high
    rcases Nat.lt_or_ge i idx with before | after
    · exact normal.raw rfl i low (by dsimp only; omega)
    · obtain rfl : i = idx := by omega
      exact fresh
  case apart =>
    intro _ i low high
    dsimp only at low high
    rcases Nat.lt_or_ge (i + 1) idx with before | after
    · exact normal.apart rfl i low (by dsimp only; omega)
    · obtain rfl : idx = i + 1 := by omega
      exact differs
  case repeats => simp

/-- A step of the search keeps segments normal. -/
theorem nextFunc_normal {last : ScoaFunc} {idx : Nat} (pending : Segment line prevLine last idx)
    (normal : Normal line prevLine last) {last' : ScoaFunc} {next : Option ScoaFunc}
    (run : ScoaState.nextFunc prevLine line idx (some last) = (some last', next))
    : Normalizes line prevLine last last' next := by
  have pos := pending.count_pos
  have ends := pending.ends
  obtain ⟨type, index, count⟩ := last
  dsimp only at pos ends
  unfold ScoaState.nextFunc at run
  dsimp only at run
  split at run
  · rename_i again
    obtain ⟨_, same, notCopy⟩ := again
    split at run
    · -- the repetition grows
      rename_i rep
      cases rep
      cases run
      exact .grown ⟨rfl, .inl rfl⟩ (normal_repeats (normal.repeats rfl))
    · rename_i notRep
      obtain rfl : type = .raw := @ScoaFunc.type_raw ⟨type, index, count⟩ notCopy notRep
      split at run
      · -- a raw segment of one byte becomes a repetition
        rename_i one
        cases one
        cases run
        have fresh := normal.raw rfl index (Nat.le_refl index) (Nat.lt_succ_self index)
        exact .grown ⟨rfl, .inr ⟨rfl, rfl⟩⟩ (normal_repeats fresh)
      · -- the raw segment loses its last byte to a repetition
        cases run
        have fresh := normal.raw rfl (idx - 1) (by dsimp only; omega) (by dsimp only; omega)
        have apart := normal.apart rfl (idx - 2) (by dsimp only; omega) (by dsimp only; omega)
        have before : idx - 2 + 1 = idx - 1 := by omega
        have end' : index + (count - 1) - 1 = idx - 2 := by omega
        refine .closed ⟨rfl, .inl rfl⟩ (normal_shorter normal) maximal_raw (normal_repeats fresh) ?_
        refine ⟨by simp, by simp, fun _ _ => ?_⟩
        dsimp only
        rw [end', ← before]
        exact apart.symm
  rename_i notAgain
  have differs : type ≠ .copy → (line)[idx]? ≠ (line)[idx - 1]? :=
    fun notCopy same => notAgain ⟨by omega, same, notCopy⟩
  split at run
  · rename_i same
    split at run
    · -- the copy grows
      rename_i copy
      cases copy
      cases run
      exact .grown ⟨rfl, .inl rfl⟩ normal_copy
    · rename_i notCopy
      cases run
      have maximal := pending.maximal (fun _ => differs notCopy) fun copy => absurd copy notCopy
      refine .closed (Turns.refl _) normal maximal normal_copy ?_
      exact ⟨fun copy => absurd copy notCopy, by simp, by simp⟩
  rename_i differs'
  have fresh : Fresh line prevLine idx := fun nonempty same => differs' ⟨nonempty, same⟩
  split at run
  · -- the raw segment grows
    rename_i raw
    cases raw
    cases run
    exact .grown ⟨rfl, .inl rfl⟩ (normal_longer normal ends fresh (differs (by simp)))
  · rename_i notRaw
    cases run
    have maximal := pending.maximal
      (fun rep => differs fun copy => by cases rep.symm.trans copy) fun _ => fresh
    refine .closed (Turns.refl _) normal maximal (normal_raw fresh) ?_
    exact ⟨by simp, fun raw => absurd raw notRaw, by simp⟩

-----------------------------------------------------------------------------------------
-- The states of a line
-----------------------------------------------------------------------------------------

namespace ScoaState

/-- The segments that the state knows are in normal form. -/
structure NormalAt (line prevLine : List UInt8) (state : ScoaState) : Prop where
  curr
    : ¬ state.Empty → Normal line prevLine state.curr ∧ Maximal line prevLine state.curr
  last
    : state.index ≤ line.length →
        Normal line prevLine state.last ∧ Follows line state.curr state.last

/-- From a pending segment, the loop closes it, by induction on the bytes that remain. -/
theorem nextLoop_normal (remaining : Nat) (state : ScoaState)
    (lines : state.line = line ∧ state.prevLine = prevLine)
    (covers : Segment line prevLine state.last state.index)
    (normal : Normal line prevLine state.last)
    (left : state.index + remaining = line.length)
    : NormalAt line prevLine (nextLoop remaining state).1
      ∧ Turns state.last (nextLoop remaining state).1.curr := by
  have pos := covers.count_pos
  have ends := covers.ends
  induction remaining generalizing state with
  | zero =>
      have flushes : state.index ≠ 0 ∧ state.index ≤ state.line.length + 1 := by
        rw [lines.1]
        omega
      have maximal : Maximal line prevLine state.last := by
        constructor <;> intro _ more <;> omega
      rw [nextLoop, flush, if_pos flushes]
      refine ⟨⟨fun _ => ⟨normal, maximal⟩, fun more => ?_⟩, Turns.refl _⟩
      dsimp only at more
      omega
  | succ remaining ih =>
      have nonzero : state.index ≠ 0 := by omega
      obtain ⟨last', next, run, step⟩ := nextFunc_extends (by omega) covers
      have normalizes := nextFunc_normal covers normal run
      rw [nextLoop]
      simp only [nonzero, ↓reduceIte, lines.1, lines.2, run, Option.getD_some]
      cases normalizes with
      | grown turns normal' =>
          cases step with
          | grown _ grown =>
              obtain ⟨at', next⟩ := ih ⟨last', state.curr, line, prevLine, state.index + 1⟩
                ⟨rfl, rfl⟩ grown normal' (by dsimp only; omega) grown.count_pos grown.ends
              exact ⟨at', turns.trans next⟩
      | closed turns normal' maximal next follows =>
          have more : state.index + 1 > 1 := by omega
          simp only [more, ↓reduceIte]
          exact ⟨⟨fun _ => ⟨normal', maximal⟩, fun _ => ⟨next, follows⟩⟩, turns⟩

/-- A new iterator has a normal segment in front. -/
theorem ofLines_normal (h : 0 < line.length) : NormalAt line prevLine (ofLines line prevLine) := by
  obtain ⟨f, n, run, _, covers, left, same⟩ := ofLines_eq h
  rw [same]
  exact (nextLoop_normal n ⟨f, default, line, prevLine, 1⟩ ⟨rfl, rfl⟩ covers
    (nextFunc_first_normal run) left).1

/-- `get` keeps the normal form, and what it leaves follows what it gives. -/
theorem NormalAt.get {state state' : ScoaState} {start : Nat} (h : state.At line prevLine start)
    (normal : NormalAt line prevLine state) (run : state.get = (state.curr, state'))
    : NormalAt line prevLine state'
      ∧ (¬ state'.Empty → Follows line state.curr state'.curr) := by
  cases run
  cases h with
  | pending lines starts covers next apart =>
      have bound := next.bound
      obtain ⟨last, follows⟩ := normal.last bound
      obtain ⟨at', turns⟩ := nextLoop_normal (state.line.length - state.index) state lines next
        last (by rw [lines.1]; omega)
      exact ⟨at', fun _ => follows.turns turns⟩
  | final lines starts covers used =>
      rw [← lines.1] at used
      rw [next_behind (by omega), flush_last used]
      have empty : ScoaState.Empty { state with curr := state.last, index := state.index + 1 } := by
        unfold Empty
        dsimp only
        omega
      refine ⟨⟨fun more => absurd empty more, fun more => ?_⟩, fun more => absurd empty more⟩
      rw [← lines.1] at more
      dsimp only at more
      omega
  | empty lines starts used =>
      rw [← lines.1] at used
      have done : state.flush = (state, false) := if_neg (by omega)
      rw [next_behind (by omega), done]
      have empty : state.Empty := by
        unfold Empty
        omega
      exact ⟨normal, fun more => absurd empty more⟩

/-- Draining gives the normal form, by induction on the bound of its calls. -/
theorem NormalAt.drain (fuel : Nat) {state : ScoaState} {start : Nat}
    (h : state.At line prevLine start) (normal : NormalAt line prevLine state)
    {segments : List ScoaFunc} (drained : state.drain fuel = some segments)
    : NormalForm line prevLine segments
      ∧ ∀ f ∈ segments.head?, ¬ state.Empty ∧ f = state.curr := by
  induction fuel generalizing state start segments with
  | zero =>
      rw [ScoaState.drain] at drained
      split at drained
      · cases drained
        exact ⟨⟨by simp, by simp, .nil⟩, by simp⟩
      · cases drained
  | succ fuel ih =>
      rw [ScoaState.drain] at drained
      split at drained
      · cases drained
        exact ⟨⟨by simp, by simp, .nil⟩, by simp⟩
      · rename_i empty
        obtain ⟨state', run, _, _, next, _⟩ := h.get empty
        obtain ⟨normal', follows⟩ := normal.get h run
        obtain ⟨curr, maximal⟩ := normal.curr empty
        simp only [run] at drained
        obtain ⟨tail, rest, rfl⟩ := Option.map_eq_some_iff.mp drained
        obtain ⟨form, first⟩ := ih next normal' rest
        refine ⟨⟨?_, ?_, ?_⟩, ?_⟩
        · exact List.forall_mem_cons.mpr ⟨curr, form.normal⟩
        · exact List.forall_mem_cons.mpr ⟨maximal, form.maximal⟩
        · refine List.isChain_cons.mpr ⟨fun f head => ?_, form.follows⟩
          obtain ⟨more, rfl⟩ := first f head
          exact follows more
        · rintro _ ⟨⟩
          exact ⟨empty, rfl⟩

/-- Draining the segmentation of a line gives its normal form. -/
theorem normalForm (nonempty : line ≠ [])
    : ∃ segments, (ofLines line prevLine).drain line.length = some segments
        ∧ NormalForm line prevLine segments := by
  have pos := List.length_pos_iff.mpr nonempty
  have at' : (ofLines line prevLine).At line prevLine 0 := ofLines_at pos
  obtain ⟨segments, drained, _, _⟩ := at'.drain line.length (Nat.le_add_left ..)
  exact ⟨segments, drained, ((ofLines_normal pos).drain line.length at' drained).1⟩

/-- A raw segment that loses its last byte to a repetition. -/
theorem normalForm_pair
    : ∃ segments, (ofLines [7, 1, 2, 3, 3] [7, 8, 8, 8, 8]).drain 5 = some segments
        ∧ NormalForm [7, 1, 2, 3, 3] [7, 8, 8, 8, 8] segments :=
  @normalForm [7, 1, 2, 3, 3] [7, 8, 8, 8, 8] (by decide)

end ScoaState

end Capt.Compression
