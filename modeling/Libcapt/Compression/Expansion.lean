import Libcapt.Compression.CommandSizes
import Libcapt.Compression.LineEncoding
import Libcapt.Compression.NormalForm

/-! How much longer than a line its commands can be. Only raw bytes at the beginning of a
line, or behind a repetition that follows a copy, cost more than ten bytes for nine; the copy
and the repetition pay for the latter in advance.
-/

namespace Capt.Compression

variable {line prevLine : List UInt8}

/-- What raw bytes cost in excess if they are next, in ninths of a byte. -/
def ScoaState.excess (state : ScoaState) : Nat :=
  if ¬ state.Empty ∧ state.curr.type = .raw then 10 else 0

/-- What `nextCmd` does to a line that is encoded up to `start`: it goes on to `stop`, for ten
ninths of the bytes between them, and excess raw bytes are paid for.
-/
def Affords (line prevLine : List UInt8) (start : Nat) (buffer : Buffer) (excess : Nat)
    (result : Buffer × ScoaState × Nat)
    : Prop :=
  ∃ stop,
    result.2.1.At line prevLine stop
    ∧ result.2.1.NormalAt line prevLine
    ∧ start < stop
    ∧ 9 * result.1.size + result.2.1.excess ≤ 9 * buffer.size + 10 * (stop - start) + excess

namespace ScoaState

variable {state middle : ScoaState}

/-- The excess is ten at the most. -/
theorem excess_le (state : ScoaState) : state.excess ≤ 10 := by
  unfold excess
  split <;> decide

/-- A state without anything left has no excess. -/
theorem excess_of_empty (empty : state.Empty) : state.excess = 0 :=
  if_neg fun next => next.1 empty

/-- No raw bytes follow raw bytes. -/
theorem excess_of_raw {f : ScoaFunc} (raw : f.type = .raw)
    (follows : ¬ state.Empty → Follows line f state.curr)
    : state.excess = 0 :=
  if_neg fun next => (follows next.1).raws raw next.2

end ScoaState

/-- Reducing a number to 32 bits does not make it larger. -/
theorem unsigned_le (n : Nat) : unsigned n ≤ n := Nat.mod_le ..

-----------------------------------------------------------------------------------------
-- The commands for the next segments
-----------------------------------------------------------------------------------------

/-- A copy at the front, with the raw bytes or repeats that are written with it. -/
theorem nextCmd_affords_copy {state : ScoaState} {start : Nat} (buffer : Buffer)
    (h : state.At line prevLine start) (normal : state.NormalAt line prevLine)
    (nonempty : ¬ state.Empty) (copy : state.curr.type = .copy)
    : Affords line prevLine start buffer state.excess (nextCmd buffer line state) := by
  obtain ⟨middle, run, rfl, covers, next, apart⟩ := h.get nonempty
  obtain ⟨normal', follows⟩ := normal.get h run
  have pos := covers.count_pos
  have least := unsigned_le state.curr.count
  rw [nextCmd, Buffer.assert_of nonempty, Buffer.assert_of h.peekAsserts]
  simp only [run, copy, ↓reduceIte]
  split
  · rename_i stop
    have empty := next.empty_iff.mpr stop
    refine ⟨_, next, normal', Nat.lt_add_of_pos_right pos, ?_⟩
    rw [ScoaState.excess_of_empty empty, size_eol]
    omega
  rename_i notEnd
  have more : ¬ middle.Empty := fun empty => notEnd (next.empty_iff.mp empty)
  obtain ⟨final, run', start', covers', next', _⟩ := next.get more
  obtain ⟨normal'', follows'⟩ := normal'.get next run'
  have pos' := covers'.count_pos
  have least' := unsigned_le middle.curr.count
  simp only [more, not_false_eq_true, ↓reduceIte, run', Buffer.assert_of next.peekAsserts]
  split
  · rename_i rep
    have two := (covers'.repeated rep).1
    rw [Buffer.assert_of two]
    have bound := size_cmdCopyThenRepeat_pays buffer ((line)[middle.curr.index]?.getD 0)
      least pos least' two
    have excess := ScoaState.excess_le final
    refine ⟨_, next', normal'', by omega, ?_⟩
    dsimp only
    omega
  · rename_i notRep
    have raw := ScoaFunc.type_raw ((follows more).copies copy) notRep
    have length' := covers'.length_payload
    rw [Buffer.assert_of raw, Buffer.assert_of covers'.payloadAsserts]
    have some : (middle.curr.payload line).length ≠ 0 := by omega
    have bound := size_cmdCopyThenRaw buffer least pos some
    refine ⟨_, next', normal'', by omega, ?_⟩
    rw [ScoaState.excess_of_raw raw follows']
    dsimp only
    omega

/-- Repeats at the front, with the raw bytes that are written with them. -/
theorem nextCmd_affords_repeats {state : ScoaState} {start : Nat} (buffer : Buffer)
    (h : state.At line prevLine start) (normal : state.NormalAt line prevLine)
    (nonempty : ¬ state.Empty) (rep : state.curr.type = .repeats)
    : Affords line prevLine start buffer state.excess (nextCmd buffer line state) := by
  obtain ⟨middle, run, rfl, covers, next, _⟩ := h.get nonempty
  obtain ⟨normal', _⟩ := normal.get h run
  have two := (covers.repeated rep).1
  have least := unsigned_le state.curr.count
  have peeks : middle.Empty ∨ middle.PeekAsserts := .inr next.peekAsserts
  rw [nextCmd, Buffer.assert_of nonempty, Buffer.assert_of h.peekAsserts]
  simp only [run, rep, reduceCtorEq, ↓reduceIte,
    Buffer.assert_of two, Buffer.assert_of peeks]
  split
  · rename_i raw
    obtain ⟨more, isRaw⟩ := raw
    obtain ⟨final, run', start', covers', next', _⟩ := next.get more
    obtain ⟨normal'', follows'⟩ := normal'.get next run'
    have length' := covers'.length_payload
    have pos' := covers'.count_pos
    simp only [run', Buffer.assert_of covers'.payloadAsserts]
    have one : unsigned state.curr.count = 1 → 3 ≤ state.curr.count := by
      unfold unsigned
      omega
    have some : (middle.curr.payload line).length ≠ 0 := by omega
    have bound :=
      size_cmdRepeatThenRaw buffer ((line)[state.curr.index]?.getD 0) least two one some
    refine ⟨_, next', normal'', by omega, ?_⟩
    rw [ScoaState.excess_of_raw isRaw follows']
    dsimp only
    omega
  · rename_i notRaw
    have bound := size_cmdRepeat buffer ((line)[state.curr.index]?.getD 0) least two
    have none : middle.excess = 0 := if_neg notRaw
    refine ⟨_, next, normal', by omega, ?_⟩
    dsimp only
    omega

/-- Raw bytes at the front. -/
theorem nextCmd_affords_raw {state : ScoaState} {start : Nat} (buffer : Buffer)
    (h : state.At line prevLine start) (normal : state.NormalAt line prevLine)
    (nonempty : ¬ state.Empty) (raw : state.curr.type = .raw)
    : Affords line prevLine start buffer state.excess (nextCmd buffer line state) := by
  obtain ⟨middle, run, rfl, covers, next, _⟩ := h.get nonempty
  obtain ⟨normal', follows⟩ := normal.get h run
  have pos := covers.count_pos
  have length := covers.length_payload
  have excess : state.excess = 10 := if_pos ⟨nonempty, raw⟩
  rw [nextCmd, Buffer.assert_of nonempty, Buffer.assert_of h.peekAsserts]
  simp only [run, raw, reduceCtorEq, ↓reduceIte,
    Buffer.assert_of covers.payloadAsserts]
  have bound := size_cmdWriteRaw buffer (state.curr.payload line)
  refine ⟨_, next, normal', by omega, ?_⟩
  rw [ScoaState.excess_of_raw raw follows, excess]
  dsimp only
  omega

/-- One turn of the loop, by cases on the segment at the front. -/
theorem nextCmd_affords {state : ScoaState} {start : Nat} (buffer : Buffer)
    (h : state.At line prevLine start) (normal : state.NormalAt line prevLine)
    (nonempty : ¬ state.Empty)
    : Affords line prevLine start buffer state.excess (nextCmd buffer line state) := by
  cases type : state.curr.type with
  | copy => exact nextCmd_affords_copy buffer h normal nonempty type
  | repeats => exact nextCmd_affords_repeats buffer h normal nonempty type
  | raw => exact nextCmd_affords_raw buffer h normal nonempty type

/-- The loop of `nextCmd` writes at most ten bytes for nine, by induction on the bound of its
iterations.
-/
theorem encodeLoop_affords (fuel : Nat) {state : ScoaState} {start : Nat} (buffer : Buffer)
    (videoSize : Nat) (h : state.At line prevLine start)
    (normal : state.NormalAt line prevLine) (enough : line.length ≤ start + fuel)
    : ∃ final size,
        encodeLoop fuel buffer line state videoSize = some (final, size)
        ∧ 9 * final.size ≤ 9 * buffer.size + 10 * (line.length - start) + state.excess := by
  induction fuel generalizing state start buffer videoSize with
  | zero =>
      have le := h.le_length
      have empty : state.Empty := h.empty_iff.mpr (by omega)
      refine ⟨buffer, videoSize, ?_, by omega⟩
      rw [encodeLoop, if_pos empty]
  | succ fuel ih =>
      by_cases empty : state.Empty
      · refine ⟨buffer, videoSize, ?_, by omega⟩
        rw [encodeLoop, if_pos empty]
      · obtain ⟨stop, next, normal', forward, bound⟩ := nextCmd_affords buffer h normal empty
        have le := next.le_length
        obtain ⟨final, size, run, rest⟩ := ih (nextCmd buffer line state).1
          (videoSize + (nextCmd buffer line state).2.2) next normal' (by omega)
        refine ⟨final, size, ?_, by omega⟩
        rw [encodeLoop, if_neg empty]
        exact run

-----------------------------------------------------------------------------------------
-- Lines that cost the most
-----------------------------------------------------------------------------------------

/-- A line without equal neighbours. -/
def costlyLine (blocks : Nat) : List UInt8 :=
  (List.range (9 * blocks + 8)).map fun i => UInt8.ofNat (i % 2)

/-- The line above it, with an equal byte behind every 8 bytes. -/
def costlyAbove (blocks : Nat) : List UInt8 :=
  (List.range (9 * blocks + 8)).map fun i => if i % 9 = 8 then UInt8.ofNat (i % 2) else 2

section Costly

variable {blocks : Nat}

/-- The costly line consists of its blocks and eight more bytes. -/
theorem length_costlyLine : (costlyLine blocks).length = 9 * blocks + 8 := by
  simp [costlyLine]

/-- The line above is as long. -/
theorem length_costlyAbove : (costlyAbove blocks).length = 9 * blocks + 8 := by
  simp [costlyAbove]

/-- No two neighbours of the costly line are equal. -/
theorem costlyLine_apart {i : Nat} (h : i + 1 < 9 * blocks + 8)
    : (costlyLine blocks)[i + 1]? ≠ (costlyLine blocks)[i]? := by
  have here : i < 9 * blocks + 8 := by omega
  simp only [costlyLine, List.getElem?_map, List.getElem?_range h, List.getElem?_range here,
    Option.map_some, ne_eq, Option.some.injEq]
  rcases Nat.mod_two_eq_zero_or_one i with even | odd
  · rw [Nat.add_mod, even]
    decide
  · rw [Nat.add_mod, odd]
    decide

/-- The two lines agree behind every eight bytes, and only there. -/
theorem costlyAbove_same_iff {i : Nat} (h : i < 9 * blocks + 8)
    : (costlyLine blocks)[i]? = (costlyAbove blocks)[i]? ↔ i % 9 = 8 := by
  simp only [costlyLine, costlyAbove, List.getElem?_map, List.getElem?_range h,
    Option.map_some, Option.some.injEq]
  split
  · rename_i same
    exact iff_of_true rfl same
  · rename_i other
    refine iff_of_false (fun same => ?_) other
    rcases Nat.mod_two_eq_zero_or_one i with even | odd
    · rw [even] at same
      revert same
      decide
    · rw [odd] at same
      revert same
      decide

/-- Where they agree, raw bytes would not be fresh. -/
theorem fresh_costlyLine {i : Nat} (h : i < 9 * blocks + 8)
    (fresh : Fresh (costlyLine blocks) (costlyAbove blocks) i)
    : i % 9 ≠ 8 := by
  intro same
  have nonempty : costlyAbove blocks ≠ [] := by
    apply List.ne_nil_of_length_pos
    rw [length_costlyAbove]
    omega
  exact fresh nonempty ((costlyAbove_same_iff h).mpr same)

variable {f : ScoaFunc} {stop : Nat}

/-- A segment is not empty and lies inside the line. -/
theorem costly_bounds (covers : Segment (costlyLine blocks) (costlyAbove blocks) f stop)
    : 0 < f.count ∧ f.index + f.count = stop ∧ stop ≤ 9 * blocks + 8 :=
  ⟨covers.count_pos, covers.ends, covers.bound.trans_eq length_costlyLine⟩

/-- No segment repeats, since no two neighbours are equal. -/
theorem costly_not_repeats (covers : Segment (costlyLine blocks) (costlyAbove blocks) f stop)
    : f.type ≠ .repeats := by
  intro rep
  obtain ⟨two, equal⟩ := covers.repeated rep
  obtain ⟨_, ends, bound⟩ := costly_bounds covers
  exact costlyLine_apart (by omega) (equal (f.index + 1) (by omega) (by omega))

/-- Where a segment of the costly line begins decides its type. -/
theorem costly_raw (covers : Segment (costlyLine blocks) (costlyAbove blocks) f stop)
    (start : f.index % 9 ≠ 8)
    : f.type = .raw := by
  obtain ⟨pos, ends, bound⟩ := costly_bounds covers
  cases type : f.type with
  | repeats => exact absurd type (costly_not_repeats covers)
  | raw => rfl
  | copy =>
      obtain ⟨_, same⟩ := covers.copied type
      have first := same f.index (Nat.le_refl _) (by omega)
      exact absurd ((costlyAbove_same_iff (by omega)).mp first) start

/-- Where the lines agree, one byte is copied. -/
theorem costly_copy (covers : Segment (costlyLine blocks) (costlyAbove blocks) f stop)
    (normal : Normal (costlyLine blocks) (costlyAbove blocks) f) (start : f.index % 9 = 8)
    : f.type = .copy ∧ f.count = 1 := by
  obtain ⟨pos, ends, bound⟩ := costly_bounds covers
  cases type : f.type with
  | repeats => exact absurd type (costly_not_repeats covers)
  | raw =>
      have fresh := normal.raw type f.index (Nat.le_refl _) (by omega)
      exact absurd start (fresh_costlyLine (by omega) fresh)
  | copy =>
      refine ⟨rfl, ?_⟩
      by_contra more
      obtain ⟨_, same⟩ := covers.copied type
      have second := same (f.index + 1) (by omega) (by omega)
      have again := (costlyAbove_same_iff (by omega)).mp second
      omega

/-- Raw bytes at the beginning of a block are the 8 that are not copied. -/
theorem costly_raw_count {state middle : ScoaState} {start : Nat}
    (h : state.At (costlyLine blocks) (costlyAbove blocks) start)
    (normal : state.NormalAt (costlyLine blocks) (costlyAbove blocks))
    (nonempty : ¬ state.Empty) (run : state.get = (state.curr, middle))
    (block : start % 9 = 0)
    : state.curr.type = .raw ∧ state.curr.count = 8 := by
  obtain ⟨_, run', rfl, covers, next, _⟩ := h.get nonempty
  cases run.symm.trans run'
  obtain ⟨normal', follows⟩ := normal.get h run
  obtain ⟨form, _⟩ := normal.curr nonempty
  have raw := costly_raw covers (by omega)
  have pos := covers.count_pos
  have bound := covers.bound
  have length := @length_costlyLine blocks
  have few : state.curr.count ≤ 8 := by
    by_contra many
    have fresh := form.raw raw (state.curr.index + 8) (by omega) (by omega)
    exact fresh_costlyLine (by omega) fresh (by omega)
  refine ⟨raw, ?_⟩
  by_contra fewer
  have inside : state.curr.index + state.curr.count < (costlyLine blocks).length := by omega
  have more : ¬ middle.Empty := by
    rw [next.empty_iff]
    omega
  obtain ⟨_, _, start', covers', _, _⟩ := next.get more
  exact (follows more).raws raw (costly_raw covers' (by omega))

/-- Eight raw bytes become ten. -/
theorem size_cmdWriteRaw_eight (buffer : Buffer) {rawData : List UInt8}
    (eight : rawData.length = 8)
    : (cmdWriteRaw buffer rawData).1.size = buffer.size + 10 := by
  simp [cmdWriteRaw, copyThenRawLongLoop, eight]

/-- So do eight raw bytes behind one that is copied. -/
theorem size_cmdCopyThenRaw_eight (buffer : Buffer) {rawData : List UInt8}
    (eight : rawData.length = 8)
    : (cmdCopyThenRaw buffer 1 rawData).1.size = buffer.size + 10 := by
  simp [cmdCopyThenRaw, cmdCopyThenRawShort, copyThenRawLongLoop, eight]

/-- At the front of a block eight bytes are written raw. -/
theorem nextCmd_costly_raw {state : ScoaState} {start : Nat} (buffer : Buffer)
    (h : state.At (costlyLine blocks) (costlyAbove blocks) start)
    (normal : state.NormalAt (costlyLine blocks) (costlyAbove blocks))
    (nonempty : ¬ state.Empty) (block : start % 9 = 0)
    : ∃ final next size,
        nextCmd buffer (costlyLine blocks) state = (final, next, size)
        ∧ next.At (costlyLine blocks) (costlyAbove blocks) (start + 8)
        ∧ next.NormalAt (costlyLine blocks) (costlyAbove blocks)
        ∧ final.size = buffer.size + 10 := by
  obtain ⟨middle, run, start', covers, next, _⟩ := h.get nonempty
  obtain ⟨normal', _⟩ := normal.get h run
  obtain ⟨raw, eight⟩ := costly_raw_count h normal nonempty run block
  have length := covers.length_payload
  have asserts : state.curr.PayloadAsserts (costlyLine blocks) := by
    rw [← start'] at covers
    exact covers.payloadAsserts
  rw [nextCmd, Buffer.assert_of nonempty, Buffer.assert_of h.peekAsserts]
  simp only [run, raw, reduceCtorEq, ↓reduceIte, Buffer.assert_of asserts]
  rw [eight] at next length
  exact ⟨_, _, _, rfl, next, normal', size_cmdWriteRaw_eight buffer length⟩

/-- At the end of a block one byte is copied, and eight more are written raw. -/
theorem nextCmd_costly_copy {state : ScoaState} {start : Nat} (buffer : Buffer)
    (h : state.At (costlyLine blocks) (costlyAbove blocks) start)
    (normal : state.NormalAt (costlyLine blocks) (costlyAbove blocks))
    (nonempty : ¬ state.Empty) (block : start % 9 = 8)
    : ∃ final next size,
        nextCmd buffer (costlyLine blocks) state = (final, next, size)
        ∧ next.At (costlyLine blocks) (costlyAbove blocks) (start + 9)
        ∧ next.NormalAt (costlyLine blocks) (costlyAbove blocks)
        ∧ final.size = buffer.size + 10 := by
  obtain ⟨middle, run, start', covers, next, _⟩ := h.get nonempty
  obtain ⟨normal', _⟩ := normal.get h run
  obtain ⟨copy, one⟩ := costly_copy covers (normal.curr nonempty).1 (by omega)
  rw [one] at next
  have inside : ¬ state.curr.index + 1 = (costlyLine blocks).length := by
    rw [length_costlyLine]
    omega
  have more : ¬ middle.Empty := by
    rw [next.empty_iff]
    omega
  obtain ⟨final, run', start'', covers', next', _⟩ := next.get more
  obtain ⟨normal'', _⟩ := normal'.get next run'
  obtain ⟨raw, eight⟩ := costly_raw_count next normal' more run' (by omega)
  have length := covers'.length_payload
  have asserts : middle.curr.PayloadAsserts (costlyLine blocks) := by
    rw [← start''] at covers'
    exact covers'.payloadAsserts
  have count : unsigned 1 = 1 := unsigned_eq (by decide)
  rw [nextCmd, Buffer.assert_of nonempty, Buffer.assert_of h.peekAsserts]
  simp only [run, copy, ↓reduceIte, one, inside, more, not_false_eq_true, run', raw,
    reduceCtorEq, count, Buffer.assert_of next.peekAsserts, Buffer.assert_of asserts,
    Buffer.assert_of trivial]
  rw [eight] at next' length
  exact ⟨_, _, _, rfl, next', normal'', size_cmdCopyThenRaw_eight buffer length⟩

/-- Every block costs ten bytes, by induction on the blocks that remain. -/
theorem encodeLoop_costly (remaining : Nat) {fuel : Nat} {state : ScoaState} {start : Nat}
    (buffer : Buffer) (videoSize : Nat)
    (h : state.At (costlyLine blocks) (costlyAbove blocks) start)
    (normal : state.NormalAt (costlyLine blocks) (costlyAbove blocks))
    (left : start + 9 * remaining = 9 * blocks + 8) (enough : remaining ≤ fuel)
    : ∃ final size,
        encodeLoop fuel buffer (costlyLine blocks) state videoSize = some (final, size)
        ∧ final.size = buffer.size + 10 * remaining := by
  induction remaining generalizing fuel state start buffer videoSize with
  | zero =>
      have empty : state.Empty := by
        rw [h.empty_iff, length_costlyLine]
        omega
      refine ⟨buffer, videoSize, ?_, rfl⟩
      cases fuel <;> rw [encodeLoop, if_pos empty]
  | succ remaining ih =>
      obtain ⟨fuel, rfl⟩ : ∃ n, fuel = n + 1 := ⟨fuel - 1, by omega⟩
      have nonempty : ¬ state.Empty := by
        rw [h.empty_iff, length_costlyLine]
        omega
      obtain ⟨middle, next, size, run, at', normal', cost⟩ :=
        nextCmd_costly_copy buffer h normal nonempty (by omega)
      obtain ⟨final, total, rest, whole⟩ :=
        @ih fuel next _ middle (videoSize + size) at' normal' (by omega) (by omega)
      refine ⟨final, total, ?_, by omega⟩
      rw [encodeLoop, if_neg nonempty]
      simp only [run]
      exact rest

/-- The loop over the costly line writes ten bytes for every eight that are raw. -/
theorem encodeLoop_costlyLine (blocks : Nat) (buffer : Buffer) (videoSize : Nat)
    : ∃ final size,
        encodeLoop (costlyLine blocks).length buffer (costlyLine blocks)
          (.ofLines (costlyLine blocks) (costlyAbove blocks)) videoSize = some (final, size)
        ∧ final.size = buffer.size + 10 * (blocks + 1) := by
  have length := @length_costlyLine blocks
  have pos : 0 < (costlyLine blocks).length := by omega
  have at' := @ScoaState.ofLines_at _ (costlyAbove blocks) pos
  have normal := @ScoaState.ofLines_normal _ (costlyAbove blocks) pos
  have nonempty : ¬ (ScoaState.ofLines (costlyLine blocks) (costlyAbove blocks)).Empty := by
    rw [at'.empty_iff]
    omega
  obtain ⟨middle, next, size, run, next', normal', cost⟩ :=
    nextCmd_costly_raw buffer at' normal nonempty rfl
  have fuel : (costlyLine blocks).length = 9 * blocks + 7 + 1 := length
  obtain ⟨final, total, rest, whole⟩ :=
    @encodeLoop_costly _ blocks (9 * blocks + 7) _ _ middle (videoSize + size) next' normal'
      (by omega) (by omega)
  refine ⟨final, total, ?_, by omega⟩
  rw [fuel, encodeLoop, if_neg nonempty]
  simp only [run]
  exact rest

end Costly

/-- The commands for a line take at most a ninth more than the line and 2 bytes, and there
are lines of any size that take as much.
-/
theorem expansion
    : (∀ line prevLine : List UInt8, line ≠ [] →
          ∀ buffer videoSize, ∃ final size,
            encodeLoop line.length buffer line (.ofLines line prevLine) videoSize
              = some (final, size)
            ∧ final.size ≤ buffer.size + (line.length + line.length / 9 + 2))
      ∧ ∀ bound, ∃ line prevLine : List UInt8,
          bound ≤ line.length ∧ line ≠ [] ∧ prevLine.length = line.length
          ∧ ∀ buffer videoSize, ∃ final size,
              encodeLoop line.length buffer line (.ofLines line prevLine) videoSize
                = some (final, size)
              ∧ final.size = buffer.size + (line.length + line.length / 9 + 2) := by
  constructor
  · intro line prevLine nonempty buffer videoSize
    have pos := List.length_pos_iff.mpr nonempty
    obtain ⟨final, size, run, cost⟩ := encodeLoop_affords line.length buffer videoSize
      (@ScoaState.ofLines_at _ prevLine pos) (ScoaState.ofLines_normal pos)
      (Nat.le_add_left ..)
    have excess := ScoaState.excess_le (.ofLines line prevLine)
    exact ⟨final, size, run, by omega⟩
  · intro bound
    have length := @length_costlyLine bound
    refine ⟨costlyLine bound, costlyAbove bound, by omega, ?_, ?_, ?_⟩
    · exact List.ne_nil_of_length_pos (by omega)
    · rw [length, length_costlyAbove]
    · intro buffer videoSize
      obtain ⟨final, size, run, cost⟩ := encodeLoop_costlyLine bound buffer videoSize
      exact ⟨final, size, run, by omega⟩

end Capt.Compression
