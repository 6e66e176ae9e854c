import Libcapt.Streams.GetArea

/-! Actions that do as others do, over another state: where the one returns, so does the other.
A reader that never meets the end of a source in memory follows it with every source that has
the same symbols next, whatever comes behind them.
-/

namespace Streams

variable {ε β σ τ α γ : Type}

/-- Where the first action returns, the second returns the same, and `R` still relates the
states.
-/
def Tracks (R : σ → τ → Prop) (first : EStateM ε σ α) (second : EStateM ε τ α) : Prop :=
  ∀ s t, R s t → ∀ a s', first.run s = .ok a s' → ∃ t', second.run t = .ok a t' ∧ R s' t'

namespace Tracks

variable {R : σ → τ → Prop}

/-- Both return the same. -/
theorem pure (a : α) : Tracks R (pure a : EStateM ε σ α) (pure a) := by
  intro s t related a' s' run
  cases run
  exact ⟨t, rfl, related⟩

/-- Where the first throws nothing is asked of the second. -/
theorem throw (err : ε) (second : EStateM ε τ α)
    : Tracks R (throw err : EStateM ε σ α) second := by
  intro s t related a' s' run
  cases run

/-- One action after the other. -/
theorem bind {first : EStateM ε σ α} {second : EStateM ε τ α} {next : α → EStateM ε σ γ}
    {next' : α → EStateM ε τ γ} (h : Tracks R first second)
    (hn : ∀ a, Tracks R (next a) (next' a))
    : Tracks R (first >>= next) (second >>= next') := by
  intro s t related c s' run
  obtain ⟨a, middle, begun, rest⟩ := run_bind_eq_ok run
  obtain ⟨middle', begun', related'⟩ := h s t related a middle begun
  obtain ⟨t', rest', last⟩ := hn a middle middle' related' c s' rest
  exact ⟨t', (run_bind_ok begun').trans rest', last⟩

/-- Two actions that look at their states first. -/
theorem get {next : σ → EStateM ε σ α} {next' : τ → EStateM ε τ α}
    (h
      : ∀ s t, R s t → ∀ a s', (next s).run s = .ok a s' →
          ∃ t', (next' t).run t = .ok a t' ∧ R s' t')
    : Tracks R (MonadState.get >>= next) (MonadState.get >>= next') :=
  h

/-- Both states change. -/
theorem modify {change : σ → σ} {change' : τ → τ}
    (h : ∀ {s t}, R s t → R (change s) (change' t))
    : Tracks R (modify change : EStateM ε σ PUnit) (modify change') := by
  intro s t related a s' run
  cases run
  exact ⟨change' t, rfl, h related⟩

/-- Both take the same branch. -/
theorem ite {c : Prop} [Decidable c] {first other : EStateM ε σ α}
    {second other' : EStateM ε τ α} (yes : c → Tracks R first second)
    (no : ¬ c → Tracks R other other')
    : Tracks R (if c then first else other) (if c then second else other') := by
  split
  · exact yes ‹_›
  · exact no ‹_›

end Tracks

/-- `R` relates states to symbols that they have next. What is behind these is left open. -/
structure Stocks [FiniteSource ε β σ] (R : σ → List β → Prop) : Prop where
  sgetn
    : ∀ {s} (front : List β) {rest}, R s (front ++ rest) →
        ∃ s', (Source.sgetn front.length).run s = .ok front s' ∧ R s' rest
  sbumpc
    : ∀ {s b rest}, R s (b :: rest) → ∃ s', Source.sbumpc.run s = .ok (some b) s' ∧ R s' rest
  bound : ∀ {s symbols}, R s symbols → symbols.length ≤ FiniteSource.bound s

/-- A source in memory has the symbols that it holds. -/
theorem MemoryStreambuf.stocks
    : Stocks fun (s : MemoryStreambuf ε β) symbols => s.buffer = symbols where
  sgetn := by
    rintro ⟨_⟩ front rest rfl
    refine ⟨⟨rest⟩, ?_, rfl⟩
    change EStateM.Result.ok ((front ++ rest).take front.length)
      (⟨(front ++ rest).drop front.length⟩ : MemoryStreambuf ε β) = _
    rw [List.take_left, List.drop_left]
  sbumpc := by
    rintro ⟨_⟩ b rest rfl
    exact ⟨⟨rest⟩, rfl, rfl⟩
  bound := fun same => same ▸ Nat.le_refl _

namespace Streambuf

variable [Streambuf ε β σ]

/-- Blocks of single symbols are taken from a stock of them, by induction on the block. -/
theorem run_xsgetn_front {R : σ → List β → Prop}
    (taken
      : ∀ {s b rest}, R s (b :: rest) →
          ∃ s', (sbumpc : EStateM ε σ (Option β)).run s = .ok (some b) s' ∧ R s' rest)
    (front : List β) {s : σ} {rest : List β} (holds : R s (front ++ rest))
    : ∃ s', (xsgetn front.length : EStateM ε σ (List β)).run s = .ok front s' ∧ R s' rest := by
  induction front generalizing s with
  | nil => exact ⟨s, rfl, holds⟩
  | cons b front ih =>
      obtain ⟨middle, first, holds'⟩ := taken holds
      obtain ⟨s', others, last⟩ := ih holds'
      refine ⟨s', ?_, last⟩
      change (xsgetn (front.length + 1)).run s = _
      rw [xsgetn, run_bind_ok first]
      exact run_bind_ok others

/-- What is read symbol by symbol is read in blocks as well. -/
theorem drains_xsgetn (front : List β) {s final : σ} {rest : List β}
    (drains : Drains s (front ++ rest) final)
    : ∃ s', (xsgetn front.length : EStateM ε σ (List β)).run s = .ok front s'
        ∧ Drains s' rest final := by
  apply run_xsgetn_front (R := fun s symbols => Drains s symbols final) _ front drains
  rintro s b rest (_ | ⟨run, tail⟩)
  exact ⟨_, run, tail⟩

/-- A block that is asked for at the end is empty. -/
theorem drains_xsgetn_end {n : Nat} (positive : 0 < n) {s final : σ} (drains : Drains s [] final)
    : (xsgetn n : EStateM ε σ (List β)).run s = .ok [] final := by
  obtain ⟨n, rfl⟩ := Nat.exists_eq_succ_of_ne_zero (Nat.ne_of_gt positive)
  cases drains with
  | eof run =>
      change EStateM.run (sbumpc >>= _) s = _
      exact run_bind_ok run

/-- Taking a symbol follows where refilling does, in states with the same get area. -/
theorem tracks_sbumpc [Streambuf ε β τ] {R : σ → τ → Prop}
    (areas : ∀ {s t}, R s t → area s = area t)
    (moved : ∀ {s t}, R s t → R (gbump 1 s) (gbump 1 t))
    (refilled
      : Tracks R (underflow : EStateM ε σ (Option β)) (underflow : EStateM ε τ (Option β)))
    : Tracks R (sbumpc : EStateM ε σ (Option β)) (sbumpc : EStateM ε τ (Option β)) := by
  have taken : Tracks R (uflow : EStateM ε σ (Option β)) (uflow : EStateM ε τ (Option β)) := by
    refine refilled.bind fun c => ?_
    cases c with
    | none => exact .pure _
    | some c =>
        refine .get fun s t related a s' run => ?_
        cases run
        exact ⟨gbump 1 t, by rw [areas related]; rfl, moved related⟩
  refine .get fun s t related a s' run => ?_
  have same := areas related
  cases left : area s with
  | nil =>
      rw [left] at same run
      rw [← same]
      exact taken s t related a s' run
  | cons b rest =>
      rw [left] at same run
      rw [← same]
      cases run
      exact ⟨gbump 1 t, rfl, moved related⟩

/-- So the symbols up to the end are the same, by induction on the reading. -/
theorem tracks_drains [Streambuf ε β τ] {R : σ → τ → Prop}
    (taken : Tracks R (sbumpc : EStateM ε σ (Option β)) (sbumpc : EStateM ε τ (Option β)))
    {s final : σ} {t : τ} (related : R s t) {symbols : List β} (drains : Drains s symbols final)
    : ∃ final', Drains t symbols final' ∧ R final final' := by
  induction drains generalizing t with
  | eof run =>
      obtain ⟨t', run', last⟩ := taken _ t related _ _ run
      exact ⟨t', .eof run', last⟩
  | symbol run _ ih =>
      obtain ⟨middle, run', next⟩ := taken _ t related _ _ run
      obtain ⟨final', tail, last⟩ := ih next
      exact ⟨final', .symbol run' tail, last⟩

end Streambuf

end Streams
