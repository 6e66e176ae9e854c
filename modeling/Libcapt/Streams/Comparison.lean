import Libcapt.Streams.GetArea

/-! Invariants of a stream buffer under reading, and states of a stream buffer that a
reader cannot tell apart.
-/

namespace Streams.Streambuf

variable {ε β σ : Type} [Streambuf ε β σ]

/-- `I` holds after everything a reader can cause, whatever the outcome. -/
structure Preserves (I : σ → Prop) : Prop where
  gbump : ∀ {s}, I s → ∀ n, I (gbump n s)
  underflow : ∀ {s}, I s → I (after ((underflow : EStateM ε σ (Option β)).run s))

/-- What refilling preserves is preserved by reading a symbol. -/
theorem Preserves.sbumpc {I : σ → Prop} (h : Preserves I) {s : σ} (hi : I s)
    : I (after ((sbumpc : EStateM ε σ (Option β)).run s)) := by
  have refilled := h.underflow hi
  cases ha : area s with
  | cons b rest =>
      rw [run_sbumpc_area ha]
      exact h.gbump hi 1
  | nil =>
      cases run : (Streambuf.underflow : EStateM ε σ (Option β)).run s with
      | error err s' =>
          rw [run] at refilled
          rwa [run_sbumpc_error ha run]
      | ok value s' =>
          rw [run] at refilled
          cases value with
          | none => rwa [run_sbumpc_eof ha run]
          | some c =>
              have bumped := h.gbump refilled 1
              simp only [Streambuf.sbumpc, uflow, EStateM.run_bind, EStateM.run_get, ha, run]
              exact bumped

/-- So it is by looking at one. -/
theorem Preserves.sgetc {I : σ → Prop} (h : Preserves I) {s : σ} (hi : I s)
    : I (after ((sgetc : EStateM ε σ (Option β)).run s)) := by
  cases ha : area s with
  | cons b rest =>
      rw [run_sgetc_area ha]
      exact hi
  | nil =>
      rw [run_sgetc_empty ha]
      exact h.underflow hi

/-- A block is read byte by byte, by induction on the requested count. -/
theorem Preserves.xsgetn {I : σ → Prop} (h : Preserves I) (n : Nat) {s : σ} (hi : I s)
    : I (after ((xsgetn n : EStateM ε σ (List β)).run s)) := by
  induction n generalizing s with
  | zero => exact hi
  | succ n ih =>
      have first := h.sbumpc hi
      cases run : (Streambuf.sbumpc : EStateM ε σ (Option β)).run s with
      | error err s' =>
          rw [run] at first
          rwa [Streambuf.xsgetn, run_bind_error run]
      | ok value s' =>
          rw [run] at first
          rw [Streambuf.xsgetn, run_bind_ok run]
          cases value with
          | none => exact first
          | some b =>
              have more : I (after ((Streambuf.xsgetn n : EStateM ε σ (List β)).run s')) :=
                ih first
              cases next : (Streambuf.xsgetn n : EStateM ε σ (List β)).run s' with
              | error err s'' =>
                  rw [next] at more
                  simp only [EStateM.run_bind, next]
                  exact more
              | ok rest s'' =>
                  rw [next] at more
                  simp only [EStateM.run_bind, next]
                  exact more

/-- What a reader sees of states in which an invariant holds. -/
theorem Refills.and {R : σ → List β → Prop} {I : σ → Prop} (h : Refills R) (kept : Preserves I)
    : Refills fun s symbols => R s symbols ∧ I s where
  front := fun holds => h.front holds.1
  gbump := fun holds left => ⟨h.gbump holds.1 left, kept.gbump holds.2 1⟩
  underflow := by
    rintro s symbols ⟨holds, invariant⟩ empty
    obtain ⟨s', run, next, filled⟩ := h.underflow holds empty
    have after := kept.underflow invariant
    rw [run] at after
    exact ⟨s', run, ⟨next, after⟩, filled⟩

/-- A block that gives nothing has found the end-of-file. -/
theorem run_xsgetn_nil {n : Nat} (positive : 0 < n) {s s' : σ}
    (run : (xsgetn n : EStateM ε σ (List β)).run s = .ok [] s')
    : (sbumpc : EStateM ε σ (Option β)).run s = .ok none s' := by
  obtain ⟨n, rfl⟩ := Nat.exists_eq_succ_of_ne_zero (Nat.ne_of_gt positive)
  rw [xsgetn] at run
  obtain ⟨c, middle, first, rest⟩ := run_bind_eq_ok run
  cases c with
  | none =>
      cases rest
      exact first
  | some b =>
      obtain ⟨more, last, _, whole⟩ := run_bind_eq_ok rest
      cases whole

/-- Where taking finds the end-of-file, `underflow` has found it. -/
theorem run_sbumpc_none {R : σ → List β → Prop} (h : Refills R) {s s' : σ} {symbols : List β}
    (holds : R s symbols) (run : (sbumpc : EStateM ε σ (Option β)).run s = .ok none s')
    : area s = [] ∧ (underflow : EStateM ε σ (Option β)).run s = .ok none s' := by
  cases left : area s with
  | cons b rest =>
      rw [run_sbumpc_area left] at run
      cases run
  | nil =>
      refine ⟨rfl, ?_⟩
      obtain ⟨middle, refill, next, filled⟩ := h.underflow holds left
      cases symbols with
      | nil =>
          cases (run_sbumpc_eof left refill).symm.trans run
          exact refill
      | cons c symbols =>
          obtain ⟨b, rest, same⟩ := List.exists_cons_of_ne_nil (filled (List.cons_ne_nil c symbols))
          cases (run_sbumpc_refill left refill same).symm.trans run

-----------------------------------------------------------------------------------------
-- States that a reader cannot tell apart
-----------------------------------------------------------------------------------------

/-- Two runs end alike, in states that `R` relates. -/
inductive Agree {α : Type} (R : σ → σ → Prop)
    : EStateM.Result ε σ α → EStateM.Result ε σ α → Prop
  | ok (a : α) {s t} (h : R s t) : Agree R (.ok a s) (.ok a t)
  | error (err : ε) {s t} (h : R s t) : Agree R (.error err s) (.error err t)

/-- `R` relates states with the same get area, and stays so while both are read. -/
structure Simulates (R : σ → σ → Prop) : Prop where
  area : ∀ {s t : σ}, R s t → area s = area t
  gbump : ∀ {s t}, R s t → ∀ n, R (gbump n s) (gbump n t)
  underflow
    : ∀ {s t}, R s t → Streambuf.area s = [] →
        Agree R ((underflow : EStateM ε σ (Option β)).run s) (underflow.run t)

/-- Two buffers of a simulation give the same symbol. -/
theorem Simulates.sbumpc {R : σ → σ → Prop} (h : Simulates R) {s t : σ} (hr : R s t)
    : Agree R ((sbumpc : EStateM ε σ (Option β)).run s) (sbumpc.run t) := by
  have same := h.area hr
  cases ha : Streambuf.area s with
  | cons b rest =>
      rw [run_sbumpc_area ha, run_sbumpc_area (same.symm.trans ha)]
      exact .ok _ (h.gbump hr 1)
  | nil =>
      have empty := same.symm.trans ha
      have refilled := h.underflow hr ha
      generalize left : (Streambuf.underflow : EStateM ε σ (Option β)).run s = first at refilled
      generalize right : (Streambuf.underflow : EStateM ε σ (Option β)).run t = second
        at refilled
      cases refilled with
      | error err next =>
          rw [run_sbumpc_error ha left, run_sbumpc_error empty right]
          exact .error err next
      | ok value next =>
          cases value with
          | none =>
              rw [run_sbumpc_eof ha left, run_sbumpc_eof empty right]
              exact .ok none next
          | some c =>
              simp only [Streambuf.sbumpc, uflow, EStateM.run_bind, EStateM.run_get, ha, empty,
                left, right, h.area next]
              exact .ok _ (h.gbump next 1)

/-- Where one gives a symbol the other gives it too. -/
theorem Simulates.sbumpc_ok {R : σ → σ → Prop} (h : Simulates R) {s t s' : σ} (hr : R s t)
    {value : Option β} (run : (Source.sbumpc : EStateM ε σ (Option β)).run s = .ok value s')
    : ∃ t', (Source.sbumpc : EStateM ε σ (Option β)).run t = .ok value t' ∧ R s' t' := by
  have step := h.sbumpc hr
  rw [source_sbumpc] at run ⊢
  rw [run] at step
  generalize (Streambuf.sbumpc : EStateM ε σ (Option β)).run t = second at step ⊢
  cases step with
  | ok _ next => exact ⟨_, rfl, next⟩

/-- Where one throws the other throws the same. -/
theorem Simulates.sbumpc_error {R : σ → σ → Prop} (h : Simulates R) {s t s' : σ} (hr : R s t)
    {err : ε} (run : (Source.sbumpc : EStateM ε σ (Option β)).run s = .error err s')
    : ∃ t', (Source.sbumpc : EStateM ε σ (Option β)).run t = .error err t' ∧ R s' t' := by
  have step := h.sbumpc hr
  rw [source_sbumpc] at run ⊢
  rw [run] at step
  generalize (Streambuf.sbumpc : EStateM ε σ (Option β)).run t = second at step ⊢
  cases step with
  | error _ next => exact ⟨_, rfl, next⟩

/-- The bytes before end-of-file are the same, by induction on the reading. -/
theorem Simulates.drains {R : σ → σ → Prop} (h : Simulates R) {s t s' : σ}
    {symbols : List β} (hr : R s t) (drains : Drains s symbols s')
    : ∃ t', Drains t symbols t' := by
  induction drains generalizing t with
  | eof run =>
      obtain ⟨t', right, _⟩ := h.sbumpc_ok hr run
      exact ⟨t', .eof right⟩
  | symbol run tail ih =>
      obtain ⟨middle, right, next⟩ := h.sbumpc_ok hr run
      obtain ⟨t', rest⟩ := ih next
      exact ⟨t', .symbol right rest⟩

/-- The bytes before an exception are the same, by induction on the reading. -/
theorem Simulates.breaks {R : σ → σ → Prop} (h : Simulates R) {err : ε} {s t : σ}
    {symbols : List β} (hr : R s t) (breaks : Breaks err s symbols)
    : Breaks err t symbols := by
  induction breaks generalizing t with
  | thrown run =>
      obtain ⟨_, right, _⟩ := h.sbumpc_error hr run
      exact .thrown right
  | symbol run tail ih =>
      obtain ⟨_, right, next⟩ := h.sbumpc_ok hr run
      exact .symbol right (ih next)

end Streams.Streambuf
