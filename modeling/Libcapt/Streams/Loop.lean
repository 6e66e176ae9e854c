import Mathlib.Data.List.Basic

/-! While loops as a relation between the state in which a loop starts and the one in which
it ends, and the bounded recursions that compute them.
-/

namespace Streams

variable {σ : Type} {condition : σ → Prop} {body : σ → σ}

/-- `while (condition) body`, started in the first state, ends in the second. -/
inductive WhileEnds (condition : σ → Prop) (body : σ → σ) : σ → σ → Prop
  | done {s} (exit : ¬ condition s) : WhileEnds condition body s s
  | turn {s final} (enter : condition s) (rest : WhileEnds condition body (body s) final)
    : WhileEnds condition body s final

/-- A loop ends where its condition fails. -/
theorem WhileEnds.exit {s final : σ} (h : WhileEnds condition body s final)
    : ¬ condition final := by
  induction h with
  | done exit => exact exit
  | turn _ _ ih => exact ih

/-- What holds at the start and is kept by every turn holds at the end. -/
theorem WhileEnds.invariant {s final : σ} (h : WhileEnds condition body s final)
    {P : σ → Prop} (keeps : ∀ s, condition s → P s → P (body s)) (start : P s)
    : P final := by
  induction h with
  | done _ => exact start
  | turn enter _ ih => exact ih (keeps _ enter start)

/-- A loop ends in at most one state. -/
theorem WhileEnds.unique {s left right : σ} (h : WhileEnds condition body s left)
    (hr : WhileEnds condition body s right)
    : left = right := by
  induction h with
  | done exit =>
      cases hr with
      | done _ => rfl
      | turn enter _ => exact absurd enter exit
  | turn enter _ ih =>
      cases hr with
      | done exit => exact absurd enter exit
      | turn _ rest => exact ih rest

/-- `loop` takes at most as many turns as its first argument says, and every turn makes
`measure` smaller.
-/
structure IsBounded (condition : σ → Prop) (body : σ → σ) (measure : σ → Nat)
    (loop : Nat → σ → σ)
    : Prop where
  zero : ∀ s, loop 0 s = s
  exit : ∀ fuel s, ¬ condition s → loop (fuel + 1) s = s
  turn : ∀ fuel s, condition s → loop (fuel + 1) s = loop fuel (body s)
  smaller : ∀ s, condition s → measure (body s) < measure s

variable {measure : σ → Nat} {loop : Nat → σ → σ}

/-- With a bound that reaches the measure a bounded loop ends where the loop itself does,
by induction on the bound.
-/
theorem IsBounded.ends (h : IsBounded condition body measure loop) {fuel : Nat} {s : σ}
    (enough : measure s ≤ fuel)
    : WhileEnds condition body s (loop fuel s) := by
  induction fuel generalizing s with
  | zero =>
      rw [h.zero]
      apply WhileEnds.done
      intro enter
      have less := h.smaller s enter
      omega
  | succ fuel ih =>
      by_cases enter : condition s
      · have less := h.smaller s enter
        rw [h.turn fuel s enter]
        exact .turn enter (ih (by omega))
      · rw [h.exit fuel s enter]
        exact .done enter

/-- With fuel for the measure the loop ends where its turns lead. -/
theorem IsBounded.ends_iff (h : IsBounded condition body measure loop) {fuel : Nat}
    {s final : σ} (enough : measure s ≤ fuel)
    : WhileEnds condition body s final ↔ loop fuel s = final := by
  have ends := h.ends enough
  constructor
  · exact ends.unique
  · rintro rfl
    exact ends

/-- The rule for a bounded loop: an invariant of the turns holds at the end, where the
condition fails.
-/
theorem IsBounded.invariant (h : IsBounded condition body measure loop) (P : σ → Prop)
    {fuel : Nat} {s : σ} (start : P s) (enough : measure s ≤ fuel)
    (keeps : ∀ s, condition s → P s → P (body s))
    : P (loop fuel s) ∧ ¬ condition (loop fuel s) := by
  have ends := h.ends enough
  exact ⟨ends.invariant keeps start, ends.exit⟩

end Streams
