import Mathlib.Data.List.Basic

/-! Stateful actions that may throw, and how the outcome of a sequence follows from the
outcomes of its parts. The state survives a throw, as an object survives an exception.
-/

namespace Streams

variable {ε σ τ α β : Type}

/-- A sequence whose first part returns continues from the state that part left. -/
theorem run_bind_ok {first : EStateM ε σ α} {next : α → EStateM ε σ β} {s s' : σ} {a : α}
    (h : first.run s = .ok a s')
    : (first >>= next).run s = (next a).run s' := by
  rw [EStateM.run_bind, h]

/-- What follows is run on the state that was read. -/
theorem run_get_bind (next : σ → EStateM ε σ β) (s : σ)
    : EStateM.run (get >>= next) s = (next s).run s :=
  rfl

/-- What follows is run on the state that was changed. -/
theorem run_modify_bind (change : σ → σ) (next : PUnit → EStateM ε σ β) (s : σ)
    : EStateM.run (modify change >>= next) s = (next ⟨⟩).run (change s) :=
  rfl

/-- A sequence whose first part throws ends there, in the state that part left. -/
theorem run_bind_error {first : EStateM ε σ α} {next : α → EStateM ε σ β} {s s' : σ}
    {err : ε} (h : first.run s = .error err s')
    : (first >>= next).run s = .error err s' := by
  rw [EStateM.run_bind, h]

/-- A sequence that returns has a first part that returned, and a rest that returned. -/
theorem run_bind_eq_ok {first : EStateM ε σ α} {next : α → EStateM ε σ β} {s s' : σ}
    {b : β} (h : (first >>= next).run s = .ok b s')
    : ∃ a middle, first.run s = .ok a middle ∧ (next a).run middle = .ok b s' := by
  rw [EStateM.run_bind] at h
  cases hf : first.run s with
  | ok a middle => exact ⟨a, middle, rfl, by simpa only [hf] using h⟩
  | error err middle => simp only [hf] at h; cases h

/-- The state that a run leaves, whether it returns or throws. -/
def after : EStateM.Result ε σ α → σ
  | .ok _ s => s
  | .error _ s => s

/-- The result of a run that leaves a state and returns or throws something. -/
def leaving (s : σ) : Except ε α → EStateM.Result ε σ α
  | .ok a => .ok a s
  | .error err => .error err s

/-- Throwing leaves the state as it is, at any result type. -/
@[simp]
theorem run_throw_any (err : ε) (s : σ)
    : EStateM.run (throw err : EStateM ε σ α) s = .error err s :=
  rfl

/-- Runs an action and gives what it returned or threw, as a `try` block does. -/
def attempt (action : EStateM ε σ α) : EStateM ε σ (Except ε α) := fun s =>
  match action.run s with
  | .ok a s' => .ok (.ok a) s'
  | .error err s' => .ok (.error err) s'

/-- A result is caught. -/
theorem run_attempt_ok {action : EStateM ε σ α} {s s' : σ} {a : α}
    (h : action.run s = .ok a s')
    : (attempt action).run s = .ok (.ok a) s' := by
  simp only [attempt, EStateM.run] at h ⊢
  rw [h]

/-- An exception is caught. -/
theorem run_attempt_error {action : EStateM ε σ α} {s s' : σ} {err : ε}
    (h : action.run s = .error err s')
    : (attempt action).run s = .ok (.error err) s' := by
  simp only [attempt, EStateM.run] at h ⊢
  rw [h]

/-- Runs an action on one component of a larger state. The component is written back
whether the action returns or throws.
-/
def zoom (part : τ → σ) (put : σ → τ → τ) (action : EStateM ε σ α) : EStateM ε τ α :=
  fun whole =>
    match action.run (part whole) with
    | .ok value s => .ok value (put s whole)
    | .error err s => .error err (put s whole)

/-- The part that was changed is put back. -/
theorem run_zoom_ok {part : τ → σ} {put : σ → τ → τ} {action : EStateM ε σ α} {whole : τ}
    {value : α} {s : σ} (h : action.run (part whole) = .ok value s)
    : (zoom part put action).run whole = .ok value (put s whole) := by
  simp only [zoom, EStateM.run] at h ⊢
  rw [h]

/-- So it is behind an exception. -/
theorem run_zoom_error {part : τ → σ} {put : σ → τ → τ} {action : EStateM ε σ α}
    {whole : τ} {err : ε} {s : σ} (h : action.run (part whole) = .error err s)
    : (zoom part put action).run whole = .error err (put s whole) := by
  simp only [zoom, EStateM.run] at h ⊢
  rw [h]

end Streams
