import Libcapt.Streams.Action

/-! Properties of the state that an action keeps on every exit, and of the exceptions that it
throws, and the rules that take them through the parts of an action.
-/

namespace Streams

variable {ε σ τ α β : Type} {I : σ → Prop}

/-- `I` holds after the action whenever it holds before, whether the action returns or
throws.
-/
def Maintains (I : σ → Prop) (action : EStateM ε σ α) : Prop :=
  ∀ s, I s → I (after (action.run s))

/-- Returning changes nothing. -/
theorem Maintains.pure (a : α) : Maintains I (pure a : EStateM ε σ α) :=
  fun _ h => h

/-- Throwing changes nothing. -/
theorem Maintains.throw (err : ε) : Maintains I (throw err : EStateM ε σ α) :=
  fun _ h => h

/-- A change of the state that keeps the invariant. -/
theorem Maintains.modify {change : σ → σ} (h : ∀ s, I s → I (change s))
    : Maintains I (modify change : EStateM ε σ PUnit) :=
  h

/-- The second part of a sequence starts in a state that the first part left. -/
theorem Maintains.bind {first : EStateM ε σ α} {next : α → EStateM ε σ β}
    (hf : Maintains I first) (hn : ∀ a, Maintains I (next a))
    : Maintains I (first >>= next) := by
  intro s hs
  have middle := hf s hs
  cases run : first.run s with
  | ok a s' =>
      rw [run] at middle
      rw [run_bind_ok run]
      exact hn a s' middle
  | error err s' =>
      rw [run] at middle
      rw [run_bind_error run]
      exact middle

/-- An action that looks at the state first may use what holds there. -/
theorem Maintains.get {next : σ → EStateM ε σ α}
    (h : ∀ s, I s → I (after ((next s).run s)))
    : Maintains I (get >>= next) :=
  h

/-- Either branch, each under its condition. -/
theorem Maintains.ite {condition : Prop} [Decidable condition] {yes no : EStateM ε σ α}
    (hy : condition → Maintains I yes) (hn : ¬ condition → Maintains I no)
    : Maintains I (if condition then yes else no) := by
  by_cases h : condition
  · rw [if_pos h]
    exact hy h
  · rw [if_neg h]
    exact hn h

/-- A `try` block keeps what its body keeps. -/
theorem Maintains.attempt {action : EStateM ε σ α} (h : Maintains I action)
    : Maintains I (attempt action) := by
  intro s hs
  have kept := h s hs
  cases run : action.run s with
  | ok a s' =>
      rw [run] at kept
      rw [run_attempt_ok run]
      exact kept
  | error err s' =>
      rw [run] at kept
      rw [run_attempt_error run]
      exact kept

/-- An action on a component keeps what only asks for the component to keep it. -/
theorem Maintains.zoom {part : τ → σ} {put : σ → τ → τ} {J : τ → Prop}
    {action : EStateM ε σ α}
    (h : ∀ whole, J whole → J (put (after (action.run (part whole))) whole))
    : Maintains J (zoom part put action) := by
  intro whole hw
  have kept := h whole hw
  cases run : action.run (part whole) with
  | ok a s' =>
      rw [run] at kept
      rw [run_zoom_ok run]
      exact kept
  | error err s' =>
      rw [run] at kept
      rw [run_zoom_error run]
      exact kept

-----------------------------------------------------------------------------------------
-- Exceptions
-----------------------------------------------------------------------------------------

variable {Q : ε → Prop}

/-- `Q` holds of whatever the action throws, in any state. -/
def Raises (Q : ε → Prop) (action : EStateM ε σ α) : Prop :=
  ∀ s err s', action.run s = .error err s' → Q err

/-- Returning raises nothing. -/
theorem Raises.pure (a : α) : Raises Q (pure a : EStateM ε σ α) := by
  intro s err s' run
  cases run

/-- The exception that is thrown. -/
theorem Raises.throw {err : ε} (h : Q err) : Raises Q (throw err : EStateM ε σ α) := by
  intro s err' s' run
  cases run
  exact h

/-- Changing the state raises nothing. -/
theorem Raises.modify (change : σ → σ) : Raises Q (modify change : EStateM ε σ PUnit) := by
  intro s err s' run
  cases run

/-- Nor does setting it. -/
theorem Raises.set (s : σ) : Raises Q (set s : EStateM ε σ PUnit) := by
  intro s err s' run
  cases run

/-- One action after the other. -/
theorem Raises.bind {first : EStateM ε σ α} {next : α → EStateM ε σ β}
    (hf : Raises Q first) (hn : ∀ a, Raises Q (next a))
    : Raises Q (first >>= next) := by
  intro s err s' run
  cases before : first.run s with
  | ok a middle =>
      rw [run_bind_ok before] at run
      exact hn a middle err s' run
  | error err' middle =>
      rw [run_bind_error before] at run
      cases run
      exact hf s err s' before

/-- What follows, for every state. -/
theorem Raises.get {next : σ → EStateM ε σ α} (h : ∀ s, Raises Q (next s))
    : Raises Q (get >>= next) :=
  fun s => h s s

/-- Either branch, each under its condition. -/
theorem Raises.ite {condition : Prop} [Decidable condition] {yes no : EStateM ε σ α}
    (hy : condition → Raises Q yes) (hn : ¬ condition → Raises Q no)
    : Raises Q (if condition then yes else no) := by
  by_cases h : condition
  · rw [if_pos h]
    exact hy h
  · rw [if_neg h]
    exact hn h

/-- An action on a part of the state. -/
theorem Raises.zoom {part : τ → σ} {put : σ → τ → τ} {action : EStateM ε σ α}
    (h : Raises Q action)
    : Raises Q (zoom part put action) := by
  intro whole err whole' run
  cases before : action.run (part whole) with
  | ok a s =>
      rw [run_zoom_ok before] at run
      cases run
  | error err' s =>
      rw [run_zoom_error before] at run
      cases run
      exact h _ err s before

end Streams
