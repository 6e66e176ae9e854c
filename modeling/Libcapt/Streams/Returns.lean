import Libcapt.Streams.Triple

/-! Actions that return: where `P` holds they do not throw, and they do not run out of turns. -/

namespace Streams

variable {ε σ τ α β : Type} {P P' : σ → Prop} {Q Q' : α → σ → Prop}

/-- Started where `P` holds, the action returns to where `Q` holds of the result. -/
def Returns (P : σ → Prop) (action : EStateM ε σ α) (Q : α → σ → Prop) : Prop :=
  ∀ s, P s → ∃ a s', action.run s = .ok a s' ∧ Q a s'

/-- A stronger precondition and a weaker postcondition. -/
theorem Returns.weaken {action : EStateM ε σ α} (h : Returns P action Q)
    (pre : ∀ s, P' s → P s) (post : ∀ a s, Q a s → Q' a s)
    : Returns P' action Q' := by
  intro s hs
  obtain ⟨a, s', run, holds⟩ := h s (pre s hs)
  exact ⟨a, s', run, post a s' holds⟩

/-- A stronger precondition. -/
theorem Returns.from {action : EStateM ε σ α} (h : Returns P action Q)
    (pre : ∀ s, P' s → P s)
    : Returns P' action Q :=
  h.weaken pre fun _ _ => id

/-- A weaker postcondition. -/
theorem Returns.returning {action : EStateM ε σ α} (h : Returns P action Q)
    (post : ∀ a s, Q a s → Q' a s)
    : Returns P action Q' :=
  h.weaken (fun _ => id) post

/-- An action that returns is where a triple says. -/
theorem Returns.and {action : EStateM ε σ α} {E : σ → Prop} (h : Returns P action Q)
    (h' : Triple P' action Q' E)
    : Returns (fun s => P s ∧ P' s) action (fun a s => Q a s ∧ Q' a s) := by
  rintro s ⟨hp, hp'⟩
  obtain ⟨a, s', run, holds⟩ := h s hp
  exact ⟨a, s', run, holds, (h' s hp').1 a s' run⟩

/-- What does not depend on the state may be used to prove that the action returns. -/
theorem Returns.given {action : EStateM ε σ α} {fact : Prop} (h : fact → Returns P action Q)
    : Returns (fun s => fact ∧ P s) action Q :=
  fun s hs => h hs.1 s hs.2

/-- A precondition for every index. -/
theorem Returns.of_exists {ι : Type} {R : ι → σ → Prop} {action : EStateM ε σ α}
    (h : ∀ i, Returns (R i) action Q)
    : Returns (fun s => ∃ i, R i s) action Q :=
  fun s hs => hs.elim fun i holds => h i s holds

/-- Returning a value. -/
theorem Returns.pure {a : α} (h : ∀ s, P s → Q a s)
    : Returns P (pure a : EStateM ε σ α) Q :=
  fun s hs => ⟨a, s, rfl, h s hs⟩

/-- One action after the other. -/
theorem Returns.bind {first : EStateM ε σ α} {next : α → EStateM ε σ β} {M : α → σ → Prop}
    {Q : β → σ → Prop} (hf : Returns P first M) (hn : ∀ a, Returns (M a) (next a) Q)
    : Returns P (first >>= next) Q := by
  intro s hs
  obtain ⟨a, middle, run, between⟩ := hf s hs
  obtain ⟨b, s', run', holds⟩ := hn a middle between
  exact ⟨b, s', (run_bind_ok run).trans run', holds⟩

/-- An action that looks at the state first. -/
theorem Returns.get {next : σ → EStateM ε σ α}
    (h : ∀ s, P s → Returns (fun t => t = s) (next s) Q)
    : Returns P (get >>= next) Q :=
  fun s hs => h s hs s rfl

/-- Either branch, each under its condition. -/
theorem Returns.ite {condition : Prop} [Decidable condition] {yes no : EStateM ε σ α}
    (hy : condition → Returns P yes Q) (hn : ¬ condition → Returns P no Q)
    : Returns P (if condition then yes else no) Q := by
  by_cases h : condition
  · rw [if_pos h]
    exact hy h
  · rw [if_neg h]
    exact hn h

/-- An action on a component, with what holds of the rest. -/
theorem Returns.zoom {part : τ → σ} {put : σ → τ → τ} {action : EStateM ε σ α}
    {P : τ → Prop} {Q : α → τ → Prop}
    (h
      : ∀ whole, P whole →
          Returns (fun s => s = part whole) action (fun a s => Q a (put s whole)))
    : Returns P (zoom part put action) Q := by
  intro whole hw
  obtain ⟨a, s', run, holds⟩ := h whole hw (part whole) rfl
  exact ⟨a, put s' whole, run_zoom_ok run, holds⟩

end Streams
