import Libcapt.Streams.Invariant

/-! Pre- and postconditions of actions that may throw: what holds where an action returns,
and what holds where it throws, from what holds where it starts.
-/

namespace Streams

variable {ε σ τ α β : Type} {P P' E E' : σ → Prop} {Q Q' : α → σ → Prop}

/-- Started where `P` holds, the action returns to where `Q` holds of the result, or throws
to where `E` holds.
-/
def Triple (P : σ → Prop) (action : EStateM ε σ α) (Q : α → σ → Prop) (E : σ → Prop) : Prop :=
  ∀ s, P s →
    (∀ a s', action.run s = .ok a s' → Q a s')
    ∧ ∀ err s', action.run s = .error err s' → E s'

/-- An action whose run is known. -/
theorem Triple.of_leaving {action : EStateM ε σ α}
    (h
      : ∀ s, P s →
          ∃ outcome s', action.run s = leaving s' outcome
            ∧ (∀ a, outcome = .ok a → Q a s')
            ∧ ∀ err, outcome = .error err → E s')
    : Triple P action Q E := by
  intro s hs
  obtain ⟨outcome, s', run, returned, thrown⟩ := h s hs
  rw [run]
  cases outcome with
  | ok a =>
      constructor
      · intro a' s'' same
        cases same
        exact returned a rfl
      · intro err s'' impossible
        cases impossible
  | error err =>
      constructor
      · intro a s'' impossible
        cases impossible
      · intro err' s'' same
        cases same
        exact thrown err rfl

/-- What a triple says about the state that is left, on every exit. -/
theorem Triple.after {action : EStateM ε σ α} (h : Triple P action Q E) {R : σ → Prop}
    (returned : ∀ a s, Q a s → R s) (thrown : ∀ s, E s → R s) {s : σ} (hs : P s)
    : R (after (action.run s)) := by
  cases run : action.run s with
  | ok a s' => exact returned a s' ((h s hs).1 a s' run)
  | error err s' => exact thrown s' ((h s hs).2 err s' run)

/-- A stronger precondition and weaker postconditions. -/
theorem Triple.weaken {action : EStateM ε σ α} (h : Triple P action Q E)
    (pre : ∀ s, P' s → P s) (post : ∀ a s, Q a s → Q' a s) (thrown : ∀ s, E s → E' s)
    : Triple P' action Q' E' := by
  intro s hs
  obtain ⟨returned, raised⟩ := h s (pre s hs)
  exact ⟨fun a s' run => post a s' (returned a s' run),
    fun err s' run => thrown s' (raised err s' run)⟩

/-- A stronger precondition. -/
theorem Triple.from {action : EStateM ε σ α} (h : Triple P action Q E) (pre : ∀ s, P' s → P s)
    : Triple P' action Q E :=
  h.weaken pre (fun _ _ => id) (fun _ => id)

/-- What holds where the action returns, when nothing is asked of where it throws. -/
theorem Triple.returning {action : EStateM ε σ α} (h : Triple P action Q E)
    : Triple P action Q (fun _ => True) :=
  h.weaken (fun _ => id) (fun _ _ => id) fun _ _ => trivial

/-- What two triples say of one action. -/
theorem Triple.and {action : EStateM ε σ α} (h : Triple P action Q E)
    (h' : Triple P' action Q' E')
    : Triple (fun s => P s ∧ P' s) action (fun a s => Q a s ∧ Q' a s)
        (fun s => E s ∧ E' s) := by
  rintro s ⟨hp, hp'⟩
  obtain ⟨returned, thrown⟩ := h s hp
  obtain ⟨returned', thrown'⟩ := h' s hp'
  exact ⟨fun a s' run => ⟨returned a s' run, returned' a s' run⟩,
    fun err s' run => ⟨thrown err s' run, thrown' err s' run⟩⟩

/-- Either of two preconditions. -/
theorem Triple.or {action : EStateM ε σ α} (h : Triple P action Q E)
    (h' : Triple P' action Q E)
    : Triple (fun s => P s ∨ P' s) action Q E :=
  fun s holds => holds.elim (h s) (h' s)

/-- Returning a value. -/
theorem Triple.pure {a : α} (h : ∀ s, P s → Q a s)
    : Triple P (pure a : EStateM ε σ α) Q E := by
  intro s hs
  constructor
  · intro a' s' run
    cases run
    exact h s hs
  · intro err s' run
    cases run

/-- Throwing an exception. -/
theorem Triple.throw {err : ε} (h : ∀ s, P s → E s)
    : Triple P (throw err : EStateM ε σ α) Q E := by
  intro s hs
  constructor
  · intro a s' run
    cases run
  · intro err' s' run
    cases run
    exact h s hs

/-- A change of the state. -/
theorem Triple.modify {change : σ → σ} {Q : PUnit → σ → Prop}
    (h : ∀ s, P s → Q ⟨⟩ (change s))
    : Triple P (modify change : EStateM ε σ PUnit) Q E := by
  intro s hs
  constructor
  · intro a s' run
    cases run
    exact h s hs
  · intro err s' run
    cases run

/-- The rest of a sequence starts where the first part returned. -/
theorem Triple.bind {first : EStateM ε σ α} {next : α → EStateM ε σ β} {M : α → σ → Prop}
    {Q : β → σ → Prop} (hf : Triple P first M E) (hn : ∀ a, Triple (M a) (next a) Q E)
    : Triple P (first >>= next) Q E := by
  intro s hs
  obtain ⟨returned, raised⟩ := hf s hs
  cases before : first.run s with
  | ok a middle =>
      rw [run_bind_ok before]
      exact hn a middle (returned a middle before)
  | error err middle =>
      rw [run_bind_error before]
      constructor
      · intro b s' impossible
        cases impossible
      · intro err' s' same
        cases same
        exact raised err middle before

/-- The first two parts of a sequence, taken together. -/
theorem Triple.bind₂ {first : EStateM ε σ PUnit} {second : EStateM ε σ α}
    {next : α → EStateM ε σ β} {M : α → σ → Prop} {Q : β → σ → Prop}
    (hf : Triple P (first >>= fun _ => second) M E) (hn : ∀ a, Triple (M a) (next a) Q E)
    : Triple P (first >>= fun _ => second >>= next) Q E := by
  have together := hf.bind hn
  rwa [bind_assoc] at together

/-- An action that looks at the state first. -/
theorem Triple.get {next : σ → EStateM ε σ α}
    (h : ∀ s, P s → Triple (fun t => t = s) (next s) Q E)
    : Triple P (get >>= next) Q E :=
  fun s hs => h s hs s rfl

/-- Either branch, each under its condition. -/
theorem Triple.ite {condition : Prop} [Decidable condition] {yes no : EStateM ε σ α}
    (hy : condition → Triple P yes Q E) (hn : ¬ condition → Triple P no Q E)
    : Triple P (if condition then yes else no) Q E := by
  by_cases h : condition
  · rw [if_pos h]
    exact hy h
  · rw [if_neg h]
    exact hn h

/-- An invariant holds after an action, however it ends. -/
theorem Maintains.triple {I : σ → Prop} {action : EStateM ε σ α} (h : Maintains I action)
    : Triple I action (fun _ => I) I := by
  intro s hs
  have kept := h s hs
  constructor
  · intro a s' run
    rwa [run] at kept
  · intro err s' run
    rwa [run] at kept

/-- A triple with one property throughout is an invariant. -/
theorem Triple.maintains {I : σ → Prop} {action : EStateM ε σ α}
    (h : Triple I action (fun _ => I) I)
    : Maintains I action :=
  fun _ hs => h.after (fun _ _ => id) (fun _ => id) hs

/-- Both of two invariants are kept. -/
theorem Maintains.and {I J : σ → Prop} {action : EStateM ε σ α} (hi : Maintains I action)
    (hj : Maintains J action)
    : Maintains (fun s => I s ∧ J s) action :=
  fun s hs => ⟨hi s hs.1, hj s hs.2⟩

/-- An action on a component, with what holds of the rest. -/
theorem Triple.zoom {part : τ → σ} {put : σ → τ → τ} {action : EStateM ε σ α}
    {P E : τ → Prop} {Q : α → τ → Prop}
    (h
      : ∀ whole, P whole →
          Triple (fun s => s = part whole) action (fun a s => Q a (put s whole))
            (fun s => E (put s whole)))
    : Triple P (zoom part put action) Q E := by
  intro whole hw
  obtain ⟨returned, raised⟩ := h whole hw (part whole) rfl
  cases run : action.run (part whole) with
  | ok a s =>
      rw [run_zoom_ok run]
      constructor
      · intro a' whole' same
        cases same
        exact returned a s run
      · intro err whole' impossible
        cases impossible
  | error err s =>
      rw [run_zoom_error run]
      constructor
      · intro a whole' impossible
        cases impossible
      · intro err' whole' same
        cases same
        exact raised err s run

end Streams
