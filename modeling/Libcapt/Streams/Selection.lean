import Mathlib.Data.List.Basic

/-! The symbols of a list at selected positions. -/

namespace Streams

variable {β : Type} (p : Nat → Prop) [DecidablePred p]

/-- The symbols at the positions that satisfy `p`; the first symbol is at `pos`. -/
def select : Nat → List β → List β
  | _, [] => []
  | pos, b :: rest => if p pos then b :: select (pos + 1) rest else select (pos + 1) rest

/-- Selection goes through a list from front to back, by induction on the first part. -/
theorem select_append (pos : Nat) (first second : List β)
    : select p pos (first ++ second)
      = select p pos first ++ select p (pos + first.length) second := by
  induction first generalizing pos with
  | nil => rfl
  | cons b rest ih =>
      rw [List.cons_append, select, select, ih, List.length_cons, Nat.add_right_comm,
        Nat.add_assoc]
      split <;> rfl

/-- Where every position is selected nothing is left out. -/
theorem select_all {pos : Nat} {symbols : List β} (h : ∀ i < symbols.length, p (pos + i))
    : select p pos symbols = symbols := by
  induction symbols generalizing pos with
  | nil => rfl
  | cons b rest ih =>
      have first : p pos := h 0 (by simp)
      have others : ∀ i < rest.length, p (pos + 1 + i) := by
        intro i less
        rw [Nat.add_right_comm, Nat.add_assoc]
        exact h (i + 1) (by simpa using less)
      rw [select, if_pos first, ih others]

/-- Where no position is selected nothing is left. -/
theorem select_none {pos : Nat} {symbols : List β} (h : ∀ i < symbols.length, ¬ p (pos + i))
    : select p pos symbols = [] := by
  induction symbols generalizing pos with
  | nil => rfl
  | cons b rest ih =>
      have first : ¬ p pos := h 0 (by simp)
      have others : ∀ i < rest.length, ¬ p (pos + 1 + i) := by
        intro i less
        rw [Nat.add_right_comm, Nat.add_assoc]
        exact h (i + 1) (by simpa using less)
      rw [select, if_neg first, ih others]

/-- A stretch of selected positions is taken as it is. -/
theorem select_keep {pos : Nat} (count : Nat) (h : ∀ i < count, p (pos + i))
    (symbols : List β)
    : select p pos symbols
      = symbols.take count ++ select p (pos + count) (symbols.drop count) := by
  have inside : ∀ i < (symbols.take count).length, p (pos + i) := by
    intro i less
    rw [List.length_take] at less
    exact h i (by omega)
  have split := select_append p pos (symbols.take count) (symbols.drop count)
  rw [List.take_append_drop, select_all p inside] at split
  rw [split]
  rcases Nat.lt_or_ge symbols.length count with short | long
  · rw [List.drop_of_length_le (Nat.le_of_lt short)]
    rfl
  · rw [List.length_take, Nat.min_eq_left long]

/-- A stretch of positions that are not selected is passed over. -/
theorem select_skip {pos : Nat} (count : Nat) (h : ∀ i < count, ¬ p (pos + i))
    (symbols : List β)
    : select p pos symbols = select p (pos + count) (symbols.drop count) := by
  have inside : ∀ i < (symbols.take count).length, ¬ p (pos + i) := by
    intro i less
    rw [List.length_take] at less
    exact h i (by omega)
  have split := select_append p pos (symbols.take count) (symbols.drop count)
  rw [List.take_append_drop, select_none p inside, List.nil_append] at split
  rw [split]
  rcases Nat.lt_or_ge symbols.length count with short | long
  · rw [List.drop_of_length_le (Nat.le_of_lt short)]
    rfl
  · rw [List.length_take, Nat.min_eq_left long]

/-- What is selected before a selected symbol is not all that is selected before a later
position.
-/
theorem select_take_ne {symbols : List β} {first second : Nat} (less : first < second)
    (inside : first < symbols.length) (stop : p first)
    : select p 0 (symbols.take first) ≠ select p 0 (symbols.take second) := by
  obtain ⟨extra, rfl⟩ := Nat.exists_eq_add_of_lt less
  have front : (symbols.take first).length = first := by
    rw [List.length_take, Nat.min_eq_left (Nat.le_of_lt inside)]
  have longer : symbols.take (first + extra + 1)
      = symbols.take first ++ symbols[first] :: (symbols.drop (first + 1)).take extra := by
    rw [Nat.add_assoc, List.take_add, List.drop_eq_getElem_cons inside, List.take_succ_cons]
  intro same
  rw [longer, select_append, front, Nat.zero_add, select, if_pos stop] at same
  have size := congrArg List.length same
  rw [List.length_append, List.length_cons] at size
  omega

end Streams
