import Libcapt.Core.PacketFraming
import Mathlib.Logic.Function.Basic

/-! One stream of packets, and which packet owns the payload that is not read yet. -/

namespace Capt

open Streams

variable {ι : Type} {stream stream' : IOStream} {owned owned' : ι → Nat}

/-- A stream within packets. Only one packet owns bytes of it, by the number that it has
still to read, and these are all that is before the next packet.
-/
def Held (stream : IOStream) (owned : ι → Nat) : Prop :=
  ∃ left packets,
    stream.good ∧ stream.input = left ++ frames packets
    ∧ (∀ packet ∈ packets, packet.2.length ≤ 65531)
    ∧ (∀ i, owned i ≠ 0 → owned i = left.length ∧ ∀ j, owned j ≠ 0 → j = i)
    ∧ (left ≠ [] → ∃ i, owned i ≠ 0)

/-- What was owned of a packet is owned by one packet still, as far as it is not read, or
the stream is at the end of that packet.
-/
def Kept (stream : IOStream) (owned : ι → Nat) (stream' : IOStream) (owned' : ι → Nat) : Prop :=
  ∀ i, owned i ≠ 0 →
    (∃ j, owned' j ≠ 0
      ∧ stream'.input.drop (owned' j) = stream.input.drop (owned i))
    ∨ stream'.input = stream.input.drop (owned i)

/-- Nothing has changed. -/
theorem kept_refl (stream : IOStream) (owned : ι → Nat) : Kept stream owned stream owned :=
  fun i some => .inl ⟨i, some, rfl⟩

/-- What is owned is lost when the owner takes over nothing and the stream stays. -/
theorem Held.lost (h : Held stream owned) {i : ι} (some : owned i ≠ 0)
    (nothing : ∀ j, owned' j = 0)
    : ¬ Kept stream owned stream owned' := by
  obtain ⟨left, packets, _, input, _, unique, _⟩ := h
  intro kept
  rcases kept i some with ⟨j, owns, _⟩ | atEnd
  · exact owns (nothing j)
  · have lengths := congrArg List.length atEnd
    rw [List.length_drop, input, List.length_append] at lengths
    have all := (unique i some).1
    omega

variable [DecidableEq ι]

/-- The owner reads or skips some of its bytes. -/
theorem Held.advance (h : Held stream owned) {i : ι} {n : Nat} (fits : n ≤ owned i)
    : Held (stream.unread (stream.input.drop n)) (Function.update owned i (owned i - n))
      ∧ Kept stream owned (stream.unread (stream.input.drop n))
          (Function.update owned i (owned i - n)) := by
  by_cases none : owned i = 0
  · have nothing : n = 0 := Nat.le_zero.mp (none ▸ fits)
    have same : Function.update owned i (owned i - n) = owned := by
      rw [nothing, Nat.sub_zero]
      exact Function.update_eq_self i owned
    rw [same, nothing, List.drop_zero]
    exact ⟨h, kept_refl stream owned⟩
  · obtain ⟨left, packets, good, input, fit, unique, _⟩ := h
    obtain ⟨all, alone⟩ := unique i none
    have others : ∀ j, j ≠ i → owned j = 0 := by
      intro j other
      by_contra some
      exact other (alone j some)
    have rest : stream.input.drop n = left.drop n ++ frames packets := by
      rw [input, List.drop_append_of_le_length (all ▸ fits)]
    constructor
    · refine ⟨left.drop n, packets, good, rest, fit, ?_, ?_⟩
      · intro j some
        by_cases same : j = i
        · subst same
          rw [Function.update_self, all, List.length_drop]
          refine ⟨rfl, fun k more => ?_⟩
          by_contra other
          rw [Function.update_of_ne other] at more
          exact more (others k other)
        · rw [Function.update_of_ne same] at some
          exact absurd (others j same) some
      · intro more
        refine ⟨i, ?_⟩
        rw [Function.update_self, all, ← List.length_drop]
        exact fun empty => more (List.eq_nil_of_length_eq_zero empty)
    · intro j some
      cases alone j some
      by_cases last : n = owned i
      · exact .inr (by rw [last]; rfl)
      · refine .inl ⟨i, ?_, ?_⟩
        · rw [Function.update_self]
          omega
        · rw [Function.update_self]
          change (stream.input.drop n).drop (owned i - n) = _
          rw [List.drop_drop, Nat.add_sub_cancel' fits]

/-- The next packet is opened while none owns anything. -/
theorem Held.next (h : Held stream owned) (free : ∀ i, owned i = 0) (some : stream.input ≠ [])
    : ∃ (packet : Packet) (packets : List Packet), packet.2.length ≤ 65531
        ∧ stream.input = PacketHeader.frame packet.1 packet.2 ++ frames packets
        ∧ ∀ i, Held (stream.unread (packet.2 ++ frames packets))
            (Function.update owned i packet.2.length) := by
  obtain ⟨left, packets, good, input, fit, _, owner⟩ := h
  have nothing : left = [] := by
    by_contra more
    obtain ⟨i, more⟩ := owner more
    exact more (free i)
  rw [nothing, List.nil_append] at input
  cases packets with
  | nil => exact absurd input some
  | cons packet packets =>
      refine ⟨packet, packets, fit packet List.mem_cons_self, input, fun i => ?_⟩
      refine ⟨packet.2, packets, good, rfl, fun other member => ?_, ?_, ?_⟩
      · exact fit other (List.mem_cons_of_mem _ member)
      · intro j more
        have owns : ∀ k, Function.update owned i packet.2.length k ≠ 0 → k = i := by
          intro k more
          by_contra other
          rw [Function.update_of_ne other] at more
          exact more (free k)
        rw [owns j more, Function.update_self]
        exact ⟨rfl, owns⟩
      · intro more
        refine ⟨i, ?_⟩
        rw [Function.update_self]
        exact fun empty => more (List.eq_nil_of_length_eq_zero empty)

/-- One packet takes over what another one owns. -/
theorem Held.handed (h : Held stream owned) {i j : ι} (other : i ≠ j) (none : owned i = 0)
    : Held stream (Function.update (Function.update owned i (owned j)) j 0)
      ∧ Kept stream owned stream (Function.update (Function.update owned i (owned j)) j 0) := by
  obtain ⟨left, packets, good, input, fit, unique, owner⟩ := h
  have moved : ∀ k, Function.update (Function.update owned i (owned j)) j 0 k
      = if k = j then 0 else if k = i then owned j else owned k := by
    intro k
    simp only [Function.update_apply]
  have owns : ∀ k, owned k ≠ 0 →
      Function.update (Function.update owned i (owned j)) j 0 (if k = j then i else k)
        = owned k := by
    intro k some
    rw [moved]
    by_cases same : k = j
    · simp [same, other]
    · have different : k ≠ i := by
        rintro rfl
        exact some none
      simp [same, different]
  have origin : ∀ k, Function.update (Function.update owned i (owned j)) j 0 k ≠ 0 →
      ∃ l, owned l ≠ 0 ∧ k = if l = j then i else l := by
    intro k some
    rw [moved] at some
    by_cases same : k = j
    · simp [same] at some
    · by_cases taken : k = i
      · rw [if_neg same, if_pos taken] at some
        exact ⟨j, some, by simp [taken]⟩
      · rw [if_neg same, if_neg taken] at some
        exact ⟨k, some, by simp [same]⟩
  constructor
  · refine ⟨left, packets, good, input, fit, ?_, ?_⟩
    · intro k some
      obtain ⟨l, had, rfl⟩ := origin k some
      obtain ⟨all, alone⟩ := unique l had
      refine ⟨(owns l had).trans all, fun k' some' => ?_⟩
      obtain ⟨l', had', rfl⟩ := origin k' some'
      rw [alone l' had']
    · intro more
      obtain ⟨l, had⟩ := owner more
      exact ⟨if l = j then i else l, by rw [owns l had]; exact had⟩
  · intro l had
    refine .inl ⟨if l = j then i else l, ?_, ?_⟩
    · rw [owns l had]
      exact had
    · rw [owns l had]

end Capt
