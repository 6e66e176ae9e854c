import Mathlib.Logic.Function.Iterate
import Libcapt.Streams.Invariant
import Libcapt.Streams.Source

/-! Stream buffers that override only `underflow`. Their other reading members are the
ones of the base class, working on a get area; the results say what a reader of such a
buffer sees, from what `underflow` does when the get area is empty.
-/

namespace Streams

/-- A stream buffer with a get area: the symbols in `[gptr, egptr)`, moving `gptr`
forward, and the virtual member that refills the area.
-/
class Streambuf (ε β : outParam Type) (σ : Type) where
  area : σ → List β
  gbump : Nat → σ → σ
  underflow : EStateM ε σ (Option β)

variable {ε β σ : Type}

namespace Streambuf

section Members

variable [Streambuf ε β σ]

/-- The base class `uflow`: refill, then take `*gptr`. -/
def uflow : EStateM ε σ (Option β) := do
  match ← underflow with
  | none => return none
  | some _ =>
    let s ← get
    set (gbump 1 s)
    return (area s).head?

/-- The next symbol, refilling the get area where it is empty. -/
def sbumpc : EStateM ε σ (Option β) := do
  let s ← get
  match area s with
  | b :: _ =>
    set (gbump 1 s)
    return some b
  | [] => uflow

/-- The next symbol, without a move. -/
def sgetc : EStateM ε σ (Option β) := do
  let s ← get
  match area s with
  | b :: _ => return some b
  | [] => underflow

/-- The base class `xsgetn`: as if by repeated `sbumpc`, up to the first end-of-file. -/
def xsgetn : Nat → EStateM ε σ (List β)
  | 0 => return []
  | n + 1 => do
    match ← sbumpc with
    | none => return []
    | some b =>
      let rest ← xsgetn n
      return b :: rest

/-- A stream buffer is a source. -/
instance (priority := low) : Source ε β σ where
  sgetn := xsgetn
  sbumpc := sbumpc
  sgetc := sgetc

/-- While the get area is not empty it gives its first symbol. -/
theorem run_sbumpc_area {s : σ} {b : β} {rest : List β} (h : area s = b :: rest)
    : (sbumpc : EStateM ε σ (Option β)).run s = .ok (some b) (gbump 1 s) := by
  simp only [sbumpc, EStateM.run_bind, EStateM.run_get, h]
  rfl

/-- So does `sgetc`, without a move. -/
theorem run_sgetc_area {s : σ} {b : β} {rest : List β} (h : area s = b :: rest)
    : (sgetc : EStateM ε σ (Option β)).run s = .ok (some b) s := by
  simp [sgetc, h]

/-- On an empty get area `sgetc` is `underflow`. -/
theorem run_sgetc_empty {s : σ} (h : area s = [])
    : (sgetc : EStateM ε σ (Option β)).run s = underflow.run s := by
  simp [sgetc, h]

/-- Taking from an empty get area at end-of-file gives nothing. -/
theorem run_sbumpc_eof {s s' : σ} (h : area s = [])
    (run : (underflow : EStateM ε σ (Option β)).run s = .ok none s')
    : (sbumpc : EStateM ε σ (Option β)).run s = .ok none s' := by
  simp [sbumpc, uflow, h, run]

/-- Taking from an empty get area gives the first symbol of the refilled one. -/
theorem run_sbumpc_refill {s s' : σ} {c b : β} {rest : List β} (h : area s = [])
    (run : (underflow : EStateM ε σ (Option β)).run s = .ok (some c) s')
    (filled : area s' = b :: rest)
    : (sbumpc : EStateM ε σ (Option β)).run s = .ok (some b) (gbump 1 s') := by
  simp only [sbumpc, uflow, EStateM.run_bind, EStateM.run_get, h, run, filled]
  rfl

/-- An exception of `underflow` reaches the reader. -/
theorem run_sbumpc_error {s s' : σ} {err : ε} (h : area s = [])
    (run : (underflow : EStateM ε σ (Option β)).run s = .error err s')
    : (sbumpc : EStateM ε σ (Option β)).run s = .error err s' := by
  simp [sbumpc, uflow, h, run]

/-- Taking a symbol keeps what moving `gptr` and `underflow` keep. -/
theorem maintains_sbumpc {I : σ → Prop} (moved : ∀ s, I s → I (gbump 1 s))
    (refilled : Maintains I (underflow : EStateM ε σ (Option β)))
    : Maintains I (sbumpc : EStateM ε σ (Option β)) := by
  have taken : Maintains I (uflow : EStateM ε σ (Option β)) := by
    refine refilled.bind fun c => ?_
    cases c with
    | none => exact .pure _
    | some c => exact .get fun s kept => moved s kept
  refine .get fun s kept => ?_
  cases area s with
  | nil => exact taken s kept
  | cons b rest => exact moved s kept

end Members

/-- Moving `gptr` over one symbol of the get area leaves the others. -/
class Lawful (ε β : outParam Type) (σ : Type) [Streambuf ε β σ] : Prop where
  area_gbump : ∀ {s : σ} {b : β} {rest : List β}, area s = b :: rest → area (gbump 1 s) = rest

section Refill

variable [Streambuf ε β σ]

/-- `R` relates each state to the symbols left in it: the get area is the front of the
list, and when it is empty `underflow` refills it unless nothing is left.
-/
structure Refills (R : σ → List β → Prop) : Prop where
  front : ∀ {s symbols}, R s symbols → area s <+: symbols
  gbump
    : ∀ {s symbols b rest}, R s symbols → area s = b :: rest → R (gbump 1 s) symbols.tail
  underflow
    : ∀ {s symbols}, R s symbols → area s = [] →
        ∃ s', underflow.run s = .ok symbols.head? s' ∧ R s' symbols
          ∧ (symbols ≠ [] → area s' ≠ [])

/-- A buffer that refills gives its symbols in order. -/
theorem Refills.run_sbumpc {R : σ → List β → Prop} (h : Refills R) {s : σ}
    {symbols : List β} (hr : R s symbols)
    : ∃ s', (sbumpc : EStateM ε σ (Option β)).run s = .ok symbols.head? s'
        ∧ R s' symbols.tail := by
  cases ha : area s with
  | cons b rest =>
      obtain ⟨more, rfl⟩ := h.front hr
      refine ⟨_, ?_, h.gbump hr ha⟩
      rw [run_sbumpc_area ha, ha]
      rfl
  | nil =>
      obtain ⟨s', run, next, filled⟩ := h.underflow hr ha
      cases symbols with
      | nil => exact ⟨s', run_sbumpc_eof ha run, next⟩
      | cons c tail =>
          cases hb : area s' with
          | nil => exact absurd hb (filled (by simp))
          | cons b rest =>
              obtain ⟨more, same⟩ := h.front next
              rw [hb, List.cons_append, List.cons.injEq] at same
              refine ⟨_, ?_, h.gbump next hb⟩
              rw [run_sbumpc_refill ha run hb, same.1]
              rfl

/-- It shows the next one without a move. -/
theorem Refills.run_sgetc {R : σ → List β → Prop} (h : Refills R) {s : σ}
    {symbols : List β} (hr : R s symbols)
    : ∃ s', (sgetc : EStateM ε σ (Option β)).run s = .ok symbols.head? s'
        ∧ R s' symbols := by
  cases ha : area s with
  | cons b rest =>
      obtain ⟨more, rfl⟩ := h.front hr
      refine ⟨s, ?_, hr⟩
      rw [run_sgetc_area ha, ha]
      rfl
  | nil =>
      obtain ⟨s', run, next, _⟩ := h.underflow hr ha
      exact ⟨s', by rw [run_sgetc_empty ha, run], next⟩

/-- The block reader of the base class gives the front of the list, by induction on the
requested count.
-/
theorem Refills.run_xsgetn {R : σ → List β → Prop} (h : Refills R) (n : Nat) {s : σ}
    {symbols : List β} (hr : R s symbols)
    : ∃ s', (xsgetn n : EStateM ε σ (List β)).run s = .ok (symbols.take n) s'
        ∧ R s' (symbols.drop n) := by
  induction n generalizing s symbols with
  | zero => exact ⟨s, rfl, hr⟩
  | succ n ih =>
      obtain ⟨middle, run, next⟩ := h.run_sbumpc hr
      cases symbols with
      | nil =>
          refine ⟨middle, ?_, next⟩
          rw [xsgetn, run_bind_ok run]
          rfl
      | cons b rest =>
          obtain ⟨s', block, final⟩ := ih next
          refine ⟨s', ?_, final⟩
          rw [xsgetn, run_bind_ok run]
          simp only [List.head?_cons]
          rw [run_bind_ok block]
          rfl

/-- A buffer that refills its get area from a list supplies that list. -/
theorem Refills.isSupply {R : σ → List β → Prop} (h : Refills R) : IsSupply R where
  sgetn := fun hr n => h.run_xsgetn n hr
  sbumpc := fun hr => h.run_sbumpc hr
  sgetc := fun hr => h.run_sgetc hr

end Refill

section Readers

variable [Streambuf ε β σ]

/-- Reading this buffer through the public interface is reading through its members. -/
theorem source_sbumpc : (Source.sbumpc : EStateM ε σ (Option β)) = sbumpc := rfl

/-- The get area is read first; what follows is read from the state without it. -/
theorem drains_area [Lawful ε β σ] {line rest : List β} {s s' : σ} (h : area s = line)
    (tail : Drains ((gbump 1)^[line.length] s) rest s')
    : Drains s (line ++ rest) s' := by
  induction line generalizing s with
  | nil => exact tail
  | cons b line ih =>
      exact .symbol (run_sbumpc_area h) (ih (Lawful.area_gbump h) tail)

/-- The get area is read before the exception that follows it. -/
theorem breaks_area [Lawful ε β σ] {err : ε} {line rest : List β} {s : σ}
    (h : area s = line) (tail : Breaks err ((gbump 1)^[line.length] s) rest)
    : Breaks err s (line ++ rest) := by
  induction line generalizing s with
  | nil => exact tail
  | cons b line ih =>
      exact .symbol (run_sbumpc_area h) (ih (Lawful.area_gbump h) tail)

/-- Taking a symbol right after `underflow` refilled the get area is taking it at once. -/
theorem run_sbumpc_refilled {s s' : σ} {c : β} (h : area s = [])
    (run : (underflow : EStateM ε σ (Option β)).run s = .ok (some c) s')
    (filled : area s' ≠ [])
    : (sbumpc : EStateM ε σ (Option β)).run s = (sbumpc : EStateM ε σ (Option β)).run s' := by
  obtain ⟨b, rest, same⟩ := List.exists_cons_of_ne_nil filled
  rw [run_sbumpc_refill h run same, run_sbumpc_area same]

/-- A refill is no part of what is drained. -/
theorem drains_refill {s s' final : σ} {c : β} {symbols : List β} (h : area s = [])
    (run : (underflow : EStateM ε σ (Option β)).run s = .ok (some c) s')
    (filled : area s' ≠ []) (tail : Drains s' symbols final)
    : Drains s symbols final := by
  have same := run_sbumpc_refilled h run filled
  cases tail with
  | eof next => exact .eof (same.trans next)
  | symbol next tail => exact .symbol (same.trans next) tail

/-- Nor is it before an exception. -/
theorem breaks_refill {err : ε} {s s' : σ} {c : β} {symbols : List β} (h : area s = [])
    (run : (underflow : EStateM ε σ (Option β)).run s = .ok (some c) s')
    (filled : area s' ≠ []) (tail : Breaks err s' symbols)
    : Breaks err s symbols := by
  have same := run_sbumpc_refilled h run filled
  cases tail with
  | thrown next => exact .thrown (same.trans next)
  | symbol next tail => exact .symbol (same.trans next) tail

/-- Reading to end-of-file reads the get area first, by induction on it. -/
theorem drains_of_area [Lawful ε β σ] {line symbols : List β} {s s' : σ} (h : area s = line)
    (drains : Drains s symbols s')
    : ∃ rest, symbols = line ++ rest ∧ Drains ((gbump 1)^[line.length] s) rest s' := by
  induction line generalizing s symbols with
  | nil => exact ⟨symbols, rfl, drains⟩
  | cons b line ih =>
      cases drains with
      | eof run =>
          rw [source_sbumpc, run_sbumpc_area h] at run
          cases run
      | symbol run tail =>
          rw [source_sbumpc, run_sbumpc_area h] at run
          cases run
          obtain ⟨rest, rfl, drains⟩ := ih (Lawful.area_gbump h) tail
          exact ⟨rest, rfl, drains⟩

/-- Reading to end-of-file with an empty get area refills it or ends. -/
theorem drains_of_empty {s final : σ} {symbols : List β} (h : area s = [])
    (drains : Drains s symbols final)
    : ((underflow : EStateM ε σ (Option β)).run s = .ok none final ∧ symbols = [])
      ∨ ∃ c s', (underflow : EStateM ε σ (Option β)).run s = .ok (some c) s'
          ∧ (area s' ≠ [] → Drains s' symbols final) := by
  cases run : (underflow : EStateM ε σ (Option β)).run s with
  | error err s' =>
      have thrown := run_sbumpc_error h run
      cases drains with
      | eof next | symbol next _ =>
          rw [source_sbumpc, thrown] at next
          cases next
  | ok value s' =>
      cases value with
      | none =>
          have ended := run_sbumpc_eof h run
          cases drains with
          | eof next =>
              rw [source_sbumpc, ended] at next
              cases next
              exact .inl ⟨rfl, rfl⟩
          | symbol next _ =>
              rw [source_sbumpc, ended] at next
              cases next
      | some c =>
          refine .inr ⟨c, s', rfl, fun filled => ?_⟩
          have same := run_sbumpc_refilled h run filled
          cases drains with
          | eof next => exact .eof (same.symm.trans next)
          | symbol next tail => exact .symbol (same.symm.trans next) tail

end Readers

end Streambuf

end Streams
