import Libcapt.Utility.Seeking

/-! A page that was assigned to, against one that was move-constructed. They differ when the
page that was assigned to keeps a stream that has more to give.
-/

namespace Capt.Utility.BufferedPage

open Streams

/-- A read or a seek. -/
inductive Request where
  | sgetn (n : Nat)
  | sbumpc
  | sgetc
  | seekpos (pos : Int) (which : OpenMode)
  | seekoff (off : Int) (dir : SeekDir) (which : OpenMode)

/-- What a request gives. -/
inductive Reply where
  | data (bytes : List UInt8)
  | symbol (c : Option UInt8)
  | position (pos : Int)

variable {σ : Type} [Source Fault UInt8 σ]

/-- What a request does. -/
def Request.perform : Request → Action (BufferedPage σ) Reply
  | sgetn n => do
    let bytes ← Source.sgetn n
    return .data bytes
  | sbumpc => do
    let c ← Source.sbumpc
    return .symbol c
  | sgetc => do
    let c ← Source.sgetc
    return .symbol c
  | seekpos pos which => do
    let pos ← BufferedPage.seekpos pos which
    return .position pos
  | seekoff off dir which => do
    let pos ← BufferedPage.seekoff off dir which
    return .position pos

/-- The requests in order, with their replies. -/
def performAll : List Request → Action (BufferedPage σ) (List Reply)
  | [] => return []
  | request :: requests => do
    let reply ← request.perform
    let replies ← performAll requests
    return reply :: replies

-----------------------------------------------------------------------------------------
-- Bytes in memory
-----------------------------------------------------------------------------------------

/-- The position that a seek by an offset sets, among `length` bytes. -/
def seekTarget (length pos : Nat) (off : Int) : SeekDir → Int
  | .beg => off
  | .cur => pos + toInt off
  | .end => length + off

/-- What a seek to a position gives, and the position after it. -/
def sought (pos : Nat) (which : OpenMode) (goal : Int) : Reply × Nat :=
  if which.input then (.position goal, goal.toNat) else (.position (-1), pos)

namespace Request

/-- What a request gives on bytes in memory at a position, and the position after it. -/
def answer (content : List UInt8) (pos : Nat) : Request → Reply × Nat
  | sgetn n => (.data ((content.drop pos).take n), min (pos + n) content.length)
  | sbumpc => (.symbol content[pos]?, min (pos + 1) content.length)
  | sgetc => (.symbol content[pos]?, pos)
  | seekpos goal which => sought pos which goal
  | seekoff off dir which => sought pos which (seekTarget content.length pos off dir)

/-- A seek for reading is to a position within the bytes. -/
def InRange (length pos : Nat) : Request → Prop
  | seekpos goal which => which.input → 0 ≤ goal ∧ goal ≤ length
  | seekoff off dir which =>
    which.input →
      0 ≤ seekTarget length pos off dir ∧ seekTarget length pos off dir ≤ length
  | _ => True

end Request

/-- The replies that a complete content gives, from a position on. -/
def answers (content : List UInt8) : Nat → List Request → List Reply
  | _, [] => []
  | pos, request :: requests =>
    let (reply, pos') := request.answer content pos
    reply :: answers content pos' requests

/-- Every seek is to a position within the bytes, from where the requests before it lead. -/
def AllInRange (content : List UInt8) : Nat → List Request → Prop
  | _, [] => True
  | pos, request :: requests =>
    request.InRange content.length pos
      ∧ AllInRange content (request.answer content pos).2 requests

-----------------------------------------------------------------------------------------
-- Pages that have all of their bytes
-----------------------------------------------------------------------------------------

variable {R : σ → List UInt8 → Prop} {blockSize : Nat} {content : List UInt8}
  {this : BufferedPage σ}

/-- A page whose stream gives nothing more: its buffer is all that it shows. -/
structure Complete (R : σ → List UInt8 → Prop) (blockSize : Nat) (content : List UInt8)
    (this : BufferedPage σ)
    : Prop where
  buffers : Buffers R blockSize content this
  whole : this.buffer = content

section Seek

omit [Source Fault UInt8 σ]

/-- A page stays complete. -/
theorem Complete.next {this' : BufferedPage σ} (h : Complete R blockSize content this)
    (after : Buffers R blockSize content this') (kept : this.buffer <+: this'.buffer)
    : Complete R blockSize content this' := by
  refine ⟨after, ?_⟩
  rw [h.whole] at kept
  exact (kept.eq_of_length_le after.isPrefix.length_le).symm

/-- Where a relative seek goes on a complete page. -/
theorem Complete.reached (h : Complete R blockSize content this) (off : Int) (dir : SeekDir)
    : this.reached off dir = seekTarget content.length this.gptr off dir := by
  cases dir with
  | beg | cur => rfl
  | «end» => rw [BufferedPage.reached, seekTarget, h.buffers.egptr, h.whole]

/-- A seek within the bytes. -/
theorem Complete.seek (h : Complete R blockSize content this) {goal : Int} {which : OpenMode}
    (inside : which.input → 0 ≤ goal ∧ goal ≤ content.length)
    : ∃ pos this', (seekpos goal which).run this = .ok pos this'
        ∧ Complete R blockSize content this'
        ∧ sought this.gptr which goal = (.position pos, this'.gptr) := by
  by_cases opened : which.input
  · have within := inside opened
    rw [← h.whole] at within
    refine ⟨goal, this.moved goal, run_seekpos_open opened ?_, ⟨h.buffers.moved within, h.whole⟩,
      if_pos opened⟩
    rwa [h.buffers.egptr]
  · exact ⟨-1, this, run_seekpos_closed goal opened, h, if_neg opened⟩

end Seek

/-- A request on such a page gives what it gives on its bytes in memory. -/
theorem Complete.run_perform (feeds : Feeds R blockSize) (h : Complete R blockSize content this)
    (request : Request) (inside : request.InRange content.length this.gptr)
    : ∃ reply this', request.perform.run this = .ok reply this'
        ∧ Complete R blockSize content this'
        ∧ request.answer content this.gptr = (reply, this'.gptr) := by
  cases request with
  | sgetn n =>
      obtain ⟨this', run, after, kept, position⟩ := h.buffers.sgetn feeds n
      exact ⟨_, this', run_bind_ok run, h.next after kept, by rw [position]; rfl⟩
  | sbumpc =>
      obtain ⟨this', run, after, kept, position⟩ := h.buffers.sbumpc feeds
      exact ⟨_, this', run_bind_ok run, h.next after kept, by rw [position]; rfl⟩
  | sgetc =>
      obtain ⟨this', run, after, kept, position⟩ := h.buffers.sgetc feeds
      exact ⟨_, this', run_bind_ok run, h.next after kept, by rw [position]; rfl⟩
  | seekpos goal which =>
      obtain ⟨pos, this', run, after, answer⟩ := h.seek inside
      exact ⟨_, this', run_bind_ok run, after, answer⟩
  | seekoff off dir which =>
      obtain ⟨pos, this', run, after, answer⟩ := h.seek inside
      rw [← h.reached, ← run_seekoff_eq] at run
      exact ⟨_, this', run_bind_ok run, after, answer⟩

/-- Requests are answered one by one, by induction on them. -/
theorem Complete.run_performAll (feeds : Feeds R blockSize)
    (h : Complete R blockSize content this) (requests : List Request)
    (inside : AllInRange content this.gptr requests)
    : ∃ this', (performAll requests).run this = .ok (answers content this.gptr requests) this'
        ∧ Complete R blockSize content this' := by
  induction requests generalizing this with
  | nil => exact ⟨this, rfl, h⟩
  | cons request requests ih =>
      obtain ⟨reply, middle, run, after, answer⟩ := h.run_perform feeds request inside.1
      obtain ⟨_, rest⟩ := inside
      rw [answer] at rest
      obtain ⟨this', others, last⟩ := ih after rest
      refine ⟨this', ?_, last⟩
      rw [performAll, run_bind_ok run, run_bind_ok others, answers, answer]
      rfl

-----------------------------------------------------------------------------------------
-- The two moves
-----------------------------------------------------------------------------------------

/-- Every sequence of reads and seeks gives the same on the page that was assigned to and on
the one that was move-constructed: what the bytes that were moved give in memory. No page
has taken anything of a stream after it.
-/
def Agrees (src dst : BufferedPage σ) : Prop :=
  ∀ requests, AllInRange src.buffer 0 requests →
    ∃ assigned constructed,
      (performAll requests).run (dst.moveAssign src)
        = .ok (answers src.buffer 0 requests) assigned
      ∧ (performAll requests).run src.moveConstruct
        = .ok (answers src.buffer 0 requests) constructed
      ∧ assigned.buffer = src.buffer ∧ constructed.buffer = src.buffer

variable {src dst : BufferedPage σ}

/-- The constructed page answers every request that stays inside its buffer. -/
theorem moveConstruct_performAll (src : BufferedPage σ) {requests : List Request}
    (inside : AllInRange src.buffer 0 requests)
    : ∃ constructed, (performAll requests).run src.moveConstruct
          = .ok (answers src.buffer 0 requests) constructed
        ∧ constructed.buffer = src.buffer := by
  have complete : Complete (fun _ _ => False) 4096 src.buffer src.moveConstruct :=
    ⟨moveConstruct_buffers src, rfl⟩
  obtain ⟨constructed, run, last⟩ :=
    complete.run_performAll (fun none => none.elim) requests inside
  exact ⟨constructed, run, last.whole⟩

/-- A page that gives more behind the moved bytes shows it by a read over their end. -/
theorem buffer_of_agrees (lives : Lives content dst) (agrees : Agrees src dst)
    : dst.buffer = content := by
  obtain ⟨R, blockSize, feeds, buffers⟩ := lives.buffers
  obtain ⟨assigned, _, run, _⟩ := agrees [.sgetn (src.buffer.length + 1)] ⟨trivial, trivial⟩
  obtain ⟨this', read, _⟩ := (buffers.moveAssign src).sgetn feeds (src.buffer.length + 1)
  have performed : (performAll [.sgetn (src.buffer.length + 1)]).run (dst.moveAssign src)
      = .ok [.data ((src.buffer ++ content.drop dst.buffer.length).take (src.buffer.length + 1))]
          this' :=
    run_bind_ok (run_bind_ok read)
  have replies := performed.symm.trans run
  injection replies with replies _
  injection replies with reply _
  injection reply with bytes
  rw [List.drop_zero, List.take_of_length_le (Nat.le_succ _), List.take_length_add_append]
    at bytes
  have nothing := List.append_cancel_left (bytes.trans (List.append_nil _).symm)
  rw [List.take_eq_nil_iff, List.drop_eq_nil_iff] at nothing
  rcases nothing with none | all
  · cases none
  · exact buffers.isPrefix.eq_of_length_le all

/-- The two agree if and only if the page that is assigned to has nothing more to take from
a stream of its own.
-/
theorem moveAssign_agrees_iff (src : BufferedPage σ) (lives : Lives content dst)
    : Agrees src dst ↔ dst.buffer = content := by
  constructor
  · intro agrees
    exact buffer_of_agrees lives agrees
  · intro whole requests inside
    obtain ⟨R, blockSize, feeds, buffers⟩ := lives.buffers
    have moved := buffers.moveAssign src
    rw [whole, List.drop_length, List.append_nil] at moved
    have complete : Complete R blockSize src.buffer (dst.moveAssign src) := ⟨moved, rfl⟩
    obtain ⟨assigned, run, last⟩ := complete.run_performAll feeds requests inside
    obtain ⟨constructed, run', same⟩ := moveConstruct_performAll src inside
    exact ⟨assigned, constructed, run, run', last.whole, same⟩

/-- A page of two bytes is assigned to one without a stream. -/
theorem moveAssign_agrees_iff_detached
    : Agrees
        (⟨[1, 2], some ⟨[3]⟩, 2, 1, noParams, 2, 2⟩ : BufferedPage MemoryStreambuf)
        (construct 123 noParams none)
      ↔ (construct 123 noParams none : BufferedPage MemoryStreambuf).buffer = [] :=
  moveAssign_agrees_iff _ (.empty 123 noParams 4096)

/-- An empty page is assigned to a new one over three bytes. -/
theorem moveAssign_keepsStream
    : ¬ ∀ (video content : List UInt8) (src dst : BufferedPage MemoryStreambuf),
          Lives video src → Lives content dst → Agrees src dst := by
  intro agrees
  have empty : Lives [] (construct 1 noParams (none : Option MemoryStreambuf)) :=
    .empty 1 noParams 4096
  have same := buffer_of_agrees threeBytes_lives (agrees _ _ _ _ empty threeBytes_lives)
  cases same

end Capt.Utility.BufferedPage
