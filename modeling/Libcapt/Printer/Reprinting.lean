import Libcapt.Printer.TransmissionOrder
import Libcapt.Utility.Replay

/-! A page can be sent again after attempts that were given up, and after it was moved away
from its video stream.
-/

namespace Capt

open Streams Protocol PageEvent Utility

/-- What a call of `WriteVideoData` is given besides the video stream. -/
structure Attempt where
  printer : BasicCaptPrinter
  stopToken : StopToken := {}
  fuel : Nat
  params : PageParams
  blockSize : Nat
  quiet : printer.stream.Quiet
  positive : 1 ≤ blockSize
  fits : blockSize ≤ 65531

/-- How an attempt ended, and the video that it sent. -/
structure Printout where
  outcome : Except Fault Bool
  sent : List UInt8

namespace Attempt

variable {σ : Type} [Source Fault UInt8 σ]

/-- Tries to send what the video stream gives. -/
def perform (this : Attempt) : Action σ Printout :=
  zoom (fun videoStream => ⟨this.printer, this.stopToken, videoStream⟩)
    (fun call _ => call.videoStream) do
      let outcome ← attempt (Call.writeVideoData this.fuel this.params this.blockSize)
      let call ← get
      return ⟨outcome, videoSent (call.printer.stream.log.drop this.printer.stream.log.length)⟩

/-- An attempt that returns true has sent the video to its end. -/
theorem run_perform (this : Attempt) {R : σ → List UInt8 → Prop} (source : IsTrickle R)
    {videoStream : σ} {video : List UInt8} (given : R videoStream video)
    : ∃ printout videoStream' left, this.perform.run videoStream = .ok printout videoStream'
        ∧ R videoStream' left
        ∧ (printout.outcome = .ok true → printout.sent = video ∧ left = []) := by
  obtain ⟨body, outcome, call, left, sending, logs, run, given', last⟩ :=
    @Call.run_writeVideoData _ ⟨this.printer, this.stopToken, videoStream⟩ _ R source this.fuel
      this.params this.blockSize this.positive this.fits video this.quiet given
  have attempted : (attempt (Call.writeVideoData this.fuel this.params this.blockSize)).run
      ⟨this.printer, this.stopToken, videoStream⟩ = .ok outcome call := by
    cases outcome with
    | ok value => exact run_attempt_ok run
    | error err => exact run_attempt_error run
  refine ⟨⟨outcome, videoSent (call.printer.stream.log.drop this.printer.stream.log.length)⟩,
    call.videoStream, left, ?_, given', ?_⟩
  · apply run_zoom_ok
    rw [run_bind_ok attempted]
    rfl
  · intro done
    have transmission := sending.ofPage this.params
    refine ⟨?_, (last done).2⟩
    have behind := congrArg (List.drop this.printer.stream.log.length) logs.log
    rw [List.drop_left] at behind
    change videoSent (call.printer.stream.log.drop this.printer.stream.log.length) = video
    rw [behind, videoSent_events]
    exact transmission.whole done

end Attempt

-----------------------------------------------------------------------------------------
-- Sequences of attempts
-----------------------------------------------------------------------------------------

namespace Utility.BufferedPage

variable {σ : Type} {this : BufferedPage σ} {content : List UInt8}

/-- A move into another page: into one that it constructs, or into one that has no stream. -/
inductive Move (σ : Type) where
  | construct
  | assign (other : BufferedPage σ) (detached : other.videoStream = none)

/-- The page that a page was moved into. -/
def Move.apply (this : BufferedPage σ) : Move σ → BufferedPage σ
  | construct => this.moveConstruct
  | assign other _ => other.moveAssign this

/-- A page without a stream that holds the content. -/
structure Holds (content : List UInt8) (this : BufferedPage σ) (symbols : List UInt8)
    : Prop where
  videoStream : this.videoStream = none
  buffer : this.buffer = content
  gptr : this.gptr ≤ content.length
  egptr : this.egptr = content.length
  symbols : symbols = content.drop this.gptr

/-- What a page holds is in its get area. -/
theorem Holds.area {symbols : List UInt8} (h : Holds content this symbols)
    : this.area = symbols := by
  rw [BufferedPage.area, h.buffer, h.egptr, List.take_length, h.symbols]

/-- What was moved is what the buffer had. -/
theorem holds_moved (this : BufferedPage σ) (move : Move σ)
    : Holds this.buffer (move.apply this) this.buffer := by
  cases move with
  | construct => exact ⟨rfl, rfl, Nat.zero_le _, rfl, rfl⟩
  | assign other detached => exact ⟨detached, rfl, Nat.zero_le _, rfl, rfl⟩

/-- Back at the start it holds its whole content. -/
theorem Holds.seekpos {symbols : List UInt8} (h : Holds content this symbols)
    : ∃ this', (BufferedPage.seekpos 0).run this = .ok 0 this' ∧ Holds content this' content := by
  refine ⟨this.moved 0, run_setPosition ⟨Int.le_refl 0, Int.natCast_nonneg _⟩, ?_⟩
  exact ⟨h.videoStream, h.buffer, Nat.zero_le _, h.egptr, rfl⟩

variable [Source Fault UInt8 σ]

/-- Attempts that are each followed by `pubseekpos(0)`. -/
def printAll : List Attempt → Action (BufferedPage σ) (List Printout)
  | [] => return []
  | first :: attempts => do
    let printout ← first.perform
    let _ ← seekpos 0
    let printouts ← printAll attempts
    return printout :: printouts

/-- Attempts that are each preceded by `pubseekpos(0)`. -/
def reprintAll : List Attempt → Action (BufferedPage σ) (List Printout)
  | [] => return []
  | first :: attempts => do
    let _ ← seekpos 0
    let printout ← first.perform
    let printouts ← reprintAll attempts
    return printout :: printouts

/-- The run of a page: attempts that need not succeed, one more, a move, and more attempts. -/
def reprint (first : List Attempt) (last : Attempt) (move : Move σ) (later : List Attempt)
    : Action (BufferedPage σ) (List Printout × Printout × List Printout) := do
  let before ← printAll first
  let printed ← last.perform
  modify fun this => move.apply this
  let after ← reprintAll later
  return (before, printed, after)

/-- The reading members of a page without a stream give what it holds. -/
theorem holds_refills : Streambuf.Refills (Holds (σ := σ) content) where
  front := fun {this symbols} h => by
    have same : this.area = symbols := h.area
    exact same ▸ List.prefix_refl symbols
  gbump := fun {this symbols b rest} h left => by
    have left' : symbols = b :: rest := h.area.symm.trans left
    have length := congrArg List.length (h.symbols.symm.trans left')
    rw [List.length_drop, List.length_cons] at length
    refine ⟨h.videoStream, h.buffer, ?_, h.egptr, ?_⟩
    · change this.gptr + 1 ≤ content.length
      omega
    · rw [h.symbols, List.tail_drop]
      rfl
  underflow := fun {this symbols} h empty => by
    have nothing : symbols = [] := h.area.symm.trans empty
    refine ⟨this, ?_, h, ?_⟩
    · rw [nothing]
      exact run_underflow_detached empty h.videoStream
    · exact fun some => absurd nothing some

/-- Back at the start it shows its whole content. -/
theorem Shows.seekpos {symbols : List UInt8} (h : Shows content this symbols)
    : ∃ this', (BufferedPage.seekpos 0).run this = .ok 0 this' ∧ Shows content this' content := by
  have start : 0 ≤ (0 : Int) ∧ (0 : Int) ≤ this.buffer.length :=
    ⟨Int.le_refl 0, Int.natCast_nonneg _⟩
  exact ⟨this.moved 0, h.views.seekpos start, h.views.moved start, rfl⟩

/-- A page of which nothing is left to be seen has all of the content in its buffer. -/
theorem Shows.whole (h : Shows content this []) : this.buffer = content := by
  have past : content.length ≤ this.gptr := List.drop_eq_nil_iff.mp h.symbols.symm
  exact h.views.isPrefix.eq_of_length_le (past.trans h.views.gptr)

/-- Every attempt that returned true sent the content. -/
def AllSent (content : List UInt8) (printouts : List Printout) : Prop :=
  ∀ printout ∈ printouts, printout.outcome = .ok true → printout.sent = content

/-- One printout in front of the others. -/
theorem AllSent.cons {printout : Printout} {printouts : List Printout}
    (first : printout.outcome = .ok true → printout.sent = content)
    (others : AllSent content printouts)
    : AllSent content (printout :: printouts) := by
  intro other member done
  rcases List.mem_cons.mp member with rfl | member
  · exact first done
  · exact others other member done

/-- The attempts on the page with its stream, by induction on them. -/
theorem run_printAll (attempts : List Attempt) (h : Shows content this content)
    : ∃ printouts this', (printAll attempts).run this = .ok printouts this'
        ∧ Shows content this' content ∧ AllSent content printouts := by
  induction attempts generalizing this with
  | nil => exact ⟨[], this, rfl, h, fun _ member => absurd member List.not_mem_nil⟩
  | cons first attempts ih =>
      obtain ⟨printout, middle, left, performed, shows', sent⟩ :=
        first.run_perform shows_refills.isSupply.isTrickle h
      obtain ⟨begun, seek, again⟩ := shows'.seekpos
      obtain ⟨printouts, this', run, last, others⟩ := ih again
      refine ⟨printout :: printouts, this', ?_, last, .cons (fun done => (sent done).1) others⟩
      unfold printAll
      rw [run_bind_ok performed, run_bind_ok seek, run_bind_ok run]
      rfl

/-- The attempts on the page without a stream, by induction on them. -/
theorem run_reprintAll (attempts : List Attempt) {symbols : List UInt8}
    (h : Holds content this symbols)
    : ∃ printouts this', (reprintAll attempts).run this = .ok printouts this'
        ∧ AllSent content printouts := by
  induction attempts generalizing this symbols with
  | nil => exact ⟨[], this, rfl, fun _ member => absurd member List.not_mem_nil⟩
  | cons first attempts ih =>
      obtain ⟨begun, seek, again⟩ := h.seekpos
      obtain ⟨printout, middle, left, performed, holds, sent⟩ :=
        first.run_perform holds_refills.isSupply.isTrickle again
      obtain ⟨printouts, this', run, others⟩ := ih holds
      refine ⟨printout :: printouts, this', ?_, .cons (fun done => (sent done).1) others⟩
      unfold reprintAll
      rw [run_bind_ok seek, run_bind_ok performed, run_bind_ok run]
      rfl

/-- Whatever attempts are made on a page over a stream that gives the content once, and made
again after it was moved away from the stream behind an attempt that returned true: each of
those that return true sends exactly the content.
-/
theorem reprintable (page : Nat) (params : PageParams) {stream : σ}
    (source : Trickles stream content) {blockSize : Nat} (positive : 0 < blockSize)
    (first : List Attempt) (last : Attempt) (move : Move σ) (later : List Attempt)
    : ∃ before printed after this',
        (reprint first last move later).run (construct page params (some stream) blockSize)
          = .ok (before, printed, after) this'
        ∧ AllSent content before
        ∧ (printed.outcome = .ok true → AllSent content (printed :: after)) := by
  have new : Shows content (construct page params (some stream) blockSize) content :=
    ⟨construct_views page params source positive, rfl⟩
  obtain ⟨before, begun, run, again, sent⟩ := run_printAll first new
  obtain ⟨printed, ended, left, performed, shows', whole⟩ :=
    last.run_perform shows_refills.isSupply.isTrickle again
  obtain ⟨after, this', run', others⟩ := run_reprintAll later (holds_moved ended move)
  refine ⟨before, printed, after, this', ?_, sent, ?_⟩
  · unfold reprint
    rw [run_bind_ok run, run_bind_ok performed, run_modify_bind, run_bind_ok run']
    rfl
  · intro success
    obtain ⟨all, nothing⟩ := whole success
    rw [nothing] at shows'
    rw [shows'.whole] at others
    exact .cons (fun _ => all) others

/-- An attempt on a printer that is always ready. -/
def readyAttempt (stopToken : StopToken) (blockSize : Nat) (positive : 1 ≤ blockSize)
    (fits : blockSize ≤ 65531)
    : Attempt where
  printer := {
    stream := {
      device := fun _ chunk =>
        if Unanswered chunk then [] else PacketHeader.frame 0xE0A0 [0]
    }
  }
  stopToken := stopToken
  fuel := 9
  params := noParams
  blockSize := blockSize
  quiet := by
    refine ⟨rfl, rfl, rfl, serves_of_exchange ?_⟩
    intro log chunk
    constructor
    · exact fun unanswered => if_pos unanswered
    · exact fun answered => ⟨0xE0A0, [0], by decide, if_neg answered⟩
  positive := positive
  fits := fits

/-- Whether a run printed the page before it was moved. -/
def hasPrinted {τ : Type} : EStateM.Result Fault τ (List Printout × Printout × List Printout) → Bool
  | .ok (_, ⟨.ok value, _⟩, _) _ => value
  | _ => false

/-- Three bytes: an attempt stopped behind the first block, one to the end, a move, and one
more in other blocks.
-/
theorem reprintable_threeBytes
    : ∃ before printed after this',
        (reprint [readyAttempt ⟨some 2⟩ 2 (by decide) (by decide)]
            (readyAttempt {} 2 (by decide) (by decide)) .construct
            [readyAttempt {} 1 (by decide) (by decide)]).run
              (construct 1 noParams (some (⟨[1, 2, 3]⟩ : MemoryStreambuf)) 2)
          = .ok (before, printed, after) this'
        ∧ printed.outcome = .ok true ∧ AllSent [1, 2, 3] (printed :: after) := by
  have evaluated : hasPrinted ((reprint [readyAttempt ⟨some 2⟩ 2 (by decide) (by decide)]
      (readyAttempt {} 2 (by decide) (by decide)) .construct
      [readyAttempt {} 1 (by decide) (by decide)]).run
        (construct 1 noParams (some (⟨[1, 2, 3]⟩ : MemoryStreambuf)) 2)) = true := by
    decide +kernel
  obtain ⟨before, ⟨outcome, sent⟩, after, this', run, _, all⟩ :=
    reprintable 1 noParams (MemoryStreambuf.supplies [1, 2, 3]).trickles
      (show 0 < 2 by decide) [readyAttempt ⟨some 2⟩ 2 (by decide) (by decide)]
      (readyAttempt {} 2 (by decide) (by decide)) .construct
      [readyAttempt {} 1 (by decide) (by decide)]
  rw [run] at evaluated
  have success : outcome = .ok true := by
    cases outcome with
    | error err => cases evaluated
    | ok value => exact congrArg Except.ok evaluated
  exact ⟨before, ⟨outcome, sent⟩, after, this', run, success, all success⟩

end Utility.BufferedPage

end Capt
