import Libcapt.Examples.JobInvariants
import Libcapt.Examples.PbmFile
import Libcapt.Printer.Obedience
import Libcapt.Printer.PageRules

/-! What is sent while a file is printed: every chunk while no answer is unread, and, once the
user has asked to stop, nothing but what leaves the printer.
-/

namespace Capt.PrintPbm

open Streams Call Utility Compression Protocol

variable {τ : Type}

/-- Every part of the program pairs its requests with their answers. -/
theorem paired_throughout {offered : Nat → PageParams → Prop}
    : Throughout offered (fun printer _ => printer.Paired) (fun printer _ => printer.Paired)
        (fun _ printer _ => printer.Paired) where
  live := fun _ _ => id
  ask := fun _ => BasicCaptPrinter.paired_getStatus
  asks := fun _ => BasicCaptPrinter.paired_getStatus
  command := fun _ _ answered => BasicCaptPrinter.paired_onStream (paired_execCmd answered)
  leave := by
    rintro opcode _ (rfl | rfl)
    · exact BasicCaptPrinter.paired_onStream (paired_execCmd (by decide))
    · exact BasicCaptPrinter.paired_onStream (paired_execCmd (by decide))
  online := fun page _ => BasicCaptPrinter.paired_goOnline page
  poll := paired_stopRequested.triple.weaken (fun _ => id) (fun _ _ kept => ⟨kept, fun _ => kept⟩)
    (fun _ => id)
  begins := fun fuel page steady =>
    ((steady.prepareBeforePrint fuel page fuel).bind fun _ => paired_stopRequested).triple.weaken
      (fun _ => id) (fun _ _ kept => ⟨kept, fun _ => kept⟩) (fun _ => id)
  write := fun fuel _ params _ =>
    (paired_withoutToken (paired_writeVideoData fuel params 0)).triple

/-- While a file is printed on a printer that gives one answer to each request, every chunk is
sent while no answer is unread, and none is unread in the end, whatever the file is, whatever the
answers say, wherever the user asks to stop, and whether the program returns or throws.
-/
theorem main_pairing (fuel : Nat) {this : Call IStream} (quiet : this.printer.Paired)
    : (after ((main fuel).run this)).printer.Paired := by
  have runs := throughout_main (fun _ => paired_throughout) (fun _ _ _ _ => id) fuel
    this.videoStream
  obtain ⟨_, _, _, paired⟩ := runs.after (fun _ _ => id) (fun _ => id) ⟨quiet, rfl⟩
  exact paired

/-- At the file of two pages. -/
theorem main_pairing_twoPages
    : (after ((main 50).run ⟨obedientPrinter 1, {}, twoPages⟩)).printer.Paired :=
  main_pairing 50 (obedientPrinter_paired 1)

-----------------------------------------------------------------------------------------
-- Stopping
-----------------------------------------------------------------------------------------

/-- What may follow once the user has asked to stop: status requests, the commands that put
the printer offline and release it, and the user saying so again.
-/
def Leaves : Event → Prop
  | .flushed chunk _ _ =>
    chunk ∈ [extendedStatusRequest, commandChunk 0xE0A6, commandChunk 0xE0A9]
  | .polled stop => stop

/-- The user has not asked to stop. -/
def Going (log : List Event) : Prop := .polled true ∉ log

/-- Only such events follow the first answer to stop. -/
def Leaving (log : List Event) : Prop :=
  ∀ before after, log = before ++ .polled true :: after → ∀ event ∈ after, Leaves event

/-- An event that is no positive answer to a poll. -/
theorem Going.append {log : List Event} (going : Going log) {event : Event}
    (other : event ≠ .polled true)
    : Going (log ++ [event]) := by
  intro member
  rcases List.mem_append.mp member with earlier | now
  · exact going earlier
  · exact other (List.mem_singleton.mp now).symm

/-- One more event on the way out. -/
theorem Leaving.append {log : List Event} (leaving : Leaving log) {event : Event}
    (last : Going log ∨ Leaves event)
    : Leaving (log ++ [event]) := by
  intro before after split other member
  rcases occurs_concat split with ⟨_, _, rfl⟩ | ⟨rest, inside, rfl⟩
  · cases member
  · rcases List.mem_append.mp member with earlier | now
    · exact leaving before rest inside other earlier
    · rw [List.mem_singleton.mp now]
      apply last.resolve_left
      intro going
      apply going
      rw [inside]
      exact List.mem_append_right _ List.mem_cons_self

/-- As long as nobody has asked for a stop there is nothing to leave. -/
theorem Going.leaving {log : List Event} (going : Going log) : Leaving log := by
  intro before after split
  exact absurd (by rw [split]; exact List.mem_append_right _ List.mem_cons_self) going

/-- The log is in order, and the user who has asked to stop goes on to do so. -/
def Stopping (token : StopToken) (log : List Event) : Prop :=
  Leaving log ∧ (Going log ∨ token.left = some 0)

/-- Any chunk may be sent while the program goes on. -/
theorem admits_going (chunk : List UInt8) : Admits Going chunk :=
  fun _ _ going => going.append nofun

/-- On the way out only these may be sent. -/
theorem admits_stopping (token : StopToken) {chunk : List UInt8}
    (allowed : chunk ∈ [extendedStatusRequest, commandChunk 0xE0A6, commandChunk 0xE0A9])
    : Admits (Stopping token) chunk := by
  rintro log answer ⟨leaving, going | stopped⟩
  · exact ⟨leaving.append (.inl going), .inl (going.append nofun)⟩
  · exact ⟨leaving.append (.inr allowed), .inr stopped⟩

variable {device : List Event → List UInt8 → List UInt8}

/-- A program that goes on has not been stopped. -/
theorem stopping_of_going (printer : BasicCaptPrinter) (token : StopToken)
    (tells : printer.Tells device Going)
    : printer.Tells device (Stopping token) :=
  tells.mono fun _ going => ⟨going.leaving, .inl going⟩

/-- A poll that finds a stop is where the way out begins. -/
theorem stopping_stopRequested
    : Triple (On fun printer token => printer.Tells device (Stopping token))
        (stopRequested : Action (Call τ) Bool)
        (fun stop this => On (fun printer token => printer.Tells device (Stopping token)) this
          ∧ (stop = false → On (fun printer _ => printer.Tells device Going) this))
        (On fun printer token => printer.Tells device (Stopping token)) := by
  apply triple_stopRequested
  · intro this tells stopped
    refine ⟨tells_polled tells ?_, nofun⟩
    rintro ⟨leaving, _⟩
    exact ⟨leaving.append (.inr rfl), .inr (polled_stopped stopped true)⟩
  · intro this tells more
    have still : (this.polled false).printer.Tells device Going :=
      tells_polled tells fun ⟨_, going⟩ => (going.resolve_right more).append nofun
    exact ⟨stopping_of_going _ _ still, fun _ => still⟩

/-- A page is sent to its end without a question to the user. -/
theorem going_page : PageAdmits Going where
  started := admits_going _
  status := admits_going _
  block := fun _ => admits_going _
  ended := admits_going _
  poll := fun _ going => going.append nofun

/-- Every part of the program goes on or is on the way out. -/
theorem stopping_throughout {offered : Nat → PageParams → Prop}
    : Throughout offered (fun printer token => printer.Tells device (Stopping token))
        (fun printer _ => printer.Tells device Going)
        (fun _ printer _ => printer.Tells device Going) where
  live := stopping_of_going
  ask := fun token => BasicCaptPrinter.keeps_getStatus (admits_stopping token (by simp))
  asks := fun _ => BasicCaptPrinter.keeps_getStatus (admits_going _)
  command := fun _ _ answered => BasicCaptPrinter.keeps_command answered (admits_going _)
  leave := by
    rintro opcode token (rfl | rfl)
    · exact BasicCaptPrinter.keeps_command (by decide) (admits_stopping token (by simp))
    · exact BasicCaptPrinter.keeps_command (by decide) (admits_stopping token (by simp))
  online := fun page _ => BasicCaptPrinter.keeps_goOnline page
    (BasicCaptPrinter.keeps_getStatus (admits_going _))
    (BasicCaptPrinter.keeps_pcrGoOnline page (admits_going _))
  poll := stopping_stopRequested
  begins := fun fuel page steady =>
    (steady.prepareBeforePrint fuel page fuel).triple.bind fun _ => stopping_stopRequested
  write := by
    intro τ _ fuel _ params _
    apply Triple.zoom
    intro this going
    have begins : Triple (BasicCaptPrinter.Tells device Going)
        (BasicCaptPrinter.onStream (icBeginPage params))
        (fun _ => BasicCaptPrinter.Tells device Going) (BasicCaptPrinter.Tells device Going) :=
      (BasicCaptPrinter.keeps_packet (by decide) (admits_going _)).triple
    apply (unasked_writeVideoData (BasicCaptPrinter.keeps_getPrinterInfo (admits_going _)) begins
      (fun _ => id) going_page.keeps fuel 0).weaken
    · rintro _ rfl
      exact ⟨going, rfl⟩
    · exact fun _ _ unasked => stopping_of_going _ _ unasked.printer
    · exact fun _ unasked => stopping_of_going _ _ unasked.printer

/-- Once the program has asked the user and the answer was to stop, nothing more of a page is sent
and no other command than those that leave the printer, until the program returns or throws. That
holds whatever the file is, and whatever a printer that gives one answer to each request says in
them. A request to stop that comes while a page is sent is seen behind the page.
-/
theorem main_stopping (fuel : Nat) {this : Call IStream} (quiet : this.printer.Paired)
    (going : Going this.printer.stream.log)
    : Leaving (after ((main fuel).run this)).printer.stream.log := by
  have runs := throughout_main
    (fun headers => @stopping_throughout this.printer.stream.device (Numbered headers))
    (fun _ _ _ _ => id) fuel this.videoStream
  have start : this.printer.Tells this.printer.stream.device Going := ⟨quiet, rfl, going⟩
  obtain ⟨_, _, _, kept⟩ := runs.after (fun _ _ => id) (fun _ => id) ⟨start, rfl⟩
  exact kept.log.1

/-- At the file of two pages, with a stop at the tenth poll. -/
theorem main_stopping_twoPages
    : Leaving (after ((main 50).run ⟨obedientPrinter 1, ⟨some 9⟩, twoPages⟩)).printer.stream.log :=
  main_stopping 50 (obedientPrinter_paired 1) List.not_mem_nil

end Capt.PrintPbm
