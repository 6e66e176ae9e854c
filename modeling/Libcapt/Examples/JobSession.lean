import Libcapt.Examples.JobInvariants
import Libcapt.Examples.PbmFile
import Libcapt.Printer.Obedience

/-! How the printing program begins and ends its session with the printer, and what its exit code
says.
-/

namespace Capt.PrintPbm

open Streams Call Utility Compression Protocol
open BasicCaptPrinter (Reported Confirmed Released)

variable {τ σ α : Type} {device : List Event → List UInt8 → List UInt8} {K : List Event → Prop}

-----------------------------------------------------------------------------------------
-- The beginning
-----------------------------------------------------------------------------------------

/-- The unit was reserved first, and a status said so. -/
def Opened : List Event → Prop :=
  Once (Confirmed (· = []) 0xA2A0 (commandChunk 0xA2A0) fun status => status.unitReserved)

/-- The command that reserves the unit, or a status request. -/
def Reserves : Event → Prop
  | .flushed chunk _ _ => chunk ∈ [commandChunk 0xA2A0, extendedStatusRequest]
  | .polled _ => False

/-- Nothing else is done unless the unit was reserved. -/
def Session (log : List Event) : Prop := Opened log ∨ ∀ event ∈ log, Reserves event

/-- The packets that reserve the unit. -/
theorem admits_reserves {chunk : List UInt8}
    (kind : chunk ∈ [commandChunk 0xA2A0, extendedStatusRequest])
    : Admits (fun log => ∀ event ∈ log, Reserves event) chunk := by
  intro log answer all event member
  rcases List.mem_append.mp member with before | now
  · exact all event before
  · rw [List.mem_singleton.mp now]
    exact kind

/-- The program begins with the reservation, or does no more than try it. -/
theorem session_reserveUnit
    : Triple (BasicCaptPrinter.Tells device (· = [])) BasicCaptPrinter.reserveUnit
        (fun _ => BasicCaptPrinter.Tells device Opened)
        (BasicCaptPrinter.Tells device fun log => ∀ event ∈ log, Reserves event) := by
  have tried := (BasicCaptPrinter.keeps_reserveUnit (I := BasicCaptPrinter.Tells device
    fun log => ∀ event ∈ log, Reserves event)
    (BasicCaptPrinter.keeps_getStatus (admits_reserves (by simp)))
    (BasicCaptPrinter.keeps_command (by decide) (admits_reserves (by simp)))).triple
  apply (BasicCaptPrinter.returns_reserveUnit.and tried).weaken
  · exact fun _ tells => ⟨tells, tells.mono fun _ nothing => nothing ▸ nofun⟩
  · exact fun _ _ holds => holds.1.mono fun _ => once_now
  · exact fun _ holds => holds.2

-----------------------------------------------------------------------------------------
-- Giving up
-----------------------------------------------------------------------------------------

/-- The last answer is a status that reports an error of the video data. -/
abbrev Broken (K : List Event → Prop) : List Event → Prop :=
  Then K extendedStatusRequest (Reported fun status => status.videoDataError)

/-- The log has the property, and where the result is `false` the program gives up. -/
def Result (device : List Event → List UInt8 → List UInt8) (K : List Event → Prop)
    (whole : Bool) (this : Call τ)
    : Prop :=
  this.printer.Tells device (if whole then K else Broken K)

section Growing

variable (grows : ∀ log event, K log → K (log ++ [event]))

include grows

/-- A poll sends nothing. -/
theorem growing_polled
    : Maintains (fun this : Call τ => this.printer.Tells device K) stopRequested := by
  apply Triple.maintains
  apply triple_stopRequested
  · exact fun this tells _ => tells_polled tells (grows _ _)
  · exact fun this tells _ => tells_polled tells (grows _ _)

/-- The caller is asked, and then the program goes on in one way or the other. -/
theorem growing_asked {yes no : Action (Call τ) α} {Q : α → Call τ → Prop}
    (hy : Triple (fun this : Call τ => this.printer.Tells device K) yes Q
      fun this => this.printer.Tells device K)
    (hn : Triple (fun this : Call τ => this.printer.Tells device K) no Q
      fun this => this.printer.Tells device K)
    : Triple (fun this : Call τ => this.printer.Tells device K)
        (do
          if ← stopRequested then yes
          else no)
        Q (fun this => this.printer.Tells device K) :=
  (growing_polled grows).triple.bind fun _ => .ite (fun _ => hy) (fun _ => hn)

/-- What is waited for is the last answer. -/
theorem tells_waitStatus (func : ExtendedStatus → Bool) (fuel : Nat)
    : Triple (fun this : Call τ => this.printer.Tells device K) (waitStatus func fuel)
        (fun status this => this.printer.Tells device (match status with
          | none => K
          | some status => Then K extendedStatusRequest fun answer =>
              answeredExtendedStatus answer = some status))
        (fun this => this.printer.Tells device K) := by
  induction fuel with
  | zero => exact .throw fun _ => id
  | succ fuel ih =>
      apply growing_asked grows
      · exact .pure fun _ => id
      · have asks : Triple (fun this : Call τ => this.printer.Tells device K)
            (onPrinter BasicCaptPrinter.getStatus)
            (fun status this => this.printer.Tells device (Then K extendedStatusRequest
              fun answer => answeredExtendedStatus answer = some status))
            (fun this => this.printer.Tells device K) := by
          apply Triple.zoom
          intro this tells
          apply BasicCaptPrinter.tells_getStatus.weaken
          · rintro _ rfl
            exact tells
          · exact fun _ _ => id
          · exact fun _ thrown => thrown.mono (Admits.of_then fun _ _ => grows _ _)
        refine asks.bind fun status => .ite (fun _ => .pure fun _ => id) fun _ => ?_
        exact ih.from fun _ tells => tells.mono (Admits.of_then fun _ _ => grows _ _)

section Writing

variable [Source Fault UInt8 σ]

/-- The loop of `writePage` gives up where the last status reports an error of the video data, by
induction on its turns.
-/
theorem result_writePage (fuel turns : Nat) (reprint : ReprintStatus)
    : Triple (fun this : Call (Pages σ) => this.printer.Tells device K)
        (writePage fuel turns reprint) (Result device K)
        (fun this => this.printer.Tells device K) := by
  have whole : Throughout (fun _ _ => True) (fun printer _ => printer.Tells device K)
      (fun printer _ => printer.Tells device K) fun _ printer _ => printer.Tells device K :=
    growing_throughout grows
  have kept : ∀ (accepted : List UInt8 → Prop) log,
      Then K extendedStatusRequest accepted log → K log :=
    fun _ => Admits.of_then fun _ _ => grows _ _
  induction turns generalizing reprint with
  | zero => exact .throw fun _ => id
  | succ turns ih =>
      apply growing_asked grows
      · exact .pure fun _ => id
      · apply Triple.get
        intro this tells
        have seek : Maintains (fun this : Call (Pages σ) => this.printer.Tells device K)
            (onChosen (this.videoStream.takesPrev reprint) (onVideo (BufferedPage.seekpos 0))) :=
          .zoom fun _ kept => kept
        have write : Maintains (fun this : Call (Pages σ) => this.printer.Tells device K)
            (onChosen (this.videoStream.takesPrev reprint) (withoutToken (writeVideoData fuel
              (this.videoStream.chosen (this.videoStream.takesPrev reprint)).params 0))) := by
          refine .zoom fun _ kept => ?_
          exact (whole.write fuel 0 _ trivial).maintains _ kept
        have begun : ∀ whole, whole = this → whole.printer.Tells device K := by
          rintro _ rfl
          exact tells
        refine (seek.triple.from begun).bind fun _ => ?_
        refine (whole.steady.prepareBeforePrint fuel _ fuel).triple.bind fun _ => ?_
        apply growing_asked grows
        · exact .pure fun _ => id
        · refine write.triple.bind fun written => ?_
          refine .ite (fun _ => .ite (fun _ => ih _) (fun _ => .pure fun _ => id)) fun _ => ?_
          refine (tells_waitStatus grows _ fuel).bind fun status => ?_
          cases status with
          | none => exact .pure fun _ => id
          | some status =>
              refine .ite (fun error => .pure fun this tells => ?_) fun _ => ?_
              · exact BasicCaptPrinter.tells_reported error this.printer tells
              · exact (ih _).from fun _ tells => tells.mono (kept _)

/-- The result of sending one page. -/
theorem result_writeOnly (fuel : Nat)
    : Triple (fun this : Call (BufferedPage σ) => this.printer.Tells device K)
        (writeOnly fuel) (Result device K) (fun this => this.printer.Tells device K) := by
  apply Triple.zoom
  intro this tells
  apply (result_writePage grows fuel fuel .none).weaken
  · rintro _ rfl
    exact tells
  · exact fun _ _ => id
  · exact fun _ => id

/-- So does the loop of `waitLastPage`. -/
theorem result_waitLastPage (fuel turns : Nat)
    : Triple (fun this : Call (BufferedPage σ) => this.printer.Tells device K)
        (waitLastPage fuel turns) (Result device K)
        (fun this => this.printer.Tells device K) := by
  have kept : ∀ (accepted : List UInt8 → Prop) log,
      Then K extendedStatusRequest accepted log → K log :=
    fun _ => Admits.of_then fun _ _ => grows _ _
  induction turns with
  | zero => exact .throw fun _ => id
  | succ turns ih =>
      apply growing_asked grows
      · exact .pure fun _ => id
      · refine (tells_waitStatus grows _ fuel).bind fun status => ?_
        cases status with
        | none => exact .pure fun _ => id
        | some status =>
            refine .ite (fun error => .pure fun this tells => ?_) fun _ => ?_
            · exact BasicCaptPrinter.tells_reported error this.printer tells
            · refine .ite (fun _ => .pure fun _ tells => tells.mono (kept _)) fun _ => ?_
              refine ((result_writeOnly grows fuel).from fun _ tells => tells.mono (kept _)).bind
                fun written => ?_
              cases written with
              | true => exact ih
              | false => exact .pure fun _ => id

end Writing

/-- The result of sending the current page, with the last one again where it is needed. -/
theorem result_writeCurrPage (fuel page : Nat) (params : PageParams) (prevPage : PbmPage)
    : Triple (fun this : Call IStream => this.printer.Tells device K)
        (writeCurrPage fuel page params prevPage) (fun result => Result device K result.1)
        (fun this => this.printer.Tells device K) := by
  apply Triple.zoom
  intro this tells
  refine ((result_writePage grows fuel fuel .none).weaken ?_ (fun _ _ => id) fun _ => id).bind
    fun written => Triple.get fun inner result => .pure ?_
  · rintro _ rfl
    exact tells
  · rintro _ rfl
    exact result

/-- The loop over the pages gives up where a page was not written. -/
theorem result_pageLoop (fuel turns page : Nat) (prevPage : PbmPage)
    : Triple (fun this : Call IStream => this.printer.Tells device K)
        (pageLoop fuel turns page prevPage) (fun result => Result device K result.isSome)
        (fun this => this.printer.Tells device K) := by
  induction turns generalizing page prevPage with
  | zero => exact .throw fun _ => id
  | succ turns ih =>
      apply growing_asked grows
      · exact .pure fun _ => id
      · have header : Maintains (fun this : Call IStream => this.printer.Tells device K)
            (onVideo PbmPageProvider.readHeader) :=
          .zoom fun _ kept => kept
        refine header.triple.bind fun params => ?_
        cases params with
        | none => exact .pure fun _ => id
        | some params =>
            refine (result_writeCurrPage grows fuel page params prevPage).bind fun result => ?_
            obtain ⟨written, currPage⟩ := result
            cases written with
            | true => exact ih _ _
            | false => exact .pure fun _ => id

/-- The result of waiting for the last page. -/
theorem result_lastPageEnded (fuel page : Nat) (prevPage : PbmPage)
    : Triple (fun this : Call IStream => this.printer.Tells device K)
        (lastPageEnded fuel page prevPage) (Result device K)
        (fun this => this.printer.Tells device K) := by
  refine .ite (fun _ => .pure fun _ => id) fun _ => ?_
  apply Triple.zoom
  intro this tells
  apply (result_waitLastPage grows fuel fuel).weaken
  · rintro _ rfl
    exact tells
  · exact fun _ _ => id
  · exact fun _ => id

end Growing

-----------------------------------------------------------------------------------------
-- The program
-----------------------------------------------------------------------------------------

/-- The printer was put offline, and a status said so. -/
def Offline : List Event → Prop :=
  Confirmed Opened 0xE0A6 (commandChunk 0xE0A6) fun status => ¬ status.online

/-- Behind it the unit is not reserved, as a status said at once or once it was released. -/
def Closed : List Event → Prop := Released Offline

/-- What the exit code says about the session. -/
def Exit (code : Nat) (log : List Event) : Prop :=
  code = 0 ∧ Closed log ∨ code = 1 ∧ Broken Opened log

/-- What ends the session leaves the printer offline and the unit free. -/
theorem closes_session
    : Triple (fun this : Call IStream => this.printer.Tells device Opened)
        (do
          onPrinter BasicCaptPrinter.goOffline
          onPrinter BasicCaptPrinter.releaseUnit
          return 0)
        (fun code this => this.printer.Tells device Opened ∧ this.printer.Tells device (Exit code))
        (fun this => this.printer.Tells device Opened) := by
  have admits : ∀ chunk, Admits Opened chunk := fun _ _ _ => once_grows _ _
  have status : Maintains (BasicCaptPrinter.Tells device Opened) BasicCaptPrinter.getStatus :=
    BasicCaptPrinter.keeps_getStatus (admits _)
  have command : ∀ {opcode : UInt16}, Answered opcode →
      Maintains (BasicCaptPrinter.Tells device Opened)
        (BasicCaptPrinter.onStream (execCmd opcode)) :=
    fun answered => BasicCaptPrinter.keeps_command answered (admits _)
  have both : ∀ (J : List Event → Prop) {L : List Event → Prop}
      {action : Action BasicCaptPrinter Unit},
      Triple (BasicCaptPrinter.Tells device J) action (fun _ => BasicCaptPrinter.Tells device L)
        (fun _ => True) →
      Maintains (BasicCaptPrinter.Tells device Opened) action →
      Triple
        (fun this : Call IStream => this.printer.Tells device Opened ∧ this.printer.Tells device J)
        (onPrinter action)
        (fun _ this => this.printer.Tells device Opened ∧ this.printer.Tells device L)
        (fun this => this.printer.Tells device Opened) := by
    intro J L action returns keeps
    apply Triple.zoom
    intro this tells
    apply (keeps.triple.and returns).weaken
    · rintro _ rfl
      exact tells
    · exact fun _ _ => id
    · exact fun _ thrown => thrown.1
  have offline := both Opened BasicCaptPrinter.returns_goOffline
    (BasicCaptPrinter.keeps_goOffline status (command (by decide)))
  have release := both Offline BasicCaptPrinter.returns_releaseUnit
    (BasicCaptPrinter.keeps_releaseUnit status (command (by decide)))
  refine (offline.from fun _ tells => ⟨tells, tells⟩).bind fun _ => ?_
  refine release.bind fun _ => .pure fun this tells => ⟨tells.1, ?_⟩
  exact tells.2.mono fun _ closed => .inl ⟨rfl, closed⟩

/-- The whole program, from the reservation to the release. -/
theorem session_main (fuel : Nat)
    : Triple (fun this : Call IStream => this.printer.Tells device (· = [])) (main fuel)
        (fun code this => this.printer.Tells device Opened ∧ this.printer.Tells device (Exit code))
        (fun this => this.printer.Tells device Session) := by
  have opened : ∀ this : Call IStream, this.printer.Tells device Opened →
      this.printer.Tells device Session :=
    fun _ tells => tells.mono fun _ => .inl
  have gone : ∀ this : Call IStream, this.printer.Tells device (Broken Opened) →
      this.printer.Tells device Opened ∧ this.printer.Tells device (Exit 1) :=
    fun _ tells => ⟨tells.mono (Admits.of_then fun _ _ => once_grows _ _),
      tells.mono fun _ broken => .inr ⟨rfl, broken⟩⟩
  have whole : Throughout (fun _ _ => True) (fun printer _ => printer.Tells device Opened)
      (fun printer _ => printer.Tells device Opened)
      fun _ printer _ => printer.Tells device Opened :=
    growing_throughout once_grows
  have reserve : Triple (fun this : Call IStream => this.printer.Tells device (· = []))
      (onPrinter BasicCaptPrinter.reserveUnit) (fun _ this => this.printer.Tells device Opened)
      (fun this => this.printer.Tells device Session) := by
    apply Triple.zoom
    intro this tells
    apply session_reserveUnit.weaken
    · rintro _ rfl
      exact tells
    · exact fun _ _ => id
    · exact fun _ thrown => thrown.mono fun _ => .inr
  refine reserve.bind fun _ => Triple.weaken ?_ (fun _ => id) (fun _ _ => id) opened
  refine (whole.steady.clear none).bind fun _ => ?_
  refine (result_pageLoop once_grows fuel fuel 0 emptyPage).bind fun pages => ?_
  cases pages with
  | none => exact .pure gone
  | some pages =>
      refine (result_lastPageEnded once_grows fuel pages.1 pages.2).bind fun ended => ?_
      cases ended with
      | true => exact closes_session
      | false => exact .pure gone

/-- On a printer that gives one answer to each request the program begins with the reservation of
the unit and does nothing else unless a status says that it is reserved. Where it returns zero it
has put the printer offline and a status said so, and then one said that the unit is not reserved;
where it returns one, the last thing the printer said is that the video data has an error. There is
no other exit code.
-/
theorem main_session (fuel : Nat) {this : Call IStream} (quiet : this.printer.Paired)
    (new : this.printer.stream.log = [])
    : Session (after ((main fuel).run this)).printer.stream.log
      ∧ ∀ code this', (main fuel).run this = .ok code this' →
          Exit code this'.printer.stream.log := by
  have runs := @session_main this.printer.stream.device fuel
  have start : this.printer.Tells this.printer.stream.device (· = []) := ⟨quiet, rfl, new⟩
  constructor
  · have session : (after ((main fuel).run this)).printer.Tells this.printer.stream.device
        Session :=
      runs.after (fun _ _ holds => holds.1.mono fun _ => .inl) (fun _ => id) start
    exact session.log
  · intro code this' run
    exact ((runs this start).1 code this' run).2.log

/-- At the file of two pages. -/
theorem main_session_twoPages
    : Session (after ((main 50).run ⟨obedientPrinter 1, {}, twoPages⟩)).printer.stream.log
      ∧ ∀ code this', (main 50).run ⟨obedientPrinter 1, {}, twoPages⟩ = .ok code this' →
          Exit code this'.printer.stream.log :=
  @main_session 50 ⟨obedientPrinter 1, {}, twoPages⟩ (obedientPrinter_paired 1) rfl

end Capt.PrintPbm
