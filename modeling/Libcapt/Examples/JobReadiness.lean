import Libcapt.Examples.JobInvariants
import Libcapt.Examples.PbmFile
import Libcapt.Printer.Obedience
import Libcapt.Printer.PageRules

/-! When a page is begun while a file is printed: where the printer was found ready, and online
for a page, or was put online for it.
-/

namespace Capt.PrintPbm

open Streams Call Utility Compression Protocol
open BasicCaptPrinter (Reported Succeeded)

variable {τ : Type} {device : List Event → List UInt8 → List UInt8} {K : List Event → Prop}
  {headers : List PageParams}

-----------------------------------------------------------------------------------------
-- What a log says about the printer
-----------------------------------------------------------------------------------------

/-- `waitReady` goes on with such a status: the printer is ready, or the program knows no
reason why it is not.
-/
def Fit (status : ExtendedStatus) : Prop := status.ready ∨ cause status = .unknown

/-- The last thing asked of the printer was its status, and the condition holds of it. -/
inductive Found (condition : ExtendedStatus → Prop) : List Event → Prop
  | reported {log : List Event} {answer : List UInt8} (given : Reported condition answer)
    : Found condition (log ++ [.flushed extendedStatusRequest [] answer])
  | polled {log : List Event} (stop : Bool) (before : Found condition log)
    : Found condition (log ++ [.polled stop])

/-- The printer is online for the page: it has just said so, or it was put online and said
that it is.
-/
inductive Prepared (page : Nat) : List Event → Prop
  | found {log : List Event}
    (status : Found (fun status => Fit status ∧ status.online ∧ status.start.toNat = page) log)
    : Prepared page log
  | online {log : List Event} {accepted answer : List UInt8} (status : Found Fit log)
    (succeeded : Succeeded 0xE0A5 accepted) (given : Reported (fun status => status.online) answer)
    : Prepared page (log ++ [.flushed (onlineChunk page) [] accepted]
        ++ [.flushed extendedStatusRequest [] answer])
  | polled {log : List Event} (stop : Bool) (before : Prepared page log)
    : Prepared page (log ++ [.polled stop])
  | informed {log : List Event} (answer : List UInt8) (before : Prepared page log)
    : Prepared page (log ++ [.flushed infoRequest [] answer])

/-- A page is begun. -/
def Begins : Event → Prop
  | .flushed chunk _ _ => chunkOpcode chunk = 0xD0A0
  | .polled _ => False

/-- The event begins a page with one of the headers, and the printer was prepared for the number
that this page has in the file.
-/
def BeginsPrepared (headers : List PageParams) (before : List Event) (event : Event) : Prop :=
  ∃ number params answer, Numbered headers number params
    ∧ event = .flushed (pageChunk params) [] answer ∧ Prepared number before

/-- Every page was begun where the printer was prepared for it. -/
def AllPrepared (headers : List PageParams) (log : List Event) : Prop :=
  ∀ before event after, log = before ++ event :: after → Begins event →
    BeginsPrepared headers before event

/-- A weaker condition on the status. -/
theorem Found.mono {condition weaker : ExtendedStatus → Prop} {log : List Event}
    (h : Found condition log) (holds : ∀ status, condition status → weaker status)
    : Found weaker log := by
  induction h with
  | reported given =>
      obtain ⟨status, answered, satisfied⟩ := given
      exact .reported ⟨status, answered, holds status satisfied⟩
  | polled stop _ ih => exact .polled stop ih

/-- One more event, which begins no page or one that is prepared. -/
theorem AllPrepared.append {log : List Event} (h : AllPrepared headers log) {event : Event}
    (last : Begins event → BeginsPrepared headers log event)
    : AllPrepared headers (log ++ [event]) := by
  intro before begun after split begins
  rcases occurs_concat split with ⟨rfl, rfl, _⟩ | ⟨rest, inside, _⟩
  · exact last begins
  · exact h before begun rest inside begins

/-- Headers that are read later change nothing about the pages begun. -/
theorem AllPrepared.later {log : List Event} (h : AllPrepared headers log) (params : PageParams)
    : AllPrepared (headers ++ [params]) log := by
  intro before event after split begins
  obtain ⟨number, header, answer, numbered, same, prepared⟩ := h before event after split begins
  exact ⟨number, header, answer, numbered.later params, same, prepared⟩

/-- A chunk that begins no page. -/
theorem admits_allPrepared {opcode : UInt16} {payload : List UInt8}
    (other : opcode.toNat ≠ 0xD0A0)
    : Admits (AllPrepared headers) (PacketHeader.frame opcode payload) := by
  intro log answer prepared
  apply prepared.append
  intro begins
  exact absurd ((chunkOpcode_frame opcode payload).symm.trans begins) other

/-- A poll of the stop token begins no page. -/
theorem polled_allPrepared (stop : Bool) (log : List Event) (prepared : AllPrepared headers log)
    : AllPrepared headers (log ++ [.polled stop]) :=
  prepared.append False.elim

-----------------------------------------------------------------------------------------
-- Preparing the printer
-----------------------------------------------------------------------------------------

/-- Every page was begun where the printer was prepared, and the printer was found in a status
with the condition.
-/
def AndFound (headers : List PageParams) (condition : ExtendedStatus → Prop) (log : List Event)
    : Prop :=
  AllPrepared headers log ∧ Found condition log

/-- The same of the printer of a call. -/
def IsFound (device : List Event → List UInt8 → List UInt8) (headers : List PageParams)
    (condition : ExtendedStatus → Prop) (this : Call τ)
    : Prop :=
  this.printer.Tells device (AndFound headers condition)

/-- All pages so far were begun where the printer was prepared. -/
def InOrder (device : List Event → List UInt8 → List UInt8) (headers : List PageParams)
    (this : Call τ)
    : Prop :=
  this.printer.Tells device (AllPrepared headers)

/-- Where a status was found everything was in order. -/
theorem IsFound.inOrder {condition : ExtendedStatus → Prop} {this : Call τ}
    (h : IsFound device headers condition this)
    : InOrder device headers this :=
  h.mono fun _ holds => holds.1

/-- A poll of the stop token leaves the status that was found. -/
theorem IsFound.polled {condition : ExtendedStatus → Prop} {this : Call τ}
    (h : IsFound device headers condition this) (stop : Bool)
    : IsFound device headers condition (this.polled stop) :=
  tells_polled h fun ⟨prepared, last⟩ =>
    ⟨polled_allPrepared stop _ prepared, .polled stop last⟩

/-- A poll of the stop token leaves everything in order. -/
theorem InOrder.polled {this : Call τ} (h : InOrder device headers this) (stop : Bool)
    : InOrder device headers (this.polled stop) :=
  tells_polled h (polled_allPrepared stop _)

/-- What the printer keeps in order is in order in a call. -/
theorem inOrder_onPrinter {α : Type} {action : Action BasicCaptPrinter α}
    (h : Maintains (BasicCaptPrinter.Tells device (AllPrepared headers)) action)
    : Maintains (InOrder device headers) (onPrinter action : Action (Call τ) α) :=
  .zoom fun this tells => h this.printer tells

/-- A status is what the printer was found in. -/
theorem found_getStatus
    : Triple (InOrder device headers) (onPrinter BasicCaptPrinter.getStatus : Action (Call τ) _)
        (fun status => IsFound device headers (fun found => found = status))
        (InOrder device headers) := by
  apply Triple.zoom
  intro this tells
  apply BasicCaptPrinter.tells_getStatus.weaken
  · rintro _ rfl
    exact tells
  · intro status printer tells
    apply tells.mono
    rintro _ ⟨before, answer, rfl, prepared, given⟩
    exact ⟨admits_allPrepared (by decide) _ _ prepared, .reported ⟨status, given, rfl⟩⟩
  · intro printer tells
    exact tells.mono (admits_allPrepared (by decide)).of_then

/-- Clearing an error begins no page. -/
theorem inOrder_clearError (status : Option ExtendedStatus)
    : Maintains (InOrder device headers)
        (onPrinter (BasicCaptPrinter.clearError status) : Action (Call τ) Unit) :=
  inOrder_onPrinter (BasicCaptPrinter.keeps_clearError status
    (BasicCaptPrinter.keeps_getStatus (admits_allPrepared (by decide)))
    fun _ answered => BasicCaptPrinter.keeps_command answered (admits_allPrepared fun same => by
      rw [Answered, same] at answered
      exact answered (by decide)))

/-- What `waitReady` returns, unless the user has asked to stop. -/
def FitOrStopped (device : List Event → List UInt8 → List UInt8) (headers : List PageParams)
    (status : ExtendedStatus) (this : Call τ)
    : Prop :=
  IsFound device headers (fun found => found = status) this
    ∧ (this.stopToken.left ≠ some 0 → Fit status)

/-- The loop of `waitReady`, by induction on its turns. -/
theorem found_waitReadyLoop (fuel : Nat) (status : ExtendedStatus)
    : Triple (IsFound device headers fun found => found = status)
        (waitReadyLoop fuel status : Action (Call τ) ExtendedStatus) (FitOrStopped device headers)
        (InOrder device headers) := by
  induction fuel generalizing status with
  | zero => exact .throw fun _ => IsFound.inOrder
  | succ fuel ih =>
      have again : Triple (InOrder device headers)
          (do
            let status ← onPrinter BasicCaptPrinter.getStatus
            waitReadyLoop fuel status)
          (FitOrStopped (τ := τ) device headers) (InOrder device headers) :=
        found_getStatus.bind ih
      apply Triple.ite
      · intro ready
        exact .pure fun this found => ⟨found, fun _ => .inl ready⟩
      · intro _
        have asked : Triple (IsFound (τ := τ) device headers fun found => found = status)
            stopRequested
            (fun stop this => IsFound device headers (fun found => found = status) this
              ∧ (stop = true → this.stopToken.left = some 0)) (InOrder device headers) := by
          apply triple_stopRequested
          · exact fun this found stopped =>
              ⟨found.polled true, fun _ => polled_stopped stopped true⟩
          · exact fun this found _ => ⟨found.polled false, nofun⟩
        refine asked.bind fun stop => Triple.ite ?_ ?_
        · intro stopped
          exact .pure fun this holds => ⟨holds.1, fun more => absurd (holds.2 stopped) more⟩
        · intro _
          cases reason : cause status with
          | pending => exact again.from fun _ holds => holds.1.inOrder
          | serviceCall => exact .throw fun _ holds => holds.1.inOrder
          | clearError =>
              refine Triple.bind ((inOrder_clearError _).triple.from ?_) fun _ => again
              exact fun _ holds => holds.1.inOrder
          | unknown => exact .pure fun this holds => ⟨holds.1, fun _ => .inr reason⟩

/-- The wait returns with a status that is fit, or because of a stop. -/
theorem found_waitReady (fuel : Nat)
    : Triple (InOrder device headers) (waitReady fuel : Action (Call τ) ExtendedStatus)
        (FitOrStopped device headers) (InOrder device headers) := by
  refine found_getStatus.bind fun status => Triple.ite ?_ ?_
  · intro ready
    exact .pure fun this found => ⟨found, fun _ => .inl ready⟩
  · exact fun _ => found_waitReadyLoop fuel status

/-- The printer is prepared for the page, unless the user has asked to stop. -/
def PreparedOrStopped (device : List Event → List UInt8 → List UInt8) (headers : List PageParams)
    (page : Nat) (this : Call τ)
    : Prop :=
  InOrder device headers this
    ∧ (this.stopToken.left ≠ some 0 →
        this.printer.Tells device fun log => AllPrepared headers log ∧ Prepared page log)

/-- The printer is put online, and says whether it is. -/
theorem prepared_goOnline (page : Nat)
    : Triple (IsFound device headers Fit)
        (onPrinter (BasicCaptPrinter.goOnline page) : Action (Call τ) Bool)
        (fun online this => InOrder device headers this
          ∧ (online = true → PreparedOrStopped device headers page this))
        (InOrder device headers) := by
  have kept : Maintains (InOrder (τ := τ) device headers)
      (onPrinter (BasicCaptPrinter.goOnline page)) :=
    inOrder_onPrinter (BasicCaptPrinter.keeps_goOnline page
      (BasicCaptPrinter.keeps_getStatus (admits_allPrepared (by decide)))
      (BasicCaptPrinter.keeps_pcrGoOnline page (admits_allPrepared (by decide))))
  have returns : Triple (IsFound (τ := τ) device headers Fit)
      (onPrinter (BasicCaptPrinter.goOnline page))
      (fun online this => online = true →
        this.printer.Tells device fun log => Prepared page log) (fun _ => True) := by
    apply Triple.zoom
    intro this found
    apply (BasicCaptPrinter.returns_goOnline page).weaken
    · rintro _ rfl
      exact found
    · intro online printer tells said
      apply tells.mono
      rintro _ ⟨_, answer, rfl, ⟨before, accepted, rfl, holds, succeeded⟩, status, given, same⟩
      exact .online holds.2 succeeded ⟨status, given, same.trans said⟩
    · exact fun _ _ => trivial
  intro this found
  obtain ⟨returned, thrown⟩ := kept.triple this found.inOrder
  constructor
  · intro online this' run
    have order := returned online this' run
    refine ⟨order, fun said => ⟨order, fun _ => ?_⟩⟩
    have prepared := (returns this found).1 online this' run said
    exact ⟨prepared.paired, prepared.device, order.log, prepared.log⟩
  · exact fun err this' run => thrown err this' run

/-- The preparation ends with the page prepared, or because of a stop. -/
theorem prepared_prepareBeforePrint (fuel page turns : Nat)
    : Triple (InOrder device headers) (prepareBeforePrint fuel page turns : Action (Call τ) Unit)
        (fun _ => PreparedOrStopped device headers page) (InOrder device headers) := by
  induction turns with
  | zero => exact .throw fun _ => id
  | succ turns ih =>
      refine (found_waitReady fuel).bind fun status => ?_
      have asked : Triple (FitOrStopped (τ := τ) device headers status) stopRequested
          (fun stop this => IsFound device headers (fun found => found = status) this
            ∧ (if stop then this.stopToken.left = some 0 else Fit status))
          (InOrder device headers) := by
        apply triple_stopRequested
        · exact fun this holds stopped => ⟨holds.1.polled true, polled_stopped stopped true⟩
        · exact fun this holds more => ⟨holds.1.polled false, holds.2 more⟩
      refine asked.bind fun stop => ?_
      cases stop with
      | true =>
          apply Triple.pure
          intro this holds
          exact ⟨holds.1.inOrder, fun more => absurd holds.2 more⟩
      | false =>
          rw [if_neg Bool.false_ne_true]
          apply Triple.ite
          · intro _
            refine Triple.bind ((prepared_goOnline page).from ?_) fun online => Triple.ite ?_ ?_
            · intro this holds
              refine holds.1.mono fun log found => ⟨found.1, found.2.mono ?_⟩
              rintro _ rfl
              exact holds.2
            · exact fun said => .pure fun this holds => holds.2 said
            · exact fun _ => ih.from fun _ holds => holds.1
          · intro already
            apply Triple.pure
            intro this holds
            refine ⟨holds.1.inOrder, fun _ => holds.1.mono fun log found => ⟨found.1, ?_⟩⟩
            refine .found (found.2.mono ?_)
            rintro _ rfl
            obtain ⟨online, start⟩ := not_or.mp already
            refine ⟨holds.2, ?_, not_not.mp start⟩
            simpa using online

-----------------------------------------------------------------------------------------
-- The program
-----------------------------------------------------------------------------------------

/-- The packets behind the begin of a page begin no other one. -/
theorem allPrepared_page : PageAdmits (AllPrepared headers) where
  started := admits_allPrepared (by decide)
  status := admits_allPrepared (by decide)
  block := fun _ => admits_allPrepared (by decide)
  ended := admits_allPrepared (by decide)
  poll := polled_allPrepared false

/-- A poll begins no page. -/
theorem inOrder_stopRequested
    : Maintains (InOrder device headers) (stopRequested : Action (Call τ) Bool) := by
  apply Triple.maintains
  apply triple_stopRequested
  · exact fun this order _ => order.polled true
  · exact fun this order _ => order.polled false

/-- Every part of the program keeps it, and a page is only begun behind its preparation. -/
theorem readiness_throughout
    : Throughout (Numbered headers) (fun printer _ => printer.Tells device (AllPrepared headers))
        (fun printer _ => printer.Tells device (AllPrepared headers))
        (fun page printer _ =>
          printer.Tells device fun log => AllPrepared headers log ∧ Prepared page log) where
  live := fun _ _ => id
  ask := fun _ => BasicCaptPrinter.keeps_getStatus (admits_allPrepared (by decide))
  asks := fun _ => BasicCaptPrinter.keeps_getStatus (admits_allPrepared (by decide))
  command := fun _ _ answered =>
    BasicCaptPrinter.keeps_command answered (admits_allPrepared fun same => by
      rw [Answered, same] at answered
      exact answered (by decide))
  leave := by
    rintro opcode _ (rfl | rfl)
    · exact BasicCaptPrinter.keeps_command (by decide) (admits_allPrepared (by decide))
    · exact BasicCaptPrinter.keeps_command (by decide) (admits_allPrepared (by decide))
  online := fun page _ => BasicCaptPrinter.keeps_goOnline page
    (BasicCaptPrinter.keeps_getStatus (admits_allPrepared (by decide)))
    (BasicCaptPrinter.keeps_pcrGoOnline page (admits_allPrepared (by decide)))
  poll := inOrder_stopRequested.triple.weaken (fun _ => id) (fun _ _ kept => ⟨kept, fun _ => kept⟩)
    (fun _ => id)
  begins := by
    intro τ fuel page _
    refine (prepared_prepareBeforePrint fuel page fuel).bind fun _ => triple_stopRequested ?_ ?_
    · exact fun this holds _ => ⟨holds.1.polled true, nofun⟩
    · intro this holds more
      refine ⟨holds.1.polled false, fun _ => ?_⟩
      exact tells_polled (holds.2 more) fun ⟨prepared, last⟩ =>
        ⟨polled_allPrepared false _ prepared, .polled false last⟩
  write := by
    intro τ _ fuel page params numbered
    apply Triple.zoom
    intro this prepared
    have informed : Admits (fun log => AllPrepared headers log ∧ Prepared page log) infoRequest :=
      fun log answer holds =>
        ⟨admits_allPrepared (by decide) log answer holds.1, .informed answer holds.2⟩
    have begins := BasicCaptPrinter.triple_onStream (@IOStream.triple_send device
      (AllPrepared headers) (fun log => AllPrepared headers log ∧ Prepared page log) 0xD0A0
      (pageHeader params).payload (by decide) fun log answer holds =>
        holds.1.append fun _ => ⟨page, params, answer, numbered, rfl, holds.2⟩)
    apply (unasked_writeVideoData (BasicCaptPrinter.keeps_getPrinterInfo informed) begins
      (fun printer tells => tells.mono fun _ holds => holds.1) allPrepared_page.keeps fuel 0).weaken
    · rintro _ rfl
      exact ⟨prepared, rfl⟩
    · exact fun _ _ unasked => unasked.printer
    · exact fun _ unasked => unasked.printer

end Capt.PrintPbm
