import Libcapt.Compression.StreamChange
import Libcapt.Examples.JobOrder
import Libcapt.Printer.Completion
import Mathlib.Algebra.Order.BigOperators.Group.List

/-! A printer that does what it is told prints the whole file, each page once. -/

namespace Capt.PrintPbm

open Streams Call Utility Compression
open BasicCaptPrinter (Prints Waits)

variable {τ σ α : Type} {device : List Event → List UInt8 → List UInt8} {patience n : Nat}
  {reserved online : Bool}

-----------------------------------------------------------------------------------------
-- Waiting for the printer
-----------------------------------------------------------------------------------------

/-- Where such a printer is not ready the program waits, or clears an error. -/
theorem cause_of_gives {status : ExtendedStatus}
    (given : Gives patience n reserved online status) (notReady : ¬ status.ready = true)
    : cause status = .pending ∨ cause status = .clearError := by
  obtain ⟨log, _, obeys⟩ := given
  rw [Bool.not_eq_true] at notReady
  by_cases passes : ∃ reason ∈ EngineReadyStatus.passing, status.engine &&& reason ≠ 0
  · left
    obtain ⟨reason, passing, set⟩ := passes
    simp only [EngineReadyStatus.passing, List.mem_cons, List.not_mem_nil, or_false] at passing
    unfold cause
    rcases passing with rfl | rfl | rfl | rfl | rfl | rfl | rfl <;> simp [set]
  · right
    have clears := (obeys.passing notReady).resolve_left passes
    simp only [EngineReadyStatus.passing, List.mem_cons, List.not_mem_nil, or_false, not_exists,
      not_and, not_not, forall_eq_or_imp, forall_eq] at passes
    simp [cause, passes, clears]

/-- A wait that is partly over is at the worst a whole one. -/
theorem waits_patient {this : BasicCaptPrinter}
    (waits : this.Waits device patience n reserved online)
    : this.Waits device patience patience reserved online :=
  waits.mono fun _ ordered => ⟨ordered.reserved, ordered.online, Nat.le_add_left _ _⟩

section Obeys

variable (obeys : Obeys patience device)

include obeys

/-- The loop ends once the printer is settled, by induction on its turns. -/
theorem waits_waitReadyLoop {fuel : Nat} (turns : n < fuel) {status : ExtendedStatus}
    (given : Gives patience n reserved online status)
    : Returns (Unasked (Waits device patience (n - 1) reserved online))
        (waitReadyLoop fuel status : Action (Call τ) ExtendedStatus)
        (fun status this => status.online = online
          ∧ Unasked (Waits device patience patience reserved online) this) := by
  induction fuel generalizing n status with
  | zero => exact absurd turns (Nat.not_lt_zero n)
  | succ fuel ih =>
      apply Returns.ite
      · intro _
        apply Returns.pure
        rintro this ⟨waits, never⟩
        exact ⟨given.told.2, waits_patient waits, never⟩
      · intro notReady
        have some : 0 < n := by
          apply Nat.pos_of_ne_zero
          rintro rfl
          exact notReady given.settled.1
        have next : Returns (Unasked (Waits device patience (n - 1) reserved online))
            (do
              let status ← onPrinter BasicCaptPrinter.getStatus
              waitReadyLoop fuel status
              : Action (Call τ) ExtendedStatus)
            (fun status this => status.online = online
              ∧ Unasked (Waits device patience patience reserved online) this) := by
          refine (asks_getStatus obeys).bind fun status => Returns.given ?_
          exact ih (show n - 1 < fuel by omega)
        apply returns_going waits_stopRequested
        rcases cause_of_gives given notReady with pending | clearError
        · rw [pending]
          exact next
        · rw [clearError]
          exact (returns_onPrinter (BasicCaptPrinter.waits_clearError obeys _)).bind fun _ => next

/-- The wait ends: its loop starts with the status that was asked for first. -/
theorem waits_waitReady {fuel : Nat} (turns : n < fuel)
    : Returns (Unasked (Waits device patience n reserved online))
        (waitReady fuel : Action (Call τ) ExtendedStatus)
        (fun status this => status.online = online
          ∧ Unasked (Waits device patience patience reserved online) this) := by
  refine (asks_getStatus obeys).bind fun status => Returns.given fun given => Returns.ite ?_ ?_
  · intro _
    apply Returns.pure
    exact fun this unasked => ⟨given.told.2, waits_patient unasked.printer, unasked.never⟩
  · exact fun _ => waits_waitReadyLoop obeys turns given

/-- The printer is online in the end. -/
theorem waits_prepareBeforePrint {fuel turns : Nat} (patient : patience < fuel)
    (some : 0 < turns) (page : Nat)
    : Returns (Unasked (Waits device patience patience reserved online))
        (prepareBeforePrint fuel page turns : Action (Call τ) Unit)
        (fun _ => Unasked (Waits device patience patience reserved true)) := by
  obtain ⟨turns, rfl⟩ := Nat.exists_eq_succ_of_ne_zero (Nat.ne_of_gt some)
  refine (waits_waitReady obeys patient).bind fun status => Returns.given fun told => ?_
  apply returns_going waits_stopRequested
  apply Returns.ite
  · intro _
    refine (returns_onPrinter (BasicCaptPrinter.waits_goOnline obeys page)).bind fun isOnline => ?_
    rintro this ⟨⟨rfl, waits⟩, never⟩
    exact ⟨(), this, rfl, waits_patient waits, never⟩
  · intro already
    apply Returns.pure
    intro this unasked
    have isOnline : online = true := by
      rw [← told]
      simpa using (not_or.mp already).1
    rwa [isOnline] at unasked

end Obeys

-----------------------------------------------------------------------------------------
-- Writing a page
-----------------------------------------------------------------------------------------

/-- The printer is reserved and nobody asks to stop, the pages have been printed, and the video is
as it should be.
-/
def Serving (device : List Event → List UInt8 → List UInt8) (patience : Nat)
    (pages : List Sheet) (G : τ → Prop) (this : Call τ)
    : Prop :=
  (∃ online, Unasked (Waits device patience patience true online) this)
    ∧ Done device (fun printed => printed = pages) G this

variable {pages : List Sheet} {G : τ → Prop}

/-- Nobody asks for a stop. -/
theorem serving_asked
    : Returns (Serving device patience pages G) stopRequested
        (fun stop this => stop = false ∧ Serving device patience pages G this) := by
  have asks : Returns
      (fun this : Call τ => ∃ online, Unasked (Waits device patience patience true online) this)
      stopRequested
      (fun stop this => stop = false
        ∧ ∃ online, Unasked (Waits device patience patience true online) this) :=
    .of_exists fun online =>
      waits_stopRequested.returning fun _ _ holds => ⟨holds.1, online, holds.2⟩
  exact (asks.and done_asked).returning fun _ _ holds => ⟨holds.1.1, holds.1.2, holds.2.1⟩

/-- The preparation of a page returns. -/
theorem serving_prepareBeforePrint (obeys : Obeys patience device) {fuel : Nat}
    (patient : patience < fuel) (page : Nat)
    : Returns (Serving device patience pages G) (prepareBeforePrint fuel page fuel)
        (fun _ => Serving device patience pages G) := by
  have prepares : Returns
      (fun this : Call τ => ∃ online, Unasked (Waits device patience patience true online) this)
      (prepareBeforePrint fuel page fuel)
      (fun _ this => ∃ online, Unasked (Waits device patience patience true online) this) :=
    .of_exists fun online => (waits_prepareBeforePrint obeys patient
      (Nat.zero_lt_of_lt patient) page).returning fun _ _ unasked => ⟨true, unasked⟩
  exact prepares.and (done_steady.prepareBeforePrint fuel page fuel).triple

section Writing

variable [Source Fault UInt8 σ] {V : BufferedPage σ → List UInt8 → Prop} {params : PageParams}
  {video : List UInt8} (current : Replays V params video)

include current

/-- The page is set to its begin. -/
theorem serving_seek
    : Returns
        (Serving device patience pages fun this : Pages σ => ∃ symbols, V this.page symbols)
        (onChosen false (onVideo (BufferedPage.seekpos 0)))
        (fun _ => Serving device patience pages fun this => V this.page video) := by
  rintro this ⟨⟨online, waits, never⟩, prints, symbols, shows⟩
  obtain ⟨page, seek, begun⟩ := current.begins shows
  refine ⟨0, _, run_zoom_ok (run_zoom_ok seek), ⟨online, waits, never⟩, prints, begun⟩

/-- The page is sent to its end. -/
theorem serving_write (obeys : Obeys patience device) {fuel : Nat} (patient : patience < fuel)
    (enough : video.length < fuel)
    : Returns (Serving device patience pages fun this : Pages σ => V this.page video)
        (onChosen false (withoutToken (writeVideoData fuel params 0)))
        (fun whole this => whole = true
          ∧ Serving device patience (pages ++ [sheetOf params video])
              (fun this => V this.page [] ∧ Ended V this.page) this) := by
  apply Returns.zoom
  rintro this ⟨⟨online, waits, never⟩, ⟨printed, same, prints⟩, begun⟩
  rw [same] at prints
  apply Returns.zoom
  rintro _ rfl
  have writes : Returns
      (fun inner : Call (BufferedPage σ) =>
        (Unasked (Waits device patience patience true online) inner
          ∧ inner.printer.Learned ∧ V inner.videoStream video)
        ∧ Unasked (Prints device pages) inner ∧ V inner.videoStream video)
      (writeVideoData fuel params 0)
      (fun whole inner =>
        (whole = true ∧ Unasked (Waits device patience patience true online) inner)
        ∧ inner.printer.Prints device
            (if whole then pages ++ [sheetOf params video] else pages)
        ∧ ∃ left, V inner.videoStream left
            ∧ (whole = true → left = [] ∧ Ended V inner.videoStream)) :=
    (waits_writeVideoData obeys current.trickle patient params enough).and
      (prints_writeVideoData current.trickle obeys.announces fuel params)
  apply writes.weaken
  · rintro _ rfl
    exact ⟨⟨⟨waits, rfl⟩, prints.learned, begun⟩, ⟨prints, rfl⟩, begun⟩
  · rintro whole inner ⟨⟨rfl, waits'⟩, prints', left, shows, drained⟩
    obtain ⟨rfl, ended⟩ := drained rfl
    exact ⟨rfl, ⟨online, waits'.printer, never⟩, ⟨_, rfl, prints'⟩, shows, ended⟩

/-- The loop of `writePage` takes one turn. -/
theorem serving_writePage (obeys : Obeys patience device) {fuel turns : Nat}
    (patient : patience < fuel) (enough : video.length < fuel) (some : 0 < turns)
    : Returns
        (Serving device patience pages fun this : Pages σ => ∃ symbols, V this.page symbols)
        (writePage fuel turns .none)
        (fun written this => written = true
          ∧ Serving device patience (pages ++ [sheetOf params video])
              (fun this => V this.page [] ∧ Ended V this.page) this) := by
  obtain ⟨turns, rfl⟩ := Nat.exists_eq_succ_of_ne_zero (Nat.ne_of_gt some)
  apply returns_going serving_asked
  refine Returns.get fun this serving => ?_
  have takes : this.videoStream.takesPrev .none = false := Bool.and_false _
  obtain ⟨symbols, shows⟩ := serving.2.2
  dsimp only
  rw [takes, show (this.videoStream.chosen false).params = params from current.params shows]
  have seeks : Returns (fun inner => inner = this)
      (onChosen false (onVideo (BufferedPage.seekpos 0)))
      (fun _ => Serving device patience pages fun this => V this.page video) := by
    apply (serving_seek current).from
    rintro _ rfl
    exact serving
  refine seeks.bind fun _ => (serving_prepareBeforePrint obeys patient _).bind fun _ => ?_
  apply returns_going serving_asked
  refine (serving_write current obeys patient enough).bind fun whole => Returns.given ?_
  rintro rfl
  exact .pure fun inner served => ⟨rfl, served⟩

end Writing

-----------------------------------------------------------------------------------------
-- The pages of a file
-----------------------------------------------------------------------------------------

/-- The next header of the file is read. -/
theorem serving_readHeader {stream stream' : IStream} {params : Option PageParams}
    (header : PbmPageProvider.readHeader.run stream = .ok params stream')
    : Returns (Serving device patience pages fun pbm => pbm = stream)
        (onVideo PbmPageProvider.readHeader)
        (fun found this => found = params
          ∧ Serving device patience pages (fun pbm => pbm = stream') this) := by
  rintro this ⟨⟨online, waits, never⟩, prints, rfl⟩
  exact ⟨params, _, run_zoom_ok header, rfl, ⟨online, waits, never⟩, prints, rfl⟩

section Obeys

variable (obeys : Obeys patience device) {fuel : Nat} (patient : patience < fuel)

include obeys patient

/-- The current page is printed. -/
theorem serving_writeCurrPage {params : PageParams} (nonempty : params.imageLineSize ≠ 0)
    (stream : IStream) (enough : (pageAt params stream).sheet.data.length < fuel) (page : Nat)
    (prevPage : PbmPage)
    : Returns (Serving device patience pages fun pbm => pbm = stream)
        (writeCurrPage fuel page params prevPage)
        (fun result this => result.1 = true
          ∧ Serving device patience (pages ++ [(pageAt params stream).sheet])
              (fun pbm => pbm = behind params stream) this) := by
  have feeds : BufferedPage.Feeds
      (Compresses params.imageLineSize.toNat
        (stream.rdbuf.buffer.drop (params.imageLines.toNat * params.imageLineSize.toNat))) 4096 :=
    compresses_feeds (by decide)
  have current := current_replays feeds params
    (compress params.imageLineSize.toNat params.imageLines.toNat stream.rdbuf.buffer)
  rw [sheet_pageAt] at enough ⊢
  apply Returns.zoom
  rintro this ⟨⟨online, waits, never⟩, prints, rfl⟩
  have writes := @serving_writePage _ device patience pages _ _ _ _ current obeys _ _ patient enough
    (Nat.zero_lt_of_lt patient)
  refine (writes.from ?_).bind fun written => ?_
  · rintro _ rfl
    exact ⟨⟨online, waits, never⟩, prints, _, current_pageOf nonempty page this.videoStream⟩
  · apply Returns.given
    rintro rfl
    refine Returns.get fun inner served => Returns.pure ?_
    rintro _ rfl
    obtain ⟨⟨online, waits, never⟩, prints, shows, ended⟩ := served
    refine ⟨rfl, ⟨online, waits, never⟩, prints, ?_⟩
    rw [rdbufOf_ended ended]
    rfl

/-- The loop over the pages, by induction on them. -/
theorem serving_pageLoop {stream : IStream} {filePages : List FilePage}
    (paged : Paged stream filePages)
    (enough : ∀ filePage ∈ filePages, filePage.sheet.data.length < fuel) {turns : Nat}
    (some : filePages.length < turns) (page : Nat) (prevPage : PbmPage)
    : Returns (Serving device patience pages fun pbm => pbm = stream)
        (pageLoop fuel turns page prevPage)
        (fun result this => result.isSome = true
          ∧ Serving device patience (pages ++ filePages.map FilePage.sheet) (fun _ => True)
              this) := by
  obtain ⟨turns, rfl⟩ := Nat.exists_eq_succ_of_ne_zero (Nat.ne_of_gt (Nat.zero_lt_of_lt some))
  apply returns_going serving_asked
  induction paged generalizing pages turns page prevPage with
  | ended ended =>
      refine (serving_readHeader ended).bind fun params => Returns.given ?_
      rintro rfl
      apply Returns.pure
      rintro this ⟨waits, prints, _⟩
      rw [List.map_nil, List.append_nil]
      exact ⟨rfl, waits, prints, trivial⟩
  | @page _ stream' params others header nonempty _ ih =>
      refine (serving_readHeader header).bind fun params => Returns.given ?_
      rintro rfl
      refine (serving_writeCurrPage obeys patient nonempty _ (enough _ List.mem_cons_self) page
        prevPage).bind fun result => Returns.given fun written => ?_
      obtain ⟨_, currPage⟩ := result
      cases written
      have sheets : pages ++ (pageAt params stream' :: others).map FilePage.sheet
          = (pages ++ [(pageAt params stream').sheet]) ++ others.map FilePage.sheet := by
        rw [List.map_cons, List.append_assoc]
        rfl
      rw [sheets]
      obtain ⟨turns, rfl⟩ := Nat.exists_eq_succ_of_ne_zero
        (Nat.ne_of_gt (Nat.zero_lt_of_lt (Nat.lt_of_succ_lt_succ some)))
      apply returns_going serving_asked
      apply ih
      · exact fun filePage member => enough filePage (List.mem_cons_of_mem _ member)
      · exact Nat.lt_of_succ_lt_succ some

/-- The last page is not printed again. -/
theorem serving_waitLastPage [Source Fault UInt8 σ] {G : BufferedPage σ → Prop} {turns : Nat}
    (some : 0 < turns)
    : Returns (Serving device patience pages G) (waitLastPage fuel turns)
        (fun ended this => ended = true ∧ Serving device patience pages G this) := by
  obtain ⟨turns, rfl⟩ := Nat.exists_eq_succ_of_ne_zero (Nat.ne_of_gt some)
  apply returns_going serving_asked
  have waits : Returns
      (fun this : Call (BufferedPage σ) =>
        ∃ online, Unasked (Waits device patience patience true online) this)
      (waitPrintEnd fuel)
      (fun result this => (∃ status, result = Option.some status
          ∧ status.videoDataError = false ∧ status.getReprintStatus = .none)
        ∧ ∃ online, Unasked (Waits device patience patience true online) this) := by
    apply Returns.of_exists
    intro online
    apply (waits_waitStatus obeys _ patient).returning
    · rintro result this ⟨m, status, rfl, given, _, unasked⟩
      exact ⟨⟨status, rfl, given.accepted⟩, online, waits_patient unasked.printer, unasked.never⟩
    · intro status given
      rw [given.settled.2]
      rfl
  have kept : Triple (Done device (fun printed => printed = pages) G) (waitPrintEnd fuel)
      (fun _ => Done device (fun printed => printed = pages) G)
      (Done device (fun printed => printed = pages) G) :=
    (done_steady.waitPrintEnd fuel).triple
  have ends : Returns (Serving device patience pages G) (waitPrintEnd fuel)
      (fun result this => (∃ status, result = Option.some status
          ∧ status.videoDataError = false ∧ status.getReprintStatus = .none)
        ∧ Serving device patience pages G this) :=
    (waits.and kept).returning fun _ _ holds => ⟨holds.1.1, holds.1.2, holds.2⟩
  refine ends.bind fun result => Returns.given ?_
  rintro ⟨status, rfl, accepted, printed⟩
  dsimp only
  rw [accepted, printed]
  exact .pure fun this serving => ⟨rfl, serving⟩

/-- The wait for the last page returns. -/
theorem serving_lastPageEnded (page : Nat) (prevPage : PbmPage)
    : Returns (Serving device patience pages fun _ => True) (lastPageEnded fuel page prevPage)
        (fun ended this => ended = true ∧ Serving device patience pages (fun _ => True) this) := by
  apply Returns.ite
  · exact fun _ => .pure fun this serving => ⟨rfl, serving⟩
  · intro _
    apply Returns.zoom
    rintro this ⟨⟨online, waits, never⟩, prints, _⟩
    have ends : Returns (Serving device patience pages fun _ : PbmPage => True)
        (waitLastPage fuel fuel)
        (fun ended inner => ended = true
          ∧ Serving device patience pages (fun _ => True) inner) :=
      serving_waitLastPage obeys patient (Nat.zero_lt_of_lt patient)
    apply ends.weaken
    · rintro _ rfl
      exact ⟨⟨online, waits, never⟩, prints, trivial⟩
    · rintro ended inner ⟨done, ⟨online, waits, never⟩, prints, _⟩
      exact ⟨done, ⟨online, waits, never⟩, prints, trivial⟩

end Obeys

-----------------------------------------------------------------------------------------
-- The program
-----------------------------------------------------------------------------------------

/-- An operation on the printer prints nothing. -/
theorem returns_done {P Q : BasicCaptPrinter → Prop} {action : Action BasicCaptPrinter Unit}
    (returns : Returns P action (fun _ => Q))
    (prints : ∀ pages, Maintains (Prints device pages) action)
    : Returns
        (fun this : Call τ => Unasked P this ∧ Done device (fun printed => printed = pages) G this)
        (onPrinter action)
        (fun _ this => Unasked Q this ∧ Done device (fun printed => printed = pages) G this) :=
  (returns_onPrinter returns).and (done_onPrinter prints).triple

section Obeys

variable (obeys : Obeys patience device)

include obeys

/-- What follows the loop over the pages. -/
theorem completes_leave {fuel : Nat} (patient : patience < fuel) (page : Nat) (prevPage : PbmPage)
    : Returns (Serving device patience pages fun _ => True) (leave fuel page prevPage)
        (fun code this => code = 0
          ∧ Unasked (fun printer => ∃ n, printer.Waits device patience n false false) this
          ∧ Done device (fun printed => printed = pages) (fun _ => True) this) := by
  refine (serving_lastPageEnded obeys patient page prevPage).bind fun ended => Returns.given ?_
  rintro rfl
  have leaves : ∀ online, Returns
      (fun this : Call IStream => Unasked (Waits device patience patience true online) this
        ∧ Done device (fun printed => printed = pages) (fun _ => True) this)
      (do
        onPrinter BasicCaptPrinter.goOffline
        onPrinter BasicCaptPrinter.releaseUnit
        return 0)
      (fun code this => code = 0
        ∧ Unasked (fun printer => ∃ n, printer.Waits device patience n false false) this
        ∧ Done device (fun printed => printed = pages) (fun _ => True) this) := by
    intro online
    refine (returns_done (BasicCaptPrinter.waits_goOffline obeys) fun _ =>
      BasicCaptPrinter.prints_goOffline).bind fun _ => ?_
    refine (returns_done (BasicCaptPrinter.waits_releaseUnit obeys) fun _ =>
      BasicCaptPrinter.prints_releaseUnit).bind fun _ => ?_
    exact .pure fun this left => ⟨rfl, left⟩
  apply (Returns.of_exists leaves).from
  rintro this ⟨⟨online, unasked⟩, done⟩
  exact ⟨online, unasked, done⟩

/-- The program returns with every page of the file printed. -/
theorem completes_main {stream : IStream} {filePages : List FilePage}
    (paged : Paged stream filePages) {fuel : Nat} (patient : patience < fuel)
    (some : filePages.length < fuel)
    (enough : ∀ filePage ∈ filePages, filePage.sheet.data.length < fuel)
    : Returns
        (fun this => Unasked (Waits device patience patience false false) this
          ∧ Done device (fun printed => printed = []) (fun pbm => pbm = stream) this)
        (main fuel)
        (fun code this => code = 0
          ∧ Unasked (fun printer => ∃ n, printer.Waits device patience n false false) this
          ∧ Done device (fun printed => printed = filePages.map FilePage.sheet) (fun _ => True)
              this) := by
  refine (returns_done (BasicCaptPrinter.waits_reserveUnit obeys) fun _ =>
    BasicCaptPrinter.prints_reserveUnit).bind fun _ => ?_
  refine (returns_done (BasicCaptPrinter.waits_clearError obeys none) fun _ =>
    BasicCaptPrinter.keeps_clearError none BasicCaptPrinter.prints_getStatus fun _ =>
      BasicCaptPrinter.prints_command).bind fun _ => ?_
  have loop : Returns
      (fun this => Unasked (Waits device patience (patience - 1) true false) this
        ∧ Done device (fun printed => printed = []) (fun pbm => pbm = stream) this)
      (pageLoop fuel fuel 0 emptyPage)
      (fun result this => result.isSome = true
        ∧ Serving device patience (filePages.map FilePage.sheet) (fun _ => True) this) := by
    have prints : Returns (Serving device patience [] fun pbm => pbm = stream)
        (pageLoop fuel fuel 0 emptyPage)
        (fun result this => result.isSome = true
          ∧ Serving device patience ([] ++ filePages.map FilePage.sheet) (fun _ => True) this) :=
      serving_pageLoop obeys patient paged enough some 0 emptyPage
    apply prints.from
    rintro this ⟨⟨waits, never⟩, done⟩
    exact ⟨⟨false, waits_patient waits, never⟩, done⟩
  refine loop.bind fun result => Returns.given fun found => ?_
  obtain ⟨last, rfl⟩ := Option.isSome_iff_exists.mp found
  exact completes_leave obeys patient last.1 last.2

end Obeys

/-- A bound on the turns of the program's loops. -/
theorem exists_enough (patience : Nat) (filePages : List FilePage)
    : ∃ enough, ∀ fuel, enough ≤ fuel →
        patience < fuel ∧ filePages.length < fuel
          ∧ ∀ filePage ∈ filePages, filePage.sheet.data.length < fuel := by
  refine ⟨patience + filePages.length
    + (filePages.map fun filePage => filePage.sheet.data.length).sum + 1, fun fuel enough =>
      ⟨by omega, by omega, fun filePage member => ?_⟩⟩
  have least : filePage.sheet.data.length
      ≤ (filePages.map fun filePage => filePage.sheet.data.length).sum :=
    List.le_sum_of_mem (List.mem_map_of_mem member)
  omega

/-- On a printer that obeys, and where nobody asks to stop, the program prints a file that it can
read to its end: every page once and with all of its lines, in their order. It leaves the printer
offline and not reserved.
-/
theorem main_completes {this : Call IStream} (obeys : Obeys patience this.printer.stream.device)
    (quiet : this.printer.Paired) (new : this.printer.stream.log = [])
    (unknown : this.printer.cachedInfo = none) (never : this.stopToken.left = none)
    {pages : List FilePage} (paged : Paged this.videoStream pages)
    : ∃ enough, ∀ fuel, enough ≤ fuel →
        ∃ this', (main fuel).run this = .ok 0 this'
          ∧ printed this'.printer.stream.log = pages.map FilePage.sheet
          ∧ (orders this'.printer.stream.log).online = false
          ∧ (orders this'.printer.stream.log).reserved = false := by
  obtain ⟨enough, bounds⟩ := exists_enough patience pages
  refine ⟨enough, fun fuel le => ?_⟩
  obtain ⟨patient, some, sizes⟩ := bounds fuel le
  have start : Unasked (Waits this.printer.stream.device patience patience false false) this
      ∧ Done this.printer.stream.device (fun printed => printed = [])
          (fun pbm => pbm = this.videoStream) this := by
    refine ⟨⟨⟨quiet, rfl, ?_⟩, never⟩, ⟨[], rfl, ⟨⟨quiet, rfl, ?_⟩, ?_⟩⟩, rfl⟩
    · rw [new]
      exact ⟨rfl, rfl, Nat.le_add_left _ _⟩
    · rw [new]
      rfl
    · intro info known
      cases unknown.symm.trans known
  obtain ⟨code, this', run, rfl, ⟨⟨n, waits⟩, _⟩, ⟨printed, rfl, prints⟩, _⟩ :=
    completes_main obeys paged patient some sizes this start
  exact ⟨this', run, prints.tells.log, waits.log.online, waits.log.reserved⟩

-----------------------------------------------------------------------------------------
-- PBM files
-----------------------------------------------------------------------------------------

/-- The sheet has the size of the image, and its data are decoded to the raster of the image. -/
structure Shows (image : PbmImage) (sheet : Sheet) : Prop where
  header : sheet.header = (Protocol.pageHeader (imagePage image).params).payload
  data
    : ∀ commandLog, ∃ final,
        Drains
          (DecoderStreambuf.construct (⟨sheet.data⟩ : MemoryStreambuf) image.lineSize commandLog)
          image.raster final
        ∧ final.stream.buffer = []

/-- A page of the file shows its image. -/
theorem shows_imagePage (image : PbmImage) : Shows image (imagePage image).sheet := by
  refine ⟨rfl, fun commandLog => ?_⟩
  have whole : compress (UInt16.ofNat image.lineSize).toNat (UInt16.ofNat image.lines).toNat
        image.raster
      = compressPage (rowsOf image.lineSize image.lines image.raster) := by
    rw [image.lineSize_toNat, image.lines_toNat]
    exact compress_whole image.rows.1 image.length_raster
  have raster : (rowsOf image.lineSize image.lines image.raster).flatten = image.raster := by
    rw [flatten_rowsOf, ← image.length_raster, List.take_length]
  have small : (rowsOf image.lineSize image.lines image.raster).flatten.length + image.lineSize
      < 2 ^ 32 := by
    have columns : image.lineSize ≤ 65535 := image.columns.2
    have area := Nat.mul_le_mul (show image.lines ≤ 65535 from image.rows.2) columns
    rw [raster, image.length_raster]
    omega
  have columns : 0 < image.lineSize := image.columns.1
  obtain ⟨final, drains, nothing⟩ := DecoderStreambuf.decodes_page MemoryStreambuf.stocks columns
    (rowsOf_sized (Nat.le_of_eq image.length_raster.symm)) small
    (show _ = compressPage (rowsOf image.lineSize image.lines image.raster) ++ [] from
      whole.trans (List.append_nil _).symm) commandLog
  rw [raster] at drains
  exact ⟨final, drains, nothing⟩

end Capt.PrintPbm
