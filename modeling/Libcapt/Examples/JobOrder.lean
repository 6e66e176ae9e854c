import Libcapt.Examples.JobInvariants
import Libcapt.Examples.PageViews
import Libcapt.Examples.PbmFile
import Libcapt.Printer.Obedience

/-! What a printer has received as whole pages when a file was printed: the pages of the file in
their order, each once or more times.
-/

namespace Capt.PrintPbm

open Streams Call Utility Compression
open BasicCaptPrinter (Prints)

variable {τ σ α : Type} {device : List Event → List UInt8 → List UInt8}
  {S : List Sheet → Prop}

/-- What has been printed is one of the lists. -/
def PrintsIn (device : List Event → List UInt8 → List UInt8) (S : List Sheet → Prop)
    (this : BasicCaptPrinter)
    : Prop :=
  ∃ pages, S pages ∧ this.Prints device pages

/-- One of the lists, and the sheet behind it. -/
def Added (S : List Sheet → Prop) (sheet : Sheet) (pages : List Sheet) : Prop :=
  ∃ before, S before ∧ pages = before ++ [sheet]

/-- The user has asked to stop, and goes on to do so. -/
def Stopped (this : Call τ) : Prop :=
  this.stopToken.left = some 0 ∧ .polled true ∈ this.printer.stream.log

/-- A weaker condition on the pages. -/
theorem PrintsIn.mono {T : List Sheet → Prop} {this : BasicCaptPrinter}
    (h : PrintsIn device S this) (weaker : ∀ pages, S pages → T pages)
    : PrintsIn device T this := by
  obtain ⟨pages, inS, prints⟩ := h
  exact ⟨pages, weaker pages inS, prints⟩

/-- A poll of the stop token prints nothing. -/
theorem printsIn_polled {this : Call τ} (h : PrintsIn device S this.printer) (stop : Bool)
    : PrintsIn device S (this.polled stop).printer := by
  obtain ⟨pages, inS, tells, learned⟩ := h
  refine ⟨pages, inS, tells_polled tells fun same => ?_, learned⟩
  rw [printed_polled]
  exact same

/-- Once the token has said so, it says so again. -/
theorem stopped_polled {this : Call τ} (stopped : this.stopToken.left = some 0)
    : Stopped (this.polled true) :=
  ⟨polled_stopped stopped true, List.mem_append_right _ (List.mem_singleton.mpr rfl)⟩

-----------------------------------------------------------------------------------------
-- Between the pages
-----------------------------------------------------------------------------------------

/-- What has been printed is one of the lists, and the video is as it should be. -/
def Done (device : List Event → List UInt8 → List UInt8) (S : List Sheet → Prop)
    (G : τ → Prop) (this : Call τ)
    : Prop :=
  PrintsIn device S this.printer ∧ G this.videoStream

variable {G : τ → Prop}

/-- An operation that prints nothing keeps what was done. -/
theorem done_onPrinter {action : Action BasicCaptPrinter α}
    (h : ∀ pages, Maintains (Prints device pages) action)
    : Maintains (Done device S G) (onPrinter action : Action (Call τ) α) := by
  apply Maintains.zoom
  rintro this ⟨⟨pages, inS, prints⟩, video⟩
  exact ⟨⟨pages, inS, h pages this.printer prints⟩, video⟩

/-- A poll that finds a stop finds the program stopped. -/
theorem done_asked
    : Triple (Done device S G) stopRequested
        (fun stop this => Done device S G this ∧ (stop = true → Stopped this))
        (Done device S G) := by
  apply triple_stopRequested
  · exact fun this done stopped =>
      ⟨⟨printsIn_polled done.1 true, done.2⟩, fun _ => stopped_polled stopped⟩
  · exact fun this done _ => ⟨⟨printsIn_polled done.1 false, done.2⟩, nofun⟩

/-- Nothing is printed between the pages. -/
theorem done_steady : Steady (Done (τ := τ) device S G) (Done device S G) where
  ask := done_onPrinter fun _ => BasicCaptPrinter.prints_getStatus
  clear := fun status => (done_onPrinter fun _ => BasicCaptPrinter.keeps_clearError status
    BasicCaptPrinter.prints_getStatus fun _ => BasicCaptPrinter.prints_command).triple
  online := fun page => (done_onPrinter fun _ => BasicCaptPrinter.prints_goOnline page).triple
  poll := done_asked.weaken (fun _ => id) (fun _ _ holds => ⟨holds.1, fun _ => holds.1⟩)
    (fun _ => id)
  live := fun _ => id

/-- The wait for the end of a page is given up only where the user has asked to stop. -/
theorem done_waitStatus (func : ExtendedStatus → Bool) (fuel : Nat)
    : Triple (Done device S G) (Call.waitStatus func fuel)
        (fun status this => Done device S G this ∧ (status = none → Stopped this))
        (Done device S G) := by
  induction fuel with
  | zero => exact .throw fun _ => id
  | succ fuel ih =>
      refine done_asked.bind fun stop => Triple.ite ?_ ?_
      · intro stopped
        exact .pure fun this holds => ⟨holds.1, fun _ => holds.2 stopped⟩
      · intro _
        refine (done_steady.ask.triple.from fun _ holds => holds.1).bind fun status => ?_
        apply Triple.ite
        · exact fun _ => .pure fun this done => ⟨done, nofun⟩
        · exact fun _ => ih

-----------------------------------------------------------------------------------------
-- Writing a page
-----------------------------------------------------------------------------------------

section Writing

variable [Source Fault UInt8 σ] {V W : BufferedPage σ → List UInt8 → Prop}
  {params prevParams : PageParams} {video prevVideo : List UInt8}

/-- The pages can be read. -/
structure Readable (V W : BufferedPage σ → List UInt8 → Prop) (this : Pages σ) : Prop where
  page : ∃ symbols, V this.page symbols
  prev : ∀ page, this.prev = some page → ∃ symbols, W page symbols

/-- The page that is referred to is at its begin. -/
structure Begun (V W : BufferedPage σ → List UInt8 → Prop) (video prevVideo : List UInt8)
    (takesPrev : Bool) (this : Pages σ)
    : Prop where
  readable : Readable V W this
  chosen : (bif takesPrev then W else V) (this.chosen takesPrev)
    (bif takesPrev then prevVideo else video)

omit [Source Fault UInt8 σ] in
/-- The chosen page is readable. -/
theorem Readable.chosen {this : Pages σ} (h : Readable V W this) {takesPrev : Bool}
    (given : takesPrev = true → this.prev.isSome)
    : ∃ symbols, (bif takesPrev then W else V) (this.chosen takesPrev) symbols := by
  cases takesPrev with
  | false => exact h.page
  | true =>
      obtain ⟨page, some⟩ := Option.isSome_iff_exists.mp (given rfl)
      obtain ⟨symbols, shows⟩ := h.prev page some
      refine ⟨symbols, ?_⟩
      rw [Pages.chosen, some]
      exact shows

omit [Source Fault UInt8 σ] in
/-- The pages stay readable when the chosen one is moved. -/
theorem Readable.withChosen {this : Pages σ} (h : Readable V W this) {takesPrev : Bool}
    {page : BufferedPage σ} {symbols : List UInt8}
    (shows : (bif takesPrev then W else V) page symbols)
    : Readable V W (this.withChosen page takesPrev) := by
  cases takesPrev with
  | false => exact ⟨⟨symbols, shows⟩, h.prev⟩
  | true =>
      refine ⟨h.page, fun other same => ?_⟩
      cases same
      exact ⟨symbols, shows⟩

omit [Source Fault UInt8 σ] in
/-- The page that was put in place of the chosen one is the chosen one. -/
theorem chosen_withChosen (this : Pages σ) (page : BufferedPage σ) (takesPrev : Bool)
    : (this.withChosen page takesPrev).chosen takesPrev = page := by
  cases takesPrev <;> rfl

variable (current : Replays V params video) (previous : Replays W prevParams prevVideo)

include current previous

/-- The chosen page replays its own video. -/
theorem chosen_replays (takesPrev : Bool)
    : Replays (bif takesPrev then W else V) (bif takesPrev then prevParams else params)
        (bif takesPrev then prevVideo else video) := by
  cases takesPrev with
  | false => exact current
  | true => exact previous

/-- The page that is referred to is set to its begin. -/
theorem begun_seek (takesPrev : Bool)
    : Triple
        (Done device S fun this => Readable V W this ∧ (takesPrev = true → this.prev.isSome))
        (onChosen takesPrev (onVideo (BufferedPage.seekpos 0)))
        (fun _ => Done device S (Begun V W video prevVideo takesPrev))
        (fun this => PrintsIn device S this.printer) := by
  apply Triple.zoom
  rintro this ⟨prints, readable, given⟩
  obtain ⟨symbols, shows⟩ := readable.chosen given
  obtain ⟨page, seek, begun⟩ := (chosen_replays current previous takesPrev).begins shows
  apply Triple.zoom
  rintro _ rfl _ rfl
  constructor
  · intro pos page' run
    cases seek.symm.trans run
    refine ⟨prints, readable.withChosen begun, ?_⟩
    rw [chosen_withChosen]
    exact begun
  · intro err page' run
    cases seek.symm.trans run

/-- The page that is referred to is printed exactly where its sending returns true. -/
theorem done_write (announces : Announces device) (takesPrev : Bool) (fuel : Nat)
    : Triple (Done device S (Begun V W video prevVideo takesPrev))
        (onChosen takesPrev
          (withoutToken (writeVideoData fuel (bif takesPrev then prevParams else params) 0)))
        (fun whole this =>
          Readable V W this.videoStream
            ∧ (whole = true →
                PrintsIn device
                    (Added S (sheetOf (bif takesPrev then prevParams else params)
                      (bif takesPrev then prevVideo else video)))
                    this.printer
                  ∧ (bif takesPrev then W else V) (this.videoStream.chosen takesPrev) []
                  ∧ Ended (bif takesPrev then W else V) (this.videoStream.chosen takesPrev))
            ∧ (whole = false → PrintsIn device S this.printer))
        (fun this => PrintsIn device S this.printer) := by
  have replays := chosen_replays current previous takesPrev
  apply Triple.zoom
  rintro this ⟨⟨pages, inS, prints⟩, readable, begun⟩
  apply Triple.zoom
  rintro _ rfl
  have writes := @prints_writeVideoData _ device pages _ _ replays.trickle announces fuel
    (bif takesPrev then prevParams else params) (bif takesPrev then prevVideo else video)
  apply writes.weaken
  · rintro _ rfl
    exact ⟨⟨prints, rfl⟩, begun⟩
  · rintro whole inner ⟨printed, left, shows, drained⟩
    refine ⟨readable.withChosen shows, ?_, ?_⟩
    · rintro rfl
      obtain ⟨rfl, ended⟩ := drained rfl
      rw [chosen_withChosen]
      exact ⟨⟨_, ⟨pages, inS, rfl⟩, printed⟩, shows, ended⟩
    · rintro rfl
      exact ⟨pages, inS, printed⟩
  · exact fun inner printed => ⟨pages, inS, printed⟩

/-- How `writePage` returns: behind the page printed to its end, or without it. It gives true
without the page only where the user has asked to stop.
-/
def Wrote (device : List Event → List UInt8 → List UInt8) (S : List Sheet → Prop)
    (V W : BufferedPage σ → List UInt8 → Prop) (sheet : Sheet) (written : Bool)
    (this : Call (Pages σ))
    : Prop :=
  Readable V W this.videoStream
    ∧ ((written = true ∧ PrintsIn device (Added S sheet) this.printer
          ∧ V this.videoStream.page [] ∧ Ended V this.videoStream.page)
        ∨ (PrintsIn device S this.printer ∧ (written = true → Stopped this)))

/-- The loop of `writePage`, by induction on its turns. The previous page is printed again any
number of times before the page is.
-/
theorem writePage_prints (announces : Announces device)
    (again
      : ∀ page symbols, W page symbols → ∀ pages, S pages →
          S (pages ++ [sheetOf prevParams prevVideo]))
    (fuel turns : Nat) (reprint : ReprintStatus)
    : Triple (Done device S (Readable V W)) (writePage fuel turns reprint)
        (Wrote device S V W (sheetOf params video))
        (fun this => PrintsIn device S this.printer) := by
  induction turns generalizing reprint with
  | zero => exact .throw fun _ done => done.1
  | succ turns ih =>
      have prints : ∀ {G : Pages σ → Prop} (this : Call (Pages σ)), Done device S G this →
          PrintsIn device S this.printer :=
        fun _ done => done.1
      refine (done_asked.weaken (fun _ => id) (fun _ _ => id) prints).bind fun stop =>
        Triple.ite ?_ ?_
      · intro stopped
        exact .pure fun this holds =>
          ⟨holds.1.2, .inr ⟨holds.1.1, fun _ => holds.2 stopped⟩⟩
      · intro _
        refine Triple.get fun this holds => ?_
        have given : this.videoStream.takesPrev reprint = true → this.videoStream.prev.isSome :=
          fun takes => (Bool.and_eq_true_iff.mp takes).1
        obtain ⟨symbols, shows⟩ := holds.1.2.chosen given
        have same := (chosen_replays current previous _).params shows
        generalize this.videoStream.takesPrev reprint = takesPrev at given same ⊢
        dsimp only
        rw [same]
        refine ((begun_seek current previous takesPrev).from ?_).bind fun _ => ?_
        · rintro _ rfl
          exact ⟨holds.1.1, holds.1.2, given⟩
        refine ((done_steady.prepareBeforePrint _ _ _).triple.weaken (fun _ => id)
          (fun _ _ => id) prints).bind fun _ => ?_
        refine (done_asked.weaken (fun _ => id) (fun _ _ => id) prints).bind fun stop =>
          Triple.ite ?_ ?_
        · intro stopped
          exact .pure fun this holds =>
            ⟨holds.1.2.readable, .inr ⟨holds.1.1, fun _ => holds.2 stopped⟩⟩
        · intro _
          refine ((done_write current previous announces takesPrev fuel).from
            fun _ holds => holds.1).bind fun whole => ?_
          cases whole with
          | true =>
              cases takesPrev with
              | true =>
                  refine (ih .none).from ?_
                  rintro this ⟨readable, sent, _⟩
                  obtain ⟨⟨pages, ⟨before, inS, rfl⟩, printed⟩, shows, _⟩ := sent rfl
                  exact ⟨⟨_, again _ _ shows before inS, printed⟩, readable⟩
              | false =>
                  apply Triple.pure
                  rintro this ⟨readable, sent, _⟩
                  exact ⟨readable, .inl ⟨rfl, sent rfl⟩⟩
          | false =>
              refine (((done_waitStatus (G := Readable V W) _ fuel).weaken ?_ (fun _ _ => id)
                prints).bind fun status => ?_)
              · rintro this ⟨readable, _, kept⟩
                exact ⟨kept rfl, readable⟩
              cases status with
              | none =>
                  apply Triple.pure
                  exact fun this holds => ⟨holds.1.2, .inr ⟨holds.1.1, fun _ => holds.2 rfl⟩⟩
              | some status =>
                  apply Triple.ite
                  · intro _
                    exact .pure fun this holds => ⟨holds.1.2, .inr ⟨holds.1.1, nofun⟩⟩
                  · intro _
                    exact (ih _).from fun _ holds => holds.1

end Writing

/-- No page is the previous one. -/
theorem nothing_replays [Source Fault UInt8 σ] (params : PageParams) (video : List UInt8)
    : Replays (fun (_ : BufferedPage σ) _ => False) params video :=
  ⟨False.elim, False.elim, False.elim⟩

-----------------------------------------------------------------------------------------
-- The last page
-----------------------------------------------------------------------------------------

section Last

variable [Source Fault UInt8 σ] {V : BufferedPage σ → List UInt8 → Prop} {params : PageParams}
  {video : List UInt8}

/-- Sending a page adds it to those that were printed. -/
theorem writeOnly_prints (announces : Announces device) (current : Replays V params video)
    (again : ∀ pages, S pages → S (pages ++ [sheetOf params video])) (fuel : Nat)
    : Triple (Done device S fun page => ∃ symbols, V page symbols) (writeOnly fuel)
        (fun _ => Done device S fun page => ∃ symbols, V page symbols)
        (fun this => PrintsIn device S this.printer) := by
  apply Triple.zoom
  rintro this ⟨prints, shows⟩
  apply (writePage_prints current (nothing_replays params video) announces
    (fun _ _ impossible => impossible.elim) fuel fuel .none).weaken
  · rintro _ rfl
    exact ⟨prints, shows, nofun⟩
  · rintro written inner ⟨readable, ⟨_, sent, _⟩ | ⟨kept, _⟩⟩
    · refine ⟨sent.mono ?_, readable.page⟩
      rintro _ ⟨before, inS, rfl⟩
      exact again before inS
    · exact ⟨kept, readable.page⟩
  · exact fun inner kept => kept

/-- The last page is printed again any number of times. -/
theorem waitLastPage_prints (announces : Announces device) (current : Replays V params video)
    (again : ∀ pages, S pages → S (pages ++ [sheetOf params video])) (fuel turns : Nat)
    : Triple (Done device S fun page => ∃ symbols, V page symbols) (waitLastPage fuel turns)
        (fun _ this => PrintsIn device S this.printer)
        (fun this => PrintsIn device S this.printer) := by
  induction turns with
  | zero => exact .throw fun _ done => done.1
  | succ turns ih =>
      have prints : ∀ this : Call (BufferedPage σ),
          Done device S (fun page => ∃ symbols, V page symbols) this →
          PrintsIn device S this.printer :=
        fun _ done => done.1
      refine (done_asked.weaken (fun _ => id) (fun _ _ => id) prints).bind fun stop =>
        Triple.ite ?_ ?_
      · exact fun _ => .pure fun this holds => holds.1.1
      · intro _
        refine ((done_waitStatus _ fuel).weaken (fun _ holds => holds.1) (fun _ _ => id)
          prints).bind fun status => ?_
        cases status with
        | none => exact .pure fun this holds => holds.1.1
        | some status =>
            apply Triple.ite
            · exact fun _ => .pure fun this holds => holds.1.1
            · intro _
              apply Triple.ite
              · exact fun _ => .pure fun this holds => holds.1.1
              · intro _
                refine ((writeOnly_prints announces current again fuel).from
                  fun _ holds => holds.1).bind fun written => Triple.ite ?_ ?_
                · exact fun _ => ih
                · exact fun _ => .pure fun this done => done.1

/-- Where the user has asked to stop nothing is waited for. -/
theorem waitLastPage_stopped (fuel turns : Nat)
    : Triple (fun this : Call (BufferedPage σ) => Stopped this ∧ PrintsIn device S this.printer)
        (waitLastPage fuel turns) (fun _ this => PrintsIn device S this.printer)
        (fun this => PrintsIn device S this.printer) := by
  cases turns with
  | zero => exact .throw fun _ holds => holds.2
  | succ turns =>
      have asked : Triple
          (fun this : Call (BufferedPage σ) => Stopped this ∧ PrintsIn device S this.printer)
          stopRequested (fun stop this => stop = true ∧ PrintsIn device S this.printer)
          (fun this => PrintsIn device S this.printer) := by
        apply triple_stopRequested
        · exact fun this holds _ => ⟨rfl, printsIn_polled holds.2 true⟩
        · exact fun this holds more => absurd holds.1.1 more
      refine asked.bind fun stop => Triple.ite ?_ ?_
      · exact fun _ => .pure fun this holds => holds.2
      · exact fun more this holds => absurd holds.1 more

end Last

-----------------------------------------------------------------------------------------
-- The pages of a file
-----------------------------------------------------------------------------------------

/-- The second list is the first one with each of its sheets once or more times. -/
inductive Repeats : List Sheet → List Sheet → Prop
  | nothing : Repeats [] []
  | next {front pages : List Sheet} (sheet : Sheet) (before : Repeats front pages)
    : Repeats (front ++ [sheet]) (pages ++ [sheet])
  | again {front pages : List Sheet} {sheet : Sheet} (before : Repeats (front ++ [sheet]) pages)
    : Repeats (front ++ [sheet]) (pages ++ [sheet])

/-- The page that was printed before the given one can be printed again. -/
def Follows (S : List Sheet → Prop) (page : Nat) (prevPage : PbmPage) : Prop :=
  prevPage.videoStream = none
    ∧ (page ≠ 0 → ∃ params video symbols, Kept params video prevPage symbols
        ∧ ∀ pages, S pages → S (pages ++ [sheetOf params video]))

/-- A page of the file is printed, behind any number of times the page before it. -/
theorem writeCurrPage_prints (announces : Announces device) {params : PageParams}
    (nonempty : params.imageLineSize ≠ 0) (fuel page : Nat) {prevPage : PbmPage}
    (follows : Follows S page prevPage) (stream : IStream)
    : Triple (Done device S fun pbm => pbm = stream) (writeCurrPage fuel page params prevPage)
        (fun result this =>
          (result.1 = true
              ∧ PrintsIn device (Added S (pageAt params stream).sheet) this.printer
              ∧ Kept params
                  (compress params.imageLineSize.toNat params.imageLines.toNat
                    stream.rdbuf.buffer)
                  (prevPage.moveAssign result.2)
                  (compress params.imageLineSize.toNat params.imageLines.toNat
                    stream.rdbuf.buffer)
              ∧ this.videoStream = behind params stream)
            ∨ (PrintsIn device S this.printer ∧ (result.1 = true → Stopped this)))
        (fun this => PrintsIn device S this.printer) := by
  obtain ⟨detached, before⟩ := follows
  obtain ⟨W, prevParams, prevVideo, previous, again, shows⟩ :
      ∃ (W : PbmPage → List UInt8 → Prop) (prevParams : PageParams) (prevVideo : List UInt8),
        Replays W prevParams prevVideo
        ∧ (∀ page symbols, W page symbols → ∀ pages, S pages →
            S (pages ++ [sheetOf prevParams prevVideo]))
        ∧ ∀ other, (if page = 0 then none else some prevPage) = some other →
            ∃ symbols, W other symbols := by
    by_cases first : page = 0
    · rw [if_pos first]
      exact ⟨_, params, [], nothing_replays params [], fun _ _ impossible => impossible.elim,
        nofun⟩
    · obtain ⟨prevParams, prevVideo, symbols, kept, again⟩ := before first
      rw [if_neg first]
      refine ⟨_, prevParams, prevVideo, kept_replays prevParams prevVideo, fun _ _ _ => again, ?_⟩
      rintro other same
      cases same
      exact ⟨symbols, kept⟩
  have feeds : BufferedPage.Feeds
      (Compresses params.imageLineSize.toNat
        (stream.rdbuf.buffer.drop (params.imageLines.toNat * params.imageLineSize.toNat))) 4096 :=
    compresses_feeds (by decide)
  have current := current_replays feeds params
    (compress params.imageLineSize.toNat params.imageLines.toNat stream.rdbuf.buffer)
  apply Triple.zoom
  rintro this ⟨prints, rfl⟩
  have writes := writePage_prints current previous announces again fuel fuel .none
  refine (writes.from ?_).bind fun written => Triple.get fun inner wrote => Triple.pure ?_
  · rintro _ rfl
    exact ⟨prints, ⟨_, current_pageOf nonempty page this.videoStream⟩, shows⟩
  · rintro _ rfl
    obtain ⟨_, ⟨rfl, sent, drained, ended⟩ | ⟨kept, stops⟩⟩ := wrote
    · left
      refine ⟨rfl, ?_, drained.moved detached, ?_⟩
      · rw [sheet_pageAt]
        exact sent
      · rw [rdbufOf_ended ended]
        rfl
    · exact .inr ⟨kept, stops⟩

/-- The header of a page is read, and nothing is printed by it. -/
theorem done_readHeader (stream : IStream)
    : Triple (Done device S fun pbm => pbm = stream) (onVideo PbmPageProvider.readHeader)
        (fun params this => ∃ stream', PbmPageProvider.readHeader.run stream = .ok params stream'
          ∧ Done device S (fun pbm => pbm = stream') this)
        (fun this => PrintsIn device S this.printer
          ∧ ∃ err stream', PbmPageProvider.readHeader.run stream = .error err stream') := by
  apply Triple.zoom
  rintro this ⟨prints, rfl⟩ _ rfl
  constructor
  · intro params stream' run
    exact ⟨stream', run, prints, rfl⟩
  · intro err stream' run
    exact ⟨prints, err, stream', run⟩

/-- Where the user has asked to stop no page is begun. -/
theorem pageLoop_stopped (fuel turns page : Nat) (prevPage : PbmPage)
    : Triple (fun this : Call IStream => PrintsIn device S this.printer ∧ Stopped this)
        (pageLoop fuel turns page prevPage)
        (fun _ this => PrintsIn device S this.printer ∧ Stopped this)
        (fun this => PrintsIn device S this.printer) := by
  cases turns with
  | zero => exact .throw fun _ holds => holds.1
  | succ turns =>
      have asked : Triple
          (fun this : Call IStream => PrintsIn device S this.printer ∧ Stopped this)
          stopRequested
          (fun stop this => stop = true ∧ PrintsIn device S this.printer ∧ Stopped this)
          (fun this => PrintsIn device S this.printer) := by
        apply triple_stopRequested
        · exact fun this holds stopped =>
            ⟨rfl, printsIn_polled holds.1 true, stopped_polled stopped⟩
        · exact fun this holds more => absurd holds.2.1 more
      refine asked.bind fun stop => Triple.ite ?_ ?_
      · exact fun _ => .pure fun this holds => holds.2
      · exact fun more this holds => absurd holds.1 more

/-- The first of these pages have been printed behind the others. -/
def PrintsMore (device : List Event → List UInt8 → List UInt8) (front sheets : List Sheet)
    (this : BasicCaptPrinter)
    : Prop :=
  ∃ more, more <+: sheets ∧ PrintsIn device (Repeats (front ++ more)) this

/-- Nothing more is printed. -/
theorem PrintsIn.none {front : List Sheet} {this : BasicCaptPrinter}
    (h : PrintsIn device (Repeats front) this) (sheets : List Sheet)
    : PrintsMore device front sheets this := by
  refine ⟨[], List.nil_prefix, ?_⟩
  rw [List.append_nil]
  exact h

/-- A page that is printed is one of those that are to be printed. -/
theorem PrintsMore.cons {front sheets : List Sheet} {sheet : Sheet} {this : BasicCaptPrinter}
    (h : PrintsMore device (front ++ [sheet]) sheets this)
    : PrintsMore device front (sheet :: sheets) this := by
  obtain ⟨more, isPrefix, prints⟩ := h
  refine ⟨sheet :: more, (List.prefix_cons_inj sheet).mpr isPrefix, ?_⟩
  rw [List.append_assoc] at prints
  exact prints

/-- The loop over the pages leaves a page that can be printed again, and has printed them all,
unless the user has asked to stop.
-/
def Finished (device : List Event → List UInt8 → List UInt8) (front sheets : List Sheet)
    (result : Option (Nat × PbmPage)) (this : Call IStream)
    : Prop :=
  PrintsMore device front sheets this.printer
    ∧ ∀ last, result = some last →
        Stopped this
          ∨ (PrintsIn device (Repeats (front ++ sheets)) this.printer
              ∧ Follows (Repeats (front ++ sheets)) last.1 last.2)

/-- The loop over the pages, by induction on its turns. -/
theorem pageLoop_prints (announces : Announces device) (fuel turns page : Nat)
    {front : List Sheet} {prevPage : PbmPage}
    (follows : Follows (Repeats front) page prevPage) (stream : IStream)
    (nonempty : ∀ filePage ∈ filePages turns stream, filePage.params.imageLineSize ≠ 0)
    : Triple (Done device (Repeats front) fun pbm => pbm = stream)
        (pageLoop fuel turns page prevPage)
        (Finished device front ((filePages turns stream).map FilePage.sheet))
        (fun this =>
          PrintsMore device front ((filePages turns stream).map FilePage.sheet)
            this.printer) := by
  induction turns generalizing page front prevPage stream with
  | zero => exact .throw fun _ done => done.1.none _
  | succ turns ih =>
      refine (done_asked.weaken (fun _ => id) (fun _ _ => id) fun _ done =>
        done.1.none _).bind fun stop => Triple.ite ?_ ?_
      · intro stopped
        exact .pure fun this holds =>
          ⟨holds.1.1.none _, fun _ _ => .inl (holds.2 stopped)⟩
      · intro _
        refine ((done_readHeader stream).weaken (fun _ holds => holds.1) (fun _ _ => id)
          fun _ holds => holds.1.none _).bind fun params => ?_
        rintro this ⟨stream', header, prints, rfl⟩
        have done : Done device (Repeats front) (fun pbm => pbm = this.videoStream) this :=
          ⟨prints, rfl⟩
        cases params with
        | none =>
            have ended : filePages (turns + 1) stream = [] := by
              rw [filePages, header]
            refine Triple.pure (fun this done => ?_) this done
            refine ⟨done.1.none _, fun last same => .inr ?_⟩
            cases same
            rw [ended, List.map_nil, List.append_nil]
            exact ⟨done.1, follows⟩
        | some params =>
            have pages : filePages (turns + 1) stream
                = pageAt params this.videoStream
                  :: filePages turns (behind params this.videoStream) := by
              rw [filePages, header]
            rw [pages] at nonempty ⊢
            have lines := nonempty _ List.mem_cons_self
            have others := fun filePage member => nonempty filePage (List.mem_cons_of_mem _ member)
            have writes := writeCurrPage_prints announces lines fuel page follows this.videoStream
            rw [List.map_cons]
            refine ((writes.weaken (fun _ => id) (fun _ _ => id) fun _ kept =>
              kept.none _).bind fun result => ?_) this done
            obtain ⟨written, currPage⟩ := result
            apply Triple.ite
            · rintro rfl
              apply Triple.or
              · rintro inner ⟨_, ⟨_, ⟨before, repeats, rfl⟩, added⟩, kept, rest⟩
                have next : Follows
                    (Repeats (front ++ [(pageAt params this.videoStream).sheet]))
                    (unsigned (page + 1)) (prevPage.moveAssign currPage) := by
                  refine ⟨kept.1.videoStream, fun _ => ⟨params, _, _, kept, ?_⟩⟩
                  intro pages again
                  rw [sheet_pageAt] at again ⊢
                  exact again.again
                apply ((ih (unsigned (page + 1)) next _ others).weaken (fun _ => id) _ _) inner
                · exact ⟨⟨_, repeats.next _, added⟩, rest⟩
                · rintro result last ⟨more, ended⟩
                  refine ⟨more.cons, fun pages same => ?_⟩
                  rw [List.append_assoc] at ended
                  exact ended pages same
                · exact fun last more => more.cons
              · refine (@pageLoop_stopped device (Repeats front) fuel turns _ _).weaken ?_ ?_ ?_
                · exact fun inner holds => ⟨holds.1, holds.2 rfl⟩
                · exact fun result last holds => ⟨holds.1.none _, fun _ _ => .inl holds.2⟩
                · exact fun last kept => kept.none _
            · intro failed
              apply Triple.pure
              rintro inner (⟨done, _⟩ | ⟨kept, _⟩)
              · exact absurd done failed
              · refine ⟨kept.none _, fun last impossible => ?_⟩
                cases impossible

/-- Waiting for the last page prints it again at most. -/
theorem lastPageEnded_prints (announces : Announces device) (fuel page : Nat)
    {prevPage : PbmPage}
    : Triple
        (fun this : Call IStream => PrintsIn device S this.printer
          ∧ (Stopped this ∨ Follows S page prevPage))
        (lastPageEnded fuel page prevPage) (fun _ this => PrintsIn device S this.printer)
        (fun this => PrintsIn device S this.printer) := by
  apply Triple.ite
  · exact fun _ => .pure fun this holds => holds.1
  · intro some
    apply Triple.zoom
    rintro this ⟨prints, stopped | ⟨_, kept⟩⟩
    · apply (waitLastPage_stopped fuel fuel).from
      rintro _ rfl
      exact ⟨stopped, prints⟩
    · obtain ⟨params, video, symbols, shows, again⟩ := kept some
      apply (waitLastPage_prints announces (kept_replays params video) again fuel fuel).from
      rintro _ rfl
      exact ⟨prints, symbols, shows⟩

-----------------------------------------------------------------------------------------
-- The program
-----------------------------------------------------------------------------------------

/-- What follows the loop over the pages. -/
def leave (fuel page : Nat) (prevPage : PbmPage) : Action (Call IStream) Nat := do
  if ← lastPageEnded fuel page prevPage then
    onPrinter BasicCaptPrinter.goOffline
    onPrinter BasicCaptPrinter.releaseUnit
    return 0
  else return 1

/-- Leaving the loop repeats the last page or nothing. -/
theorem leave_prints (announces : Announces device) (fuel page : Nat) (prevPage : PbmPage)
    : Triple
        (fun this : Call IStream => PrintsIn device S this.printer
          ∧ (Stopped this ∨ Follows S page prevPage))
        (leave fuel page prevPage) (fun _ this => PrintsIn device S this.printer)
        (fun this => PrintsIn device S this.printer) := by
  have kept : ∀ {action : Action BasicCaptPrinter Unit},
      (∀ pages, Maintains (Prints device pages) action) →
      Maintains (fun this : Call IStream => PrintsIn device S this.printer)
        (onPrinter action) := by
    intro action keeps
    apply Maintains.zoom
    rintro this ⟨pages, inS, prints⟩
    exact ⟨pages, inS, keeps pages this.printer prints⟩
  refine (lastPageEnded_prints announces fuel page).bind fun ended => Maintains.triple ?_
  apply Maintains.ite
  · intro _
    refine (kept fun _ => BasicCaptPrinter.prints_goOffline).bind fun _ => ?_
    exact (kept fun _ => BasicCaptPrinter.prints_releaseUnit).bind fun _ => .pure _
  · exact fun _ => .pure _

/-- A property of the log that nothing takes away is there in the end. -/
theorem leave_grows {K : List Event → Prop} (grows : ∀ log event, K log → K (log ++ [event]))
    (fuel page : Nat) (prevPage : PbmPage)
    : Maintains (fun this : Call IStream => this.printer.Tells device K)
        (leave fuel page prevPage) := by
  have admits : ∀ chunk, Admits K chunk := fun _ _ _ => grows _ _
  have status : Maintains (BasicCaptPrinter.Tells device K) BasicCaptPrinter.getStatus :=
    BasicCaptPrinter.keeps_getStatus (admits _)
  have command : ∀ {opcode : UInt16}, Answered opcode →
      Maintains (BasicCaptPrinter.Tells device K)
        (BasicCaptPrinter.onStream (Protocol.execCmd opcode)) :=
    fun answered => BasicCaptPrinter.keeps_command answered (admits _)
  have kept : ∀ {action : Action BasicCaptPrinter Unit},
      Maintains (BasicCaptPrinter.Tells device K) action →
      Maintains (fun this : Call IStream => this.printer.Tells device K) (onPrinter action) :=
    fun keeps => .zoom fun this tells => keeps this.printer tells
  have whole : Throughout (fun _ _ => True) (fun printer _ => printer.Tells device K)
      (fun printer _ => printer.Tells device K) (fun _ printer _ => printer.Tells device K) :=
    growing_throughout grows
  refine (whole.lastPageEnded fuel page fun _ => trivial).bind fun ended => ?_
  apply Maintains.ite
  · intro _
    refine (kept (BasicCaptPrinter.keeps_goOffline status (command (by decide)))).bind
      fun _ => ?_
    exact (kept (BasicCaptPrinter.keeps_releaseUnit status (command (by decide)))).bind
      fun _ => .pure _
  · exact fun _ => .pure _

/-- The whole program, page by page of the file. -/
theorem main_prints (announces : Announces device) (fuel : Nat) (stream : IStream)
    (nonempty : ∀ filePage ∈ filePages fuel stream, filePage.params.imageLineSize ≠ 0)
    : Triple (Done device (Repeats []) fun pbm => pbm = stream) (main fuel)
        (fun code this =>
          PrintsMore device [] ((filePages fuel stream).map FilePage.sheet) this.printer
            ∧ (code = 0 →
                PrintsIn device (Repeats ((filePages fuel stream).map FilePage.sheet)) this.printer
                  ∨ .polled true ∈ this.printer.stream.log))
        (fun this =>
          PrintsMore device [] ((filePages fuel stream).map FilePage.sheet) this.printer) := by
  have start : ∀ {action : Action BasicCaptPrinter Unit},
      (∀ pages, Maintains (Prints device pages) action) →
      Triple (Done device (Repeats []) fun pbm => pbm = stream) (onPrinter action)
        (fun _ => Done device (Repeats []) fun pbm => pbm = stream)
        (fun this =>
          PrintsMore device [] ((filePages fuel stream).map FilePage.sheet) this.printer) :=
    fun keeps => (done_onPrinter keeps).triple.weaken (fun _ => id) (fun _ _ => id)
      fun _ done => done.1.none _
  refine (start fun _ => BasicCaptPrinter.prints_reserveUnit).bind fun _ => ?_
  refine (start fun _ => BasicCaptPrinter.keeps_clearError none
    BasicCaptPrinter.prints_getStatus fun _ => BasicCaptPrinter.prints_command).bind fun _ => ?_
  have first : Follows (Repeats []) 0 emptyPage := ⟨rfl, fun some => absurd rfl some⟩
  refine (pageLoop_prints announces fuel fuel 0 first stream nonempty).bind fun result => ?_
  cases result with
  | none => exact .pure fun this finished => ⟨finished.1, nofun⟩
  | some last =>
      change Triple _ (leave fuel last.1 last.2) _ _
      rintro this ⟨⟨more, isPrefix, prints⟩, ended⟩
      rcases ended last rfl with stopped | ⟨whole, follows⟩
      · have kept := leave_prints announces fuel last.1 last.2 this ⟨prints, .inl stopped⟩
        have asked : this.printer.Tells device (fun log => .polled true ∈ log) := by
          obtain ⟨_, _, tells, _⟩ := prints
          exact ⟨tells.paired, tells.device, stopped.2⟩
        have grown := (leave_grows (fun _ _ => List.mem_append_left _) fuel last.1 last.2).triple
          this asked
        constructor
        · intro code this' run
          exact ⟨⟨more, isPrefix, kept.1 code this' run⟩,
            fun _ => .inr (grown.1 code this' run).log⟩
        · intro err this' run
          exact ⟨more, isPrefix, kept.2 err this' run⟩
      · have kept := leave_prints announces fuel last.1 last.2 this ⟨whole, .inr follows⟩
        constructor
        · intro code this' run
          have all := kept.1 code this' run
          exact ⟨⟨_, List.prefix_refl _, all⟩, fun _ => .inl all⟩
        · intro err this' run
          exact ⟨_, List.prefix_refl _, kept.2 err this' run⟩

/-- Neither page of the file is empty. -/
theorem twoPages_nonempty
    : ∀ page ∈ filePages 50 twoPages, page.params.imageLineSize ≠ 0 := by
  intro page member
  rw [filePages_paged twoPages_paged] at member
  exact twoPages_paged.nonempty (List.mem_of_mem_take member)

end Capt.PrintPbm
