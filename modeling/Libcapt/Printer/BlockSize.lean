import Libcapt.Printer.InfoExchange
import Libcapt.Printer.TransmissionOrder

/-! A page whose block size is taken from the printer's information, for every answer of the
printer and every video.
-/

namespace Capt

open Streams Protocol PageEvent

-----------------------------------------------------------------------------------------
-- What a log says about a page
-----------------------------------------------------------------------------------------

/-- A packet of a page was sent. -/
def Event.OfPage : Event → Prop
  | flushed chunk _ _ => Unanswered chunk
  | polled _ => False

/-- The chunk that ends a page. -/
def endOfPage : List UInt8 := PacketHeader.frame 0xD0A2 []

section Log

variable {σ : Type} {video : List UInt8} {log : List Event}
  {result : EStateM.Result Fault (Call σ) Bool}

/-- The call throws before any packet of the page is sent. -/
def ThrowsFirst (log : List Event) (result : EStateM.Result Fault (Call σ) Bool) : Prop :=
  ∃ err this' new, result = .error err this' ∧ this'.printer.stream.log = log ++ new
    ∧ ∀ event ∈ new, ¬ event.OfPage

/-- What a call with a block size of its own keeps to: it returns true only if all of the video
was sent before the end of the page, and no packet is too long.
-/
structure KeepsContract (video : List UInt8) (log : List Event)
    (result : EStateM.Result Fault (Call σ) Bool) : Prop where
  whole
    : ∀ this', result = .ok true this' →
        ∃ sent answer, this'.printer.stream.log = log ++ (sent ++ [.flushed endOfPage [] answer])
          ∧ videoSent sent = video
  fits : ∀ what this', result ≠ .error (.overflowError what) this'

/-- The video of two logs in a row. -/
theorem videoSent_append (first second : List Event)
    : videoSent (first ++ second) = videoSent first ++ videoSent second :=
  List.flatMap_append

/-- Without a packet of the page nothing is sent of the video. -/
theorem videoSent_eq_nil {log : List Event} (others : ∀ event ∈ log, ¬ event.OfPage)
    : videoSent log = [] := by
  apply List.flatMap_eq_nil_iff.mpr
  intro event member
  have other := others event member
  cases event with
  | polled stop => rfl
  | flushed chunk backlog answer =>
      apply if_neg
      intro block
      apply other
      change chunkOpcode chunk ∈ _
      rw [block]
      decide

/-- After the begin of the page it is too late to throw first. -/
theorem not_throwsFirst {err : Fault} {this' : Call σ} {params : PageParams}
    {new : List Event} (thrown : result = .error err this')
    (logged : this'.printer.stream.log = log ++ new) (begun : (beginPage params).event ∈ new)
    : ¬ ThrowsFirst log result := by
  rintro ⟨_, _, new', thrown', logged', others⟩
  cases thrown.symm.trans thrown'
  cases List.append_cancel_left (logged.symm.trans logged')
  exact others _ begun (unanswered_frame.mpr (by decide))

end Log

-----------------------------------------------------------------------------------------
-- Waiting for a block
-----------------------------------------------------------------------------------------

namespace Call

section Exceptions

variable {σ : Type} {this this' : Call σ}

/-- A call raises what the stream raises. -/
theorem raises_onStream {α : Type} {action : Action IOStream α} (h : Raises Fault.Fits action)
    : Raises Fault.Fits (onStream action : Action (Call σ) α) :=
  .zoom (.zoom h)

/-- A poll of the stop token raises nothing. -/
theorem raises_stopRequested : Raises Fault.Fits (stopRequested : Action (Call σ) Bool) :=
  .get fun _ => (Raises.set _).bind fun _ => .pure _

/-- The wait for room raises what its requests raise. -/
theorem raises_pollStatus (fuel : Nat)
    : Raises Fault.Fits (pollStatus fuel : Action (Call σ) Bool) := by
  induction fuel with
  | zero => exact .throw nofun
  | succ fuel ih =>
      refine raises_stopRequested.bind fun _ => .ite (fun _ => .pure _) (fun _ => ?_)
      refine (raises_onStream raises_basicStatus).bind fun _ => ?_
      exact .ite (fun _ => .pure _) fun _ => .ite (fun _ => .pure _) (fun _ => ih)

/-- What is left of the video is not touched by the rest of the call. -/
def Reading (videoStream : σ) (this : Call σ) : Prop := this.videoStream = videoStream

variable {videoStream : σ}

/-- The printer's stream is not the video stream. -/
theorem reading_onStream {α : Type} (action : Action IOStream α)
    : Maintains (Reading videoStream) (onStream action : Action (Call σ) α) :=
  .zoom fun _ same => same

/-- A poll of the stop token does not read the video. -/
theorem reading_stopRequested
    : Maintains (Reading videoStream) (stopRequested : Action (Call σ) Bool) :=
  fun _ same => same

/-- Nor does the wait for room. -/
theorem reading_pollStatus (fuel : Nat)
    : Maintains (Reading videoStream) (pollStatus fuel : Action (Call σ) Bool) := by
  induction fuel with
  | zero => exact .throw _
  | succ fuel ih =>
      refine reading_stopRequested.bind fun _ => .ite (fun _ => .pure _) (fun _ => ?_)
      refine (reading_onStream _).bind fun _ => ?_
      exact .ite (fun _ => .pure _) fun _ => .ite (fun _ => .pure _) (fun _ => ih)

/-- An exception of the wait is none for a packet, or it comes from what follows. -/
theorem waited_error {polls : Nat} {next : Action (Call σ) Bool} {err : Fault}
    (run : (waited polls next).run this = .error err this')
    : err.Fits ∨ ∃ middle, Reading this.videoStream middle
        ∧ next.run middle = .error err this' := by
  have kept := reading_pollStatus polls this rfl
  unfold waited at run
  cases wait : (pollStatus polls).run this with
  | error err' middle =>
      rw [run_bind_error wait] at run
      cases run
      exact .inl (raises_pollStatus polls _ _ _ wait)
  | ok goesOn middle =>
      rw [wait] at kept
      rw [run_bind_ok wait] at run
      cases goesOn with
      | false => cases run
      | true =>
          obtain ⟨stop, asks, _, _⟩ := run_stopRequested middle
          rw [if_pos rfl, run_bind_ok asks] at run
          cases stop with
          | true => cases run
          | false => exact .inr ⟨middle.polled false, kept, run⟩

end Exceptions

section Ready

variable {σ : Type} {this : Call σ}

/-- The printer is always ready, and the caller never asks to stop. -/
structure AlwaysReady (this : Call σ) : Prop where
  quiet : this.Quiet
  never : this.stopToken.left = none
  answers : ∀ log, AnswersReady (this.printer.stream.device log statusRequest)

/-- A printer that is always ready is so behind a trace as well. -/
theorem AlwaysReady.since {trace : List PageEvent} {this' : Call σ} (h : this.AlwaysReady)
    (since : this.Since trace this') (quiet : this'.Quiet)
    : this'.AlwaysReady where
  quiet := quiet
  never := (since.token h.never).1
  answers := by
    rw [since.device]
    exact h.answers

/-- The wait ends with the block. -/
theorem AlwaysReady.run_waited {polls : Nat} (h : this.AlwaysReady) (turns : 0 < polls)
    (next : Action (Call σ) Bool)
    : ∃ trace this', this.Since trace this' ∧ this'.AlwaysReady
        ∧ (waited polls next).run this = next.run this' := by
  obtain ⟨trace, this', since, last⟩ := Call.run_waited polls h.quiet next
  refine ⟨trace, this', since, ?_⟩
  rcases last with ⟨_, quiet', run⟩ | ⟨outcome, gaveUp, waiting, _⟩
  · exact ⟨h.since since quiet', run⟩
  · refine absurd (waiting.ready_of_answers turns (since.token h.never).2 ?_) gaveUp
    intro answer member
    obtain ⟨log, rfl⟩ := since.answers answer member
    exact h.answers log

/-- A packet that is too long is not sent. -/
theorem run_videoData_overflow (quiet : this.Quiet) {data : List UInt8}
    (long : 65531 < data.length)
    : (onStream (icVideoData data)).run this
      = .error (.overflowError "packet size overflow") this := by
  have thrown : (icVideoData data).run this.printer.stream = .error _ _ :=
    run_bind_error (PacketHeader.run_writeTo_overflow quiet.good long)
  exact run_onStream_error thrown

end Ready

end Call

-----------------------------------------------------------------------------------------
-- Blocks that are too long
-----------------------------------------------------------------------------------------

section Video

variable {σ : Type} [Source Fault UInt8 σ]

/-- A read of the given size gives more than a packet takes, at once or further on in the
video.
-/
inductive Oversized (blockSize : Nat) : σ → Prop
  | now {s s' : σ} {data : List UInt8} (taken : (Source.sgetn blockSize).run s = .ok data s')
    (long : 65531 < data.length)
    : Oversized blockSize s
  | later {s s' : σ} {data : List UInt8} (taken : (Source.sgetn blockSize).run s = .ok data s')
    (more : data ≠ []) (tail : Oversized blockSize s')
    : Oversized blockSize s

variable {R : σ → List UInt8 → Prop} {blockSize : Nat} {video : List UInt8}

/-- Only a block size that does not fit itself can give such a block. -/
theorem not_oversized (source : IsTrickle R) (positive : 1 ≤ blockSize)
    (fits : blockSize ≤ 65531) {s : σ} (given : R s video)
    : ¬ Oversized blockSize s := by
  intro tooLong
  induction tooLong generalizing video with
  | now taken long =>
      obtain ⟨data, _, _, _, size, _, taken', _⟩ := Call.readBlock source positive given
      cases taken.symm.trans taken'
      omega
  | later taken _ _ ih =>
      obtain ⟨_, _, _, _, _, _, taken', given'⟩ := Call.readBlock source positive given
      cases taken.symm.trans taken'
      exact ih given'

namespace Call

/-- Where no block is too long the video is read as with a block size that fits. -/
theorem givesBlocks_of_not_oversized (source : IsTrickle R) (positive : 1 ≤ blockSize)
    : GivesBlocks (fun s video => R s video ∧ (video ≠ [] → ¬ Oversized blockSize s))
        blockSize := by
  rintro s video ⟨given, small⟩
  obtain ⟨data, rest, s', rfl, size, ends, taken, given'⟩ := readBlock source positive given
  refine ⟨data, rest, s', rfl, size, ?_, ends, taken, given', ?_⟩
  · by_cases nothing : data = []
    · rw [nothing]
      exact Nat.zero_le _
    · by_contra long
      exact small (List.append_ne_nil_of_left_ne_nil nothing rest) (.now taken (by omega))
  · intro more tooLong
    have some : data ≠ [] := fun nothing => more (ends (by rw [nothing]; rfl))
    exact small (List.append_ne_nil_of_left_ne_nil some rest) (.later taken some tooLong)

variable {this this' : Call σ}

/-- What a call reads from its video stream. -/
theorem run_onVideo {data : List UInt8} {videoStream' : σ}
    (taken : (Source.sgetn blockSize).run this.videoStream = .ok data videoStream')
    : (onVideo (Source.sgetn blockSize)).run this
      = .ok data { this with videoStream := videoStream' } := by
  unfold onVideo
  exact run_zoom_ok taken

/-- Where all blocks fit no packet is too long, by induction on the blocks. -/
theorem fits_videoLoop (blocks : GivesBlocks R blockSize) (polls fuel : Nat)
    (given : R this.videoStream video) {err : Fault}
    (run : (videoLoop blockSize polls fuel).run this = .error err this')
    : err.Fits := by
  induction fuel generalizing this video with
  | zero =>
      cases run
      exact nofun
  | succ fuel ih =>
      obtain ⟨data, rest, videoStream', rfl, _, fits, _, taken, given'⟩ := blocks given
      rw [videoLoop, run_bind_ok (run_onVideo taken)] at run
      by_cases empty : data.length = 0
      · rw [if_pos empty] at run
        cases run
      · rw [if_neg empty] at run
        rcases waited_error run with thrown | ⟨middle, same, run'⟩
        · exact thrown
        · have kept := reading_onStream (icVideoData data) middle same
          cases block : (onStream (icVideoData data)).run middle with
          | error err' last =>
              rw [run_bind_error block] at run'
              cases run'
              exact raises_onStream (raises_send fits) _ _ _ block
          | ok value last =>
              rw [block] at kept
              rw [run_bind_ok block] at run'
              apply ih _ run'
              · exact rest
              · rw [show last.videoStream = videoStream' from kept]
                exact given'

section Ready

variable {s s' : σ} {data : List UInt8} {polls : Nat}

/-- The loop goes on to the block that it has read. -/
theorem AlwaysReady.run_block (h : this.AlwaysReady) (turns : 0 < polls) (fuel : Nat)
    (taken : (Source.sgetn blockSize).run this.videoStream = .ok data s') (more : data ≠ [])
    : ∃ trace this', this'.videoStream = s' ∧ this.Logs trace this' ∧ this'.AlwaysReady
        ∧ (videoLoop blockSize polls (fuel + 1)).run this
          = (do
              onStream (icVideoData data)
              videoLoop blockSize polls fuel).run this' := by
  have ready : AlwaysReady { this with videoStream := s' } := ⟨h.quiet, h.never, h.answers⟩
  have full : data.length ≠ 0 := fun empty => more (List.eq_nil_of_length_eq_zero empty)
  obtain ⟨trace, middle, since, ready', run⟩ := ready.run_waited turns (do
    onStream (icVideoData data)
    videoLoop blockSize polls fuel)
  refine ⟨trace, middle, since.video, since.toLogs.read, ready', ?_⟩
  rw [videoLoop, run_bind_ok (run_onVideo taken), if_neg full]
  exact run

/-- The first block that is too long makes the loop throw, by induction on the blocks before
it.
-/
theorem run_videoLoop_oversized (tooLong : Oversized blockSize s)
    : ∃ blocks, ∀ {this : Call σ} {polls fuel : Nat}, this.videoStream = s →
        this.AlwaysReady → 0 < polls → blocks < fuel →
        ∃ trace this', this.Logs trace this'
          ∧ (videoLoop blockSize polls fuel).run this
            = .error (.overflowError "packet size overflow") this' := by
  induction tooLong with
  | now taken long =>
      refine ⟨0, ?_⟩
      rintro this polls (_ | fuel) rfl ready turns enough
      · cases enough
      · have more := List.ne_nil_of_length_pos (Nat.zero_lt_of_lt long)
        obtain ⟨trace, middle, _, logs, ready', run⟩ := ready.run_block turns fuel taken more
        refine ⟨trace, middle, logs, run.trans ?_⟩
        exact run_bind_error (run_videoData_overflow ready'.quiet long)
  | @later s s' data taken more _ ih =>
      obtain ⟨blocks, throws⟩ := ih
      refine ⟨blocks + 1, ?_⟩
      rintro this polls (_ | fuel) rfl ready turns enough
      · cases enough
      · obtain ⟨trace, middle, left, logs, ready', run⟩ := ready.run_block turns fuel taken more
        by_cases long : 65531 < data.length
        · refine ⟨trace, middle, logs, run.trans ?_⟩
          exact run_bind_error (run_videoData_overflow ready'.quiet long)
        · obtain ⟨sent, block, since, quiet⟩ :
              ∃ this', (onStream (icVideoData data)).run middle = .ok () this'
                ∧ middle.Since [videoData data] this' ∧ this'.Quiet :=
            run_packet ready'.quiet (Nat.le_of_not_lt long) (by decide) rfl not_false
          obtain ⟨later, this', logs', thrown⟩ := throws (since.video.trans left)
            (ready'.since since quiet) turns (Nat.lt_of_succ_lt_succ enough)
          refine ⟨_, this', logs.trans (since.toLogs.trans logs'), run.trans ?_⟩
          exact (run_bind_ok block).trans thrown

end Ready

end Call

end Video

-----------------------------------------------------------------------------------------
-- The printer's block size
-----------------------------------------------------------------------------------------

namespace BasicCaptPrinter

variable {this : BasicCaptPrinter}

/-- The block size of the printer's information: what is known already, or its answer. -/
def announcedBlockSize (this : BasicCaptPrinter) : Option UInt16 :=
  match this.cachedInfo with
  | some info => some info.blockSize
  | none => answeredBlockSize (infoAnswer this.stream)

/-- Information that is known is not asked for again. -/
theorem run_getPrinterInfo_cached {info : PrinterInfo} (cached : this.cachedInfo = some info)
    : getPrinterInfo.run this = .ok info this := by
  unfold getPrinterInfo
  rw [run_get_bind, cached]
  rfl

/-- The information is asked for and kept. -/
theorem run_getPrinterInfo_ok (unknown : this.cachedInfo = none) {info : PrinterInfo}
    {stream' : IOStream} (run : pcGetPrinterInfo.run this.stream = .ok info stream')
    : getPrinterInfo.run this = .ok info { stream := stream', cachedInfo := some info } := by
  have asked : (onStream pcGetPrinterInfo).run this = .ok info { this with stream := stream' } :=
    run_zoom_ok run
  unfold getPrinterInfo
  rw [run_get_bind, unknown]
  exact run_bind_ok asked

/-- An answer that is refused leaves nothing to keep. -/
theorem run_getPrinterInfo_error (unknown : this.cachedInfo = none) {err : Fault}
    {stream' : IOStream} (run : pcGetPrinterInfo.run this.stream = .error err stream')
    : getPrinterInfo.run this = .error err { this with stream := stream' } := by
  have asked : (onStream pcGetPrinterInfo).run this
      = .error err { this with stream := stream' } :=
    run_zoom_error run
  unfold getPrinterInfo
  rw [run_get_bind]
  rw [unknown] at asked ⊢
  exact run_bind_error asked

end BasicCaptPrinter

namespace Call

variable {σ : Type} {this : Call σ} {blockSize : UInt16}

/-- The block size was found while `new` was recorded, without a packet of the page. -/
structure Learns (this : Call σ) (new : List Event) (this' : Call σ) : Prop where
  quiet : this'.Quiet
  device : this'.printer.stream.device = this.printer.stream.device
  token : this'.stopToken = this.stopToken
  video : this'.videoStream = this.videoStream
  log : this'.printer.stream.log = this.printer.stream.log ++ new
  before : ∀ event ∈ new, ¬ event.OfPage

/-- The printer gives its block size, at once or when it is asked. -/
theorem run_transferSize (quiet : this.Quiet)
    (exchange : Exchange infoRequest (infoAnswer this.printer.stream))
    (announced : this.printer.announcedBlockSize = some blockSize)
    : ∃ new this', (transferSize 0).run this = .ok blockSize.toNat this'
        ∧ this.Learns new this' := by
  have chosen : ∀ {info : PrinterInfo} {printer' : BasicCaptPrinter},
      BasicCaptPrinter.getPrinterInfo.run this.printer = .ok info printer' →
      (transferSize 0).run this = .ok info.blockSize.toNat { this with printer := printer' } := by
    intro info printer' run
    unfold transferSize
    rw [if_pos rfl]
    exact run_bind_ok (run_zoom_ok run)
  unfold BasicCaptPrinter.announcedBlockSize at announced
  cases cached : this.printer.cachedInfo with
  | some info =>
      rw [cached] at announced
      cases announced
      have run := chosen (BasicCaptPrinter.run_getPrinterInfo_cached cached)
      refine ⟨[], this, run, quiet, rfl, rfl, rfl, (List.append_nil _).symm, ?_⟩
      exact fun _ member => absurd member List.not_mem_nil
  | none =>
      rw [cached] at announced
      obtain ⟨info, rfl, run⟩ := run_printerInfo quiet exchange announced
      refine ⟨_, _, chosen (BasicCaptPrinter.run_getPrinterInfo_ok cached run),
        quiet.recorded _, rfl, rfl, rfl, rfl, ?_⟩
      intro event member
      cases List.mem_singleton.mp member
      exact infoRequest_answered

/-- Without a block size in the answer the page is not begun. -/
theorem throwsFirst_of_refused [Source Fault UInt8 σ] (quiet : this.Quiet)
    (exchange : Exchange infoRequest (infoAnswer this.printer.stream))
    (refused : this.printer.announcedBlockSize = none) (fuel : Nat) (params : PageParams)
    : ThrowsFirst this.printer.stream.log ((writeVideoData fuel params 0).run this) := by
  unfold BasicCaptPrinter.announcedBlockSize at refused
  cases cached : this.printer.cachedInfo with
  | some info =>
      rw [cached] at refused
      cases refused
  | none =>
      rw [cached] at refused
      obtain ⟨err, stream', run, logged⟩ := run_printerInfo_refused quiet exchange refused
      have thrown : (transferSize 0).run this
          = .error err (this.withStream stream') := by
        have asked := BasicCaptPrinter.run_getPrinterInfo_error cached run
        unfold transferSize
        rw [if_pos rfl]
        exact run_bind_error (run_zoom_error asked)
      refine ⟨err, this.withStream stream', _, run_bind_error thrown, logged, ?_⟩
      intro event member
      cases List.mem_singleton.mp member
      exact infoRequest_answered

end Call

-----------------------------------------------------------------------------------------
-- The contract
-----------------------------------------------------------------------------------------

namespace Call

section Contract

variable {σ : Type} [Source Fault UInt8 σ] {this middle : Call σ} {new : List Event}
  {blockSize : Nat} {video : List UInt8}

omit [Source Fault UInt8 σ] in
/-- The end of the page raises what its packets raise. -/
theorem raises_finish (value : Bool) : Raises Fault.Fits (finish value : Action (Call σ) Bool) :=
  .ite (fun _ => (raises_onStream (raises_send (Nat.zero_le _))).bind fun _ => .pure _)
    (fun _ => .pure _)

/-- A block size keeps to the contract if it is not zero and no block is too long. -/
theorem keepsContract {R : σ → List UInt8 → Prop} (source : IsTrickle R)
    (size : (transferSize 0).run this = .ok blockSize middle) (learns : this.Learns new middle)
    (positive : 1 ≤ blockSize) (given : R this.videoStream video)
    (small : ¬ Oversized blockSize this.videoStream) (fuel : Nat) (params : PageParams)
    : KeepsContract video this.printer.stream.log ((writeVideoData fuel params 0).run this) := by
  have blocks : GivesBlocks
      (fun s video => R s video ∧ (video ≠ [] → ¬ Oversized blockSize s)) blockSize :=
    givesBlocks_of_not_oversized source positive
  have given' : R middle.videoStream video
      ∧ (video ≠ [] → ¬ Oversized blockSize middle.videoStream) := by
    rw [learns.video]
    exact ⟨given, fun _ => small⟩
  constructor
  case whole =>
    intro last returned
    obtain ⟨body, outcome, this', _, sending, logs, run, _⟩ :=
      run_writeVideoData_blocks fuel params size blocks learns.quiet given'
    rw [run] at returned
    rcases outcome with err | value
    · cases returned
    · cases returned
      refine ⟨new ++ (beginPage params :: beginData :: body).map PageEvent.event, [], ?_, ?_⟩
      · rw [logs.log, learns.log]
        simp [closing, PageEvent.event, endOfPage]
      · rw [videoSent_append, videoSent_eq_nil learns.before, videoSent_events]
        exact sending.payloads.2 rfl
  case fits =>
    intro what last thrown
    obtain ⟨started, since, _, begun⟩ := run_begin fuel params size learns.quiet
    rw [← since.video] at given'
    rw [begun] at thrown
    cases loop : (videoLoop blockSize fuel fuel).run started with
    | error err sent =>
        rw [run_bind_error loop] at thrown
        cases thrown
        exact fits_videoLoop blocks fuel fuel given' loop what rfl
    | ok value sent =>
        rw [run_bind_ok loop] at thrown
        exact raises_finish value _ _ _ thrown what rfl

/-- In blocks of no bytes the page ends without the video. -/
theorem run_writeVideoData_zero (size : (transferSize 0).run this = .ok 0 middle)
    (learns : this.Learns new middle)
    (nothing : ∃ s', (Source.sgetn 0).run this.videoStream = .ok [] s') (fuel : Nat)
    (params : PageParams)
    : ∃ this', (writeVideoData (fuel + 1) params 0).run this = .ok true this'
        ∧ this'.printer.stream.log = this.printer.stream.log
          ++ (new ++ [beginPage params, beginData, endPage].map PageEvent.event) := by
  obtain ⟨started, since, quiet, begun⟩ := run_begin (fuel + 1) params size learns.quiet
  obtain ⟨s', taken⟩ := nothing
  have taken' : (Source.sgetn 0).run started.videoStream = .ok [] s' := by
    rw [since.video, learns.video]
    exact taken
  have loop : (videoLoop 0 (fuel + 1) (fuel + 1)).run started
      = .ok true { started with videoStream := s' } := by
    rw [videoLoop, run_bind_ok (run_onVideo taken')]
    rfl
  have quiet' : Quiet { started with videoStream := s' } := quiet
  obtain ⟨this', ended, since', _⟩ := run_finish quiet'
  refine ⟨this', ?_, ?_⟩
  · rw [begun, run_bind_ok loop]
    exact ended
  · have last : this'.printer.stream.log
        = started.printer.stream.log ++ [endPage].map PageEvent.event :=
      since'.log
    rw [last, since.log, learns.log]
    simp

/-- So it returns true though the video is lost. -/
theorem loses_zero (size : (transferSize 0).run this = .ok 0 middle)
    (learns : this.Learns new middle)
    (nothing : ∃ s', (Source.sgetn 0).run this.videoStream = .ok [] s') (more : video ≠ [])
    (fuel : Nat) (params : PageParams)
    : ¬ (ThrowsFirst this.printer.stream.log ((writeVideoData (fuel + 1) params 0).run this)
        ∨ KeepsContract video this.printer.stream.log
            ((writeVideoData (fuel + 1) params 0).run this)) := by
  obtain ⟨this', run, logged⟩ := run_writeVideoData_zero size learns nothing fuel params
  rw [run]
  rintro (⟨_, _, _, thrown, _⟩ | keeps)
  · cases thrown
  · obtain ⟨sent, answer, logged', rfl⟩ := keeps.whole this' rfl
    have split : (new ++ [beginPage params, beginData].map PageEvent.event)
          ++ [PageEvent.event endPage]
        = sent ++ [Event.flushed endOfPage [] answer] := by
      rw [← List.append_cancel_left (logged.symm.trans logged')]
      simp
    apply more
    rw [← (List.append_inj' split rfl).1, videoSent_append, videoSent_events,
      videoSent_eq_nil learns.before]
    rfl

/-- A block that is too long makes it throw after the page was begun. -/
theorem loses_oversized (size : (transferSize 0).run this = .ok blockSize middle)
    (learns : this.Learns new middle) (tooLong : Oversized blockSize this.videoStream)
    (never : this.stopToken.left = none)
    (answers : ∀ log, AnswersReady (this.printer.stream.device log statusRequest))
    (params : PageParams)
    : ∃ fuel, ¬ (ThrowsFirst this.printer.stream.log ((writeVideoData fuel params 0).run this)
        ∨ KeepsContract video this.printer.stream.log
            ((writeVideoData fuel params 0).run this)) := by
  obtain ⟨blocks, throws⟩ := run_videoLoop_oversized tooLong
  refine ⟨blocks + 1, ?_⟩
  obtain ⟨started, since, quiet, begun⟩ := run_begin (blocks + 1) params size learns.quiet
  have ready : middle.AlwaysReady := by
    refine ⟨learns.quiet, ?_, ?_⟩
    · rw [learns.token]
      exact never
    · rw [learns.device]
      exact answers
  obtain ⟨trace, this', logs, thrown⟩ := throws (since.video.trans learns.video)
    (ready.since since quiet) (Nat.succ_pos blocks) (Nat.lt_succ_self blocks)
  have run : (writeVideoData (blocks + 1) params 0).run this
      = .error (.overflowError "packet size overflow") this' := by
    rw [begun]
    exact run_bind_error thrown
  rintro (first | keeps)
  · have logged : this'.printer.stream.log = this.printer.stream.log
        ++ (new ++ ([beginPage params, beginData] ++ trace).map PageEvent.event) := by
      rw [(since.toLogs.trans logs).log, learns.log, List.append_assoc]
    exact not_throwsFirst run logged (List.mem_append_right new List.mem_cons_self) first
  · exact keeps.fits _ _ run

end Contract

end Call

/-- A device that is always ready, and that gives the block size when it is asked. -/
def announcingDevice (blockSize : UInt16) (_ : List Event) (chunk : List UInt8) : List UInt8 :=
  if Unanswered chunk then []
  else if chunk = infoRequest then
    PacketHeader.frame 0xA1A1 (List.replicate 6 0 ++ (littleBytes 2 blockSize.toNat ++ [0, 0]))
  else PacketHeader.frame 0xE0A0 [0]

/-- A printer that was not asked before. -/
def announcingPrinter (blockSize : UInt16) : BasicCaptPrinter :=
  { stream := { device := announcingDevice blockSize } }

section Ready

variable (blockSize : UInt16)

/-- The device answers every request once and no packet of a page. -/
theorem exchange_announcingDevice (log : List Event) (chunk : List UInt8)
    : Exchange chunk (announcingDevice blockSize log chunk) := by
  unfold announcingDevice
  constructor
  · intro unanswered
    exact if_pos unanswered
  · intro answered
    rw [if_neg answered]
    split
    · exact ⟨0xA1A1, _, by simp [littleBytes], rfl⟩
    · exact ⟨0xE0A0, [0], by decide, rfl⟩

/-- Nothing is unread when the call starts. -/
theorem announcingPrinter_quiet : (announcingPrinter blockSize).stream.Quiet :=
  ⟨rfl, rfl, rfl, serves_of_exchange (exchange_announcingDevice blockSize)⟩

/-- The printer announces the block size it was given. -/
theorem announcedBlockSize_announcingPrinter
    : (announcingPrinter blockSize).announcedBlockSize = some blockSize := by
  have answer : infoAnswer (announcingPrinter blockSize).stream
      = PacketHeader.frame 0xA1A1
          (List.replicate 6 0 ++ (littleBytes 2 blockSize.toNat ++ [0, 0])) := by
    change announcingDevice blockSize [] infoRequest = _
    rw [announcingDevice, if_neg infoRequest_answered, if_pos rfl]
  have size : ((List.replicate 6 (0 : UInt8)
      ++ (littleBytes 2 blockSize.toNat ++ [0, 0])).drop 6).take 2
        = littleBytes 2 blockSize.toNat := by
    rw [List.drop_left' List.length_replicate, List.take_left' (littleBytes_length 2 _)]
  change answeredBlockSize (infoAnswer (announcingPrinter blockSize).stream) = _
  rw [answer, answeredBlockSize_frame (by simp [littleBytes]), size,
    littleValue_littleBytes_of_lt blockSize.toNat_lt, UInt16.ofNat_toNat, if_pos]
  exact ⟨rfl, by simp [littleBytes]⟩

/-- It is always ready and always has room. -/
theorem answersReady_announcingPrinter (log : List Event)
    : AnswersReady ((announcingPrinter blockSize).stream.device log statusRequest) := by
  change AnswersReady (announcingDevice blockSize log statusRequest)
  rw [announcingDevice, if_neg statusRequest_answered, if_neg (by decide)]
  exact ⟨0, by decide, by decide, by decide⟩

end Ready

/-- A block size that is left to the printer keeps to the contract of a block size of its own
exactly if it is not zero and no block is longer than a packet takes. Where the printer's
answer has none the call throws before the page.
-/
theorem Call.keepsContract_iff {σ : Type} [Source Fault UInt8 σ] {videoStream : σ}
    {video : List UInt8} (source : Trickles videoStream video) (more : video ≠ [])
    (nothing : ∃ s', (Source.sgetn 0).run videoStream = .ok [] s') (announced : Option UInt16)
    : (∀ (fuel : Nat) (params : PageParams) (printer : BasicCaptPrinter)
          (stopToken : StopToken),
          printer.stream.Quiet →
          Exchange infoRequest (infoAnswer printer.stream) →
          printer.announcedBlockSize = announced →
          ThrowsFirst printer.stream.log
              ((writeVideoData fuel params 0).run ⟨printer, stopToken, videoStream⟩)
            ∨ KeepsContract video printer.stream.log
              ((writeVideoData fuel params 0).run ⟨printer, stopToken, videoStream⟩))
      ↔ ∀ blockSize, announced = some blockSize →
          blockSize ≠ 0 ∧ ¬ Oversized blockSize.toNat videoStream := by
  constructor
  · rintro keeps blockSize rfl
    have quiet := announcingPrinter_quiet blockSize
    have exchange := exchange_announcingDevice blockSize [] infoRequest
    have size := announcedBlockSize_announcingPrinter blockSize
    obtain ⟨new, middle, run, learns⟩ := @run_transferSize σ
      ⟨announcingPrinter blockSize, {}, videoStream⟩ blockSize quiet exchange size
    have params : PageParams := ⟨0, 0, 0, 0, false, false, 0, 0, 0, 0, 0, 0⟩
    constructor
    · rintro rfl
      exact loses_zero run learns nothing more 0 params (keeps 1 params _ _ quiet exchange size)
    · intro tooLong
      obtain ⟨fuel, loses⟩ := loses_oversized run learns tooLong rfl
        (answersReady_announcingPrinter blockSize) params
      exact loses (keeps fuel params _ _ quiet exchange size)
  · intro condition fuel params printer stopToken quiet exchange same
    cases announced with
    | none =>
        exact .inl (@throwsFirst_of_refused σ ⟨printer, stopToken, videoStream⟩ _ quiet exchange
          same fuel params)
    | some blockSize =>
        obtain ⟨positive, small⟩ := condition blockSize rfl
        obtain ⟨new, middle, run, learns⟩ := @run_transferSize σ
          ⟨printer, stopToken, videoStream⟩ blockSize quiet exchange same
        obtain ⟨R, trickle, given⟩ := source
        have least : 1 ≤ blockSize.toNat :=
          Nat.pos_of_ne_zero fun zero => positive (UInt16.toNat_inj.mp zero)
        exact .inr (keepsContract trickle run learns least given small fuel params)

/-- Three bytes in blocks of the two bytes that the printer gives. -/
theorem Call.keepsContract_iff_two
    : ThrowsFirst []
          ((writeVideoData 5 ⟨0, 0, 0, 0, false, false, 0, 0, 0, 0, 0, 0⟩ 0).run
            ⟨announcingPrinter 2, {}, (⟨[1, 2, 3]⟩ : MemoryStreambuf)⟩)
        ∨ KeepsContract [1, 2, 3] []
          ((writeVideoData 5 ⟨0, 0, 0, 0, false, false, 0, 0, 0, 0, 0, 0⟩ 0).run
            ⟨announcingPrinter 2, {}, (⟨[1, 2, 3]⟩ : MemoryStreambuf)⟩) := by
  have source : Trickles (⟨[1, 2, 3]⟩ : MemoryStreambuf) [1, 2, 3] :=
    (MemoryStreambuf.supplies [1, 2, 3]).trickles
  apply (keepsContract_iff source (by simp) ⟨_, rfl⟩ (some 2)).mpr _ 5 _ (announcingPrinter 2) {}
    (announcingPrinter_quiet 2) (exchange_announcingDevice 2 [] infoRequest)
    (announcedBlockSize_announcingPrinter 2)
  rintro blockSize ⟨⟩
  obtain ⟨R, trickle, given⟩ := source
  exact ⟨by decide, not_oversized trickle (by decide) (by decide) given⟩

/-- A printer that gives a block size of zero: the page ends without its video, and the call
returns true.
-/
theorem Call.keepsContract_not_zero
    : ¬ (ThrowsFirst []
          ((writeVideoData 5 ⟨0, 0, 0, 0, false, false, 0, 0, 0, 0, 0, 0⟩ 0).run
            ⟨announcingPrinter 0, {}, (⟨[1, 2, 3]⟩ : MemoryStreambuf)⟩)
        ∨ KeepsContract [1, 2, 3] []
          ((writeVideoData 5 ⟨0, 0, 0, 0, false, false, 0, 0, 0, 0, 0, 0⟩ 0).run
            ⟨announcingPrinter 0, {}, (⟨[1, 2, 3]⟩ : MemoryStreambuf)⟩)) := by
  obtain ⟨new, middle, run, learns⟩ := @run_transferSize _
    ⟨announcingPrinter 0, {}, (⟨[1, 2, 3]⟩ : MemoryStreambuf)⟩ 0 (announcingPrinter_quiet 0)
    (exchange_announcingDevice 0 [] infoRequest) (announcedBlockSize_announcingPrinter 0)
  exact loses_zero run learns ⟨_, rfl⟩ (by simp) 4 _

end Capt
