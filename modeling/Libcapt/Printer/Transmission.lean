import Libcapt.Printer.PageExchange

/-! What `WriteVideoData` sends, and when, whatever the printer answers and wherever the
caller asks to stop.
-/

namespace Capt

open Streams Protocol

/-- The printer takes a block: it is ready, and its image data is not busy. -/
def BasicStatus.Ready (status : BasicStatus) : Prop :=
  status &&& notReady = 0 ∧ status &&& imDataBusy = 0

/-- The printer is ready, and cannot take a block yet. -/
def BasicStatus.Busy (status : BasicStatus) : Prop :=
  status &&& notReady = 0 ∧ status &&& imDataBusy ≠ 0

/-- What happens while a page is sent: a packet of the page, a request for the basic status
with its answer, or the caller being asked whether to stop.
-/
inductive PageEvent where
  | beginPage (params : PageParams)
  | beginData
  | asked (answer : List UInt8)
  | polled (stop : Bool)
  | videoData (data : List UInt8)
  | endPage

namespace PageEvent

/-- What is seen of it on the stream. -/
def event : PageEvent → Event
  | beginPage params => .flushed (PacketHeader.frame 0xD0A0 (pageHeader params).payload) [] []
  | beginData => .flushed (PacketHeader.frame 0xD0A1 []) [] []
  | asked answer => .flushed statusRequest [] answer
  | polled stop => .polled stop
  | videoData data => .flushed (PacketHeader.frame 0xC0A0 data) [] []
  | endPage => .flushed (PacketHeader.frame 0xD0A2 []) [] []

/-- Of the page's content and its end. -/
def Sends : PageEvent → Prop
  | videoData _ => True
  | endPage => True
  | _ => False

/-- Of the polling loop and the question after it. -/
def Waits : PageEvent → Prop
  | asked _ => True
  | polled _ => True
  | _ => False

/-- After it the page is given up: the printer is not ready, the answer is refused with an
exception, or the caller asked to stop.
-/
def GivesUp : PageEvent → Prop
  | asked answer =>
    match answeredStatus answer with
    | none => True
    | some status => status &&& BasicStatus.notReady ≠ 0
  | polled stop => stop
  | _ => False

/-- The video that an event carries. -/
def payload : PageEvent → List UInt8
  | videoData data => data
  | _ => []

end PageEvent

open PageEvent

/-- The concatenated payloads of the blocks. -/
def payloads (trace : List PageEvent) : List UInt8 := trace.flatMap PageEvent.payload

-----------------------------------------------------------------------------------------
-- The polling loop
-----------------------------------------------------------------------------------------

/-- How the polling loop is left. -/
inductive PollEnd where
  | ready
  | stopped
  | notReady
  | thrown (err : Fault)

/-- What the loop makes of it: it goes on to the block, or gives up. -/
def PollEnd.outcome : PollEnd → Except Fault Bool
  | ready => .ok true
  | stopped => .ok true
  | notReady => .ok false
  | thrown err => .error err

/-- What happens in the polling loop, in at most the given number of turns. -/
inductive Polls : Nat → List PageEvent → PollEnd → Prop
  | unfinished : Polls 0 [] (.thrown .unfinished)
  | stopped {fuel : Nat} : Polls (fuel + 1) [polled true] .stopped
  | refused {fuel : Nat} {answer : List UInt8} (err : Fault)
    (refused : answeredStatus answer = none)
    : Polls (fuel + 1) [polled false, asked answer] (.thrown err)
  | notReady {fuel : Nat} {answer : List UInt8} {status : BasicStatus}
    (answered : answeredStatus answer = some status)
    (set : status &&& BasicStatus.notReady ≠ 0)
    : Polls (fuel + 1) [polled false, asked answer] .notReady
  | ready {fuel : Nat} {answer : List UInt8} {status : BasicStatus}
    (answered : answeredStatus answer = some status) (ready : status.Ready)
    : Polls (fuel + 1) [polled false, asked answer] .ready
  | busy {fuel : Nat} {answer : List UInt8} {status : BasicStatus} {trace : List PageEvent}
    {last : PollEnd} (answered : answeredStatus answer = some status) (busy : status.Busy)
    (tail : Polls fuel trace last)
    : Polls (fuel + 1) (polled false :: asked answer :: trace) last

namespace Call

variable {σ α : Type} {this this' : Call σ}

/-- The stream of the call's printer is quiet. -/
def Quiet (this : Call σ) : Prop := this.printer.stream.Quiet

/-- The call with another stream. -/
def withStream (this : Call σ) (stream : IOStream) : Call σ :=
  { this with printer := { this.printer with stream := stream } }

/-- What the stream does inside a call. -/
theorem run_onStream {action : Action IOStream α} {value : α} {stream' : IOStream}
    (h : action.run this.printer.stream = .ok value stream')
    : (onStream action).run this = .ok value (this.withStream stream') := by
  unfold onStream onPrinter BasicCaptPrinter.onStream
  exact run_zoom_ok (run_zoom_ok h)

/-- What it throws comes out of the call. -/
theorem run_onStream_error {action : Action IOStream α} {err : Fault} {stream' : IOStream}
    (h : action.run this.printer.stream = .error err stream')
    : (onStream action : Action (Call σ) α).run this = .error err (this.withStream stream') := by
  unfold onStream onPrinter BasicCaptPrinter.onStream
  exact run_zoom_error (run_zoom_error h)

/-- The call has come from another while `trace` happened: the stream has recorded it, and
it has the answers of the device; and a caller that never asks to stop has not asked.
-/
structure Logs (this : Call σ) (trace : List PageEvent) (this' : Call σ) : Prop where
  log
    : this'.printer.stream.log = this.printer.stream.log ++ trace.map PageEvent.event
  device : this'.printer.stream.device = this.printer.stream.device
  answers
    : ∀ answer, asked answer ∈ trace →
        ∃ log, answer = this.printer.stream.device log statusRequest
  token
    : this.stopToken.left = none → this'.stopToken.left = none ∧ PageEvent.polled true ∉ trace

/-- Reading the video is not seen on the printer's stream. -/
theorem Logs.read {videoStream' : σ} {trace : List PageEvent}
    (h : Logs { this with videoStream := videoStream' } trace this')
    : this.Logs trace this' :=
  ⟨h.log, h.device, h.answers, h.token⟩

/-- The video stream is as it was before, too. -/
structure Since (this : Call σ) (trace : List PageEvent) (this' : Call σ) : Prop
    extends this.Logs trace this' where
  video : this'.videoStream = this.videoStream

/-- Nothing has happened. -/
theorem Logs.refl (this : Call σ) : this.Logs [] this where
  log := (List.append_nil _).symm
  device := rfl
  answers := fun _ member => absurd member List.not_mem_nil
  token := fun never => ⟨never, List.not_mem_nil⟩

/-- Two traces in a row. -/
theorem Logs.trans {middle : Call σ} {first second : List PageEvent}
    (hf : this.Logs first middle) (hs : middle.Logs second this')
    : this.Logs (first ++ second) this' where
  log := by rw [hs.log, hf.log, List.map_append, List.append_assoc]
  device := hs.device.trans hf.device
  answers := by
    intro answer member
    rcases List.mem_append.mp member with earlier | later
    · exact hf.answers answer earlier
    · obtain ⟨log, same⟩ := hs.answers answer later
      exact ⟨log, same.trans (by rw [hf.device])⟩
  token := by
    intro never
    obtain ⟨still, before⟩ := hf.token never
    obtain ⟨last, after⟩ := hs.token still
    exact ⟨last, fun member => (List.mem_append.mp member).elim before after⟩

/-- Nothing has happened. -/
theorem Since.refl (this : Call σ) : this.Since [] this :=
  ⟨.refl this, rfl⟩

/-- Two traces in a row. -/
theorem Since.trans {middle : Call σ} {first second : List PageEvent}
    (hf : this.Since first middle) (hs : middle.Since second this')
    : this.Since (first ++ second) this' :=
  ⟨hf.toLogs.trans hs.toLogs, hs.video.trans hf.video⟩

/-- A packet of the page is no answer and no question. -/
theorem since_packet (this : Call σ) {event : PageEvent} (packet : ¬ event.Waits)
    : this.Since [event] (this.withStream (this.printer.stream.recorded event.event)) where
  log := rfl
  device := rfl
  answers := by
    intro answer member
    cases List.mem_singleton.mp member
    exact absurd trivial packet
  token := by
    intro never
    refine ⟨never, fun member => ?_⟩
    cases List.mem_singleton.mp member
    exact absurd trivial packet
  video := rfl

/-- The request for the basic status is answered by the device. -/
theorem since_asked (this : Call σ) {answer : List UInt8} {stream' : IOStream}
    (given : answer = this.printer.stream.device this.printer.stream.log statusRequest)
    (logged
      : Logged id (this.printer.stream.log ++ [.flushed statusRequest [] answer])
          this.printer.stream.device stream')
    : this.Since [.asked answer] (this.withStream stream') where
  log := logged.1
  device := logged.2
  answers := by
    intro other member
    cases List.mem_singleton.mp member
    exact ⟨_, given⟩
  token := fun never => ⟨never, fun member => by cases List.mem_singleton.mp member⟩
  video := rfl

/-- A poll of the stop token leaves the stream quiet. -/
theorem Quiet.polled (quiet : this.Quiet) (stop : Bool) : (this.polled stop).Quiet :=
  IOStream.Quiet.recorded quiet (.polled stop)

/-- The caller is asked, and goes on to say yes once it does. -/
theorem run_stopRequested (this : Call σ)
    : ∃ stop, stopRequested.run this = .ok stop (this.polled stop)
        ∧ this.Since [.polled stop] (this.polled stop)
        ∧ (stop = true ↔ this.stopToken.left = some 0) := by
  refine ⟨this.stopToken.left == some 0, rfl, ⟨⟨rfl, rfl, ?_, ?_⟩, rfl⟩, beq_iff_eq⟩
  · intro answer member
    cases List.mem_singleton.mp member
  · intro never
    constructor
    · change this.stopToken.left.map Nat.pred = none
      rw [never]
      rfl
    · rw [never]
      exact fun member => by cases List.mem_singleton.mp member

/-- Once it has said yes the caller says so again. -/
theorem run_stopRequested_again (stopped : this.stopToken.left = some 0)
    : stopRequested.run this = .ok true (this.polled true)
      ∧ this.Since [.polled true] (this.polled true)
      ∧ (this.polled true).stopToken.left = some 0 := by
  obtain ⟨stop, run, since, asks⟩ := run_stopRequested this
  cases asks.mpr stopped
  refine ⟨run, since, ?_⟩
  change this.stopToken.left.map Nat.pred = some 0
  rw [stopped]
  rfl

/-- The request for the basic status, and its answer. -/
theorem run_status (quiet : this.Quiet)
    : ∃ answer this', this.Since [asked answer] this'
        ∧ ((answeredStatus answer = none
              ∧ ∃ err, (onStream (pcrGetBasicStatus false)).run this = .error err this')
            ∨ (∃ status, answeredStatus answer = some status
                ∧ (onStream (pcrGetBasicStatus false)).run this = .ok (status, none) this'
                ∧ this'.Quiet ∧ this'.stopToken = this.stopToken)) := by
  cases answered : answeredStatus
      (this.printer.stream.device this.printer.stream.log statusRequest) with
  | none =>
      obtain ⟨err, stream', run, logged⟩ := run_basicStatus_refused quiet answered
      exact ⟨_, this.withStream stream', since_asked this rfl logged,
        .inl ⟨answered, err, run_onStream_error run⟩⟩
  | some status =>
      have run := run_basicStatus quiet answered
      generalize given : this.printer.stream.device this.printer.stream.log statusRequest = answer
        at answered run
      exact ⟨answer,
        this.withStream (this.printer.stream.recorded (.flushed statusRequest [] answer)),
        since_asked this given.symm ⟨rfl, rfl⟩,
        .inr ⟨status, answered, run_onStream run, quiet.recorded _, rfl⟩⟩

/-- The polling loop, by induction on the turns that it may take. -/
theorem run_pollStatus (fuel : Nat) (quiet : this.Quiet)
    : ∃ trace last this', Polls fuel trace last ∧ this.Since trace this'
        ∧ (pollStatus fuel).run this = leaving this' last.outcome
        ∧ ((∃ value, last.outcome = .ok value) → this'.Quiet)
        ∧ (last = .stopped → this'.stopToken.left = some 0) := by
  induction fuel generalizing this with
  | zero =>
      refine ⟨[], .thrown .unfinished, this, .unfinished, .refl this, rfl, ?_, ?_⟩
      · rintro ⟨value, impossible⟩
        cases impossible
      · intro impossible
        cases impossible
  | succ fuel ih =>
      obtain ⟨stop, polls, since, asks⟩ := run_stopRequested this
      unfold pollStatus
      rw [run_bind_ok polls]
      cases stop with
      | true =>
          obtain ⟨_, _, again⟩ := run_stopRequested_again (asks.mp rfl)
          exact ⟨_, .stopped, _, .stopped, since, rfl,
            fun _ => quiet.polled true, fun _ => again⟩
      | false =>
          obtain ⟨answer, this', since', last⟩ := run_status (quiet.polled false)
          have both := since.trans since'
          rcases last with ⟨refused, err, run⟩ | ⟨status, answered, run, quiet', _⟩
          · refine ⟨_, .thrown err, this', .refused err refused, both, ?_, ?_, ?_⟩
            · rw [if_neg Bool.false_ne_true, run_bind_error run]
              rfl
            · rintro ⟨value, impossible⟩
              cases impossible
            · intro impossible
              cases impossible
          · rw [if_neg Bool.false_ne_true, run_bind_ok run]
            dsimp only
            by_cases set : status &&& BasicStatus.notReady = 0
            · by_cases busy : status &&& BasicStatus.imDataBusy = 0
              · refine ⟨_, .ready, this', .ready answered ⟨set, busy⟩, both, ?_,
                  fun _ => quiet', fun impossible => by cases impossible⟩
                rw [if_neg (not_not_intro set), if_pos busy]
                rfl
              · obtain ⟨trace, last, this'', polls', others, run', rest⟩ := ih quiet'
                refine ⟨_, last, this'', .busy answered ⟨set, busy⟩ polls', both.trans others,
                  ?_, rest⟩
                rw [if_neg (not_not_intro set), if_neg busy, run']
            · refine ⟨_, .notReady, this', .notReady answered set, both, ?_,
                fun _ => quiet', fun impossible => by cases impossible⟩
              rw [if_pos set]
              rfl

/-- A packet of the page is sent. -/
theorem run_packet (quiet : this.Quiet) {opcode : UInt16} {payload : List UInt8}
    (fits : payload.length ≤ 65531) (unanswered : opcode.toNat ∈ [0xD0A0, 0xD0A1, 0xD0A2, 0xC0A0])
    {event : PageEvent} (seen : event.event = .flushed (PacketHeader.frame opcode payload) [] [])
    (packet : ¬ event.Waits)
    : ∃ this', (onStream (do
          PacketHeader.writeTo opcode payload
          IOStream.flush)).run this = .ok () this'
        ∧ this.Since [event] this' ∧ this'.Quiet := by
  refine ⟨this.withStream (this.printer.stream.recorded event.event), ?_,
    since_packet this packet, quiet.recorded _⟩
  rw [seen]
  exact run_onStream (run_send quiet fits unanswered)

end Call

-----------------------------------------------------------------------------------------
-- The loop over the blocks
-----------------------------------------------------------------------------------------

/-- What happens before a block is sent: the polling loop and the question after it. It
gives true where the block is to be sent.
-/
inductive Waiting (polls : Nat) : List PageEvent → Except Fault Bool → Prop
  | ready {trace : List PageEvent} (wait : Polls polls trace .ready)
    : Waiting polls (trace ++ [polled false]) (.ok true)
  | late {trace : List PageEvent} (wait : Polls polls trace .ready)
    : Waiting polls (trace ++ [polled true]) (.ok false)
  | stopped {trace : List PageEvent} (wait : Polls polls trace .stopped)
    : Waiting polls (trace ++ [polled true]) (.ok false)
  | notReady {trace : List PageEvent} (wait : Polls polls trace .notReady)
    : Waiting polls trace (.ok false)
  | thrown {trace : List PageEvent} {err : Fault} (wait : Polls polls trace (.thrown err))
    : Waiting polls trace (.error err)

/-- What happens between the begin of the data and the end of the page while `video` is
sent, in at most the given number of blocks, and how the loop is left.
-/
inductive Sending (blockSize polls : Nat)
    : Nat → List UInt8 → List PageEvent → Except Fault Bool → Prop
  | unfinished {video : List UInt8} : Sending blockSize polls 0 video [] (.error .unfinished)
  | finished {fuel : Nat} : Sending blockSize polls (fuel + 1) [] [] (.ok true)
  | left {fuel : Nat} {video : List UInt8} {trace : List PageEvent}
    {outcome : Except Fault Bool} (wait : Waiting polls trace outcome)
    (gaveUp : outcome ≠ .ok true)
    : Sending blockSize polls (fuel + 1) video trace outcome
  | block {fuel : Nat} {data rest : List UInt8} {trace later : List PageEvent}
    {outcome : Except Fault Bool} (wait : Waiting polls trace (.ok true))
    (size : 1 ≤ data.length ∧ data.length ≤ blockSize)
    (tail : Sending blockSize polls fuel rest later outcome)
    : Sending blockSize polls (fuel + 1) (data ++ rest) (trace ++ videoData data :: later)
        outcome

namespace Call

variable {σ : Type} {this : Call σ}

/-- The wait before a block that is sent by `next`. -/
def waited (polls : Nat) (next : Action (Call σ) Bool) : Action (Call σ) Bool := do
  if ← pollStatus polls then
    if ← stopRequested then return false
    else next
  else return false

/-- The wait ends with the block to be sent, or it gives up without it. -/
theorem run_waited (polls : Nat) (quiet : this.Quiet) (next : Action (Call σ) Bool)
    : ∃ trace this', this.Since trace this'
        ∧ ((Waiting polls trace (.ok true) ∧ this'.Quiet
              ∧ (waited polls next).run this = next.run this')
            ∨ ∃ outcome, outcome ≠ .ok true ∧ Waiting polls trace outcome
                ∧ (waited polls next).run this = leaving this' outcome) := by
  obtain ⟨wait, last, middle, polls', since, run, keeps, again⟩ := run_pollStatus polls quiet
  unfold waited
  cases last with
  | ready =>
      obtain ⟨stop, asks, since', _⟩ := run_stopRequested middle
      rw [run_bind_ok run, if_pos rfl, run_bind_ok asks]
      refine ⟨wait ++ [.polled stop], _, since.trans since', ?_⟩
      cases stop with
      | true => exact .inr ⟨.ok false, fun h => (by cases h), .late polls', rfl⟩
      | false => exact .inl ⟨.ready polls', (keeps ⟨true, rfl⟩).polled false, rfl⟩
  | stopped =>
      obtain ⟨asks, since', _⟩ := run_stopRequested_again (again rfl)
      rw [run_bind_ok run, if_pos rfl, run_bind_ok asks]
      exact ⟨wait ++ [.polled true], _, since.trans since',
        .inr ⟨.ok false, fun h => (by cases h), .stopped polls', rfl⟩⟩
  | notReady =>
      rw [run_bind_ok run]
      exact ⟨wait, middle, since, .inr ⟨.ok false, fun h => (by cases h), .notReady polls', rfl⟩⟩
  | thrown err =>
      rw [run_bind_error run]
      exact ⟨wait, middle, since, .inr ⟨.error err, fun h => (by cases h), .thrown polls', rfl⟩⟩

variable [Source Fault UInt8 σ]

/-- In blocks of the given size the video is read piece by piece, each no longer than a packet
takes and empty only at the end.
-/
def GivesBlocks (R : σ → List UInt8 → Prop) (blockSize : Nat) : Prop :=
  ∀ {s video}, R s video →
    ∃ data rest s', video = data ++ rest ∧ data.length ≤ blockSize ∧ data.length ≤ 65531
      ∧ (data.length = 0 → rest = [])
      ∧ (Source.sgetn blockSize).run s = .ok data s' ∧ R s' rest

/-- A block is read, at most as long as the buffer and empty only at the end. -/
theorem readBlock {R : σ → List UInt8 → Prop} (source : IsTrickle R) {blockSize : Nat}
    (positive : 1 ≤ blockSize) {s : σ} {video : List UInt8} (given : R s video)
    : ∃ data rest s', video = data ++ rest ∧ data.length ≤ blockSize
        ∧ (data.length = 0 → rest = [])
        ∧ (Source.sgetn blockSize).run s = .ok data s' ∧ R s' rest := by
  obtain ⟨k, s', run, given', le, pos⟩ := source given blockSize positive
  refine ⟨video.take k, video.drop k, s', (List.take_append_drop k video).symm,
    (List.length_take_le k video).trans le, ?_, run, given'⟩
  intro empty
  by_cases nothing : video = []
  · rw [nothing, List.drop_nil]
  · have some := pos nothing
    have more := List.length_pos_iff.mpr nothing
    rw [List.length_take] at empty
    omega

/-- A source that trickles gives blocks of every size that fits. -/
theorem givesBlocks_of_trickle {R : σ → List UInt8 → Prop} (source : IsTrickle R)
    {blockSize : Nat} (positive : 1 ≤ blockSize) (fits : blockSize ≤ 65531)
    : GivesBlocks R blockSize := by
  intro s video given
  obtain ⟨data, rest, s', split, size, last⟩ := readBlock source positive given
  exact ⟨data, rest, s', split, size, size.trans fits, last⟩

/-- The loop over the blocks, by induction on the blocks that it may send. -/
theorem run_videoLoop {R : σ → List UInt8 → Prop} {blockSize : Nat}
    (blocks : GivesBlocks R blockSize) (polls fuel : Nat)
    {video : List UInt8} (quiet : this.Quiet) (given : R this.videoStream video)
    : ∃ trace outcome this' left,
        Sending blockSize polls fuel video trace outcome ∧ this.Logs trace this'
        ∧ (videoLoop blockSize polls fuel).run this = leaving this' outcome
        ∧ R this'.videoStream left
        ∧ (outcome = .ok true → this'.Quiet ∧ left = []) := by
  induction fuel generalizing this video with
  | zero =>
      exact ⟨[], .error .unfinished, this, video, .unfinished, .refl this, rfl,
        given, fun h => (by cases h)⟩
  | succ fuel ih =>
      obtain ⟨data, rest, videoStream', rfl, size, fits, ends, taken, given'⟩ := blocks given
      have read : (onVideo (Source.sgetn blockSize)).run this
          = .ok data { this with videoStream := videoStream' } := by
        unfold onVideo
        exact run_zoom_ok taken
      have quiet' : Quiet { this with videoStream := videoStream' } := quiet
      unfold videoLoop
      rw [run_bind_ok read]
      by_cases empty : data.length = 0
      · cases List.eq_nil_of_length_eq_zero empty
        cases ends rfl
        exact ⟨[], .ok true, { this with videoStream := videoStream' }, [], .finished,
          (Logs.refl _).read, rfl, given', fun _ => ⟨quiet', rfl⟩⟩
      · rw [if_neg empty]
        obtain ⟨wait, middle, since, last⟩ := run_waited polls quiet' (do
          onStream (icVideoData data)
          videoLoop blockSize polls fuel)
        have given'' : R middle.videoStream rest := by
          rw [since.video]
          exact given'
        rcases last with ⟨waiting, quiet'', run⟩ | ⟨outcome, gaveUp, waiting, run⟩
        · obtain ⟨sent, block, since', still⟩ :
              ∃ this', (onStream (icVideoData data)).run middle = .ok () this'
                ∧ middle.Since [videoData data] this' ∧ this'.Quiet :=
            run_packet quiet'' fits (by decide) rfl not_false
          have given₃ : R sent.videoStream rest := by
            rw [since'.video]
            exact given''
          obtain ⟨later, outcome, this', left, tail, logs, run', last⟩ := ih still given₃
          refine ⟨wait ++ videoData data :: later, outcome, this', left,
            .block waiting ⟨Nat.pos_of_ne_zero empty, size⟩ tail, ?_, ?_, last⟩
          · exact since.toLogs.read.trans (since'.toLogs.trans logs)
          · refine Eq.trans run ?_
            rw [run_bind_ok block, run']
        · exact ⟨wait, outcome, middle, rest, .left waiting gaveUp, since.toLogs.read, run, given'',
            fun h => absurd h gaveUp⟩

/-- The page is ended only where the function returns true. -/
def closing : Except Fault Bool → List PageEvent
  | .ok true => [endPage]
  | _ => []

/-- What follows the loop. -/
def finish (value : Bool) : Action (Call σ) Bool := do
  if value then
    onStream icEndPage
    return true
  else return false

omit [Source Fault UInt8 σ] in
/-- The end of the page, when all blocks were sent. -/
theorem run_finish (quiet : this.Quiet)
    : ∃ this', (finish true).run this = .ok true this' ∧ this.Since [endPage] this'
        ∧ this'.Quiet := by
  obtain ⟨this', packet, since, quiet'⟩ :
      ∃ this', (onStream icEndPage).run this = .ok () this'
        ∧ this.Since [endPage] this' ∧ this'.Quiet :=
    run_packet quiet (by decide) (by decide) rfl not_false
  refine ⟨this', ?_, since, quiet'⟩
  unfold finish
  rw [if_pos rfl, run_bind_ok packet]
  rfl

/-- The page is begun once the transfer block size is found. -/
theorem run_begin (fuel : Nat) (params : PageParams) {before : Call σ} {chosen blockSize : Nat}
    (size : (transferSize chosen).run before = .ok blockSize this) (quiet : this.Quiet)
    : ∃ this', this.Since [beginPage params, beginData] this' ∧ this'.Quiet
        ∧ (writeVideoData fuel params chosen).run before
          = (videoLoop blockSize fuel fuel >>= finish).run this' := by
  obtain ⟨begun, page, since₁, quiet₁⟩ :
      ∃ this', (onStream (icBeginPage params)).run this = .ok () this'
        ∧ this.Since [beginPage params] this' ∧ this'.Quiet :=
    run_packet quiet (pageHeader_fits params) (by decide) rfl not_false
  obtain ⟨started, data, since₂, quiet₂⟩ :
      ∃ this', (onStream icBeginData).run begun = .ok () this'
        ∧ begun.Since [beginData] this' ∧ this'.Quiet :=
    run_packet quiet₁ (by decide) (by decide) rfl not_false
  refine ⟨started, since₁.trans since₂, quiet₂, ?_⟩
  unfold writeVideoData
  rw [run_bind_ok size, run_bind_ok page, run_bind_ok data]
  rfl

/-- `WriteVideoData` once its transfer block size is found. -/
theorem run_writeVideoData_blocks {R : σ → List UInt8 → Prop} (fuel : Nat)
    (params : PageParams) {before : Call σ} {chosen blockSize : Nat}
    (size : (transferSize chosen).run before = .ok blockSize this)
    (blocks : GivesBlocks R blockSize) {video : List UInt8} (quiet : this.Quiet)
    (given : R this.videoStream video)
    : ∃ body outcome this' left,
        Sending blockSize fuel fuel video body outcome
        ∧ this.Logs (beginPage params :: beginData :: (body ++ closing outcome)) this'
        ∧ (writeVideoData fuel params chosen).run before = leaving this' outcome
        ∧ R this'.videoStream left
        ∧ (outcome = .ok true → this'.Quiet ∧ left = []) := by
  obtain ⟨started, since, quiet', begun⟩ := run_begin fuel params size quiet
  have given' : R started.videoStream video := by
    rw [since.video]
    exact given
  obtain ⟨body, outcome, sent, left, sending, logs, run, given'', last⟩ :=
    run_videoLoop blocks fuel fuel quiet' given'
  have logs' : this.Logs (beginPage params :: beginData :: body) sent :=
    since.toLogs.trans logs
  rw [begun]
  rcases outcome with err | value
  · refine ⟨body, .error err, sent, left, sending, ?_, run_bind_error run, given'', last⟩
    change this.Logs (beginPage params :: beginData :: (body ++ [])) sent
    rw [List.append_nil]
    exact logs'
  · rw [run_bind_ok run]
    cases value with
    | false =>
        refine ⟨body, .ok false, sent, left, sending, ?_, rfl, given'', last⟩
        change this.Logs (beginPage params :: beginData :: (body ++ [])) sent
        rw [List.append_nil]
        exact logs'
    | true =>
        obtain ⟨ended, packet, since₃, quiet₃⟩ := run_finish (last rfl).1
        refine ⟨body, .ok true, ended, left, sending, logs'.trans since₃.toLogs, packet, ?_,
          fun _ => ⟨quiet₃, (last rfl).2⟩⟩
        rw [since₃.video]
        exact given''

/-- The whole call is a transmission of the video. -/
theorem run_writeVideoData {R : σ → List UInt8 → Prop} (source : IsTrickle R) (fuel : Nat)
    (params : PageParams) {blockSize : Nat} (positive : 1 ≤ blockSize)
    (fits : blockSize ≤ 65531) {video : List UInt8} (quiet : this.Quiet)
    (given : R this.videoStream video)
    : ∃ body outcome this' left,
        Sending blockSize fuel fuel video body outcome
        ∧ this.Logs (beginPage params :: beginData :: (body ++ closing outcome)) this'
        ∧ (writeVideoData fuel params blockSize).run this = leaving this' outcome
        ∧ R this'.videoStream left
        ∧ (outcome = .ok true → this'.Quiet ∧ left = []) := by
  have size : (transferSize blockSize).run this = .ok blockSize this := by
    unfold transferSize
    rw [if_neg (Nat.ne_of_gt positive)]
    rfl
  exact run_writeVideoData_blocks fuel params size (givesBlocks_of_trickle source positive fits)
    quiet given

end Call

end Capt
