import Libcapt.Printer.Transmission

/-! The order of the packets of a page, for every video, every answer of the printer and
every point at which the caller asks to stop.
-/

namespace Capt

open Streams Protocol PageEvent

/-- An occurrence in two traces is in the second one, or in the first one. -/
theorem occurs_append {first second before after : List PageEvent} {event : PageEvent}
    (h : first ++ second = before ++ event :: after)
    : (∃ between, before = first ++ between ∧ second = between ++ event :: after)
      ∨ ∃ between, first = before ++ event :: between ∧ after = between ++ second := by
  rcases List.append_eq_append_iff.mp h with ⟨between, rfl, split⟩ | ⟨between, rfl, split⟩
  · exact .inl ⟨between, rfl, split⟩
  · cases between with
    | nil => exact .inl ⟨[], by simp, split.symm⟩
    | cons head between =>
        cases split
        exact .inr ⟨between, rfl, rfl⟩

/-- An occurrence behind an event is that event, or it is further on. -/
theorem occurs_cons {head event : PageEvent} {tail before after : List PageEvent}
    (h : head :: tail = before ++ event :: after)
    : (before = [] ∧ head = event ∧ tail = after)
      ∨ ∃ between, before = head :: between ∧ tail = between ++ event :: after := by
  cases before with
  | nil =>
      cases h
      exact .inl ⟨rfl, rfl, rfl⟩
  | cons first between =>
      cases h
      exact .inr ⟨between, rfl, rfl⟩

/-- The payloads of two traces in a row. -/
theorem payloads_append (first second : List PageEvent)
    : payloads (first ++ second) = payloads first ++ payloads second :=
  List.flatMap_append

/-- Waiting sends nothing of the video. -/
theorem payloads_waits {trace : List PageEvent} (waits : ∀ event ∈ trace, event.Waits)
    : payloads trace = [] := by
  apply List.flatMap_eq_nil_iff.mpr
  intro event member
  have wait := waits event member
  cases event with
  | asked answer => rfl
  | polled stop => rfl
  | beginPage params => cases wait
  | beginData => cases wait
  | videoData data => cases wait
  | endPage => cases wait

/-- A wait sends no packet of the page. -/
theorem PageEvent.Waits.not_sends {event : PageEvent} (wait : event.Waits) : ¬ event.Sends := by
  intro sends
  cases event with
  | videoData data => exact wait
  | endPage => exact wait
  | _ => exact sends

-----------------------------------------------------------------------------------------
-- The video in a log
-----------------------------------------------------------------------------------------

/-- The bytes of the video that a chunk brings. -/
def Event.videoData : Event → List UInt8
  | flushed chunk _ _ => if chunkOpcode chunk = 0xC0A0 then chunk.drop 4 else []
  | polled _ => []

/-- The concatenated payloads of the blocks in a log. -/
def videoSent (log : List Event) : List UInt8 := log.flatMap Event.videoData

/-- A packet that is not video data carries none. -/
theorem videoData_other {opcode : UInt16} (other : opcode.toNat ≠ 0xC0A0)
    (payload backlog answer : List UInt8)
    : (Event.flushed (PacketHeader.frame opcode payload) backlog answer).videoData = [] := by
  change (if chunkOpcode (PacketHeader.frame opcode payload) = 0xC0A0 then
    (PacketHeader.frame opcode payload).drop 4 else []) = []
  rw [chunkOpcode_frame, if_neg other]

/-- The video data of an event is its payload. -/
theorem PageEvent.videoData_event (event : PageEvent)
    : event.event.videoData = event.payload := by
  cases event with
  | beginPage params => exact videoData_other (by decide) _ _ _
  | beginData => exact videoData_other (by decide) _ _ _
  | asked answer => exact videoData_other (by decide) _ _ _
  | polled stop => rfl
  | videoData data =>
      change (if chunkOpcode (PacketHeader.frame 0xC0A0 data) = 0xC0A0 then
        (PacketHeader.frame 0xC0A0 data).drop 4 else []) = data
      rw [chunkOpcode_frame, drop_frame]
      rfl
  | endPage => exact videoData_other (by decide) _ _ _

/-- The video sent by a trace is its payloads. -/
theorem videoSent_events (trace : List PageEvent)
    : videoSent (trace.map PageEvent.event) = payloads trace := by
  induction trace with
  | nil => rfl
  | cons event trace ih =>
      rw [payloads, List.flatMap_cons, ← event.videoData_event]
      exact congrArg (event.event.videoData ++ ·) ih

-----------------------------------------------------------------------------------------
-- The wait before a block
-----------------------------------------------------------------------------------------

/-- The trace ends with a status answer that takes a block, and a question answered no. -/
def Guards (trace : List PageEvent) : Prop :=
  ∃ front answer status, trace = front ++ [asked answer, polled false]
    ∧ answeredStatus answer = some status ∧ status.Ready

/-- What guards the next packet is at the end of the trace, whatever stands before it. -/
theorem Guards.append {trace : List PageEvent} (h : Guards trace) (more : List PageEvent)
    : Guards (more ++ trace) := by
  obtain ⟨front, answer, status, rfl, answered, ready⟩ := h
  exact ⟨more ++ front, answer, status, (List.append_assoc ..).symm, answered, ready⟩

/-- Busy answers in a row. -/
def busyTurns (answers : List (List UInt8)) : List PageEvent :=
  answers.flatMap fun answer => [polled false, asked answer]

/-- The answer is a status that does not take a block yet. -/
def AnswersBusy (answer : List UInt8) : Prop :=
  ∃ status, answeredStatus answer = some status ∧ status.Busy

section Waits

variable {fuel polls : Nat} {trace : List PageEvent} {last : PollEnd}
  {outcome : Except Fault Bool}

/-- The wait for room is nothing but waiting. -/
theorem Polls.waits (h : Polls fuel trace last) : ∀ event ∈ trace, event.Waits := by
  induction h with
  | unfinished => exact fun _ member => absurd member List.not_mem_nil
  | stopped => simp [Waits]
  | refused _ _ => simp [Waits]
  | notReady _ _ => simp [Waits]
  | ready _ _ => simp [Waits]
  | busy _ _ _ ih => simpa [Waits] using ih

/-- Until the printer is ready nothing happens after which the page is given up. -/
theorem Polls.goesOn (h : Polls fuel trace last) (ready : last = .ready)
    : ∀ event ∈ trace, ¬ event.GivesUp := by
  induction h with
  | unfinished => cases ready
  | stopped => cases ready
  | refused _ _ => cases ready
  | notReady _ _ => cases ready
  | ready answered takes => simp [GivesUp, answered, takes.1]
  | busy answered busy _ ih => simpa [GivesUp, answered, busy.1] using ih ready

/-- The last answer before a block takes it. -/
theorem Polls.guards (h : Polls fuel trace last) (ready : last = .ready)
    : Guards (trace ++ [polled false]) := by
  induction h with
  | unfinished => cases ready
  | stopped => cases ready
  | refused _ _ => cases ready
  | notReady _ _ => cases ready
  | @ready fuel answer status answered takes =>
      exact ⟨[polled false], answer, status, rfl, answered, takes⟩
  | @busy fuel answer _ _ _ _ _ _ ih => exact (ih ready).append [polled false, asked answer]

/-- The loop throws when an answer is refused, and is cut off by busy answers alone. -/
theorem Polls.cut {err : Fault} (h : Polls fuel trace last) (thrown : last = .thrown err)
    : (∃ front answer, trace = front ++ [asked answer] ∧ answeredStatus answer = none)
      ∨ (err = .unfinished ∧ ∃ answers, answers.length = fuel
          ∧ (∀ answer ∈ answers, AnswersBusy answer) ∧ trace = busyTurns answers) := by
  induction h with
  | unfinished =>
      cases thrown
      exact .inr ⟨rfl, [], rfl, fun _ member => absurd member List.not_mem_nil, rfl⟩
  | stopped => cases thrown
  | @refused _ answer _ refused => exact .inl ⟨[polled false], answer, rfl, refused⟩
  | notReady _ _ => cases thrown
  | ready _ _ => cases thrown
  | @busy fuel answer status trace last answered busy _ ih =>
      rcases ih thrown with ⟨front, final, rfl, refused⟩ | ⟨rfl, answers, length, all, rfl⟩
      · exact .inl ⟨polled false :: asked answer :: front, final, rfl, refused⟩
      · refine .inr ⟨rfl, answer :: answers, congrArg Nat.succ length, ?_, rfl⟩
        intro other member
        rcases List.mem_cons.mp member with rfl | member
        · exact ⟨status, answered, busy⟩
        · exact all other member

/-- Nor does the wait before a block do anything else. -/
theorem Waiting.waits (h : Waiting polls trace outcome) : ∀ event ∈ trace, event.Waits := by
  have asks : ∀ {front : List PageEvent} (stop : Bool), (∀ event ∈ front, event.Waits) →
      ∀ event ∈ front ++ [polled stop], event.Waits := by
    intro front stop before event member
    rcases List.mem_append.mp member with earlier | now
    · exact before event earlier
    · rw [List.mem_singleton.mp now]
      trivial
  cases h with
  | ready wait => exact asks false wait.waits
  | late wait => exact asks true wait.waits
  | stopped wait => exact asks true wait.waits
  | notReady wait => exact wait.waits
  | thrown wait => exact wait.waits

/-- A wait that says to go on ends in a status with room. -/
theorem Waiting.guards (h : Waiting polls trace (.ok true)) : Guards trace := by
  cases h with
  | ready wait => exact wait.guards rfl

/-- In such a wait nobody gives up. -/
theorem Waiting.goesOn (h : Waiting polls trace (.ok true))
    : ∀ event ∈ trace, ¬ event.GivesUp := by
  cases h with
  | ready wait =>
      intro event member
      rcases List.mem_append.mp member with earlier | now
      · exact wait.goesOn rfl event earlier
      · rw [List.mem_singleton.mp now]
        exact Bool.false_ne_true

end Waits

section Page

variable {blockSize polls fuel : Nat} {video : List UInt8} {trace : List PageEvent}
  {outcome : Except Fault Bool}

/-- Between the begin of the data and the end of the page there are only status requests,
questions and blocks.
-/
def PageEvent.Inner : PageEvent → Prop
  | videoData _ => True
  | event => event.Waits

/-- A wait may stand between the begin and the end of a page. -/
theorem PageEvent.Waits.inner {event : PageEvent} (wait : event.Waits) : event.Inner := by
  cases event with
  | videoData data => trivial
  | _ => exact wait

/-- So may all that the loop over the blocks does, by induction on it. -/
theorem Sending.inner (h : Sending blockSize polls fuel video trace outcome)
    : ∀ event ∈ trace, event.Inner := by
  induction h with
  | unfinished => exact fun _ member => absurd member List.not_mem_nil
  | finished => exact fun _ member => absurd member List.not_mem_nil
  | left wait _ => exact fun event member => (wait.waits event member).inner
  | block wait _ _ ih =>
      intro event member
      rcases List.mem_append.mp member with earlier | later
      · exact (wait.waits event earlier).inner
      · rcases List.mem_cons.mp later with rfl | later
        · trivial
        · exact ih event later

/-- The payloads are a prefix of the video, and all of it where the loop ends with it. -/
theorem Sending.payloads (h : Sending blockSize polls fuel video trace outcome)
    : payloads trace <+: video ∧ (outcome = .ok true → payloads trace = video) := by
  induction h with
  | unfinished => exact ⟨List.nil_prefix, fun h => by cases h⟩
  | finished => exact ⟨List.nil_prefix, fun _ => rfl⟩
  | left wait gaveUp =>
      rw [payloads_waits wait.waits]
      exact ⟨List.nil_prefix, fun h => absurd h gaveUp⟩
  | @block fuel data rest trace later outcome wait _ _ ih =>
      have first : Capt.payloads (trace ++ videoData data :: later)
          = data ++ Capt.payloads later := by
        rw [payloads_append, payloads_waits wait.waits]
        rfl
      rw [first]
      exact ⟨(List.prefix_append_right_inj data).mpr ih.1, fun done => by rw [ih.2 done]⟩

/-- No block is empty or larger than the block size. -/
theorem Sending.sized (h : Sending blockSize polls fuel video trace outcome)
    {data : List UInt8} (sent : videoData data ∈ trace)
    : 1 ≤ data.length ∧ data.length ≤ blockSize := by
  induction h with
  | unfinished => exact absurd sent List.not_mem_nil
  | finished => exact absurd sent List.not_mem_nil
  | left wait _ => exact (wait.waits _ sent).elim
  | block wait size _ ih =>
      rcases List.mem_append.mp sent with earlier | later
      · exact (wait.waits _ earlier).elim
      · rcases List.mem_cons.mp later with now | later
        · cases now
          exact size
        · exact ih later

/-- Each block follows a status that takes it. -/
theorem Sending.guarded (h : Sending blockSize polls fuel video trace outcome)
    {before after : List PageEvent} {data : List UInt8}
    (split : trace = before ++ videoData data :: after)
    : Guards before := by
  induction h generalizing before with
  | unfinished => cases before <;> cases split
  | finished => cases before <;> cases split
  | left wait _ =>
      have waits := wait.waits (videoData data) (by rw [split]; simp)
      exact waits.elim
  | block wait _ _ ih =>
      rcases occurs_append split with ⟨between, rfl, rest⟩ | ⟨between, rfl, _⟩
      · rcases occurs_cons rest with ⟨rfl, _, _⟩ | ⟨behind, rfl, later⟩
        · rw [List.append_nil]
          exact wait.guards
        · exact ((ih later).append [videoData _]).append _
      · exact (wait.waits (videoData data) (by simp)).elim

/-- While the loop goes on to the end of the video it is not given up. -/
theorem Sending.goesOn (h : Sending blockSize polls fuel video trace outcome)
    (done : outcome = .ok true)
    : ∀ event ∈ trace, ¬ event.GivesUp := by
  induction h with
  | unfinished => cases done
  | finished => exact fun _ member => absurd member List.not_mem_nil
  | left _ gaveUp => exact absurd done gaveUp
  | block wait _ _ ih =>
      intro event member
      rcases List.mem_append.mp member with earlier | later
      · exact wait.goesOn event earlier
      · rcases List.mem_cons.mp later with rfl | later
        · exact not_false
        · exact ih done event later

/-- Nothing is sent after the page was given up. -/
theorem Sending.ended (h : Sending blockSize polls fuel video trace outcome)
    {before after : List PageEvent} {event : PageEvent} (split : trace = before ++ event :: after)
    (gaveUp : event.GivesUp)
    : ∀ later ∈ after, ¬ later.Sends := by
  induction h generalizing before with
  | unfinished => cases before <;> cases split
  | finished => cases before <;> cases split
  | left wait _ =>
      intro later member
      apply (wait.waits later _).not_sends
      rw [split]
      exact List.mem_append_right _ (List.mem_cons_of_mem _ member)
  | block wait _ _ ih =>
      rcases occurs_append split with ⟨between, rfl, rest⟩ | ⟨between, rfl, _⟩
      · rcases occurs_cons rest with ⟨rfl, rfl, _⟩ | ⟨behind, rfl, later⟩
        · exact gaveUp.elim
        · exact ih later
      · exact absurd gaveUp (wait.goesOn event (by simp))

/-- An exception comes from an answer; and the loops are cut off only by more blocks or busy
answers than they were given turns.
-/
theorem Sending.cut {err : Fault} (h : Sending blockSize polls fuel video trace outcome)
    (thrown : outcome = .error err)
    : (∃ front answer, trace = front ++ [asked answer] ∧ answeredStatus answer = none)
      ∨ (err = .unfinished ∧ (fuel ≤ video.length
          ∨ ∃ front answers, answers.length = polls
              ∧ (∀ answer ∈ answers, AnswersBusy answer)
              ∧ trace = front ++ busyTurns answers)) := by
  induction h with
  | unfinished =>
      cases thrown
      exact .inr ⟨rfl, .inl (Nat.zero_le _)⟩
  | finished => cases thrown
  | left wait gaveUp =>
      cases wait with
      | ready _ => cases thrown
      | late _ => cases thrown
      | stopped _ => cases thrown
      | notReady _ => cases thrown
      | thrown wait =>
          cases thrown
          rcases wait.cut rfl with refused | ⟨rfl, answers, length, busy, rfl⟩
          · exact .inl refused
          · exact .inr ⟨rfl, .inr ⟨[], answers, length, busy, rfl⟩⟩
  | @block fuel data rest trace later outcome _ size _ ih =>
      rcases ih thrown with ⟨front, answer, rfl, refused⟩ | ⟨rfl, many⟩
      · exact .inl ⟨trace ++ videoData data :: front, answer, by simp, refused⟩
      · refine .inr ⟨rfl, ?_⟩
        rcases many with blocks | ⟨front, answers, length, busy, rfl⟩
        · left
          rw [List.length_append]
          omega
        · exact .inr ⟨trace ++ videoData data :: front, answers, length, busy, by simp⟩

/-- The answer is a status that takes a block. -/
def AnswersReady (answer : List UInt8) : Prop :=
  ∃ status, answeredStatus answer = some status ∧ status.Ready

/-- On a printer that is always ready the polling loop takes one turn. -/
theorem Polls.ready_of_answers {last : PollEnd} (h : Polls fuel trace last)
    (turns : 0 < fuel) (noStop : polled true ∉ trace)
    (ready : ∀ answer, asked answer ∈ trace → AnswersReady answer)
    : last = .ready := by
  cases h with
  | unfinished => exact absurd turns (Nat.lt_irrefl 0)
  | stopped => exact absurd List.mem_cons_self noStop
  | @refused _ answer _ refused =>
      obtain ⟨status, answered, _⟩ := ready answer (by simp)
      rw [refused] at answered
      cases answered
  | @notReady _ answer _ answered set =>
      obtain ⟨status, same, takes⟩ := ready answer (by simp)
      cases answered.symm.trans same
      exact absurd takes.1 set
  | ready _ _ => rfl
  | @busy _ answer _ _ _ answered busy _ =>
      obtain ⟨status, same, takes⟩ := ready answer (by simp)
      cases answered.symm.trans same
      exact absurd takes.2 busy.2

/-- Without a stop and with answers that are ready the wait says to go on. -/
theorem Waiting.ready_of_answers (h : Waiting polls trace outcome) (turns : 0 < polls)
    (noStop : polled true ∉ trace)
    (ready : ∀ answer, asked answer ∈ trace → AnswersReady answer)
    : outcome = .ok true := by
  cases h with
  | ready _ => rfl
  | late _ => exact absurd (by simp) noStop
  | stopped _ => exact absurd (by simp) noStop
  | notReady wait => cases wait.ready_of_answers turns noStop ready
  | thrown wait => cases wait.ready_of_answers turns noStop ready

/-- On such a printer, and without a stop, the page is sent to its end. -/
theorem Sending.completes (h : Sending blockSize polls fuel video trace outcome)
    (turns : 0 < polls) (blocks : video.length < fuel) (noStop : polled true ∉ trace)
    (ready : ∀ answer, asked answer ∈ trace → AnswersReady answer)
    : outcome = .ok true := by
  induction h with
  | unfinished => exact absurd blocks (Nat.not_lt_zero _)
  | finished => rfl
  | left wait gaveUp => exact wait.ready_of_answers turns noStop ready
  | @block fuel data rest trace later outcome _ size _ ih =>
      apply ih
      · rw [List.length_append] at blocks
        omega
      · exact fun member => noStop (by simp [member])
      · exact fun answer member => ready answer (by simp [member])

end Page

/-- What is sent for a page, where `trace` is all that happens until the function ends with
`outcome`.
-/
structure Transmission (fuel : Nat) (params : PageParams) (blockSize : Nat)
    (video : List UInt8) (trace : List PageEvent) (outcome : Except Fault Bool) : Prop where
  order
    : ∃ body, (∀ event ∈ body, event.Inner)
        ∧ trace = beginPage params :: beginData :: (body ++ Call.closing outcome)
  guarded : ∀ before data after, trace = before ++ videoData data :: after → Guards before
  sized : ∀ data, videoData data ∈ trace → 1 ≤ data.length ∧ data.length ≤ blockSize
  isPrefix : payloads trace <+: video
  returned : outcome = .ok true ↔ endPage ∈ trace
  whole : outcome = .ok true → payloads trace = video
  ended
    : ∀ before event after, trace = before ++ event :: after → event.GivesUp →
        ∀ later ∈ after, ¬ later.Sends
  cut
    : ∀ err, outcome = .error err →
        (∃ front answer, trace = front ++ [asked answer] ∧ answeredStatus answer = none)
          ∨ (err = .unfinished ∧ (fuel ≤ video.length
              ∨ ∃ front answers, answers.length = fuel
                  ∧ (∀ answer ∈ answers, AnswersBusy answer)
                  ∧ trace = front ++ busyTurns answers))

/-- A call that does not succeed does not end the page. -/
theorem closing_of_ne {outcome : Except Fault Bool} (other : outcome ≠ .ok true)
    : Call.closing outcome = [] := by
  rcases outcome with err | _ | _
  · rfl
  · rfl
  · exact absurd rfl other

/-- What is neither the begin nor the end of the page is in its body. -/
theorem occurs_page {params : PageParams} {body before after : List PageEvent}
    {outcome : Except Fault Bool} {event : PageEvent} (inner : event.Inner)
    (split
      : beginPage params :: beginData :: (body ++ Call.closing outcome)
        = before ++ event :: after)
    : ∃ front rest, before = [beginPage params, beginData] ++ front
        ∧ body = front ++ event :: rest ∧ after = rest ++ Call.closing outcome := by
  rcases occurs_cons split with ⟨_, rfl, _⟩ | ⟨begun, rfl, started⟩
  · exact inner.elim
  rcases occurs_cons started with ⟨_, rfl, _⟩ | ⟨front, rfl, inside⟩
  · exact inner.elim
  rcases occurs_append inside with ⟨between, rfl, last⟩ | ⟨rest, rfl, rfl⟩
  · by_cases done : outcome = .ok true
    · rw [done] at last
      rcases occurs_cons last with ⟨_, rfl, _⟩ | ⟨behind, _, nothing⟩
      · exact inner.elim
      · cases behind <;> cases nothing
    · rw [closing_of_ne done] at last
      cases between <;> cases last
  · exact ⟨front, rest, rfl, rfl, rfl⟩

/-- Giving up may stand inside a page. -/
theorem PageEvent.GivesUp.inner {event : PageEvent} (gaveUp : event.GivesUp) : event.Inner := by
  cases event with
  | asked answer => trivial
  | polled stop => trivial
  | videoData data => trivial
  | beginPage params => exact gaveUp
  | beginData => exact gaveUp
  | endPage => exact gaveUp

/-- The packets around the video carry none of it. -/
theorem payloads_page (params : PageParams) (body : List PageEvent)
    (outcome : Except Fault Bool)
    : payloads (beginPage params :: beginData :: (body ++ Call.closing outcome))
      = payloads body := by
  have last : payloads (Call.closing outcome) = [] := by
    by_cases done : outcome = .ok true
    · rw [done]
      rfl
    · rw [closing_of_ne done]
      rfl
  have whole := payloads_append body (Call.closing outcome)
  rw [last, List.append_nil] at whole
  exact whole

/-- The loop inside a page is the transmission of that page. -/
theorem Sending.ofPage {fuel blockSize : Nat} {video : List UInt8}
    {body : List PageEvent} {outcome : Except Fault Bool}
    (h : Sending blockSize fuel fuel video body outcome) (params : PageParams)
    : Transmission fuel params blockSize video
        (beginPage params :: beginData :: (body ++ Call.closing outcome)) outcome := by
  have member : ∀ {event : PageEvent}, event.Inner →
      event ∈ beginPage params :: beginData :: (body ++ Call.closing outcome) →
      event ∈ body := by
    intro event inner found
    obtain ⟨before, after, split⟩ := List.append_of_mem found
    obtain ⟨front, rest, _, rfl, _⟩ := occurs_page inner split
    simp
  constructor
  case order => exact ⟨body, h.inner, rfl⟩
  case guarded =>
    intro before data after split
    have block : (videoData data).Inner := trivial
    obtain ⟨front, rest, rfl, inside, _⟩ := occurs_page block split
    exact (h.guarded inside).append _
  case sized =>
    intro data sent
    have block : (videoData data).Inner := trivial
    exact h.sized (member block sent)
  case isPrefix =>
    rw [payloads_page]
    exact h.payloads.1
  case returned =>
    constructor
    · rintro rfl
      simp [Call.closing]
    · intro sent
      by_contra other
      rw [closing_of_ne other, List.append_nil] at sent
      simp only [List.mem_cons, reduceCtorEq, false_or] at sent
      exact h.inner endPage sent
  case whole =>
    rw [payloads_page]
    exact h.payloads.2
  case ended =>
    intro before event after split gaveUp
    obtain ⟨front, rest, rfl, inside, rfl⟩ := occurs_page gaveUp.inner split
    have goesOn : outcome ≠ .ok true := by
      intro done
      exact h.goesOn done event (by rw [inside]; simp) gaveUp
    rw [closing_of_ne goesOn, List.append_nil]
    exact h.ended inside gaveUp
  case cut =>
    intro err thrown
    have none : Call.closing outcome = [] := closing_of_ne (by rw [thrown]; exact nofun)
    rw [none, List.append_nil]
    rcases h.cut thrown with ⟨front, answer, rfl, refused⟩ | ⟨rfl, blocks | turns⟩
    · exact .inl ⟨beginPage params :: beginData :: front, answer, rfl, refused⟩
    · exact .inr ⟨rfl, .inl blocks⟩
    · obtain ⟨front, answers, length, busy, rfl⟩ := turns
      exact .inr ⟨rfl, .inr ⟨beginPage params :: beginData :: front, answers, length, busy, rfl⟩⟩

/-- For every video, block size, answers of the printer and point at which the caller asks to
stop, `WriteVideoData` sends the page in order: each block after a status that takes it, the
blocks one after another, and the end exactly when it returns true, after the whole video.
-/
theorem Call.transmission {σ : Type} [Source Fault UInt8 σ] (fuel : Nat) (params : PageParams)
    {blockSize : Nat} (positive : 1 ≤ blockSize) (fits : blockSize ≤ 65531) {this : Call σ}
    {video : List UInt8} (quiet : this.printer.stream.Quiet)
    (source : Trickles this.videoStream video)
    : ∃ trace outcome this',
        (attempt (writeVideoData fuel params blockSize)).run this = .ok outcome this'
        ∧ this'.printer.stream.log = this.printer.stream.log ++ trace.map PageEvent.event
        ∧ Transmission fuel params blockSize video trace outcome := by
  obtain ⟨R, trickle, given⟩ := source
  obtain ⟨body, outcome, this', _, sending, logs, run, _⟩ :=
    run_writeVideoData trickle fuel params positive fits quiet given
  refine ⟨_, outcome, this', ?_, logs.log, sending.ofPage params⟩
  cases outcome with
  | ok value => exact run_attempt_ok run
  | error err => exact run_attempt_error run

/-- Three bytes in blocks of two, on a printer that is busy once and then ready. -/
theorem Call.transmission_threeBytes
    : ∃ trace outcome this',
        (attempt (writeVideoData 5 ⟨0, 0, 0, 0, false, false, 0, 0, 0, 0, 0, 0⟩ 2)).run
            ({
              printer := {
                stream := {
                  device := fun log chunk =>
                    if Unanswered chunk then []
                    else PacketHeader.frame 0xE0A0 [if log.length < 4 then 8 else 0]
                }
              }
              stopToken := {}
              videoStream := ⟨[1, 2, 3]⟩
            } : Call MemoryStreambuf)
          = .ok outcome this'
        ∧ this'.printer.stream.log = [] ++ trace.map PageEvent.event
        ∧ Transmission 5 ⟨0, 0, 0, 0, false, false, 0, 0, 0, 0, 0, 0⟩ 2 [1, 2, 3] trace
            outcome := by
  refine transmission 5 _ (by decide) (by decide) ⟨rfl, rfl, rfl, ?_⟩
    (MemoryStreambuf.supplies [1, 2, 3]).trickles
  apply serves_of_packet
  simp

end Capt
