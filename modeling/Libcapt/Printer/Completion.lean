import Libcapt.Printer.Obedience
import Libcapt.Streams.Returns

/-! Every operation on a printer that obeys returns, and so does every wait for it and every page
that is sent to it.
-/

namespace Capt

open Streams Protocol

-----------------------------------------------------------------------------------------
-- Requests
-----------------------------------------------------------------------------------------

variable {device : List Event → List UInt8 → List UInt8} {K : List Event → Prop} {α : Type}

/-- A request returns where the device gives an answer to it. -/
theorem returns_request {opcode : UInt16} {payload : List UInt8}
    {answer : Action (Scope IOStream Unit) α} {decode : List UInt8 → Option α}
    (fits : payload.length ≤ 65531) (answered : Answered opcode) (reads : Reading answer decode)
    {V : α → List Event → Prop}
    (gives
      : ∀ log, K log →
          ∃ value,
            answerOf opcode decode (device log (PacketHeader.frame opcode payload)) = some value
            ∧ ∀ reply, V value (log ++ [.flushed (PacketHeader.frame opcode payload) [] reply]))
    : Returns (IOStream.Tells device K) (request opcode payload answer)
        (fun value => IOStream.Tells device (V value)) := by
  intro stream tells
  obtain ⟨value, given, holds⟩ := gives stream.log tells.log
  rw [← tells.device] at given
  obtain ⟨stream', run⟩ := (request_ok_iff tells.paired fits answered reads).mpr given
  have exchanged := exchanged_request tells.paired fits answered reads
  rw [run] at exchanged
  refine ⟨value, stream', run, exchanged.paired, exchanged.device.trans tells.device, ?_⟩
  rw [show stream'.log = _ from exchanged.log]
  exact holds _

/-- A packet of a page is sent where it is not too long. -/
theorem IOStream.returns_send {opcode : UInt16} {payload : List UInt8}
    (fits : payload.length ≤ 65531)
    (unanswered : opcode.toNat ∈ [0xD0A0, 0xD0A1, 0xD0A2, 0xC0A0]) {P : List Event → Prop}
    (sent : ∀ log answer, P log →
      K (log ++ [.flushed (PacketHeader.frame opcode payload) [] answer]))
    : Returns (Tells device P)
        (do
          PacketHeader.writeTo opcode payload
          IOStream.flush)
        (fun _ => Tells device K) := by
  intro stream tells
  have paired := paired_send opcode payload unanswered stream tells.paired
  have sends := run_send tells.paired.quiet fits unanswered
  rw [sends] at paired
  exact ⟨(), _, sends, paired, tells.device, sent _ _ tells.log⟩

namespace BasicCaptPrinter

/-- What returns on the stream returns in the printer. -/
theorem returns_onStream {P : IOStream → Prop} {Q : α → IOStream → Prop}
    {action : Action IOStream α} (h : Returns P action Q)
    : Returns (fun this => P this.stream) (onStream action) (fun a this => Q a this.stream) := by
  apply Returns.zoom
  intro this start
  apply h.from
  rintro stream rfl
  exact start

/-- A command that succeeds. -/
theorem succeeds_checked {command : Action IOStream UInt8} (paramName : String)
    {P : IOStream → Prop}
    (h : Returns P command (fun code => IOStream.Tells device fun log => code = 0 ∧ K log))
    : Returns (fun this => P this.stream) (checked command paramName)
        (fun _ => Tells device K) := by
  refine (returns_onStream h).bind fun code => Returns.ite ?_ ?_
  · rintro some this ⟨_, _, zero, _⟩
    exact absurd zero some
  · rintro _
    exact .pure fun this tells => tells.mono fun log => And.right

end BasicCaptPrinter

-----------------------------------------------------------------------------------------
-- The operations
-----------------------------------------------------------------------------------------

/-- What the printer was told, and that it is settled after `n` more requests. -/
structure Ordered (patience n : Nat) (reserved online : Bool) (log : List Event) : Prop where
  reserved : (orders log).reserved = reserved
  online : (orders log).online = online
  asked : patience ≤ (orders log).asked + n

/-- A status that such a printer gives. -/
def Gives (patience n : Nat) (reserved online : Bool) (status : ExtendedStatus) : Prop :=
  ∃ log, Ordered patience n reserved online log ∧ status.Obeys patience (orders log)

section Ordered

variable {patience n : Nat} {reserved online : Bool} {log : List Event}

/-- What a chunk changes. -/
theorem Ordered.flushed {n' : Nat} {reserved' online' : Bool} {chunk reply : List UInt8}
    {changed : Orders} (seen : (orders log).obey chunk = changed)
    (told : changed.reserved = reserved' ∧ changed.online = online')
    (asked : patience ≤ changed.asked + n')
    : Ordered patience n' reserved' online' (log ++ [.flushed chunk [] reply]) := by
  have last := (orders_flushed log chunk [] reply).trans seen
  constructor
  · rw [last]
    exact told.1
  · rw [last]
    exact told.2
  · rw [last]
    exact asked

/-- One more request for the extended status, which is one less to wait for. -/
theorem Ordered.ask (h : Ordered patience n reserved online log) (reply : List UInt8)
    : Ordered patience (n - 1) reserved online
        (log ++ [.flushed extendedStatusRequest [] reply]) := by
  apply Ordered.flushed (Orders.obey_ask _) ⟨h.reserved, h.online⟩
  have asked := h.asked
  change patience ≤ (orders log).asked + 1 + (n - 1)
  omega

/-- The commands that clear an error, and the request for the information, tell nothing. -/
theorem Ordered.other (h : Ordered patience n reserved online log) {opcode : UInt16}
    (other : opcode ∈ [0xE0A1, 0xE0A2, 0xE0A3, 0xE0A4, 0xA1A1]) (reply : List UInt8)
    : Ordered patience n reserved online (log ++ [.flushed (commandChunk opcode) [] reply]) :=
  .flushed (Orders.obey_other _ other) ⟨h.reserved, h.online⟩ h.asked

/-- Nor does a poll of the stop token. -/
theorem Ordered.polled (h : Ordered patience n reserved online log) (stop : Bool)
    : Ordered patience n reserved online (log ++ [.polled stop]) := by
  have same := orders_polled log stop
  exact ⟨same ▸ h.reserved, same ▸ h.online, same ▸ h.asked⟩

/-- With nothing more to wait for the printer is ready and does not print. -/
theorem Gives.settled {status : ExtendedStatus} (h : Gives patience 0 reserved online status)
    : status.ready = true ∧ status.isPrinting = false := by
  obtain ⟨log, ordered, obeys⟩ := h
  exact obeys.settled ordered.asked

/-- The status says what the printer was told. -/
theorem Gives.told {status : ExtendedStatus} (h : Gives patience n reserved online status)
    : status.unitReserved = reserved ∧ status.online = online := by
  obtain ⟨log, ordered, obeys⟩ := h
  exact ⟨obeys.reserved.trans ordered.reserved, obeys.online.trans ordered.online⟩

/-- No page was rejected. -/
theorem Gives.accepted {status : ExtendedStatus} (h : Gives patience n reserved online status)
    : status.videoDataError = false ∧ status.getReprintStatus = .none := by
  obtain ⟨log, ordered, obeys⟩ := h
  refine ⟨obeys.accepted.1, ?_⟩
  rw [ExtendedStatus.getReprintStatus, obeys.accepted.2]
  rfl

end Ordered

namespace BasicCaptPrinter

variable {patience n : Nat} {reserved online : Bool} {K' : List Event → Prop}

/-- The printer was told so, and nothing is unread on its stream. -/
abbrev Waits (device : List Event → List UInt8 → List UInt8) (patience n : Nat)
    (reserved online : Bool)
    : BasicCaptPrinter → Prop :=
  Tells device (Ordered patience n reserved online)

section Obeys

variable (obeys : Obeys patience device)

include obeys

/-- The status comes, and one request less is to be waited for. -/
theorem waits_getStatus
    : Returns (Waits device patience n reserved online) getStatus
        (fun status this => Gives patience n reserved online status
          ∧ this.Waits device patience (n - 1) reserved online) := by
  have asks : Returns (IOStream.Tells device (Ordered patience n reserved online))
      pcGetExtendedStatus
      (fun status => IOStream.Tells device fun log =>
        Gives patience n reserved online status
          ∧ Ordered patience (n - 1) reserved online log) := by
    apply returns_request (Nat.zero_le _) (by decide) reading_extendedStatus
    intro log ordered
    obtain ⟨status, answer, obeyed⟩ := obeys.status log
    exact ⟨status, answer, fun reply => ⟨⟨log, ordered, obeyed⟩, ordered.ask reply⟩⟩
  apply (returns_onStream asks).returning
  rintro status this ⟨paired, same, given, ordered⟩
  exact ⟨given, paired, same, ordered⟩

/-- A command of this kind succeeds on a printer that obeys. -/
theorem succeeds_command {opcode : UInt16} (command : opcode ∈ printerCommands)
    (paramName : String)
    (told : ∀ log reply, K log → K' (log ++ [.flushed (commandChunk opcode) [] reply]))
    : Returns (Tells device K) (checked (execCmd opcode) paramName) (fun _ => Tells device K') := by
  apply succeeds_checked
  apply returns_request (Nat.zero_le _) (printerCommands_answered _ command) reading_byte
  intro log holds
  exact ⟨0, obeys.command log opcode command, fun reply => ⟨rfl, told _ _ holds⟩⟩

/-- The unit is reserved. -/
theorem waits_reserveUnit
    : Returns (Waits device patience n reserved online) reserveUnit
        (fun _ => Waits device patience (n - 1) true online) := by
  have reserve : Returns (Waits device patience n reserved online)
      (checked pcReserveUnit "Protocol::PC_RESERVE_UNIT(this->stream)")
      (fun _ => Waits device patience n true online) :=
    succeeds_command obeys (by decide) _ fun log reply ordered =>
      .flushed (Orders.obey_reserve _) ⟨rfl, ordered.online⟩ ordered.asked
  refine reserve.bind fun _ => (waits_getStatus obeys).bind fun status => Returns.ite ?_ ?_
  · exact fun _ => .pure fun this waits => waits.2
  · intro free this waits
    exact absurd waits.1.told.1 free

/-- The commands that clear an error change nothing else. -/
theorem waits_clearError (status : Option ExtendedStatus)
    : Returns (Waits device patience n reserved online) (clearError status)
        (fun _ => Waits device patience n reserved online) := by
  have clears : ∀ {opcode : UInt16} (paramName : String),
      opcode ∈ [0xE0A1, 0xE0A2, 0xE0A3, 0xE0A4] →
      Returns (Waits device patience n reserved online) (checked (execCmd opcode) paramName)
        (fun _ => Waits device patience n reserved online) := by
    intro opcode paramName clears
    apply succeeds_command obeys (List.mem_append_right [0xA2A0, 0xE0A9, 0xE0A6] clears)
    exact fun log reply ordered => ordered.other (List.mem_append_left [0xA1A1] clears) reply
  have less : ∀ this : BasicCaptPrinter, this.Waits device patience (n - 1) reserved online →
      this.Waits device patience n reserved online := by
    intro this waits
    refine waits.mono fun log ordered => ⟨ordered.reserved, ordered.online, ?_⟩
    have asked := ordered.asked
    omega
  have resetEngine : ∀ ex : ExtendedStatus, Returns (Waits device patience n reserved online)
      (if ex.controller &&& ControllerStatus.engineCommError ≠ 0 then
        checked pcrResetEngine "Protocol::PCR_RESET_ENGINE(this->stream)"
      else return)
      (fun _ => Waits device patience n reserved online) := by
    intro ex
    exact .ite (fun _ => clears _ (by decide)) (fun _ => .pure fun _ => id)
  have commands : ∀ ex : ExtendedStatus, Returns (Waits device patience n reserved online)
      (do
        checked pcrClearError "Protocol::PCR_CLEAR_ERROR(this->stream)"
        checked pcrDiscardData "Protocol::PCR_DISCARD_DATA(this->stream)"
        if ex.misprint then
          checked pcrClearMisprint "Protocol::PCR_CLEAR_MISPRINT(this->stream)"
        if ex.controller &&& ControllerStatus.engineCommError ≠ 0 then
          checked pcrResetEngine "Protocol::PCR_RESET_ENGINE(this->stream)")
      (fun _ => Waits device patience n reserved online) := by
    intro ex
    refine (clears _ (by decide)).bind fun _ => (clears _ (by decide)).bind fun _ => ?_
    apply Returns.ite
    · exact fun _ => (clears _ (by decide)).bind fun _ => resetEngine ex
    · exact fun _ => resetEngine ex
  cases status with
  | none =>
      refine (waits_getStatus obeys).bind fun ex => (commands ex).from ?_
      exact fun this waits => less this waits.2
  | some ex => exact (Returns.pure fun _ => id).bind commands

/-- The printer is online, and says so. -/
theorem waits_goOnline (page : Nat)
    : Returns (Waits device patience n reserved online) (goOnline page)
        (fun isOnline this =>
          isOnline = true ∧ this.Waits device patience (n - 1) reserved true) := by
  have command : Returns (Waits device patience n reserved online)
      (checked (pcrGoOnline (UInt16.ofNat page)) "Protocol::PCR_GO_ONLINE(this->stream, page)")
      (fun _ => Waits device patience n reserved true) := by
    apply succeeds_checked
    apply returns_request (signedPayload_fits _) (by decide) reading_byte
    intro log ordered
    refine ⟨0, obeys.online log page, fun reply => ⟨rfl, ?_⟩⟩
    exact .flushed (Orders.obey_online _ _) ⟨ordered.reserved, rfl⟩ ordered.asked
  refine command.bind fun _ => (waits_getStatus obeys).bind fun status => .pure ?_
  exact fun this waits => ⟨waits.1.told.2, waits.2⟩

/-- The printer is offline. -/
theorem waits_goOffline
    : Returns (Waits device patience n reserved online) goOffline
        (fun _ => Waits device patience (n - 1) reserved false) := by
  have command : Returns (Waits device patience n reserved online)
      (checked pcrGoOffline "Protocol::PCR_GO_OFFLINE(this->stream)")
      (fun _ => Waits device patience n reserved false) :=
    succeeds_command obeys (by decide) _ fun log reply ordered =>
      .flushed (Orders.obey_offline _) ⟨ordered.reserved, rfl⟩ ordered.asked
  refine command.bind fun _ => (waits_getStatus obeys).bind fun status => Returns.ite ?_ ?_
  · intro isOnline this waits
    cases waits.1.told.2.symm.trans isOnline
  · exact fun _ => .pure fun this waits => waits.2

/-- The unit is released, by the command or because it was not reserved. -/
theorem waits_releaseUnit
    : Returns (Waits device patience n reserved online) releaseUnit
        (fun _ this => ∃ n, this.Waits device patience n false online) := by
  have command : Returns (Waits device patience (n - 1) reserved online)
      (checked pcrReleaseUnit "Protocol::PCR_RELEASE_UNIT(this->stream)")
      (fun _ => Waits device patience (n - 1) false online) :=
    succeeds_command obeys (by decide) _ fun log reply ordered =>
      .flushed (Orders.obey_release _) ⟨rfl, ordered.online⟩ ordered.asked
  refine (waits_getStatus obeys).bind fun status => Returns.ite ?_ ?_
  · intro _
    refine (command.from fun _ waits => waits.2).bind fun _ => ?_
    refine (waits_getStatus obeys).bind fun status => Returns.ite ?_ ?_
    · intro taken this waits
      cases waits.1.told.1.symm.trans taken
    · exact fun _ => .pure fun this waits => ⟨_, waits.2⟩
  · intro free
    apply Returns.pure
    rintro this ⟨given, waits⟩
    have told := given.told.1
    rw [Bool.not_eq_true] at free
    rw [free] at told
    cases told
    exact ⟨_, waits⟩

/-- The information is asked for where it is not known, and that changes nothing else. -/
theorem waits_getPrinterInfo
    : Returns (Waits device patience n reserved online) getPrinterInfo
        (fun _ => Waits device patience n reserved online) := by
  refine .get fun this waits => ?_
  cases this.cachedInfo with
  | some info =>
      apply Returns.pure
      rintro _ rfl
      exact waits
  | none =>
      have asks : Returns (Waits device patience n reserved online) (onStream pcGetPrinterInfo)
          (fun _ => Waits device patience n reserved online) := by
        apply returns_onStream
        apply returns_request (Nat.zero_le _) (by decide) reading_printerInfo
        intro log ordered
        obtain ⟨info, answer⟩ := obeys.info log
        exact ⟨info, answer, fun reply => ordered.other (by decide) reply⟩
      refine (asks.from ?_).bind fun info => ?_
      · rintro _ rfl
        exact waits
      · exact fun this waits => ⟨info, _, rfl, waits⟩

end Obeys

end BasicCaptPrinter

-----------------------------------------------------------------------------------------
-- Waiting, and sending a page
-----------------------------------------------------------------------------------------

namespace Call

variable {σ : Type} {patience n : Nat} {reserved online : Bool} {P P' : BasicCaptPrinter → Prop}

/-- What returns in the printer returns in a call, and nobody asks for a stop. -/
theorem returns_onPrinter {Q : α → BasicCaptPrinter → Prop} {action : Action BasicCaptPrinter α}
    (h : Returns P action Q)
    : Returns (Unasked P) (onPrinter action : Action (Call σ) α) (fun a => Unasked (Q a)) := by
  apply Returns.zoom
  intro this unasked
  apply h.weaken
  · rintro _ rfl
    exact unasked.printer
  · exact fun _ _ holds => ⟨holds, unasked.never⟩

/-- Nobody asks to stop. -/
theorem returns_stopRequested
    (polled : ∀ this : Call σ, P this.printer → P' (this.polled false).printer)
    : Returns (Unasked P) (stopRequested : Action (Call σ) Bool)
        (fun stop this => stop = false ∧ Unasked P' this) := by
  intro this unasked
  have going : (this.stopToken.left == some 0) = false := by
    rw [unasked.never]
    rfl
  refine ⟨false, this.polled false, ?_, rfl, polled this unasked.printer, ?_⟩
  · unfold stopRequested
    rw [run_get_bind, going]
    rfl
  · change this.stopToken.left.map Nat.pred = none
    rw [unasked.never]
    rfl

/-- The rest goes on. -/
theorem returns_going {I : Call σ → Prop} {Q : α → Call σ → Prop}
    {yes no : Action (Call σ) α}
    (asks : Returns I stopRequested (fun stop this => stop = false ∧ I this))
    (h : Returns I no Q)
    : Returns I
        (do
          if ← stopRequested then yes
          else no)
        Q := by
  refine asks.bind fun stop => Returns.given ?_
  rintro rfl
  exact h

/-- A poll of the token finds nothing, and is in the log. -/
theorem waits_stopRequested
    : Returns (Unasked (BasicCaptPrinter.Waits device patience n reserved online))
        (stopRequested : Action (Call σ) Bool)
        (fun stop this => stop = false
          ∧ Unasked (BasicCaptPrinter.Waits device patience n reserved online) this) :=
  returns_stopRequested fun _ waits => tells_polled waits fun ordered => ordered.polled false

section Obeys

variable (obeys : Obeys patience device)

include obeys

/-- `waits_getStatus` in a call. -/
theorem asks_getStatus
    : Returns (Unasked (BasicCaptPrinter.Waits device patience n reserved online))
        (onPrinter BasicCaptPrinter.getStatus : Action (Call σ) ExtendedStatus)
        (fun status this => Gives patience n reserved online status
          ∧ Unasked (BasicCaptPrinter.Waits device patience (n - 1) reserved online) this) := by
  apply (returns_onPrinter (BasicCaptPrinter.waits_getStatus obeys)).returning
  exact fun status this holds => ⟨holds.printer.1, holds.printer.2, holds.never⟩

/-- A wait ends once the printer is settled, by induction on the turns. -/
theorem waits_waitStatus {func : ExtendedStatus → Bool}
    (settled : ∀ status, Gives patience 0 reserved online status → func status = true)
    {fuel : Nat} (turns : n < fuel)
    : Returns (Unasked (BasicCaptPrinter.Waits device patience n reserved online))
        (waitStatus func fuel : Action (Call σ) (Option ExtendedStatus))
        (fun result this => ∃ m status, result = some status
          ∧ Gives patience m reserved online status ∧ func status = true
          ∧ Unasked (BasicCaptPrinter.Waits device patience (m - 1) reserved online) this) := by
  induction fuel generalizing n with
  | zero => exact absurd turns (Nat.not_lt_zero n)
  | succ fuel ih =>
      apply returns_going waits_stopRequested
      refine (asks_getStatus obeys).bind fun status => Returns.given fun given =>
        Returns.ite ?_ ?_
      · intro ended
        exact .pure fun this unasked => ⟨n, status, rfl, given, ended, unasked⟩
      · intro going
        rcases Nat.eq_zero_or_pos n with rfl | some
        · exact absurd (settled status given) going
        · exact ih (show n - 1 < fuel by omega)

end Obeys

/-- The orders while a page is sent: after `n` more requests the printer takes a block. -/
structure Takes (patience n : Nat) (reserved online : Bool) (log : List Event) : Prop where
  reserved : (orders log).reserved = reserved
  online : (orders log).online = online
  tried : patience ≤ (orders log).tried + n

section Takes

variable {log : List Event}

/-- What a chunk changes, while a page is sent. -/
theorem Takes.flushed {n' : Nat} {chunk reply : List UInt8} {changed : Orders}
    (seen : (orders log).obey chunk = changed)
    (told : changed.reserved = reserved ∧ changed.online = online)
    (tried : patience ≤ changed.tried + n')
    : Takes patience n' reserved online (log ++ [.flushed chunk [] reply]) := by
  have last := (orders_flushed log chunk [] reply).trans seen
  constructor
  · rw [last]
    exact told.1
  · rw [last]
    exact told.2
  · rw [last]
    exact tried

/-- One more request for the basic status, which is one less to wait for. -/
theorem Takes.tries (h : Takes patience n reserved online log) (reply : List UInt8)
    : Takes patience (n - 1) reserved online (log ++ [.flushed statusRequest [] reply]) := by
  apply Takes.flushed (Orders.obey_try _) ⟨h.reserved, h.online⟩
  have tried := h.tried
  change patience ≤ (orders log).tried + 1 + (n - 1)
  omega

/-- Behind a packet of the page the wait starts again. -/
theorem Takes.packet (h : Takes patience n reserved online log) {opcode : UInt16}
    {payload : List UInt8} (unanswered : opcode.toNat ∈ [0xD0A0, 0xD0A1, 0xD0A2, 0xC0A0])
    (reply : List UInt8)
    : Takes patience patience reserved online
        (log ++ [.flushed (PacketHeader.frame opcode payload) [] reply]) :=
  .flushed (Orders.obey_page _ payload unanswered) ⟨h.reserved, h.online⟩ (Nat.le_add_left _ _)

/-- A poll of the stop token changes nothing. -/
theorem Takes.polled (h : Takes patience n reserved online log) (stop : Bool)
    : Takes patience n reserved online (log ++ [.polled stop]) := by
  have same := orders_polled log stop
  exact ⟨same ▸ h.reserved, same ▸ h.online, same ▸ h.tried⟩

/-- At the worst the whole wait is still to come. -/
theorem takes_of_ordered (h : Ordered patience n reserved online log)
    : Takes patience patience reserved online log :=
  ⟨h.reserved, h.online, Nat.le_add_left _ _⟩

/-- Behind the page the whole wait for the status may be to come. -/
theorem Takes.ordered (h : Takes patience n reserved online log)
    : Ordered patience patience reserved online log :=
  ⟨h.reserved, h.online, Nat.le_add_left _ _⟩

/-- A wait that is partly over is at the worst a whole one. -/
theorem Takes.patient (h : Takes patience n reserved online log)
    : Takes patience patience reserved online log :=
  ⟨h.reserved, h.online, Nat.le_add_left _ _⟩

end Takes

/-- What is kept between the packets of a page. -/
abbrev Feeds (device : List Event → List UInt8 → List UInt8) (patience n : Nat)
    (reserved online : Bool)
    : Call σ → Prop :=
  Unasked (BasicCaptPrinter.Tells device (Takes patience n reserved online))

/-- A poll of the token finds nothing, while a page is sent. -/
theorem feeds_stopRequested
    : Returns (Feeds device patience n reserved online) (stopRequested : Action (Call σ) Bool)
        (fun stop this => stop = false ∧ Feeds device patience n reserved online this) :=
  returns_stopRequested fun _ tells => tells_polled tells fun takes => takes.polled false

/-- A packet of the page is sent, and nothing of the video is read. -/
theorem feeds_packet {opcode : UInt16} {payload : List UInt8} (fits : payload.length ≤ 65531)
    (unanswered : opcode.toNat ∈ [0xD0A0, 0xD0A1, 0xD0A2, 0xC0A0]) (videoStream : σ)
    : Returns
        (fun this => Feeds device patience patience reserved online this
          ∧ Reading videoStream this)
        (onStream do
          PacketHeader.writeTo opcode payload
          IOStream.flush)
        (fun _ this => Feeds device patience patience reserved online this
          ∧ Reading videoStream this) := by
  have sends : Returns (Feeds device patience patience reserved online)
      (onStream (do
          PacketHeader.writeTo opcode payload
          IOStream.flush) : Action (Call σ) Unit)
      (fun _ => Feeds device patience patience reserved online) := by
    apply returns_onPrinter
    apply BasicCaptPrinter.returns_onStream
    exact IOStream.returns_send fits unanswered fun log answer takes =>
      takes.packet unanswered answer
  exact sends.and (reading_onStream _).triple

section Obeys

variable (obeys : Obeys patience device)

include obeys

/-- The basic status is ready, and with nothing more to wait for there is room. -/
theorem feeds_basicStatus
    : Returns (Feeds device patience n reserved online)
        (onStream (pcrGetBasicStatus false) : Action (Call σ) (BasicStatus × Option UInt8))
        (fun result this => result.1 &&& BasicStatus.notReady = 0
          ∧ (n = 0 → result.1 &&& BasicStatus.imDataBusy = 0)
          ∧ Feeds device patience (n - 1) reserved online this) := by
  have asks : Returns (IOStream.Tells device (Takes patience n reserved online))
      (pcrGetBasicStatus false)
      (fun result => IOStream.Tells device fun log =>
        (result.1 &&& BasicStatus.notReady = 0
          ∧ (n = 0 → result.1 &&& BasicStatus.imDataBusy = 0))
        ∧ Takes patience (n - 1) reserved online log) := by
    apply returns_request (Nat.zero_le _) (by decide) reading_basicStatus
    intro log takes
    obtain ⟨status, answer, ready, takesBlock⟩ := obeys.takes log
    refine ⟨(status, none), answerOf_map answer fun status => (status, none), fun reply =>
      ⟨⟨ready, ?_⟩, takes.tries reply⟩⟩
    rintro rfl
    exact takesBlock takes.tried
  apply (returns_onPrinter (BasicCaptPrinter.returns_onStream asks)).returning
  rintro result this ⟨⟨paired, same, ⟨ready, notBusy⟩, takes⟩, never⟩
  exact ⟨ready, notBusy, ⟨paired, same, takes⟩, never⟩

/-- The wait for a block ends, by induction on the turns. -/
theorem feeds_pollStatus {fuel : Nat} (turns : n < fuel)
    : Returns (Feeds device patience n reserved online) (pollStatus fuel : Action (Call σ) Bool)
        (fun ready this => ready = true ∧ Feeds device patience patience reserved online this) := by
  induction fuel generalizing n with
  | zero => exact absurd turns (Nat.not_lt_zero n)
  | succ fuel ih =>
      apply returns_going feeds_stopRequested
      refine (feeds_basicStatus obeys).bind fun result => Returns.given fun ready =>
        Returns.given fun notBusy => ?_
      dsimp only
      apply Returns.ite
      · exact fun notReady => absurd ready notReady
      · intro _
        apply Returns.ite
        · intro _
          apply Returns.pure
          exact fun this feeds =>
            ⟨rfl, feeds.printer.mono fun _ takes => takes.patient, feeds.never⟩
        · intro busy
          rcases Nat.eq_zero_or_pos n with rfl | some
          · exact absurd (notBusy rfl) busy
          · exact ih (show n - 1 < fuel by omega)

/-- The video is sent to its end, by induction on the blocks. -/
theorem feeds_videoLoop [Source Fault UInt8 σ] {R : σ → List UInt8 → Prop} {blockSize : Nat}
    (blocks : GivesBlocks R blockSize) {polls : Nat} (turns : patience < polls) {fuel : Nat}
    {video : List UInt8} (enough : video.length < fuel)
    : Returns
        (fun this : Call σ => Feeds device patience patience reserved online this
          ∧ R this.videoStream video)
        (videoLoop blockSize polls fuel)
        (fun whole this => whole = true
          ∧ Feeds device patience patience reserved online this) := by
  induction fuel generalizing video with
  | zero => exact absurd enough (Nat.not_lt_zero _)
  | succ fuel ih =>
      rintro this ⟨feeds, given⟩
      obtain ⟨data, rest, s', rfl, _, fits, last, read, given'⟩ := blocks given
      have reads : (onVideo (Source.sgetn blockSize)).run this
          = .ok data { this with videoStream := s' } :=
        run_zoom_ok read
      unfold videoLoop
      rw [run_bind_ok reads]
      apply Returns.ite (P := fun inner : Call σ =>
        Feeds device patience patience reserved online inner ∧ Reading s' inner)
      · exact fun _ => .pure fun inner holds => ⟨rfl, holds.1⟩
      · intro some
        have poll : Returns
            (fun inner : Call σ => Feeds device patience patience reserved online inner
              ∧ Reading s' inner)
            (pollStatus polls)
            (fun ready inner =>
              (ready = true ∧ Feeds device patience patience reserved online inner)
                ∧ Reading s' inner) :=
          (feeds_pollStatus obeys turns).and (reading_pollStatus polls).triple
        refine poll.bind fun ready => Returns.ite ?_ ?_
        · intro _
          have asks : Returns
              (fun inner : Call σ => Feeds device patience patience reserved online inner
                ∧ Reading s' inner)
              stopRequested
              (fun stop inner => stop = false
                ∧ Feeds device patience patience reserved online inner ∧ Reading s' inner) :=
            (feeds_stopRequested.and reading_stopRequested.triple).returning
              fun _ _ holds => ⟨holds.1.1, holds.1.2, holds.2⟩
          refine Returns.from (returns_going asks ?_) fun _ holds => ⟨holds.1.2, holds.2⟩
          refine (feeds_packet fits (by decide) s').bind fun _ => ?_
          have positive : data.length ≠ 0 := some
          rw [List.length_append] at enough
          apply (ih (show rest.length < fuel by omega)).from
          rintro inner ⟨kept, same⟩
          refine ⟨kept, ?_⟩
          rw [show inner.videoStream = s' from same]
          exact given'
        · intro gaveUp inner holds
          exact absurd holds.1.1 gaveUp
      · exact ⟨⟨feeds.printer, feeds.never⟩, rfl⟩

/-- A page is sent to its end. -/
theorem waits_writeVideoData [Source Fault UInt8 σ] {R : σ → List UInt8 → Prop}
    (trickle : IsTrickle R) {fuel : Nat} (turns : patience < fuel) (params : PageParams)
    {video : List UInt8} (enough : video.length < fuel)
    : Returns
        (fun this : Call σ =>
          Unasked (BasicCaptPrinter.Waits device patience n reserved online) this
            ∧ this.printer.Learned ∧ R this.videoStream video)
        (writeVideoData fuel params 0)
        (fun whole this => whole = true
          ∧ Unasked (BasicCaptPrinter.Waits device patience patience reserved online) this) := by
  rintro this ⟨unasked, learned, given⟩
  have finds : Returns
      (fun printer => printer.Waits device patience n reserved online
        ∧ printer.Tells device (fun _ => True) ∧ printer.Learned)
      BasicCaptPrinter.getPrinterInfo
      (fun info printer => printer.Waits device patience n reserved online
        ∧ FitsBlocks info ∧ printer.Learned) :=
    (BasicCaptPrinter.waits_getPrinterInfo obeys).and
      (BasicCaptPrinter.learns_getPrinterInfo obeys.announces)
  obtain ⟨info, printer', asks, waits, ⟨positive, fits⟩, _⟩ :=
    finds this.printer
    ⟨unasked.printer, unasked.printer.mono fun _ _ => trivial, learned⟩
  have size : (transferSize 0).run this
      = .ok info.blockSize.toNat { this with printer := printer' } := by
    unfold transferSize
    rw [if_pos rfl]
    exact run_bind_ok (run_zoom_ok asks)
  have header := pageHeader_fits params
  have loop : Returns
      (fun inner : Call σ => Feeds device patience patience reserved online inner
        ∧ Reading this.videoStream inner)
      (videoLoop info.blockSize.toNat fuel fuel)
      (fun whole inner => whole = true
        ∧ Feeds device patience patience reserved online inner) := by
    apply (feeds_videoLoop obeys (givesBlocks_of_trickle trickle positive fits) turns enough).from
    rintro inner ⟨feeds, same⟩
    refine ⟨feeds, ?_⟩
    rw [show inner.videoStream = this.videoStream from same]
    exact given
  unfold writeVideoData
  rw [run_bind_ok size]
  apply Returns.bind
    (P := fun inner : Call σ => Feeds device patience patience reserved online inner
      ∧ Reading this.videoStream inner)
    (feeds_packet header (by decide) this.videoStream)
  · intro _
    refine (feeds_packet (Nat.zero_le _) (by decide) this.videoStream).bind fun _ => ?_
    refine loop.bind fun whole => Returns.ite ?_ ?_
    · intro _
      rintro inner ⟨_, feeds⟩
      refine (feeds_packet (Nat.zero_le _) (by decide) inner.videoStream).bind
        (fun _ => .pure ?_) inner ⟨feeds, rfl⟩
      rintro last ⟨kept, _⟩
      exact ⟨rfl, kept.printer.mono fun log takes => takes.ordered, kept.never⟩
    · intro part inner holds
      exact absurd holds.1 part
  · exact ⟨⟨waits.mono fun log => takes_of_ordered, unasked.never⟩, rfl⟩

end Obeys

end Call

end Capt
