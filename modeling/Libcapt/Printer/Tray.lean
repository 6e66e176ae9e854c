import Libcapt.Printer.BlockSize
import Libcapt.Printer.PageRules

/-! What a printer has received as whole pages, and what a call of `WriteVideoData` adds to
them.
-/

namespace Capt

open Streams Protocol PageEvent

/-- A page as a printer receives it: the payload of its begin, and its video data. -/
structure Sheet where
  header : List UInt8
  data : List UInt8
  deriving DecidableEq

/-- How far a printer has received a page. -/
inductive Receipt where
  | idle
  | begun (header : List UInt8)
  | fed (sheet : Sheet)

/-- A printer that puts together the packets of its pages. A page that is not ended is dropped,
and so is one whose packets are not in order.
-/
structure Tray where
  receipt : Receipt := .idle
  pages : List Sheet := []

namespace Tray

/-- The begin of the data belongs behind the begin of a page. -/
def beginData : Receipt → Receipt
  | .begun header => .fed ⟨header, []⟩
  | _ => .idle

/-- Video data is collected while a page is fed. -/
def videoData (data : List UInt8) : Receipt → Receipt
  | .fed sheet => .fed { sheet with data := sheet.data ++ data }
  | _ => .idle

/-- The page that is complete when its end comes, if there is one. -/
def whole : Receipt → List Sheet
  | .fed sheet => [sheet]
  | _ => []

/-- What a chunk does, by its opcode. -/
def receive (this : Tray) (chunk : List UInt8) : Tray :=
  if chunkOpcode chunk = 0xD0A0 then { this with receipt := .begun (chunk.drop 4) }
  else if chunkOpcode chunk = 0xD0A1 then { this with receipt := beginData this.receipt }
  else if chunkOpcode chunk = 0xC0A0 then
    { this with receipt := videoData (chunk.drop 4) this.receipt }
  else if chunkOpcode chunk = 0xD0A2 then ⟨.idle, this.pages ++ whole this.receipt⟩
  else this

/-- Only what is sent arrives. -/
def see (this : Tray) : Event → Tray
  | .flushed chunk _ _ => this.receive chunk
  | .polled _ => this

/-- A packet that is answered is none of a page. -/
theorem receive_answered (this : Tray) {opcode : UInt16} {payload : List UInt8}
    (answered : Answered opcode)
    : this.receive (PacketHeader.frame opcode payload) = this := by
  unfold Answered at answered
  simp only [List.mem_cons, List.not_mem_nil, or_false, not_or] at answered
  obtain ⟨h₁, h₂, h₃, h₄⟩ := answered
  unfold receive
  rw [chunkOpcode_frame, if_neg h₁, if_neg h₂, if_neg h₄, if_neg h₃]

/-- What the tray makes of an event of a page. -/
theorem see_event (this : Tray) (event : PageEvent)
    : this.see event.event
      = match event with
        | .beginPage params => { this with receipt := .begun (pageHeader params).payload }
        | .beginData => { this with receipt := beginData this.receipt }
        | .videoData data => { this with receipt := videoData data this.receipt }
        | .endPage => ⟨.idle, this.pages ++ whole this.receipt⟩
        | _ => this := by
  cases event with
  | polled stop => rfl
  | asked answer => exact receive_answered this (by decide)
  | beginPage params =>
      change this.receive (PacketHeader.frame 0xD0A0 _) = _
      rw [receive, chunkOpcode_frame, drop_frame]
      rfl
  | beginData =>
      change this.receive (PacketHeader.frame 0xD0A1 _) = _
      rw [receive, chunkOpcode_frame]
      rfl
  | videoData data =>
      change this.receive (PacketHeader.frame 0xC0A0 _) = _
      rw [receive, chunkOpcode_frame, drop_frame]
      rfl
  | endPage =>
      change this.receive (PacketHeader.frame 0xD0A2 _) = _
      rw [receive, chunkOpcode_frame]
      rfl

/-- Between the begin and the end of a page its video is collected, by induction on the
events.
-/
theorem see_body (this : Tray) {sheet : Sheet} (fed : this.receipt = .fed sheet)
    {body : List PageEvent} (inner : ∀ event ∈ body, event.Inner)
    : (body.map PageEvent.event).foldl see this
      = { this with receipt := .fed { sheet with data := sheet.data ++ payloads body } } := by
  induction body generalizing this sheet with
  | nil =>
      rw [payloads, List.flatMap_nil, List.append_nil, ← fed]
      rfl
  | cons event body ih =>
      have first := inner event List.mem_cons_self
      have others : ∀ event ∈ body, event.Inner :=
        fun event member => inner event (List.mem_cons_of_mem _ member)
      rw [List.map_cons, List.foldl_cons, see_event]
      cases event with
      | asked answer => exact ih this fed others
      | polled stop => exact ih this fed others
      | videoData data =>
          have next : videoData data this.receipt
              = .fed { sheet with data := sheet.data ++ data } := by
            rw [fed]
            rfl
          refine (ih _ next others).trans ?_
          simp [payloads, PageEvent.payload]
      | beginPage params => exact first.elim
      | beginData => exact first.elim
      | endPage => exact first.elim

end Tray

/-- The printer at the end of a log. -/
def tray (log : List Event) : Tray := log.foldl Tray.see {}

/-- The pages that have been received whole, in their order. -/
def printed (log : List Event) : List Sheet := (tray log).pages

/-- Such a packet prints nothing. -/
theorem printed_answered (log : List Event) {opcode : UInt16} {payload answer : List UInt8}
    (answered : Answered opcode)
    : printed (log ++ [.flushed (PacketHeader.frame opcode payload) [] answer]) = printed log := by
  rw [printed, tray, List.foldl_append]
  exact congrArg Tray.pages (Tray.receive_answered _ answered)

/-- Nor does a poll of the stop token. -/
theorem printed_polled (log : List Event) (stop : Bool)
    : printed (log ++ [.polled stop]) = printed log := by
  rw [printed, tray, List.foldl_append]
  rfl

/-- The page that is sent for a video under the parameters. -/
def sheetOf (params : PageParams) (video : List UInt8) : Sheet :=
  ⟨(pageHeader params).payload, video⟩

/-- A page is received whole exactly where its sending returns true. -/
theorem printed_page {blockSize fuel polls : Nat} {video : List UInt8} {body : List PageEvent}
    {outcome : Except Fault Bool} (sending : Sending blockSize polls fuel video body outcome)
    (params : PageParams) (log : List Event)
    : printed (log ++ (beginPage params :: beginData :: (body ++ Call.closing outcome)).map
          PageEvent.event)
      = if outcome = .ok true then printed log ++ [sheetOf params video] else printed log := by
  have collected := Tray.see_body
    { tray log with receipt := .fed (sheetOf params []) } rfl sending.inner
  rw [printed, tray, List.foldl_append, List.map_cons, List.map_cons, List.map_append,
    List.foldl_cons, List.foldl_cons, List.foldl_append, Tray.see_event, Tray.see_event]
  change ((Call.closing outcome).map PageEvent.event |>.foldl Tray.see
    ((body.map PageEvent.event).foldl Tray.see
      { tray log with receipt := .fed (sheetOf params []) })).pages = _
  rw [collected]
  by_cases done : outcome = .ok true
  · have whole := sending.payloads.2 done
    rw [if_pos done, done, whole]
    change (Tray.see _ (PageEvent.endPage).event).pages = _
    rw [Tray.see_event]
    rfl
  · rw [if_neg done, closing_of_ne done]
    rfl

-----------------------------------------------------------------------------------------
-- A call of WriteVideoData
-----------------------------------------------------------------------------------------

/-- A transfer block size that gives blocks, and no block that is too long for a packet. -/
def FitsBlocks (info : PrinterInfo) : Prop :=
  1 ≤ info.blockSize.toNat ∧ info.blockSize.toNat ≤ 65531

/-- Whenever the device gives its information, the block size in it fits. -/
def Announces (device : List Event → List UInt8 → List UInt8) : Prop :=
  ∀ log info, answerOf 0xA1A1 infoOf (device log infoRequest) = some info → FitsBlocks info

namespace BasicCaptPrinter

/-- The block size that was stored, if any, fits. -/
def Learned (this : BasicCaptPrinter) : Prop :=
  ∀ info, this.cachedInfo = some info → FitsBlocks info

/-- The pages have been printed, nothing is unread, and the block size fits. -/
structure Prints (device : List Event → List UInt8 → List UInt8) (pages : List Sheet)
    (this : BasicCaptPrinter)
    : Prop where
  tells : this.Tells device fun log => printed log = pages
  learned : this.Learned

variable {device : List Event → List UInt8 → List UInt8} {pages : List Sheet} {α : Type}

/-- The block size that was learned is not on the stream. -/
theorem learned_onStream (action : Action IOStream α) : Maintains Learned (onStream action) :=
  .zoom fun _ learned => learned

/-- A packet that is answered may be sent without a page being added. -/
theorem admits_printed {opcode : UInt16} {payload : List UInt8} (answered : Answered opcode)
    : Admits (fun log => printed log = pages) (PacketHeader.frame opcode payload) := by
  intro log answer same
  rw [printed_answered log answered]
  exact same

/-- What keeps the pages and the block size. -/
theorem prints_of {action : Action BasicCaptPrinter α}
    (tells : Maintains (Tells device fun log => printed log = pages) action)
    (learned : Maintains Learned action)
    : Maintains (Prints device pages) action :=
  fun this holds => ⟨tells this holds.tells, learned this holds.learned⟩

/-- Asking for the status adds no page. -/
theorem prints_getStatus : Maintains (Prints device pages) getStatus :=
  prints_of (keeps_getStatus (admits_printed (by decide))) (learned_onStream _)

/-- Nor does a command. -/
theorem prints_command {opcode : UInt16} (answered : Answered opcode)
    : Maintains (Prints device pages) (onStream (execCmd opcode)) :=
  prints_of (keeps_command answered (admits_printed answered)) (learned_onStream _)

/-- Nor does `GoOnline`. -/
theorem prints_goOnline (page : Nat) : Maintains (Prints device pages) (goOnline page) :=
  keeps_goOnline page prints_getStatus
    (prints_of (keeps_pcrGoOnline page (admits_printed (by decide))) (learned_onStream _))

/-- Nor does `ReserveUnit`. -/
theorem prints_reserveUnit : Maintains (Prints device pages) reserveUnit :=
  keeps_reserveUnit prints_getStatus (prints_command (by decide))

/-- Nor does `GoOffline`. -/
theorem prints_goOffline : Maintains (Prints device pages) goOffline :=
  keeps_goOffline prints_getStatus (prints_command (by decide))

/-- Nor does `ReleaseUnit`. -/
theorem prints_releaseUnit : Maintains (Prints device pages) releaseUnit :=
  keeps_releaseUnit prints_getStatus (prints_command (by decide))

/-- The block size that is found fits. -/
theorem learns_getPrinterInfo (announces : Announces device)
    : Triple (fun this => this.Tells device (fun _ => True) ∧ this.Learned) getPrinterInfo
        (fun info this => FitsBlocks info ∧ this.Learned) Learned := by
  rintro this ⟨tells, learned⟩
  cases known : this.cachedInfo with
  | some info =>
      have given : getPrinterInfo.run this = .ok info this := by
        unfold getPrinterInfo
        rw [run_get_bind, known]
        rfl
      constructor
      · intro info' this' run
        cases given.symm.trans run
        exact ⟨learned info known, learned⟩
      · intro err this' run
        cases given.symm.trans run
  | none =>
      have asks : getPrinterInfo.run this = (do
          let info ← onStream pcGetPrinterInfo
          modify fun this : BasicCaptPrinter => { this with cachedInfo := some info }
          return info).run this := by
        unfold getPrinterInfo
        rw [run_get_bind, known]
      rw [asks]
      cases run : pcGetPrinterInfo.run this.stream with
      | ok info stream' =>
          have answer := (request_ok_iff tells.paired (Nat.zero_le _) (by decide)
            reading_printerInfo).mp ⟨stream', run⟩
          rw [tells.device] at answer
          have fits := announces _ info answer
          have inner : (onStream pcGetPrinterInfo).run this
              = .ok info { this with stream := stream' } :=
            run_zoom_ok run
          rw [run_bind_ok inner, run_modify_bind]
          constructor
          · intro info' this' done
            cases done
            exact ⟨fits, fun stored same => by cases same; exact fits⟩
          · intro err this' impossible
            cases impossible
      | error err stream' =>
          have inner : (onStream pcGetPrinterInfo).run this
              = .error err { this with stream := stream' } :=
            run_zoom_error run
          rw [run_bind_error inner]
          constructor
          · intro info this' impossible
            cases impossible
          · intro err' this' thrown
            cases thrown
            exact learned

/-- The info has a block size that blocks fit in, and no page is added. -/
theorem prints_getPrinterInfo (announces : Announces device)
    : Triple (Prints device pages) getPrinterInfo
        (fun info this => FitsBlocks info ∧ Prints device pages this) (Prints device pages) := by
  intro this prints
  have kept := (keeps_getPrinterInfo (admits_printed (by decide))).triple this prints.tells
  have learns := learns_getPrinterInfo announces this
    ⟨prints.tells.mono fun _ _ => trivial, prints.learned⟩
  constructor
  · intro info this' run
    obtain ⟨fits, learned⟩ := learns.1 info this' run
    exact ⟨fits, kept.1 info this' run, learned⟩
  · intro err this' run
    exact ⟨kept.2 err this' run, learns.2 err this' run⟩

end BasicCaptPrinter

namespace Call

variable {σ : Type} {device : List Event → List UInt8 → List UInt8} {pages : List Sheet}

/-- The printer may be talked to, and what it stored of its information fits. -/
def Sound (device : List Event → List UInt8 → List UInt8) (this : BasicCaptPrinter) : Prop :=
  this.Tells device (fun _ => True) ∧ this.Learned

/-- What keeps the printer's log sound on the stream keeps it in the printer. -/
theorem sound_of {α : Type} {action : Action IOStream α}
    (h : Maintains (IOStream.Tells device fun _ => True) action)
    : Maintains (Sound device) (BasicCaptPrinter.onStream action) :=
  (BasicCaptPrinter.keeps_onStream h).and (BasicCaptPrinter.learned_onStream _)

/-- Sending a page keeps the printer sound. -/
theorem sound_page : PageKeeps (Sound device) where
  started := sound_of (IOStream.triple_send (by decide) fun _ _ => id).maintains
  status := sound_of (keeps_request (Nat.zero_le _) (by decide) reading_basicStatus
    fun _ _ => id)
  block := fun _ => sound_of (IOStream.triple_send (by decide) fun _ _ => id).maintains
  ended := sound_of (IOStream.triple_send (by decide) fun _ _ => id).maintains
  poll := fun _ sound => ⟨tells_polled sound.1 id, sound.2⟩

/-- So does `WriteVideoData`, whatever the page. -/
theorem sound_writeVideoData [Source Fault UInt8 σ] (announces : Announces device)
    (fuel : Nat) (params : PageParams)
    : Maintains (Unasked (Sound device)) (writeVideoData fuel params 0 : Action (Call σ) Bool) := by
  apply Triple.maintains
  apply unasked_writeVideoData
  · intro this sound
    have admits : Admits (fun _ => True) infoRequest := fun _ _ => id
    refine ⟨BasicCaptPrinter.keeps_getPrinterInfo admits this sound.1, ?_⟩
    exact (BasicCaptPrinter.learns_getPrinterInfo announces).after (fun _ _ holds => holds.2)
      (fun _ => id) sound
  · exact (sound_of (IOStream.triple_send (by decide) fun _ _ => id).maintains).triple
  · exact fun _ => id
  · exact sound_page

section Video

variable [Source Fault UInt8 σ] {R : σ → List UInt8 → Prop}

/-- The state is what a read left that found the video at its end. -/
def Ended (R : σ → List UInt8 → Prop) (s' : σ) : Prop :=
  ∃ n s, 0 < n ∧ R s [] ∧ (Source.sgetn n).run s = .ok [] s'

/-- The loop over the blocks goes on until a read finds the end, by induction on its turns. -/
theorem ended_videoLoop (trickle : IsTrickle R) {blockSize : Nat} (positive : 0 < blockSize)
    (polls fuel : Nat) {this this' : Call σ} {video : List UInt8}
    (given : R this.videoStream video)
    (run : (videoLoop blockSize polls fuel).run this = .ok true this')
    : Ended R this'.videoStream := by
  induction fuel generalizing this video with
  | zero => cases run
  | succ fuel ih =>
      obtain ⟨k, s', taken, given', _, some⟩ := trickle given blockSize positive
      rw [videoLoop, run_bind_ok (run_onVideo taken)] at run
      by_cases empty : (video.take k).length = 0
      · rw [if_pos empty] at run
        cases run
        have nothing : video = [] := by
          by_contra more
          have left := some more
          rw [List.length_eq_zero_iff, List.take_eq_nil_iff] at empty
          exact empty.elim (Nat.ne_of_gt left) more
        rw [nothing] at given taken
        rw [List.take_nil] at taken
        exact ⟨blockSize, this.videoStream, positive, given, taken⟩
      · rw [if_neg empty] at run
        obtain ⟨ready, middle, polled, rest⟩ := run_bind_eq_ok run
        have still : Reading s' (after ((pollStatus polls).run { this with videoStream := s' })) :=
          reading_pollStatus polls _ rfl
        rw [polled] at still
        cases ready with
        | false => cases rest
        | true =>
            rw [if_pos rfl] at rest
            obtain ⟨stop, asked, question, rest'⟩ := run_bind_eq_ok rest
            have still' := reading_stopRequested middle still
            rw [question] at still'
            cases stop with
            | true => cases rest'
            | false =>
                rw [if_neg Bool.false_ne_true] at rest'
                obtain ⟨value, sent, block, last⟩ := run_bind_eq_ok rest'
                have still'' := reading_onStream (icVideoData (video.take k)) asked still'
                rw [block] at still''
                apply ih _ last
                · exact video.drop k
                · rw [show sent.videoStream = s' from still'']
                  exact given'

/-- So does the whole call, once its transfer block size is found. -/
theorem ended_writeVideoData (trickle : IsTrickle R) {blockSize chosen : Nat}
    (positive : 0 < blockSize) (fuel : Nat) (params : PageParams) {before this this' : Call σ}
    {video : List UInt8} (size : (transferSize chosen).run before = .ok blockSize this)
    (given : R this.videoStream video)
    (run : (writeVideoData fuel params chosen).run before = .ok true this')
    : Ended R this'.videoStream := by
  rw [writeVideoData, run_bind_ok size] at run
  obtain ⟨_, begun, page, rest⟩ := run_bind_eq_ok run
  have first := reading_onStream (icBeginPage params) this rfl
  rw [page] at first
  obtain ⟨_, started, data, rest⟩ := run_bind_eq_ok rest
  have second := reading_onStream icBeginData begun first
  rw [data] at second
  obtain ⟨whole, sent, loop, rest⟩ := run_bind_eq_ok rest
  cases whole with
  | false => cases rest
  | true =>
      have started' : R started.videoStream video := by
        rw [show started.videoStream = this.videoStream from second]
        exact given
      obtain ⟨n, s, some, last, read⟩ := ended_videoLoop trickle positive fuel fuel started' loop
      rw [if_pos rfl] at rest
      obtain ⟨_, ended, finished, done⟩ := run_bind_eq_ok rest
      have third : Reading sent.videoStream (after ((onStream icEndPage).run sent)) :=
        reading_onStream icEndPage sent rfl
      rw [finished] at third
      cases done
      rw [show this'.videoStream = sent.videoStream from third]
      exact ⟨n, s, some, last, read⟩

/-- The page is received whole exactly where the call returns true, and then the video was read
up to its end.
-/
theorem prints_writeVideoData (trickle : IsTrickle R) (announces : Announces device)
    (fuel : Nat) (params : PageParams) {video : List UInt8}
    : Triple
        (fun this : Call σ => Unasked (BasicCaptPrinter.Prints device pages) this
          ∧ R this.videoStream video)
        (writeVideoData fuel params 0)
        (fun whole this =>
          this.printer.Prints device (if whole then pages ++ [sheetOf params video] else pages)
            ∧ ∃ left, R this.videoStream left
                ∧ (whole = true → left = [] ∧ Ended R this.videoStream))
        (fun this => this.printer.Prints device pages) := by
  apply Triple.of_leaving
  rintro this ⟨⟨prints, never⟩, given⟩
  have sound := sound_writeVideoData announces fuel params this
    ⟨⟨prints.tells.mono fun _ _ => trivial, prints.learned⟩, never⟩
  have found := (BasicCaptPrinter.prints_getPrinterInfo announces) this.printer prints
  cases learns : BasicCaptPrinter.getPrinterInfo.run this.printer with
  | error err printer' =>
      have size : (transferSize 0).run this = .error err { this with printer := printer' } := by
        unfold transferSize
        rw [if_pos rfl]
        exact run_bind_error (run_zoom_error learns)
      refine ⟨.error err, _, run_bind_error size, nofun, fun _ _ => ?_⟩
      exact found.2 err printer' learns
  | ok info printer' =>
      obtain ⟨⟨positive, fits⟩, prints'⟩ := found.1 info printer' learns
      have size : (transferSize 0).run this
          = .ok info.blockSize.toNat { this with printer := printer' } := by
        unfold transferSize
        rw [if_pos rfl]
        exact run_bind_ok (run_zoom_ok learns)
      obtain ⟨body, outcome, this', left, sending, logs, run, given', last⟩ :=
        run_writeVideoData_blocks fuel params size (givesBlocks_of_trickle trickle positive fits)
          prints'.tells.paired.quiet given
      have log : printed this'.printer.stream.log
          = if outcome = .ok true then pages ++ [sheetOf params video] else pages := by
        rw [logs.log, printed_page sending params, prints'.tells.log]
      rw [run] at sound
      refine ⟨outcome, this', run, ?_, ?_⟩
      · rintro whole rfl
        obtain ⟨tells, learned⟩ := sound.printer
        refine ⟨⟨⟨tells.paired, tells.device, log.trans ?_⟩, learned⟩, left, given', ?_⟩
        · cases whole <;> rfl
        · rintro rfl
          exact ⟨(last rfl).2, ended_writeVideoData trickle positive fuel params size given run⟩
      · rintro err rfl
        obtain ⟨tells, learned⟩ := sound.printer
        exact ⟨⟨tells.paired, tells.device, log⟩, learned⟩

end Video

end Call

end Capt
