import Libcapt.Printer.Operations

/-! What is said of the log while a page is sent, from what its packets and the requests
between them keep.
-/

namespace Capt

open Streams Protocol

variable {device : List Event → List UInt8 → List UInt8} {K P : List Event → Prop}

/-- The chunk that begins a page. -/
def pageChunk (params : PageParams) : List UInt8 :=
  PacketHeader.frame 0xD0A0 (pageHeader params).payload

/-- A packet of a page is sent, or refused as too long. -/
theorem IOStream.triple_send {opcode : UInt16} {payload : List UInt8}
    (unanswered : opcode.toNat ∈ [0xD0A0, 0xD0A1, 0xD0A2, 0xC0A0])
    (sent : ∀ log answer, P log →
      K (log ++ [.flushed (PacketHeader.frame opcode payload) [] answer]))
    : Triple (Tells device P)
        (do
          PacketHeader.writeTo opcode payload
          IOStream.flush)
        (fun _ => Tells device K) (Tells device P) := by
  intro stream tells
  have paired := paired_send opcode payload unanswered stream tells.paired
  rcases Nat.lt_or_ge 65531 payload.length with long | fits
  · have refused : (do
        PacketHeader.writeTo opcode payload
        IOStream.flush).run stream = .error (.overflowError "packet size overflow") stream :=
      run_bind_error (PacketHeader.run_writeTo_overflow tells.paired.good long)
    constructor
    · intro value stream' run
      cases refused.symm.trans run
    · intro err stream' run
      cases refused.symm.trans run
      exact tells
  · have sends := run_send tells.paired.quiet fits unanswered
    rw [sends] at paired
    constructor
    · intro value stream' run
      cases sends.symm.trans run
      exact ⟨paired, tells.device, sent _ _ tells.log⟩
    · intro err stream' run
      cases sends.symm.trans run

/-- What the packets of a page behind its begin keep, and the requests and the questions between
them.
-/
structure PageKeeps (I : BasicCaptPrinter → Prop) : Prop where
  started : Maintains I (BasicCaptPrinter.onStream icBeginData)
  status : Maintains I (BasicCaptPrinter.onStream (pcrGetBasicStatus false))
  block : ∀ data, Maintains I (BasicCaptPrinter.onStream (icVideoData data))
  ended : Maintains I (BasicCaptPrinter.onStream icEndPage)
  poll : ∀ {σ : Type} (this : Call σ), I this.printer → I (this.polled false).printer

namespace Call

variable {σ : Type}

/-- The caller says yes exactly where nothing is left, and then says so again. -/
theorem triple_stopRequested {P E : Call σ → Prop} {Q : Bool → Call σ → Prop}
    (yes : ∀ this, P this → this.stopToken.left = some 0 → Q true (this.polled true))
    (no : ∀ this, P this → this.stopToken.left ≠ some 0 → Q false (this.polled false))
    : Triple P stopRequested Q E := by
  intro this holds
  constructor
  · intro stop this' run
    cases run
    by_cases stopped : this.stopToken.left = some 0
    · rw [beq_iff_eq.mpr stopped]
      exact yes this holds stopped
    · rw [beq_eq_false_iff_ne.mpr stopped]
      exact no this holds stopped
  · intro err this' run
    cases run

/-- Once the token has said so, it says so again. -/
theorem polled_stopped {this : Call σ} (stopped : this.stopToken.left = some 0) (stop : Bool)
    : (this.polled stop).stopToken.left = some 0 := by
  change this.stopToken.left.map Nat.pred = some 0
  rw [stopped]
  rfl

/-- What a poll adds to the log. -/
theorem tells_polled {this : Call σ} (tells : this.printer.Tells device K) {stop : Bool}
    (kept : K this.printer.stream.log → P (this.printer.stream.log ++ [.polled stop]))
    : (this.polled stop).printer.Tells device P := by
  obtain ⟨paired, same, log⟩ := tells
  refine ⟨⟨paired.good, paired.input, paired.pending, paired.device, ?_⟩, same, kept log⟩
  intro event member
  rcases List.mem_append.mp member with before | now
  · exact paired.log event before
  · rw [List.mem_singleton.mp now]
    trivial

end Call

-----------------------------------------------------------------------------------------
-- Sending a page
-----------------------------------------------------------------------------------------

/-- What does not disturb a property of the log. -/
structure PageAdmits (K : List Event → Prop) : Prop where
  started : Admits K (PacketHeader.frame 0xD0A1 [])
  status : Admits K statusRequest
  block : ∀ data, Admits K (PacketHeader.frame 0xC0A0 data)
  ended : Admits K (PacketHeader.frame 0xD0A2 [])
  poll : ∀ log, K log → K (log ++ [.polled false])

namespace BasicCaptPrinter

/-- A packet of a page that is admitted. -/
theorem keeps_packet {opcode : UInt16} {payload : List UInt8}
    (unanswered : opcode.toNat ∈ [0xD0A0, 0xD0A1, 0xD0A2, 0xC0A0])
    (admits : Admits K (PacketHeader.frame opcode payload))
    : Maintains (Tells device K)
        (onStream do
          PacketHeader.writeTo opcode payload
          IOStream.flush) :=
  (triple_onStream (IOStream.triple_send unanswered admits)).maintains

/-- The request for the basic status, where it is admitted. -/
theorem keeps_basicStatus (admits : Admits K statusRequest)
    : Maintains (Tells device K) (onStream (pcrGetBasicStatus false)) :=
  keeps_onStream (keeps_request (Nat.zero_le _) (by decide) reading_basicStatus admits)

/-- The request for the information, where it is admitted. -/
theorem keeps_getPrinterInfo (admits : Admits K infoRequest)
    : Maintains (Tells device K) getPrinterInfo := by
  refine .get fun this tells => ?_
  cases this.cachedInfo with
  | some info => exact tells
  | none =>
      have asks : Maintains (Tells device K) (onStream pcGetPrinterInfo) :=
        keeps_onStream (keeps_request (Nat.zero_le _) (by decide) reading_printerInfo admits)
      refine (asks.bind fun _ => ?_) this tells
      exact Maintains.bind (.modify fun _ h => h) fun _ => .pure _

end BasicCaptPrinter

/-- A property that admits every packet of a page is kept by sending one. -/
theorem PageAdmits.keeps (h : PageAdmits K) : PageKeeps (BasicCaptPrinter.Tells device K) where
  started := BasicCaptPrinter.keeps_packet (by decide) h.started
  status := BasicCaptPrinter.keeps_basicStatus h.status
  block := fun data => BasicCaptPrinter.keeps_packet (by decide) (h.block data)
  ended := BasicCaptPrinter.keeps_packet (by decide) h.ended
  poll := fun _ tells => Call.tells_polled tells (h.poll _)

namespace Call

variable {σ α : Type} {I P : BasicCaptPrinter → Prop}

/-- The printer of a call whose token never asks to stop has the property. -/
structure Unasked (I : BasicCaptPrinter → Prop) (this : Call σ) : Prop where
  printer : I this.printer
  never : this.stopToken.left = none

/-- A rule about the printer is one about a call that nobody stops. -/
theorem unasked_onPrinter {Q E : BasicCaptPrinter → Prop} {action : Action BasicCaptPrinter α}
    (h : Triple P action (fun _ => Q) E)
    : Triple (Unasked P) (onPrinter action : Action (Call σ) α) (fun _ => Unasked Q)
        (Unasked E) := by
  apply Triple.zoom
  intro this unasked
  apply h.weaken
  · rintro _ rfl
    exact unasked.printer
  · exact fun _ _ holds => ⟨holds, unasked.never⟩
  · exact fun _ holds => ⟨holds, unasked.never⟩

/-- What the printer keeps is kept in such a call. -/
theorem unasked_keeps {action : Action BasicCaptPrinter α} (h : Maintains I action)
    : Maintains (Unasked I) (onPrinter action : Action (Call σ) α) :=
  (unasked_onPrinter h.triple).maintains

/-- A poll is in the log and finds nothing. -/
theorem unasked_stopRequested (h : PageKeeps I)
    : Maintains (Unasked I) (stopRequested : Action (Call σ) Bool) := by
  apply Triple.maintains
  apply triple_stopRequested
  · intro this unasked stopped
    cases unasked.never.symm.trans stopped
  · intro this unasked _
    refine ⟨h.poll this unasked.printer, ?_⟩
    change this.stopToken.left.map Nat.pred = none
    rw [unasked.never]
    rfl

/-- The wait for room, by induction on the fuel. -/
theorem unasked_pollStatus (h : PageKeeps I) (fuel : Nat)
    : Maintains (Unasked I) (pollStatus fuel : Action (Call σ) Bool) := by
  induction fuel with
  | zero => exact .throw _
  | succ fuel ih =>
      refine (unasked_stopRequested h).bind fun _ => .ite (fun _ => .pure _) fun _ => ?_
      refine (unasked_keeps h.status).bind fun _ => ?_
      exact .ite (fun _ => .pure _) fun _ => .ite (fun _ => .pure _) (fun _ => ih)

/-- The loop over the blocks, by induction on the fuel. -/
theorem unasked_videoLoop [Source Fault UInt8 σ] (h : PageKeeps I) (blockSize polls fuel : Nat)
    : Maintains (Unasked I) (videoLoop blockSize polls fuel : Action (Call σ) Bool) := by
  induction fuel with
  | zero => exact .throw _
  | succ fuel ih =>
      have read : Maintains (Unasked I)
          (onVideo (Source.sgetn blockSize) : Action (Call σ) (List UInt8)) :=
        .zoom fun _ unasked => ⟨unasked.printer, unasked.never⟩
      refine read.bind fun buffer => .ite (fun _ => .pure _) fun _ => ?_
      refine (unasked_pollStatus h polls).bind fun _ => .ite (fun _ => ?_) (fun _ => .pure _)
      refine (unasked_stopRequested h).bind fun _ => .ite (fun _ => .pure _) fun _ => ?_
      exact (unasked_keeps (h.block buffer)).bind fun _ => ih

/-- What reading keeps of the video is kept while it is sent: nothing else is done to it. -/
theorem video_writeVideoData [Source Fault UInt8 σ] {G : σ → Prop}
    (reads : ∀ n, Maintains G (Source.sgetn n)) (fuel : Nat) (params : PageParams)
    (blockSize : Nat)
    : Maintains (fun this : Call σ => G this.videoStream)
        (writeVideoData fuel params blockSize) := by
  have sends : ∀ {β : Type} (action : Action BasicCaptPrinter β),
      Maintains (fun this : Call σ => G this.videoStream) (onPrinter action) :=
    fun _ => .zoom fun _ video => video
  have asks : Maintains (fun this : Call σ => G this.videoStream) stopRequested :=
    .get fun _ video => video
  have polls : ∀ polls, Maintains (fun this : Call σ => G this.videoStream) (pollStatus polls) := by
    intro polls
    induction polls with
    | zero => exact .throw _
    | succ polls ih =>
        refine asks.bind fun _ => .ite (fun _ => .pure _) fun _ => (sends _).bind fun _ => ?_
        exact .ite (fun _ => .pure _) fun _ => .ite (fun _ => .pure _) (fun _ => ih)
  have loop : ∀ blockSize turns,
      Maintains (fun this : Call σ => G this.videoStream) (videoLoop blockSize fuel turns) := by
    intro blockSize turns
    induction turns with
    | zero => exact .throw _
    | succ turns ih =>
        have read : Maintains (fun this : Call σ => G this.videoStream)
            (onVideo (Source.sgetn blockSize)) :=
          .zoom fun this video => reads blockSize this.videoStream video
        refine read.bind fun _ => .ite (fun _ => .pure _) fun _ => (polls fuel).bind fun _ => ?_
        refine .ite (fun _ => asks.bind fun _ => ?_) (fun _ => .pure _)
        exact .ite (fun _ => .pure _) fun _ => (sends _).bind fun _ => ih
  have size : Maintains (fun this : Call σ => G this.videoStream) (transferSize blockSize) :=
    .ite (fun _ => (sends _).bind fun _ => .pure _) (fun _ => .pure _)
  refine size.bind fun blockSize => (sends _).bind fun _ => (sends _).bind fun _ => ?_
  refine (loop blockSize fuel).bind fun _ => ?_
  exact .ite (fun _ => (sends _).bind fun _ => .pure _) (fun _ => .pure _)

/-- A page is begun where `P` holds, and `I` holds from then on. -/
theorem unasked_writeVideoData [Source Fault UInt8 σ] {params : PageParams}
    (info : Maintains P BasicCaptPrinter.getPrinterInfo)
    (begins : Triple P (BasicCaptPrinter.onStream (icBeginPage params)) (fun _ => I) P)
    (weaker : ∀ printer, P printer → I printer) (h : PageKeeps I) (fuel blockSize : Nat)
    : Triple (Unasked P) (writeVideoData fuel params blockSize : Action (Call σ) Bool)
        (fun _ => Unasked I) (Unasked I) := by
  have less : ∀ this : Call σ, Unasked P this → Unasked I this :=
    fun this unasked => ⟨weaker _ unasked.printer, unasked.never⟩
  have size : Maintains (Unasked P) (transferSize blockSize : Action (Call σ) Nat) :=
    .ite (fun _ => (unasked_keeps info).bind fun _ => .pure _) (fun _ => .pure _)
  refine (size.triple.weaken (fun _ => id) (fun _ _ => id) less).bind fun blockSize => ?_
  have begun : Triple (Unasked P) (onStream (icBeginPage params) : Action (Call σ) Unit)
      (fun _ => Unasked I) (Unasked P) :=
    unasked_onPrinter begins
  refine (begun.weaken (fun _ => id) (fun _ _ => id) less).bind fun _ => ?_
  apply Maintains.triple
  refine (unasked_keeps h.started).bind fun _ => ?_
  refine (unasked_videoLoop h blockSize fuel fuel).bind fun _ => ?_
  exact .ite (fun _ => (unasked_keeps h.ended).bind fun _ => .pure _) (fun _ => .pure _)

end Call

end Capt
