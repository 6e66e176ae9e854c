import Libcapt.Examples.PageHeaders
import Libcapt.Printer.PageRules

/-! What every part of the printing program keeps, from what its requests keep, its pages, and
its questions to the caller.
-/

namespace Capt.PrintPbm

open Streams Call Utility Compression

variable {τ σ α : Type}

/-- `J` holds throughout, and `L` where the caller has just said that it does not want to stop.
What is sent besides status requests is sent only there.
-/
structure Steady (J L : Call τ → Prop) : Prop where
  ask : Maintains J (onPrinter BasicCaptPrinter.getStatus)
  clear : ∀ status, Triple L (onPrinter (BasicCaptPrinter.clearError status)) (fun _ => J) J
  online : ∀ page, Triple L (onPrinter (BasicCaptPrinter.goOnline page)) (fun _ => J) J
  poll : Triple J stopRequested (fun stop this => J this ∧ (stop = false → L this)) J
  live : ∀ this, L this → J this

/-- What is sent to the printer leaves the video as it is. -/
theorem steady_video (G : τ → Prop)
    : Steady (fun this => G this.videoStream) (fun this => G this.videoStream) where
  ask := .zoom fun _ h => h
  clear := fun _ => (Maintains.zoom fun _ h => h).triple
  online := fun _ => (Maintains.zoom fun _ h => h).triple
  poll := triple_stopRequested (fun _ h _ => ⟨h, fun _ => h⟩) (fun _ h _ => ⟨h, fun _ => h⟩)
  live := fun _ => id

namespace Steady

variable {J L : Call τ → Prop} {Q : α → Call τ → Prop}

/-- Two properties of a call are kept together. -/
theorem and {J' L' : Call τ → Prop} (h : Steady J L) (h' : Steady J' L')
    : Steady (fun this => J this ∧ J' this) (fun this => L this ∧ L' this) where
  ask := h.ask.and h'.ask
  clear := fun status => (h.clear status).and (h'.clear status)
  online := fun page => (h.online page).and (h'.online page)
  poll := (h.poll.and h'.poll).weaken (fun _ => id)
    (fun _ _ both => ⟨⟨both.1.1, both.2.1⟩, fun no => ⟨both.1.2 no, both.2.2 no⟩⟩) (fun _ => id)
  live := fun this both => ⟨h.live this both.1, h'.live this both.2⟩

/-- The caller is asked, and the program goes on only where it said no. -/
theorem asked (h : Steady J L) {yes no : Action (Call τ) α} (hy : Triple J yes Q J)
    (hn : Triple L no Q J)
    : Triple J
        (do
          if ← stopRequested then yes
          else no)
        Q J := by
  refine h.poll.bind fun stop => ?_
  cases stop with
  | true => exact hy.from fun _ holds => holds.1
  | false => exact hn.from fun _ holds => holds.2 rfl

/-- What is kept throughout is kept from where the caller said no. -/
theorem fromLive (h : Steady J L) {action : Action (Call τ) α} (kept : Maintains J action)
    : Triple L action (fun _ => J) J :=
  kept.triple.from h.live

/-- The loop of `waitReady`, by induction on its turns. -/
theorem waitReadyLoop (h : Steady J L) (fuel : Nat) (status : ExtendedStatus)
    : Maintains J (waitReadyLoop fuel status) := by
  induction fuel generalizing status with
  | zero => exact .throw _
  | succ fuel ih =>
      apply Maintains.ite
      · exact fun _ => .pure _
      · intro _
        apply Triple.maintains
        apply h.asked
        · exact (Maintains.pure status).triple
        · cases cause status with
          | pending => exact h.fromLive (h.ask.bind ih)
          | serviceCall => exact h.fromLive (.throw _)
          | clearError => exact (h.clear _).bind fun _ => (h.ask.bind ih).triple
          | unknown => exact h.fromLive (.pure _)

/-- The wait for a printer that is ready. -/
theorem waitReady (h : Steady J L) (fuel : Nat) : Maintains J (waitReady fuel) :=
  h.ask.bind fun status => .ite (fun _ => .pure _) (fun _ => h.waitReadyLoop fuel status)

/-- The preparation of a page. -/
theorem prepareBeforePrint (h : Steady J L) (fuel page turns : Nat)
    : Maintains J (prepareBeforePrint fuel page turns) := by
  induction turns with
  | zero => exact .throw _
  | succ turns ih =>
      refine (h.waitReady fuel).bind fun status => ?_
      apply Triple.maintains
      apply h.asked
      · exact (Maintains.pure ()).triple
      · apply Triple.ite
        · intro _
          refine (h.online page).bind fun online => Maintains.triple ?_
          exact .ite (fun _ => .pure _) (fun _ => ih)
        · exact fun _ => h.fromLive (.pure _)

/-- The wait for a status. -/
theorem waitStatus (h : Steady J L) (func : ExtendedStatus → Bool) (fuel : Nat)
    : Maintains J (Call.waitStatus func fuel) := by
  induction fuel with
  | zero => exact .throw _
  | succ fuel ih =>
      apply Triple.maintains
      apply h.asked
      · exact (Maintains.pure none).triple
      · apply h.fromLive
        exact h.ask.bind fun status => .ite (fun _ => .pure _) (fun _ => ih)

/-- The wait for the end of printing. -/
theorem waitPrintEnd (h : Steady J L) (fuel : Nat) : Maintains J (Call.waitPrintEnd fuel) :=
  h.waitStatus _ fuel

end Steady

-----------------------------------------------------------------------------------------
-- Writing pages
-----------------------------------------------------------------------------------------

section Writing

variable [Source Fault UInt8 σ] {J L : Call (Pages σ) → Prop} {R : Nat → Call (Pages σ) → Prop}
  {offered : Nat → PageParams → Prop}

/-- The loop of `writePage`, by induction on its turns. A page is sent with its parameters where
`R` holds of its number: the printer was prepared for it, and the caller said no afterwards.
-/
theorem Steady.writePage (h : Steady J L) {fuel : Nat}
    (offers
      : ∀ this prev, L this →
          offered (this.videoStream.chosen prev).pageNumber
            (this.videoStream.chosen prev).params)
    (seek : ∀ prev, Triple L (onChosen prev (onVideo (BufferedPage.seekpos 0))) (fun _ => J) J)
    (begins
      : ∀ page,
          Triple J
            (do
              PrintPbm.prepareBeforePrint fuel page fuel
              stopRequested)
            (fun stop this => J this ∧ (stop = false → R page this)) J)
    (write
      : ∀ prev page params, offered page params →
          Triple (R page) (onChosen prev (withoutToken (writeVideoData fuel params 0)))
            (fun _ => J) J)
    (turns : Nat) (reprint : ReprintStatus)
    : Maintains J (writePage fuel turns reprint) := by
  induction turns generalizing reprint with
  | zero => exact .throw _
  | succ turns ih =>
      apply Triple.maintains
      apply h.asked
      · exact (Maintains.pure true).triple
      · apply Triple.get
        intro this live
        have begun : ∀ s, s = this → L s := fun s same => same ▸ live
        refine ((seek _).from begun).bind fun _ => ?_
        refine (begins _).bind₂ fun stop => ?_
        cases stop with
        | true =>
            apply Triple.pure
            exact fun _ holds => holds.1
        | false =>
            have chosen := offers this (this.videoStream.takesPrev reprint) live
            refine ((write _ _ _ chosen).from fun _ holds => holds.2 rfl).bind fun written => ?_
            apply Maintains.triple
            refine .ite (fun _ => .ite (fun _ => ih _) (fun _ => .pure _)) fun _ => ?_
            refine (h.waitPrintEnd fuel).bind fun status => ?_
            cases status with
            | none => exact .pure _
            | some status => exact .ite (fun _ => .pure _) (fun _ => ih _)

/-- The loop of `waitLastPage`, too. -/
theorem Steady.waitLastPage {J L : Call (BufferedPage σ) → Prop} (h : Steady J L) (fuel : Nat)
    (write : Maintains J (writeOnly fuel)) (turns : Nat)
    : Maintains J (waitLastPage fuel turns) := by
  induction turns with
  | zero => exact .throw _
  | succ turns ih =>
      apply Triple.maintains
      apply h.asked
      · exact (Maintains.pure true).triple
      · apply h.fromLive
        refine (h.waitPrintEnd fuel).bind fun status => ?_
        cases status with
        | none => exact .pure _
        | some status =>
            refine .ite (fun _ => .pure _) fun _ => .ite (fun _ => .pure _) fun _ => ?_
            exact write.bind fun _ => .ite (fun _ => ih) (fun _ => .pure _)

end Writing

-----------------------------------------------------------------------------------------
-- Properties of the printer and the stop token
-----------------------------------------------------------------------------------------

/-- A property of the printer and the token, as one of a call on any video. -/
abbrev On (I : BasicCaptPrinter → StopToken → Prop) (this : Call τ) : Prop :=
  I this.printer this.stopToken

/-- A rule about the printer is one about the call. -/
theorem triple_onPrinter {P I : BasicCaptPrinter → StopToken → Prop}
    {action : Action BasicCaptPrinter α}
    (h
      : ∀ token, Triple (fun printer => P printer token) action (fun _ printer => I printer token)
          (fun printer => I printer token))
    : Triple (On P) (onPrinter action : Action (Call τ) α) (fun _ => On I) (On I) := by
  apply Triple.zoom
  intro this holds
  apply (h this.stopToken).weaken
  · rintro _ rfl
    exact holds
  · exact fun _ _ => id
  · exact fun _ => id

/-- What the printer keeps is kept in the call. -/
theorem maintains_onPrinter {I : BasicCaptPrinter → StopToken → Prop}
    {action : Action BasicCaptPrinter α}
    (h : ∀ token, Maintains (fun printer => I printer token) action)
    : Maintains (On I) (onPrinter action : Action (Call τ) α) :=
  (triple_onPrinter fun token => (h token).triple).maintains

/-- What is kept throughout the program while it prints pages whose numbers and parameters are
offered together: `I` throughout, `L` where the caller has just said no, and `R` where a page is
begun.
-/
structure Throughout (offered : Nat → PageParams → Prop) (I L : BasicCaptPrinter → StopToken → Prop)
    (R : Nat → BasicCaptPrinter → StopToken → Prop)
    : Prop where
  live : ∀ printer token, L printer token → I printer token
  ask : ∀ token, Maintains (fun printer => I printer token) BasicCaptPrinter.getStatus
  asks : ∀ token, Maintains (fun printer => L printer token) BasicCaptPrinter.getStatus
  command
    : ∀ opcode token, Answered opcode →
        Maintains (fun printer => L printer token)
          (BasicCaptPrinter.onStream (Protocol.execCmd opcode))
  leave
    : ∀ opcode token, opcode = 0xE0A6 ∨ opcode = 0xE0A9 →
        Maintains (fun printer => I printer token)
          (BasicCaptPrinter.onStream (Protocol.execCmd opcode))
  online : ∀ page token, Maintains (fun printer => L printer token) (BasicCaptPrinter.goOnline page)
  poll
    : ∀ {τ : Type},
        Triple (On I) (stopRequested : Action (Call τ) Bool)
          (fun stop this => On I this ∧ (stop = false → On L this)) (On I)
  begins
    : ∀ {τ : Type} (fuel page : Nat), Steady (On (τ := τ) I) (On L) →
        Triple (On (τ := τ) I)
          (do
            prepareBeforePrint fuel page fuel
            stopRequested)
          (fun stop this => On I this ∧ (stop = false → On (R page) this)) (On I)
  write
    : ∀ {τ : Type} [Source Fault UInt8 τ] (fuel page : Nat) (params : PageParams),
        offered page params →
          Triple (On (τ := τ) (R page)) (withoutToken (writeVideoData fuel params 0))
            (fun _ => On I) (On I)

/-- Both pages that `writePage` is given have the property. -/
structure Pages.Both (G : BufferedPage σ → Prop) (this : Pages σ) : Prop where
  page : G this.page
  prev : ∀ page, this.prev = some page → G page

namespace Pages.Both

variable {G : BufferedPage σ → Prop} {this : Pages σ}

/-- The page that is referred to is one of them. -/
theorem chosen (h : this.Both G) (takesPrev : Bool) : G (this.chosen takesPrev) := by
  cases takesPrev with
  | false => exact h.page
  | true =>
      cases given : this.prev with
      | none =>
          rw [Pages.chosen, given]
          exact h.page
      | some page =>
          rw [Pages.chosen, given]
          exact h.prev page given

/-- The other page is left as it was. -/
theorem withChosen (h : this.Both G) {page : BufferedPage σ} (holds : G page) (takesPrev : Bool)
    : (this.withChosen page takesPrev).Both G := by
  cases takesPrev with
  | false => exact ⟨holds, h.prev⟩
  | true =>
      refine ⟨h.page, fun other same => ?_⟩
      cases same
      exact holds

end Pages.Both

/-- An action on the page that is referred to, which keeps a property of pages. -/
theorem both_onChosen {G : BufferedPage σ → Prop} {action : Action (Call (BufferedPage σ)) α}
    (kept : Maintains (fun this => G this.videoStream) action) (takesPrev : Bool)
    : Maintains (fun this => this.videoStream.Both G) (onChosen takesPrev action) :=
  .zoom fun _ both => both.withChosen (kept _ (both.chosen takesPrev)) takesPrev

namespace Throughout

variable {offered : Nat → PageParams → Prop} {I L : BasicCaptPrinter → StopToken → Prop}
  {R : Nat → BasicCaptPrinter → StopToken → Prop}

/-- What holds throughout is steady. -/
theorem steady (h : Throughout offered I L R) : Steady (On (τ := τ) I) (On L) where
  ask := maintains_onPrinter h.ask
  clear := fun status => triple_onPrinter fun token =>
    (BasicCaptPrinter.keeps_clearError status (h.asks token)
      (fun opcode => h.command opcode token)).triple.weaken (fun _ => id)
      (fun _ _ => h.live _ _) (fun _ => h.live _ _)
  online := fun page => triple_onPrinter fun token =>
    (h.online page token).triple.weaken (fun _ => id) (fun _ _ => h.live _ _)
      (fun _ => h.live _ _)
  poll := h.poll
  live := fun _ => h.live _ _

section Writing

variable [Source Fault UInt8 σ] {G : σ → Prop}

/-- The pages that are written stay the pages that were offered. -/
theorem writePage (h : Throughout offered I L R) (reads : ∀ n, Maintains G (Source.sgetn n))
    (fuel turns : Nat) (reprint : ReprintStatus)
    : Maintains (fun this => On I this ∧ this.videoStream.Both (Carries offered G))
        (writePage fuel turns reprint) := by
  have video : Steady
      (fun this : Call (Pages σ) => this.videoStream.Both (Carries offered G))
      (fun this => this.videoStream.Both (Carries offered G)) :=
    steady_video _
  apply (h.steady.and video).writePage
    (R := fun page this => On (R page) this ∧ this.videoStream.Both (Carries offered G))
  · exact fun this prev live => (live.2.chosen prev).offered
  · intro prev
    apply (h.steady.and video).fromLive
    apply Maintains.and
    · exact .zoom fun this kept => kept
    · exact both_onChosen (.zoom fun this carries => carries_seekpos 0 _ carries) prev
  · intro page
    have asked := (video.prepareBeforePrint fuel page fuel).triple.bind fun _ => video.poll
    apply ((h.begins fuel page h.steady).and asked).weaken
    · exact fun _ => id
    · exact fun _ _ both => ⟨⟨both.1.1, both.2.1⟩, fun no => ⟨both.1.2 no, both.2.1⟩⟩
    · exact fun _ => id
  · intro prev page params given
    have sends : Triple (On (R page))
        (onChosen prev (withoutToken (writeVideoData fuel params 0)) : Action (Call (Pages σ)) _)
        (fun _ => On I) (On I) := by
      apply Triple.zoom
      intro this ready
      apply (h.write fuel page params given).weaken
      · rintro _ rfl
        exact ready
      · exact fun _ _ => id
      · exact fun _ => id
    apply sends.and (Maintains.triple (both_onChosen ?_ prev))
    exact .zoom fun this carries =>
      video_writeVideoData (carries_sgetn reads) fuel params 0 _ carries

/-- Sending the page that is current. -/
theorem writeOnly (h : Throughout offered I L R) (reads : ∀ n, Maintains G (Source.sgetn n))
    (fuel : Nat)
    : Maintains (fun this => On I this ∧ Carries offered G this.videoStream)
        (writeOnly fuel) := by
  refine .zoom fun this kept => ?_
  have pages : (⟨this.videoStream, none⟩ : Pages σ).Both (Carries offered G) := by
    refine ⟨kept.2, fun page same => ?_⟩
    cases same
  have written := h.writePage reads fuel fuel .none
    ⟨this.printer, this.stopToken, ⟨this.videoStream, none⟩⟩ ⟨kept.1, pages⟩
  exact ⟨written.1, written.2.page⟩

end Writing

/-- A page of the file is written: it keeps its number, and the stream loses what it read. -/
theorem writeCurrPage {headers : List PageParams} (h : Throughout (Numbered headers) I L R)
    (fuel : Nat) {page : Nat} {params : PageParams} {prevPage : PbmPage}
    (numbered : Numbered headers page params) (detached : prevPage.videoStream = none)
    (prev : page ≠ 0 → Numbered headers prevPage.pageNumber prevPage.params) (stream : IStream)
    : Triple (fun this => On I this ∧ this.videoStream = stream)
        (writeCurrPage fuel page params prevPage)
        (fun result this => On I this
          ∧ Numbered headers result.2.pageNumber result.2.params
          ∧ ∃ rest, rest <:+ stream.rdbuf.buffer
            ∧ this.videoStream = { stream with rdbuf := ⟨rest⟩ })
        (On I) := by
  have writes := h.writePage (within_sgetn stream.rdbuf.buffer) fuel fuel .none
  apply Triple.zoom
  rintro this ⟨holds, rfl⟩
  have pages : (⟨pageOf page params this.videoStream, if page = 0 then none else some prevPage⟩
      : Pages _).Both (Carries (Numbered headers) (Within this.videoStream.rdbuf.buffer)) := by
    refine ⟨carries_pageOf numbered this.videoStream, fun other given => ?_⟩
    by_cases first : page = 0
    · rw [if_pos first] at given
      cases given
    · rw [if_neg first] at given
      cases given
      refine ⟨prev first, fun scoa same => ?_⟩
      cases detached.symm.trans same
  refine Triple.bind (M := fun _ inner => On I inner
    ∧ inner.videoStream.Both
        (Carries (Numbered headers) (Within this.videoStream.rdbuf.buffer)))
    (writes.triple.weaken ?_ (fun _ _ => id) fun _ kept => kept.1) fun written => ?_
  · rintro _ rfl
    exact ⟨holds, pages⟩
  · refine Triple.get fun inner kept => .pure ?_
    rintro _ rfl
    exact ⟨kept.1, kept.2.page.offered, _, rdbufOf_suffix kept.2.page, rfl⟩

/-- The wait for the last page. -/
theorem lastPageEnded (h : Throughout offered I L R) (fuel page : Nat) {prevPage : PbmPage}
    (prev : page ≠ 0 → offered prevPage.pageNumber prevPage.params)
    : Maintains (On I) (lastPageEnded fuel page prevPage) := by
  refine .ite (fun _ => .pure _) fun some => .zoom fun this kept => ?_
  have carries : Carries offered (fun _ => True) prevPage := ⟨prev some, fun _ _ => trivial⟩
  have video : Steady
      (fun this : Call PbmPage => Carries offered (fun _ => True) this.videoStream)
      (fun this => Carries offered (fun _ => True) this.videoStream) :=
    steady_video _
  have waited := (h.steady.and video).waitLastPage fuel
    (h.writeOnly (fun _ _ _ => trivial) fuel) fuel
  exact (waited ⟨this.printer, this.stopToken, prevPage⟩ ⟨kept, carries⟩).1

end Throughout

-----------------------------------------------------------------------------------------
-- The program
-----------------------------------------------------------------------------------------

section Program

variable {start : IStream} {I L : List PageParams → BasicCaptPrinter → StopToken → Prop}
  {R : List PageParams → Nat → BasicCaptPrinter → StopToken → Prop}

/-- So far some headers were read from the file, and the property holds with them. -/
def SoFar (start : IStream) (I : List PageParams → BasicCaptPrinter → StopToken → Prop)
    (this : Call IStream)
    : Prop :=
  ∃ headers stream, HeadersRead start headers stream ∧ On (I headers) this

/-- The last page that was written is one of those whose headers were read. -/
def LastOf (start : IStream) (I : List PageParams → BasicCaptPrinter → StopToken → Prop)
    (result : Option (Nat × PbmPage)) (this : Call IStream)
    : Prop :=
  ∃ headers stream, HeadersRead start headers stream ∧ On (I headers) this
    ∧ ∀ last, result = some last → last.1 ≠ 0 →
        Numbered headers last.2.pageNumber last.2.params

/-- The loop over the pages, by induction on its turns: each turn reads one more header. -/
theorem throughout_pageLoop
    (h : ∀ headers, Throughout (Numbered headers) (I headers) (L headers) (R headers))
    (later
      : ∀ headers params printer token, I headers printer token →
          I (headers ++ [params]) printer token)
    (fuel turns : Nat) {headers : List PageParams} {prevPage : PbmPage}
    (detached : prevPage.videoStream = none)
    (prev
      : unsigned headers.length ≠ 0 → Numbered headers prevPage.pageNumber prevPage.params)
    {stream : IStream} (read : HeadersRead start headers stream)
    : Triple (fun this => On (I headers) this ∧ this.videoStream = stream)
        (pageLoop fuel turns (unsigned headers.length) prevPage) (LastOf start I)
        (SoFar start I) := by
  induction turns generalizing headers prevPage stream with
  | zero => exact .throw fun _ holds => ⟨headers, stream, read, holds.1⟩
  | succ turns ih =>
      have steady := (h headers).steady.and (steady_video fun video => video = stream)
      have soFar : ∀ this : Call IStream, On (I headers) this ∧ this.videoStream = stream →
          SoFar start I this :=
        fun _ holds => ⟨headers, stream, read, holds.1⟩
      have done : ∀ this : Call IStream, On (I headers) this →
          LastOf start I (some (unsigned headers.length, prevPage)) this := by
        intro this holds
        refine ⟨headers, stream, read, holds, fun last same some => ?_⟩
        cases same
        exact prev some
      refine (steady.poll.weaken (fun _ => id) (fun _ _ => id) soFar).bind fun stop =>
        Triple.ite ?_ ?_
      · exact fun _ => .pure fun this holds => done this holds.1.1
      · intro _
        have header : Triple (fun this => On (I headers) this ∧ this.videoStream = stream)
            (onVideo PbmPageProvider.readHeader)
            (fun params this => On (I headers) this
              ∧ PbmPageProvider.readHeader.run stream = .ok params this.videoStream)
            (SoFar start I) := by
          apply Triple.zoom
          rintro this ⟨holds, rfl⟩ _ rfl
          exact ⟨fun params stream' run => ⟨holds, run⟩,
            fun err stream' _ => ⟨headers, _, read, holds⟩⟩
        refine (header.from fun _ holds => holds.1).bind fun params => ?_
        cases params with
        | none => exact .pure fun this holds => done this holds.1
        | some params =>
            rintro this ⟨holds, found⟩
            have next : ∀ rest, rest <:+ this.videoStream.rdbuf.buffer →
                HeadersRead start (headers ++ [params])
                  { this.videoStream with rdbuf := ⟨rest⟩ } :=
              fun rest behind => .header read found behind
            have writes := (h (headers ++ [params])).writeCurrPage fuel
              (numbered_last headers params) detached
              (fun some => (prev some).later params) this.videoStream
            refine ((writes.weaken (fun _ => id) (fun _ _ => id) fun inner kept => ?_).bind
              fun result => ?_) this ⟨later headers params _ _ holds, rfl⟩
            · exact ⟨headers ++ [params], _, next _ (List.suffix_refl _), kept⟩
            · obtain ⟨written, currPage⟩ := result
              apply Triple.ite
              · rintro _ inner ⟨kept, numbered, rest, behind, left⟩
                have size : unsigned (unsigned headers.length + 1)
                    = unsigned (headers ++ [params]).length := by
                  rw [unsigned_succ, List.length_append]
                  rfl
                rw [size]
                have moved : (prevPage.moveAssign currPage).videoStream = none := detached
                exact ih moved (fun _ => numbered) (next rest behind) inner ⟨kept, left⟩
              · rintro _ inner ⟨kept, _, rest, behind, _⟩
                constructor
                · intro result inner' run
                  cases run
                  exact ⟨_, _, next rest behind, kept, nofun⟩
                · intro err inner' run
                  cases run

/-- The whole program. The requests before the first question are as where it was answered
with no.
-/
theorem throughout_main
    (h : ∀ headers, Throughout (Numbered headers) (I headers) (L headers) (R headers))
    (later
      : ∀ headers params printer token, I headers printer token →
          I (headers ++ [params]) printer token)
    (fuel : Nat) (start : IStream)
    : Triple (fun this => On (L []) this ∧ this.videoStream = start) (main fuel)
        (fun _ => SoFar start I) (SoFar start I) := by
  have unread : ∀ this : Call IStream, On (I []) this → SoFar start I this :=
    fun _ holds => ⟨[], start, .start, holds⟩
  have reserve : Maintains (fun this => On (L []) this ∧ this.videoStream = start)
      (onPrinter BasicCaptPrinter.reserveUnit) := by
    apply Maintains.and
    · exact maintains_onPrinter fun token => BasicCaptPrinter.keeps_reserveUnit ((h []).asks token)
        ((h []).command _ token (by decide))
    · exact .zoom fun _ same => same
  have leave : Maintains (SoFar start I)
      (do
        onPrinter BasicCaptPrinter.goOffline
        onPrinter BasicCaptPrinter.releaseUnit
        return 0) := by
    rintro this ⟨headers, stream, read, holds⟩
    have offline : Maintains (On (I headers))
        (onPrinter BasicCaptPrinter.goOffline : Action (Call IStream) _) :=
      maintains_onPrinter fun token =>
        BasicCaptPrinter.keeps_goOffline ((h headers).ask token)
          ((h headers).leave _ token (.inl rfl))
    have release : Maintains (On (I headers))
        (onPrinter BasicCaptPrinter.releaseUnit : Action (Call IStream) _) :=
      maintains_onPrinter fun token =>
        BasicCaptPrinter.keeps_releaseUnit ((h headers).ask token)
          ((h headers).leave _ token (.inr rfl))
    exact ⟨headers, stream, read,
      (offline.bind fun _ => release.bind fun _ => Maintains.pure 0) this holds⟩
  have steady := (h []).steady.and (steady_video fun video => video = start)
  refine (reserve.triple.weaken (fun _ => id) (fun _ _ => id) fun this holds =>
    unread this ((h []).live _ _ holds.1)).bind fun _ => ?_
  refine ((steady.clear none).weaken (fun _ => id) (fun _ _ => id) fun this holds =>
    unread this holds.1).bind fun _ => ?_
  have pages : Triple (fun this => On (I []) this ∧ this.videoStream = start)
      (pageLoop fuel fuel 0 emptyPage) (LastOf start I) (SoFar start I) :=
    throughout_pageLoop h later fuel fuel rfl (fun none => absurd rfl none) .start
  refine pages.bind fun pages => ?_
  cases pages with
  | none => exact .pure fun this ⟨headers, stream, read, holds, _⟩ => ⟨headers, stream, read, holds⟩
  | some last =>
      rintro this ⟨headers, stream, read, holds, prev⟩
      have waited : Triple (On (I headers)) (lastPageEnded fuel last.1 last.2)
          (fun _ => SoFar start I) (SoFar start I) :=
        ((h headers).lastPageEnded fuel last.1 (prev last rfl)).triple.weaken (fun _ => id)
          (fun _ this holds => ⟨headers, stream, read, holds⟩)
          fun this holds => ⟨headers, stream, read, holds⟩
      refine (waited.bind fun ended => Maintains.triple ?_) this holds
      exact .ite (fun _ => leave) (fun _ => .pure _)

end Program

/-- A property of the log that nothing that follows takes away. -/
theorem growing_throughout {device : List Event → List UInt8 → List UInt8}
    {K : List Event → Prop} {offered : Nat → PageParams → Prop}
    (grows : ∀ log event, K log → K (log ++ [event]))
    : Throughout offered (fun printer _ => printer.Tells device K)
        (fun printer _ => printer.Tells device K) (fun _ printer _ => printer.Tells device K) := by
  have admits : ∀ chunk, Admits K chunk := fun _ _ _ => grows _ _
  have page : PageAdmits K :=
    ⟨admits _, admits _, fun _ => admits _, admits _, fun _ => grows _ _⟩
  have poll : ∀ {τ : Type}, Maintains (On fun printer _ => printer.Tells device K)
      (stopRequested : Action (Call τ) Bool) := by
    intro τ
    apply Triple.maintains
    apply triple_stopRequested
    · exact fun this tells _ => tells_polled tells (grows _ _)
    · exact fun this tells _ => tells_polled tells (grows _ _)
  constructor
  case live => exact fun _ _ => id
  case ask => exact fun _ => BasicCaptPrinter.keeps_getStatus (admits _)
  case asks => exact fun _ => BasicCaptPrinter.keeps_getStatus (admits _)
  case command => exact fun _ _ answered => BasicCaptPrinter.keeps_command answered (admits _)
  case leave =>
    rintro opcode _ (rfl | rfl)
    · exact BasicCaptPrinter.keeps_command (by decide) (admits _)
    · exact BasicCaptPrinter.keeps_command (by decide) (admits _)
  case online =>
    intro page _
    exact BasicCaptPrinter.keeps_goOnline page (BasicCaptPrinter.keeps_getStatus (admits _))
      (BasicCaptPrinter.keeps_pcrGoOnline page (admits _))
  case poll =>
    intro τ
    exact poll.triple.weaken (fun _ => id) (fun _ _ kept => ⟨kept, fun _ => kept⟩) (fun _ => id)
  case begins =>
    intro τ fuel page steady
    exact ((steady.prepareBeforePrint fuel page fuel).bind fun _ => poll).triple.weaken
      (fun _ => id) (fun _ _ kept => ⟨kept, fun _ => kept⟩) (fun _ => id)
  case write =>
    intro τ _ fuel _ params _
    apply Triple.zoom
    intro this tells
    apply (unasked_writeVideoData (BasicCaptPrinter.keeps_getPrinterInfo (admits _))
      (BasicCaptPrinter.keeps_packet (by decide) (admits _)).triple (fun _ => id) page.keeps fuel
      0).weaken
    · rintro _ rfl
      exact ⟨tells, rfl⟩
    · exact fun _ _ unasked => unasked.printer
    · exact fun _ unasked => unasked.printer

end Capt.PrintPbm
