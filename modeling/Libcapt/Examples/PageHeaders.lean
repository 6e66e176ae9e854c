import Libcapt.Compression.PageEncoding
import Libcapt.Examples.PrintPbm
import Libcapt.Streams.Comparison
import Libcapt.Streams.Invariant

/-! Which page of the file a page is: the headers that the printing program reads one behind the
other, and the number and the parameters that a page keeps while it is read, moved and sent.
-/

namespace Capt.PrintPbm

open Streams Utility Compression

-----------------------------------------------------------------------------------------
-- The headers of a file
-----------------------------------------------------------------------------------------

/-- The headers were read from the file one behind the other, and left the stream like this. What
is skipped behind each of them is what its page took off the raster: all of it where the page was
sent to its end, and less where it was given up.
-/
inductive HeadersRead (start : IStream) : List PageParams → IStream → Prop
  | start : HeadersRead start [] start
  | header {headers : List PageParams} {stream stream' : IStream} {params : PageParams}
    {rest : List UInt8} (before : HeadersRead start headers stream)
    (read : PbmPageProvider.readHeader.run stream = .ok (some params) stream')
    (behind : rest <:+ stream'.rdbuf.buffer)
    : HeadersRead start (headers ++ [params]) { stream' with rdbuf := ⟨rest⟩ }

/-- The parameters are those of one of the headers, and the number counts the headers before it,
in an `unsigned`.
-/
def Numbered (headers : List PageParams) (number : Nat) (params : PageParams) : Prop :=
  ∃ n : Nat, headers[n]? = some params ∧ number = unsigned n

/-- Headers that are read later leave the number of a page as it is. -/
theorem Numbered.later {headers : List PageParams} {number : Nat} {params : PageParams}
    (h : Numbered headers number params) (next : PageParams)
    : Numbered (headers ++ [next]) number params := by
  obtain ⟨n, header, same⟩ := h
  refine ⟨n, ?_, same⟩
  obtain ⟨inside, _⟩ := List.getElem?_eq_some_iff.mp header
  rw [List.getElem?_append_left inside]
  exact header

/-- The last header has the number of the headers before it. -/
theorem numbered_last (headers : List PageParams) (params : PageParams)
    : Numbered (headers ++ [params]) (unsigned headers.length) params :=
  ⟨headers.length, List.getElem?_concat_length, rfl⟩

-----------------------------------------------------------------------------------------
-- Pages
-----------------------------------------------------------------------------------------

section Pages

variable {σ : Type} {offered : Nat → PageParams → Prop} {G : σ → Prop}

/-- The page has a number and parameters that are offered together, and its stream, if it has
one, has the property.
-/
structure Carries (offered : Nat → PageParams → Prop) (G : σ → Prop) (this : BufferedPage σ)
    : Prop where
  offered : offered this.pageNumber this.params
  stream : ∀ s, this.videoStream = some s → G s

/-- A seek moves within the page. -/
theorem carries_seekpos (pos : Int)
    : Maintains (Carries offered G) (BufferedPage.seekpos pos) := by
  have set : Maintains (Carries offered G) (BufferedPage.setPosition pos) := by
    refine .get fun this h => ?_
    by_cases inside : 0 ≤ pos ∧ pos ≤ this.egptr
    · rw [if_pos inside]
      exact ⟨h.offered, h.stream⟩
    · rw [if_neg inside]
      exact h
  exact set.bind fun _ => .get fun _ h => h

/-- What changes the buffer and the pointers alone leaves the number and the stream. -/
theorem carries_modify {change : BufferedPage σ → BufferedPage σ}
    (same
      : ∀ this, (change this).pageNumber = this.pageNumber ∧ (change this).params = this.params
          ∧ (change this).videoStream = this.videoStream)
    : Maintains (Carries offered G) (modify change : Action (BufferedPage σ) PUnit) := by
  apply Maintains.modify
  intro this h
  obtain ⟨number, params, stream⟩ := same this
  constructor
  · rw [number, params]
    exact h.offered
  · rw [stream]
    exact h.stream

variable [Source Fault UInt8 σ]

/-- A refill reads a block from the stream of the page. -/
theorem carries_underflow (reads : ∀ n, Maintains G (Source.sgetn n))
    : Maintains (Carries offered G) BufferedPage.underflow := by
  refine .get fun this h => ?_
  cases this.area with
  | cons b rest => exact h
  | nil =>
      cases source : this.videoStream with
      | none => exact h
      | some stream =>
          have given : G stream := h.stream stream source
          refine Maintains.bind ?_ (fun _ => ?_) this h
          · exact carries_modify fun _ => ⟨rfl, rfl, rfl⟩
          refine Maintains.bind (.zoom fun page carries => ⟨carries.offered, ?_⟩) fun s => ?_
          · intro s same
            cases same
            exact reads this.blockSize stream given
          refine Maintains.bind ?_ fun _ => Maintains.bind ?_ fun _ => .get fun _ h => h
          · exact carries_modify fun _ => ⟨rfl, rfl, rfl⟩
          · exact carries_modify fun _ => ⟨rfl, rfl, rfl⟩

/-- Reading a page keeps what it carries. -/
theorem carries_preserved (reads : ∀ n, Maintains G (Source.sgetn n))
    : Streambuf.Preserves (Carries offered G) :=
  ⟨fun h _ => ⟨h.offered, h.stream⟩, fun {s} h => carries_underflow reads s h⟩

/-- A page with an offered number keeps it, however it is read. -/
theorem carries_sgetn (reads : ∀ n, Maintains G (Source.sgetn n)) (n : Nat)
    : Maintains (Carries offered G) (Source.sgetn n) :=
  fun _ h => (carries_preserved reads).xsgetn n h

end Pages

-----------------------------------------------------------------------------------------
-- The raster
-----------------------------------------------------------------------------------------

/-- A block is the front of a buffer in memory. -/
theorem run_sgetn_memory (n : Nat) (left : List UInt8)
    : (Source.sgetn n : Action MemoryStreambuf (List UInt8)).run ⟨left⟩
      = .ok (left.take n) ⟨left.drop n⟩ :=
  rfl

/-- What the compressor has left of its raster is an end of the bytes. -/
def Within (bytes : List UInt8) (this : ScoaStreambuf MemoryStreambuf) : Prop :=
  ∀ raster : MemoryStreambuf, this.rasterStream = some raster → raster.buffer <:+ bytes

/-- A line is read from inside the file. -/
theorem within_readLine (bytes : List UInt8)
    : Maintains (Within bytes) ScoaStreambuf.readLine := by
  intro this h
  cases source : this.rasterStream with
  | none =>
      simp only [ScoaStreambuf.readLine, EStateM.run, source]
      exact h
  | some raster =>
      rw [ScoaStreambuf.run_readLine source (run_sgetn_memory _ raster.buffer)]
      intro raster' same
      cases same
      exact (List.drop_suffix _ _).trans (h raster source)

/-- Compressing a line reads nothing. -/
theorem within_encodeLine (bytes : List UInt8)
    : Maintains (Within bytes) ScoaStreambuf.encodeLine := by
  intro this h
  simp only [ScoaStreambuf.encodeLine, EStateM.run]
  split
  · exact h
  · exact h

/-- So the next line is read from inside the file. -/
theorem within_underflow (bytes : List UInt8)
    : Maintains (Within bytes) ScoaStreambuf.underflow := by
  refine .get fun this h => ?_
  cases this.area with
  | cons b rest => exact h
  | nil =>
      refine Maintains.ite (fun _ => .pure _) (fun _ => ?_) this h
      refine (within_readLine bytes).bind fun read => .ite (fun _ => .pure _) fun _ => ?_
      refine (within_encodeLine bytes).bind fun _ => Maintains.bind ?_ fun _ => .get fun _ h => h
      exact .modify fun _ h => h

/-- Reading the compressed page stays inside the file. -/
theorem within_preserved (bytes : List UInt8) : Streambuf.Preserves (Within bytes) :=
  ⟨fun h _ => h, fun {this} h => within_underflow bytes this h⟩

/-- So does reading a block of it. -/
theorem within_sgetn (bytes : List UInt8) (n : Nat)
    : Maintains (Within bytes) (Source.sgetn n) :=
  fun _ h => (within_preserved bytes).xsgetn n h

/-- The page of a file that has just been constructed. -/
theorem carries_pageOf {headers : List PageParams} {page : Nat} {params : PageParams}
    (numbered : Numbered headers page params) (stream : IStream)
    : Carries (Numbered headers) (Within stream.rdbuf.buffer) (pageOf page params stream) := by
  refine ⟨numbered, fun scoa same => ?_⟩
  cases same
  intro raster same
  cases same
  exact List.suffix_refl _

/-- Such a page leaves an end of what the stream had. -/
theorem rdbufOf_suffix {offered : Nat → PageParams → Prop} {stream : IStream} {page : PbmPage}
    (h : Carries offered (Within stream.rdbuf.buffer) page)
    : (rdbufOf page stream).buffer <:+ stream.rdbuf.buffer := by
  unfold rdbufOf
  cases source : page.videoStream with
  | none => exact List.suffix_refl _
  | some scoa =>
      cases raster : scoa.rasterStream with
      | none =>
          rw [Option.bind_some, raster]
          exact List.suffix_refl _
      | some left =>
          rw [Option.bind_some, raster]
          exact h.stream scoa source left raster

end Capt.PrintPbm
