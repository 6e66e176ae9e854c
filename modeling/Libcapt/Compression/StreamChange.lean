import Libcapt.Compression.RoundTrip
import Libcapt.Streams.Tracks

/-! What the decoder reads from memory without an exception, it reads from any stream that has the
same bytes next. It does not look at what the stream has behind them.
-/

namespace Capt.Compression.DecoderStreambuf

open Streams

variable {σ : Type}

/-- The decoder with another stream. -/
def onto (this : DecoderStreambuf MemoryStreambuf) (stream : σ) : DecoderStreambuf σ where
  stream := stream
  commandLog := this.commandLog
  buffer := this.buffer
  lineSize := this.lineSize
  videoSize := this.videoSize
  area := this.area

/-- The decoders differ in their streams alone, which have the same bytes next. -/
def Mirrors (R : σ → List UInt8 → Prop) (this : DecoderStreambuf MemoryStreambuf)
    (other : DecoderStreambuf σ)
    : Prop :=
  ∃ stream, other = this.onto stream ∧ R stream this.stream.buffer

variable {R : σ → List UInt8 → Prop}

section Own

/-- The two logs grow by the same text. -/
theorem tracks_clog (text : String) : Tracks (Mirrors R) (clog text) (clog text) := by
  apply Tracks.modify
  rintro this _ ⟨stream, rfl, stocked⟩
  exact ⟨stream, rfl, stocked⟩

/-- Inserting the same bytes. -/
theorem tracks_insert (data : List UInt8) : Tracks (Mirrors R) (insert data) (insert data) := by
  apply Tracks.modify
  rintro this _ ⟨stream, rfl, stocked⟩
  exact ⟨stream, rfl, stocked⟩

/-- The same check passes or fails on both sides. -/
theorem tracks_checkBounds (value min max : Nat) (paramName : String)
    : Tracks (Mirrors R) (checkBounds value min max paramName)
        (checkBounds value min max paramName) :=
  .ite (fun _ => .throw _ _) (fun _ => .pure _)

/-- `repeat` of the same byte. -/
theorem tracks_repeats (count : Nat) (repeatByte : UInt8)
    : Tracks (Mirrors R) (repeats count repeatByte) (repeats count repeatByte) :=
  .ite (fun _ => .pure _) (fun _ => tracks_insert _)

/-- `raw` of the same bytes. -/
theorem tracks_raw (data : List UInt8) : Tracks (Mirrors R) (raw data) (raw data) :=
  .ite (fun _ => .pure _) (fun _ => tracks_insert _)

/-- `copy` looks only at the buffers, which are equal. -/
theorem tracks_copy (count : Nat) : Tracks (Mirrors R) (copy count) (copy count) := by
  refine .ite (fun _ => .pure _) fun _ => .get ?_
  rintro this _ ⟨stream, rfl, stocked⟩
  refine Tracks.ite (fun _ => .throw _ _) (fun _ => .ite (fun _ => .throw _ _) fun _ => ?_)
    this _ ⟨stream, rfl, stocked⟩
  exact tracks_insert _

/-- `endLine` looks only at the buffers and the line size. -/
theorem tracks_endLine : Tracks (Mirrors R) endLine endLine := by
  refine .get ?_
  rintro this _ ⟨stream, rfl, stocked⟩
  exact Tracks.ite (fun _ => .throw _ _) (fun _ => tracks_copy _) this _ ⟨stream, rfl, stocked⟩

/-- A command without operands. -/
theorem tracks_decodeCopyLong (cmd : UInt8)
    : Tracks (Mirrors R) (decodeCopyLong cmd) (decodeCopyLong cmd) := by
  refine (tracks_clog _).bind fun _ => (tracks_checkBounds _ _ _ _).bind fun _ => ?_
  exact (tracks_copy _).bind fun _ => .pure _

/-- The check at the end of a page looks only at the video size. -/
theorem tracks_endPage : Tracks (Mirrors R) endPage endPage := by
  refine .get ?_
  rintro this _ ⟨stream, rfl, stocked⟩ a this' run
  by_cases odd : (this.videoSize + 1) % 2 ≠ 0
  · rw [if_pos odd] at run
    cases run
  · rw [if_neg odd] at run
    cases run
    refine ⟨_, if_neg odd ▸ rfl, stream, rfl, stocked⟩

end Own

/-- What the stream does when it is read from inside the decoder. -/
theorem run_onStream {τ α : Type} {action : Action τ α} {this : DecoderStreambuf τ} {a : α}
    {stream : τ} (run : action.run this.stream = .ok a stream)
    : (zoom DecoderStreambuf.stream (fun s this => { this with stream := s }) action).run this
      = .ok a { this with stream := stream } :=
  run_zoom_ok run

section Reading

variable [FiniteSource Fault UInt8 σ]

/-- A byte is there on both sides or on none. -/
theorem tracks_mustGet (stocks : Stocks R) : Tracks (Mirrors R) mustGet mustGet := by
  rintro this _ ⟨stream, rfl, stocked⟩ a this' run
  obtain ⟨⟨bytes⟩, commandLog, buffer, lineSize, videoSize, area⟩ := this
  cases bytes with
  | nil => cases run
  | cons b rest =>
      cases run
      obtain ⟨stream', taken, stocked'⟩ := stocks.sbumpc stocked
      refine ⟨_, ?_, stream', rfl, stocked'⟩
      unfold mustGet
      rw [run_bind_ok (run_onStream taken)]
      rfl

/-- A block is there on both sides or on none. -/
theorem tracks_mustRead (stocks : Stocks R) (n : Nat)
    : Tracks (Mirrors R) (mustRead n) (mustRead n) := by
  rintro this _ ⟨stream, rfl, stocked⟩ a this' run
  have read : (Source.sgetn n).run this.stream
      = .ok (this.stream.buffer.take n) (⟨this.stream.buffer.drop n⟩ : MemoryStreambuf) :=
    rfl
  unfold mustRead at run
  rw [run_bind_ok (run_onStream read)] at run
  by_cases short : (this.stream.buffer.take n).length ≠ n
  · rw [if_pos short] at run
    cases run
  · rw [if_neg short] at run
    cases run
    have size := not_not.mp short
    rw [← List.take_append_drop n this.stream.buffer] at stocked
    obtain ⟨stream', taken, stocked'⟩ := stocks.sgetn (this.stream.buffer.take n) stocked
    rw [size] at taken
    refine ⟨_, ?_, stream', rfl, stocked'⟩
    unfold mustRead
    rw [run_bind_ok (run_onStream taken), if_neg short]
    rfl

/-- The extended commands, each by its own steps. -/
theorem tracks_decodeExtended (stocks : Stocks R) (extendCount cmd : UInt8)
    : Tracks (Mirrors R) (decodeExtended extendCount cmd) (decodeExtended extendCount cmd) := by
  refine .ite (fun _ => ?_) fun _ => .ite (fun _ => ?_) fun _ => .ite (fun _ => ?_) fun _ => ?_
  · refine (tracks_clog _).bind fun _ => (tracks_checkBounds _ _ _ _).bind fun _ => ?_
    exact (tracks_repeats _ _).bind fun _ => .pure _
  · refine (tracks_mustGet stocks).bind fun _ => (tracks_clog _).bind fun _ => ?_
    refine (tracks_checkBounds _ _ _ _).bind fun _ => ?_
    refine (tracks_checkBounds _ _ _ _).bind fun _ => ?_
    exact (tracks_copy _).bind fun _ => (tracks_repeats _ _).bind fun _ => .pure _
  · refine (tracks_mustGet stocks).bind fun _ => (tracks_clog _).bind fun _ => ?_
    refine (tracks_mustRead stocks _).bind fun _ => (tracks_checkBounds _ _ _ _).bind fun _ => ?_
    refine (tracks_checkBounds _ _ _ _).bind fun _ => (tracks_repeats _ _).bind fun _ => ?_
    exact (tracks_raw _).bind fun _ => .pure _
  · refine (tracks_clog _).bind fun _ => (tracks_mustRead stocks _).bind fun _ => ?_
    refine (tracks_checkBounds _ _ _ _).bind fun _ => ?_
    refine (tracks_checkBounds _ _ _ _).bind fun _ => ?_
    exact (tracks_copy _).bind fun _ => (tracks_raw _).bind fun _ => .pure _

/-- `CopyThenRepeat`. -/
theorem tracks_decodeCopyThenRepeat (stocks : Stocks R) (cmd : UInt8)
    : Tracks (Mirrors R) (decodeCopyThenRepeat cmd) (decodeCopyThenRepeat cmd) := by
  refine (tracks_mustGet stocks).bind fun _ => (tracks_clog _).bind fun _ => ?_
  refine (tracks_checkBounds _ _ _ _).bind fun _ => (tracks_checkBounds _ _ _ _).bind fun _ => ?_
  exact (tracks_copy _).bind fun _ => (tracks_repeats _ _).bind fun _ => .pure _

/-- `CopyThenRaw`. -/
theorem tracks_decodeCopyThenRaw (stocks : Stocks R) (cmd : UInt8)
    : Tracks (Mirrors R) (decodeCopyThenRaw cmd) (decodeCopyThenRaw cmd) := by
  refine (tracks_clog _).bind fun _ => (tracks_mustRead stocks _).bind fun _ => ?_
  refine (tracks_checkBounds _ _ _ _).bind fun _ => (tracks_checkBounds _ _ _ _).bind fun _ => ?_
  exact (tracks_copy _).bind fun _ => (tracks_raw _).bind fun _ => .pure _

/-- The byte commands whose two highest bits are set. -/
theorem tracks_decodeShort (stocks : Stocks R) (cmd : UInt8)
    : Tracks (Mirrors R) (decodeShort cmd) (decodeShort cmd) := by
  refine .ite (fun _ => ?_) fun _ => .ite (fun _ => ?_) fun _ => .ite (fun _ => ?_) fun _ => ?_
  · exact (tracks_clog _).bind fun _ => (tracks_copy _).bind fun _ => .pure _
  · refine (tracks_clog _).bind fun _ => (tracks_checkBounds _ _ _ _).bind fun _ => ?_
    exact (tracks_repeats _ _).bind fun _ => .pure _
  · refine (tracks_mustGet stocks).bind fun _ => (tracks_clog _).bind fun _ => ?_
    refine (tracks_mustRead stocks _).bind fun _ => (tracks_checkBounds _ _ _ _).bind fun _ => ?_
    refine (tracks_checkBounds _ _ _ _).bind fun _ => (tracks_repeats _ _).bind fun _ => ?_
    exact (tracks_raw _).bind fun _ => .pure _
  · exact .throw _ _

/-- Both sides take the same branch, since they have read the same byte. -/
theorem tracks_decodeCommand (stocks : Stocks R) (cmd : UInt8)
    : Tracks (Mirrors R) (decodeCommand cmd) (decodeCommand cmd) := by
  refine .ite (fun _ => ?_) fun _ => .ite (fun _ => ?_) fun _ => .ite (fun _ => ?_) fun _ => ?_
  · exact (tracks_clog _).bind fun _ => .pure _
  · exact (tracks_clog _).bind fun _ => tracks_endLine.bind fun _ => .pure _
  · exact (tracks_clog _).bind fun _ => .pure _
  refine .ite (fun _ => ?_) fun _ => .ite (fun _ => tracks_decodeCopyLong _) fun _ => ?_
  · refine (tracks_clog _).bind fun _ => (tracks_mustGet stocks).bind fun cmd => ?_
    exact tracks_decodeExtended stocks _ cmd
  refine .ite (fun _ => tracks_decodeCopyThenRepeat stocks _) fun _ => ?_
  exact .ite (fun _ => tracks_decodeCopyThenRaw stocks _) fun _ => tracks_decodeShort stocks _

/-- One command. -/
theorem tracks_decodeNext (stocks : Stocks R) : Tracks (Mirrors R) decodeNext decodeNext :=
  (tracks_mustGet stocks).bind fun cmd => tracks_decodeCommand stocks cmd

/-- The loop over the commands of a line, by induction on its turns. More turns are as good. -/
theorem tracks_decodeLoop (stocks : Stocks R) (stop : Nat) {fuel fuel' : Nat}
    (more : fuel ≤ fuel')
    : Tracks (Mirrors R) (decodeLoop stop fuel) (decodeLoop stop fuel') := by
  induction fuel generalizing fuel' with
  | zero =>
      refine .get ?_
      rintro this _ ⟨stream, rfl, stocked⟩ a this' run
      by_cases turn : this.buffer.length < stop
      · rw [if_pos turn] at run
        cases run
      · rw [if_neg turn] at run
        cases run
        refine ⟨this.onto stream, ?_, stream, rfl, stocked⟩
        apply run_decodeLoop_done
        exact Nat.not_lt.mp turn
  | succ fuel ih =>
      obtain ⟨fuel', rfl⟩ := Nat.exists_eq_succ_of_ne_zero (Nat.ne_of_gt (Nat.zero_lt_of_lt more))
      have turn : Tracks (Mirrors R)
          (do
            let c ← decodeNext
            modify fun this : DecoderStreambuf MemoryStreambuf =>
              { this with videoSize := this.videoSize + c }
            if c = 0 then endPage
            else decodeLoop stop fuel)
          (do
            let c ← decodeNext
            modify fun this : DecoderStreambuf σ => { this with videoSize := this.videoSize + c }
            if c = 0 then endPage
            else decodeLoop stop fuel') := by
        refine (tracks_decodeNext stocks).bind fun c => Tracks.bind ?_ fun _ => ?_
        · apply Tracks.modify
          rintro this _ ⟨stream, rfl, stocked⟩
          exact ⟨stream, rfl, stocked⟩
        · exact .ite (fun _ => tracks_endPage) (fun _ => ih (Nat.le_of_succ_le_succ more))
      refine .get ?_
      rintro this _ ⟨stream, rfl, stocked⟩
      exact Tracks.ite (fun _ => turn) (fun _ => .pure _) this _ ⟨stream, rfl, stocked⟩

/-- One line, or what is left of the one before. -/
theorem tracks_underflow (stocks : Stocks R)
    : Tracks (Mirrors R) (underflow : Action (DecoderStreambuf MemoryStreambuf) (Option UInt8))
        (underflow : Action (DecoderStreambuf σ) (Option UInt8)) := by
  refine .get ?_
  rintro this _ ⟨stream, rfl, stocked⟩
  rw [show (this.onto stream).area = this.area from rfl]
  cases this.area with
  | cons b rest =>
      intro a this' run
      cases run
      exact ⟨_, rfl, stream, rfl, stocked⟩
  | nil =>
      have line : Tracks (Mirrors R) (decodeLine (σ := MemoryStreambuf)) decodeLine := by
        refine .get ?_
        rintro this _ ⟨stream, rfl, stocked⟩
        apply tracks_decodeLoop stocks _ (Nat.succ_le_succ (stocks.bound stocked))
        exact ⟨stream, rfl, stocked⟩
      refine Tracks.bind line (fun whole => ?_) this _ ⟨stream, rfl, stocked⟩
      cases whole with
      | false => exact .pure _
      | true =>
          refine .get ?_
          rintro this _ ⟨stream, rfl, stocked⟩ a this' run
          dsimp only at run
          by_cases outside : this.buffer.length < this.lineSize ∨ this.lineSize = 0
          · rw [if_pos outside] at run
            cases run
          · rw [if_neg outside] at run
            cases run
            exact ⟨_, if_neg outside ▸ rfl, stream, rfl, stocked⟩

/-- One byte of the raster. -/
theorem tracks_sbumpc (stocks : Stocks R)
    : Tracks (Mirrors R)
        (Streambuf.sbumpc : Action (DecoderStreambuf MemoryStreambuf) (Option UInt8))
        (Streambuf.sbumpc : Action (DecoderStreambuf σ) (Option UInt8)) := by
  apply Streambuf.tracks_sbumpc
  · rintro this _ ⟨stream, rfl, _⟩
    rfl
  · rintro this _ ⟨stream, rfl, stocked⟩
    exact ⟨stream, rfl, stocked⟩
  · exact tracks_underflow stocks

/-- A page is decoded from a stream that has its compressed form next, and that is all that is
taken off the stream.
-/
theorem decodes_page (stocks : Stocks R) {rows : List (List UInt8)} {lineSize : Nat}
    (nonempty : 0 < lineSize) (sized : ∀ row ∈ rows, row.length = lineSize)
    (small : rows.flatten.length + lineSize < 2 ^ 32) {stream : σ} {rest : List UInt8}
    (stocked : R stream (compressPage rows ++ rest)) (commandLog : Option (List String))
    : ∃ final, Drains (construct stream lineSize commandLog) rows.flatten final
        ∧ R final.stream rest := by
  have between := construct_between (⟨compressPage rows ++ rest⟩ : MemoryStreambuf) commandLog
    nonempty (show lineSize < 2 ^ 32 by omega)
  have supply : SuppliesFinitely (⟨compressPage rows ++ rest⟩ : MemoryStreambuf)
      (compressRows [] rows
        ++ (Compression.endPage (0 + (compressRows [] rows).length) ++ rest)) := by
    rw [Nat.zero_add, ← List.append_assoc]
    exact MemoryStreambuf.suppliesFinitely _
  have total : ([] : List UInt8).length + rows.flatten.length + lineSize < 2 ^ 32 := by
    simpa using small
  obtain ⟨last, drains, read⟩ := between.drains sized total supply
  obtain ⟨final, drains', stream', same, stocked'⟩ :=
    Streambuf.tracks_drains (tracks_sbumpc stocks) ⟨stream, rfl, stocked⟩ drains
  have left : last.stream.buffer = rest :=
    (MemoryStreambuf.supplies last.stream.buffer).drips.unique read.stream.drips
  refine ⟨final, drains', ?_⟩
  rw [same]
  exact left ▸ stocked'

end Reading

end Capt.Compression.DecoderStreambuf
