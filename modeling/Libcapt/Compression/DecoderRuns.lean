import Libcapt.Compression.CommandExecution
import Libcapt.Compression.PageDecoding

/-! Runs of the decoder over any input: where they end, which of their copies stay inside
the buffer, and when a complete line was decoded.
-/

namespace Capt.Compression

open Streams

-----------------------------------------------------------------------------------------
-- The commands of an input
-----------------------------------------------------------------------------------------

namespace Command

variable {c : Command} {input rest : List UInt8}

/-- An input begins with one command only. -/
theorem Begins.unique {c' : Command} {rest' : List UInt8} (h : Begins input c rest)
    (hs : Begins input c' rest')
    : c = c' ∧ rest = rest' := by
  have same := h.parse.symm.trans hs.parse
  cases same
  exact ⟨rfl, rfl⟩

/-- A command takes at least one byte. -/
theorem Begins.length_lt (h : Begins input c rest) : rest.length < input.length := by
  obtain ⟨_, consumed, spelled, rfl⟩ := h
  have pos : 0 < consumed.length := by
    cases spelled with
    | written => exact length_bytes_pos c
    | repeatXLong bytes low => exact Nat.two_pos
  rw [List.length_append]
  exact Nat.lt_add_of_pos_left pos

/-- Only `EOP` has the size 0. -/
theorem size_ne_zero (some : c ≠ .eop) : c.size ≠ 0 := by
  have pos := length_bytes_pos c
  cases c with
  | eop => exact absurd rfl some
  | _ => exact Nat.ne_of_gt pos

end Command

/-- The commands at the front of the input, none of them EOP, extend the buffer by the
pieces, one after the other, and leave the rest of the input.
-/
inductive Appends (lineSize : Nat)
    : List UInt8 → List UInt8 → List (List UInt8) → List UInt8 → Prop
  | nil {buffer input} : Appends lineSize buffer input [] input
  | cons {buffer input c left pieces rest} (begins : Command.Begins input c left)
    (some : c ≠ .eop) (inside : DecoderStreambuf.CopiesInside lineSize buffer c)
    (tail : Appends lineSize (buffer ++ c.appended lineSize buffer) left pieces rest)
    : Appends lineSize buffer input (c.appended lineSize buffer :: pieces) rest

/-- Before each of the pieces there are fewer than `limit` bytes. -/
def Below : Nat → List (List UInt8) → Prop
  | _, [] => True
  | limit, piece :: pieces => 0 < limit ∧ Below (limit - piece.length) pieces

namespace DecoderStreambuf

variable {σ : Type}

/-- The size of the buffer at which `decodeLine` stops. -/
def lineEnd (this : DecoderStreambuf σ) : Nat :=
  unsigned (unsigned this.buffer.length + this.lineSize)

/-- The last line of the decoded data. -/
def lastLine (this : DecoderStreambuf σ) : List UInt8 :=
  this.buffer.drop (this.buffer.length - this.lineSize)

/-- The fault of a line that would begin before the buffer. -/
def areaOutside : Fault := .undefinedBehaviour "get area outside the buffer"

section

variable {this : DecoderStreambuf σ}

/-- The end of the line, where the sum does not overflow. -/
theorem lineEnd_eq (small : this.buffer.length + this.lineSize < 2 ^ 32)
    : this.lineEnd = this.buffer.length + this.lineSize := by
  have length : unsigned this.buffer.length = this.buffer.length :=
    unsigned_eq (Nat.lt_of_le_of_lt (Nat.le_add_right ..) small)
  rw [lineEnd, length, unsigned_eq small]

/-- Once the sizes wrap, the end of the line is behind. -/
theorem lineEnd_le (small : this.lineSize < 2 ^ 32)
    (wraps : 2 ^ 32 ≤ this.buffer.length + this.lineSize)
    : this.lineEnd ≤ this.buffer.length := by
  unfold lineEnd unsigned
  omega

end

variable [FiniteSource Fault UInt8 σ]

/-- The states of a decoder in use: whatever its stream holds, it is read, and the stream
may be exchanged between the reads.
-/
inductive Reachable : DecoderStreambuf σ → Prop
  | constructed (stream : σ) {lineSize : Nat} (commandLog : Option (List String))
    (nonempty : 0 < lineSize) (small : lineSize < 2 ^ 32)
    : Reachable (construct stream lineSize commandLog)
  | gbump {this : DecoderStreambuf σ} (h : Reachable this) (n : Nat)
    : Reachable (Streambuf.gbump n this)
  | underflow {this : DecoderStreambuf σ} {input : List UInt8} (h : Reachable this)
    (supply : SuppliesFinitely this.stream input)
    : Reachable (after (underflow.run this))
  | attached {this : DecoderStreambuf σ} (h : Reachable this) (stream : σ)
    : Reachable { this with stream := stream }

-----------------------------------------------------------------------------------------
-- The loop of decodeLine
-----------------------------------------------------------------------------------------

/-- Everything that the loop of `decodeLine` can do. -/
inductive Loop (stop : Nat)
    : DecoderStreambuf σ → List UInt8
      → EStateM.Result Fault (DecoderStreambuf σ) Bool → Prop
  | done {this input} (done : stop ≤ this.buffer.length)
    (supply : SuppliesFinitely this.stream input)
    : Loop stop this input (.ok true this)
  | next {this middle input c rest result} (more : this.buffer.length < stop)
    (begins : Command.Begins input c rest) (some : c ≠ .eop)
    (inside : CopiesInside this.lineSize this.buffer c)
    (executed : Executed this middle c rest)
    (tail : Loop stop (middle.count c.size) rest result)
    : Loop stop this input result
  | eop {this middle input rest} (more : this.buffer.length < stop)
    (begins : Command.Begins input .eop rest) (executed : Executed this middle .eop rest)
    : Loop stop this input (.ok false { middle with videoSize := 0 })
  | odd {this middle input rest} (more : this.buffer.length < stop)
    (begins : Command.Begins input .eop rest) (executed : Executed this middle .eop rest)
    : Loop stop this input (.error (.decoderError "video size must be even") middle)
  | thrown {this input err final} (more : this.buffer.length < stop)
    (decode : Decode this input (.error err final))
    : Loop stop this input (.error err final)

variable {this : DecoderStreambuf σ} {input : List UInt8} {stop : Nat}

section

variable {this' : DecoderStreambuf σ} {c : Command} {rest : List UInt8}

/-- A command keeps the line size. -/
theorem Executed.lineSize (h : Executed this this' c rest) : this'.lineSize = this.lineSize := by
  rw [h.state]

/-- A command keeps the get area. -/
theorem Executed.area (h : Executed this this' c rest) : this'.area = this.area := by
  rw [h.state]

/-- A command appends its bytes to the buffer. -/
theorem Executed.buffer (h : Executed this this' c rest)
    : this'.buffer = this.buffer ++ c.appended this.lineSize this.buffer := by
  rw [h.state]

/-- Counting its size changes nothing about the line size. -/
theorem Executed.count_lineSize (h : Executed this this' c rest) (size : Nat)
    : (this'.count size).lineSize = this.lineSize :=
  h.lineSize

/-- Nor about the buffer. -/
theorem Executed.count_buffer (h : Executed this this' c rest) (size : Nat)
    : (this'.count size).buffer = this.buffer ++ c.appended this.lineSize this.buffer :=
  h.buffer

end

/-- A turn that meets the end of a page. -/
theorem run_decodeLoop_eop {fuel : Nat} {this' : DecoderStreambuf σ}
    (more : this.buffer.length < stop) (run : decodeNext.run this = .ok 0 this')
    : (decodeLoop stop (fuel + 1)).run this = endPage.run this' := by
  simp [decodeLoop, more, run]

/-- The loop ends before it runs out of input, by induction on the bound. -/
theorem decodeLoop_loop (nonempty : 0 < this.lineSize) (stop : Nat) {fuel : Nat}
    (enough : input.length < fuel) (supply : SuppliesFinitely this.stream input)
    : Loop stop this input ((decodeLoop stop fuel).run this) := by
  induction fuel generalizing this input with
  | zero => exact absurd enough (Nat.not_lt_zero _)
  | succ fuel ih =>
      rcases Nat.lt_or_ge this.buffer.length stop with more | done
      · have decode := decodeNext_decode nonempty supply
        generalize run : decodeNext.run this = result at decode
        cases result with
        | error err final =>
            rw [run_decodeLoop_error more run]
            exact .thrown more decode
        | ok size middle =>
            cases decode with
            | @executed c rest _ begins inside executed =>
                by_cases last : c = .eop
                · subst last
                  rw [run_decodeLoop_eop more run]
                  by_cases even : (middle.videoSize + 1) % 2 = 0
                  · have ended : endPage.run middle = .ok false { middle with videoSize := 0 } := by
                      simp only [endPage, EStateM.run_bind, EStateM.run_get, even, ne_eq,
                        not_true_eq_false, ↓reduceIte]
                      rfl
                    rw [ended]
                    exact .eop more begins executed
                  · have thrown : endPage.run middle
                        = .error (.decoderError "video size must be even") middle := by
                      simp only [endPage, EStateM.run_bind, EStateM.run_get, even, ne_eq,
                        not_false_eq_true, ↓reduceIte]
                      rfl
                    rw [thrown]
                    exact .odd more begins executed
                · rw [run_decodeLoop_next more run (Command.size_ne_zero last)]
                  refine .next more begins last inside executed (ih ?_ ?_ executed.stream)
                  · exact Nat.lt_of_lt_of_eq nonempty executed.lineSize.symm
                  · have less := begins.length_lt
                    omega
      · rw [run_decodeLoop_done done]
        exact .done done supply

/-- Whatever happens, the size of a line stays. -/
theorem Loop.lineSize {result} (h : Loop stop this input result)
    : (after result).lineSize = this.lineSize := by
  induction h with
  | done => rfl
  | next _ _ _ _ executed _ ih => exact ih.trans executed.lineSize
  | eop _ _ executed | odd _ _ executed => exact executed.lineSize
  | thrown _ decode =>
      cases decode with
      | short _ _ _ kept | outside _ _ _ kept | rejected _ kept => exact kept

/-- The decoder has executed the commands of the pieces, each of them below `stop`. -/
structure Appended (stop : Nat) (this this' : DecoderStreambuf σ) (input : List UInt8)
    (pieces : List (List UInt8)) (rest : List UInt8)
    : Prop where
  appends : Appends this.lineSize this.buffer input pieces rest
  below : Below (stop - this.buffer.length) pieces
  buffer : this'.buffer = this.buffer ++ pieces.flatten
  lineSize : this'.lineSize = this.lineSize
  area : this'.area = this.area

/-- One command in front of those that were run. -/
theorem Appended.cons {middle final : DecoderStreambuf σ} {c : Command}
    {left rest : List UInt8} {pieces : List (List UInt8)} (more : this.buffer.length < stop)
    (begins : Command.Begins input c left) (some : c ≠ .eop)
    (inside : CopiesInside this.lineSize this.buffer c) (executed : Executed this middle c left)
    (tail : Appended stop (middle.count c.size) final left pieces rest)
    : Appended stop this final input (c.appended this.lineSize this.buffer :: pieces) rest := by
  obtain ⟨appends, below, buffer, lineSize, area⟩ := tail
  rw [executed.count_lineSize, executed.count_buffer] at appends
  rw [executed.count_buffer, List.length_append, ← Nat.sub_sub] at below
  rw [executed.count_buffer, List.append_assoc] at buffer
  exact ⟨.cons begins some inside appends, ⟨Nat.sub_pos_of_lt more, below⟩, buffer,
    lineSize.trans executed.lineSize, area.trans executed.area⟩

/-- The loop ends with `true` once its commands have reached `stop`. -/
theorem Loop.complete {this' : DecoderStreambuf σ} (h : Loop stop this input (.ok true this'))
    : ∃ pieces rest, Appended stop this this' input pieces rest ∧ stop ≤ this'.buffer.length
        ∧ SuppliesFinitely this'.stream rest := by
  generalize same : EStateM.Result.ok true this' = result at h
  induction h with
  | done done supply =>
      cases same
      exact ⟨[], _, ⟨.nil, trivial, (List.append_nil _).symm, rfl, rfl⟩, done, supply⟩
  | next more begins some inside executed _ ih =>
      obtain ⟨pieces, rest, appended, ended⟩ := ih same
      exact ⟨_, rest, .cons more begins some inside executed appended, ended⟩
  | eop | odd | thrown => cases same

/-- The loop ends with `false` at EOP. -/
theorem Loop.ended {this' : DecoderStreambuf σ} (h : Loop stop this input (.ok false this'))
    : ∃ pieces left rest, Appended stop this this' input pieces left
        ∧ this'.buffer.length < stop ∧ Command.Begins left .eop rest
        ∧ SuppliesFinitely this'.stream rest := by
  generalize same : EStateM.Result.ok false this' = result at h
  induction h with
  | eop more begins executed =>
      cases same
      have nothing := executed.buffer
      simp only [Command.appended, Command.copied, Command.copyCount, Command.payload,
        List.take_zero, List.append_nil] at nothing
      refine ⟨[], _, _, ⟨.nil, trivial, ?_, executed.lineSize, executed.area⟩, ?_, begins,
        executed.stream⟩
      · rw [List.flatten_nil, List.append_nil]
        exact nothing
      · rwa [nothing]
  | next more begins some inside executed _ ih =>
      obtain ⟨pieces, left, rest, appended, ended⟩ := ih same
      exact ⟨_, left, rest, .cons more begins some inside executed appended, ended⟩
  | done | odd | thrown => cases same

/-- A copy outside the buffer is one of a command that copies more than a line. -/
theorem Loop.outside {final : DecoderStreambuf σ}
    (h : Loop stop this input (.error copyOutside final))
    : ∃ pieces left c rest, Appends this.lineSize this.buffer input pieces left
        ∧ (this.buffer ++ pieces.flatten).length < stop ∧ Command.Begins left c rest
        ∧ this.lineSize ≤ (this.buffer ++ pieces.flatten).length
        ∧ this.lineSize < c.copyCount := by
  generalize same : EStateM.Result.error copyOutside final = result at h
  induction h with
  | thrown more decode =>
      cases same
      generalize thrown : EStateM.Result.error copyOutside final = result at decode
      cases decode with
      | @outside c _ _ begins enough past =>
          have notEol : c ≠ .eol := by
            rintro rfl
            exact absurd past (Nat.not_lt.mpr (Nat.sub_le ..))
          rw [copied_eq notEol] at past
          refine ⟨[], _, _, _, .nil, ?_, begins, ?_⟩
          · rwa [List.flatten_nil, List.append_nil]
          · rw [List.flatten_nil, List.append_nil]
            exact ⟨enough, past⟩
      | executed | short | rejected => cases thrown
  | next more begins some inside executed _ ih =>
      obtain ⟨pieces, left, c, rest, appends, outside⟩ := ih same
      rw [executed.count_lineSize, executed.count_buffer, List.append_assoc] at outside
      rw [executed.count_lineSize, executed.count_buffer] at appends
      exact ⟨_, left, c, rest, .cons begins some inside appends, outside⟩
  | odd => cases same
  | done | eop => cases same

/-- A command whose copy is inside the buffer is executed. -/
theorem Decode.unfit {err final c rest} (decode : Decode this input (.error err final))
    (begins : Command.Begins input c rest)
    : ¬ CopiesInside this.lineSize this.buffer c := by
  intro inside
  unfold CopiesInside at inside
  cases decode with
  | short begins' some short =>
      obtain ⟨rfl, rfl⟩ := begins.unique begins'
      omega
  | outside begins' enough past =>
      obtain ⟨rfl, rfl⟩ := begins.unique begins'
      omega
  | rejected none =>
      rw [begins.parse] at none
      cases none

/-- What a copy that is not inside the buffer ends in. -/
def copyFault (lineSize : Nat) (buffer : List UInt8) : Fault :=
  if buffer.length < lineSize then .decoderError "insufficient buffer size for copying"
  else copyOutside

/-- The exception of a command that begins the input is that of its copy. -/
theorem Decode.fault {err final c rest} (decode : Decode this input (.error err final))
    (begins : Command.Begins input c rest)
    : err = copyFault this.lineSize this.buffer := by
  cases decode with
  | short _ _ short => exact (if_pos short).symm
  | outside _ enough => exact (if_neg (Nat.not_lt.mpr enough)).symm
  | rejected none =>
      rw [begins.parse] at none
      cases none

/-- The loop does not get past a command whose copy is not inside the buffer. -/
theorem Loop.throws {result pieces left c rest} (h : Loop stop this input result)
    (appends : Appends this.lineSize this.buffer input pieces left)
    (more : (this.buffer ++ pieces.flatten).length < stop) (begins : Command.Begins left c rest)
    (unfit : ¬ CopiesInside this.lineSize (this.buffer ++ pieces.flatten) c)
    : ∃ final,
        result = .error (copyFault this.lineSize (this.buffer ++ pieces.flatten)) final := by
  induction h generalizing pieces with
  | done done =>
      rw [List.length_append] at more
      omega
  | next _ begins' some inside executed _ ih =>
      cases appends with
      | nil =>
          obtain ⟨rfl, rfl⟩ := begins.unique begins'
          rw [List.flatten_nil, List.append_nil] at unfit
          exact absurd inside unfit
      | @cons _ _ _ _ pieces _ begins'' _ _ tail =>
          obtain ⟨rfl, rfl⟩ := begins''.unique begins'
          rw [List.flatten_cons, ← List.append_assoc] at more unfit ⊢
          rw [← executed.count_buffer, ← executed.count_lineSize] at unfit ⊢
          apply @ih pieces
          · rwa [executed.count_lineSize, executed.count_buffer]
          · rwa [executed.count_buffer]
          · exact unfit
  | eop _ begins' | odd _ begins' =>
      cases appends with
      | nil =>
          obtain ⟨rfl, rfl⟩ := begins.unique begins'
          exact absurd (Or.inl rfl) unfit
      | cons begins'' some => exact absurd (begins''.unique begins').1 some
  | thrown _ decode =>
      cases appends with
      | nil =>
          rw [decode.fault begins, List.flatten_nil, List.append_nil]
          exact ⟨_, rfl⟩
      | cons begins'' _ inside => exact absurd inside (decode.unfit begins'')

/-- Decoding a line is the loop up to the end of that line. -/
theorem decodeLine_loop (nonempty : 0 < this.lineSize)
    (supply : SuppliesFinitely this.stream input)
    : Loop this.lineEnd this input (decodeLine.run this) :=
  decodeLoop_loop nonempty this.lineEnd (Nat.lt_succ_of_le supply.holds) supply

/-- Everything that `underflow` can do when the get area is empty. -/
theorem run_underflow_empty (empty : this.area = [])
    : underflow.run this
      = match decodeLine.run this with
        | .ok true this' =>
          if this'.buffer.length < this'.lineSize ∨ this'.lineSize = 0 then
            .error areaOutside this'
          else .ok this'.lastLine.head? { this' with area := this'.lastLine }
        | .ok false this' => .ok none this'
        | .error err this' => .error err this' := by
  cases run : decodeLine.run this with
  | error err this' => exact run_underflow_error empty run
  | ok complete this' =>
      cases complete with
      | false => exact run_underflow_end empty run
      | true =>
          simp only [underflow, EStateM.run_bind, EStateM.run_get, empty, run, ↓reduceIte]
          split <;> rfl

/-- While the get area is not empty nothing is decoded. -/
theorem run_underflow_area {b : UInt8} {rest : List UInt8} (left : this.area = b :: rest)
    : underflow.run this = .ok (some b) this := by
  simp only [underflow, EStateM.run_bind, EStateM.run_get, left]
  rfl

/-- The line size never changes. -/
theorem lineSize_underflow (nonempty : 0 < this.lineSize)
    (supply : SuppliesFinitely this.stream input)
    : (after (underflow.run this)).lineSize = this.lineSize := by
  cases left : this.area with
  | cons b rest =>
      rw [run_underflow_area left]
      rfl
  | nil =>
      have kept := (decodeLine_loop nonempty supply).lineSize
      rw [run_underflow_empty left]
      split
      · rename_i run
        rw [run] at kept
        split <;> exact kept
      · rename_i run
        rwa [run] at kept
      · rename_i run
        rwa [run] at kept

/-- The line size is what the constructor was given. -/
theorem Reachable.sizes (h : this.Reachable) : 0 < this.lineSize ∧ this.lineSize < 2 ^ 32 := by
  induction h with
  | constructed stream commandLog nonempty small => exact ⟨nonempty, small⟩
  | gbump _ _ ih | attached _ _ ih => exact ih
  | underflow _ supply ih =>
      rw [lineSize_underflow ih.1 supply]
      exact ih

/-- In every reachable state, and with any input, `decodeLine` returns `true` only after it
has appended a line if and only if the sizes do not wrap.
-/
theorem decodeLine_complete_iff (reachable : this.Reachable)
    (supply : SuppliesFinitely this.stream input)
    : (∀ this', decodeLine.run this = .ok true this' →
          ∃ data, this'.buffer = this.buffer ++ data ∧ this.lineSize ≤ data.length)
      ↔ this.buffer.length + this.lineSize < 2 ^ 32 := by
  obtain ⟨nonempty, lineSmall⟩ := reachable.sizes
  constructor
  · intro complete
    by_contra wraps
    have done := lineEnd_le lineSmall (Nat.le_of_not_lt wraps)
    obtain ⟨data, same, enough⟩ := complete this (run_decodeLoop_done done _)
    have length := congrArg List.length same
    rw [List.length_append] at length
    omega
  · intro small this' run
    have loop := decodeLine_loop nonempty supply
    rw [run] at loop
    obtain ⟨pieces, rest, appended, done, _⟩ := loop.complete
    refine ⟨pieces.flatten, appended.buffer, ?_⟩
    rw [lineEnd_eq small, appended.buffer, List.length_append] at done
    omega

/-- A new decoder over a row of one byte. -/
theorem decodeLine_complete_iff_oneByte
    : let this : DecoderStreambuf MemoryStreambuf := construct ⟨[0x08, 7]⟩ 1
      (∀ this', decodeLine.run this = .ok true this' →
          ∃ data, this'.buffer = this.buffer ++ data ∧ this.lineSize ≤ data.length)
      ↔ this.buffer.length + this.lineSize < 2 ^ 32 :=
  decodeLine_complete_iff (.constructed _ none (by decide) (by decide))
    (MemoryStreambuf.suppliesFinitely _)

/-- A page of one byte is decoded, which a line of 4294967295 bytes follows. -/
theorem decodeLine_wraps
    : ¬ ∀ (this : DecoderStreambuf MemoryStreambuf), this.Reachable →
          ∀ this', decodeLine.run this = .ok true this' →
            ∃ data, this'.buffer = this.buffer ++ data ∧ this.lineSize ≤ data.length := by
  intro complete
  have new : Reachable (construct (⟨[0x08, 7, 0x40, 0x42]⟩ : MemoryStreambuf) 4294967295) :=
    .constructed _ none (by decide) (by decide)
  have first
      : underflow.run (construct (⟨[0x08, 7, 0x40, 0x42]⟩ : MemoryStreambuf) 4294967295)
        = .ok none { stream := ⟨[]⟩, lineSize := 4294967295, buffer := [7] } :=
    rfl
  have reachable := new.underflow (MemoryStreambuf.suppliesFinitely _)
  rw [first] at reachable
  obtain ⟨data, same, enough⟩ := complete _ reachable _ rfl
  have length := congrArg List.length same
  rw [List.length_append] at length
  change 4294967295 ≤ data.length at enough
  omega

-----------------------------------------------------------------------------------------
-- Copies
-----------------------------------------------------------------------------------------

/-- The two failures of a copy are different ones. -/
theorem copyOutside_ne : copyOutside ≠ areaOutside := by
  decide

/-- The call of `underflow` comes to the command `c`, when the decoder has `buffer`. -/
def ComesTo (this : DecoderStreambuf σ) (input buffer : List UInt8) (c : Command) : Prop :=
  this.area = []
    ∧ ∃ pieces left rest, Appends this.lineSize this.buffer input pieces left
        ∧ buffer = this.buffer ++ pieces.flatten ∧ buffer.length < this.lineEnd
        ∧ Command.Begins left c rest

/-- A copy that reaches outside makes `underflow` throw. -/
theorem ComesTo.throws {buffer : List UInt8} {c : Command} (h : this.ComesTo input buffer c)
    (nonempty : 0 < this.lineSize) (supply : SuppliesFinitely this.stream input)
    (unfit : ¬ CopiesInside this.lineSize buffer c)
    : ∃ this', underflow.run this = .error (copyFault this.lineSize buffer) this' := by
  obtain ⟨empty, pieces, left, rest, appends, rfl, more, begins⟩ := h
  obtain ⟨final, thrown⟩ :=
    (decodeLine_loop nonempty supply).throws appends more begins unfit
  exact ⟨final, run_underflow_error empty thrown⟩

/-- A copy outside the buffer is one of a command that copies more than a line. -/
theorem comesTo_of_outside {this' : DecoderStreambuf σ} (nonempty : 0 < this.lineSize)
    (supply : SuppliesFinitely this.stream input)
    (thrown : underflow.run this = .error copyOutside this')
    : ∃ buffer c, this.ComesTo input buffer c ∧ this.lineSize ≤ buffer.length
        ∧ this.lineSize < c.copyCount := by
  cases area : this.area with
  | cons b more =>
      rw [run_underflow_area area] at thrown
      cases thrown
  | nil =>
      have loop := decodeLine_loop nonempty supply
      have run : decodeLine.run this = .error copyOutside this' := by
        rw [run_underflow_empty area] at thrown
        split at thrown
        · split at thrown
          · injection thrown with same
            exact absurd same copyOutside_ne.symm
          · cases thrown
        · cases thrown
        · cases thrown
          assumption
      rw [run] at loop
      obtain ⟨pieces, left, c, rest, appends, more, begins, enough, past⟩ := loop.outside
      exact ⟨_, c, ⟨area, pieces, left, rest, appends, rfl, more, begins⟩, enough, past⟩

/-- In every reachable state, and with any input, no copy reads outside the buffer if and
only if no command to which the decoder comes once there is a line copies more than a line.
A copy before there is a line is rejected.
-/
theorem copiesInside_iff (reachable : this.Reachable)
    (supply : SuppliesFinitely this.stream input)
    : ((∀ this', underflow.run this ≠ .error copyOutside this')
        ↔ ∀ buffer c, this.ComesTo input buffer c → this.lineSize ≤ buffer.length →
            c.copyCount ≤ this.lineSize)
      ∧ ∀ buffer c, this.ComesTo input buffer c → buffer.length < this.lineSize →
          c.copied this.lineSize buffer ≠ 0 →
          ∃ this', underflow.run this
            = .error (.decoderError "insufficient buffer size for copying") this' := by
  have nonempty := reachable.sizes.1
  refine ⟨⟨?_, ?_⟩, ?_⟩
  · intro inside buffer c comes enough
    by_contra past
    have notEol : c ≠ .eol := by
      rintro rfl
      exact past (Nat.zero_le _)
    have unfit : ¬ CopiesInside this.lineSize buffer c := by
      unfold CopiesInside
      rw [copied_eq notEol]
      omega
    obtain ⟨final, thrown⟩ := comes.throws nonempty supply unfit
    rw [copyFault, if_neg (Nat.not_lt.mpr enough)] at thrown
    exact inside final thrown
  · intro fits this' thrown
    obtain ⟨buffer, c, comes, enough, past⟩ := comesTo_of_outside nonempty supply thrown
    exact absurd past (Nat.not_lt.mpr (fits buffer c comes enough))
  · intro buffer c comes short some
    have unfit : ¬ CopiesInside this.lineSize buffer c := by
      unfold CopiesInside
      omega
    obtain ⟨final, thrown⟩ := comes.throws nonempty supply unfit
    rw [copyFault, if_pos short] at thrown
    exact ⟨final, thrown⟩

/-- A new decoder over a row of one byte. -/
theorem copiesInside_iff_oneByte
    : let this : DecoderStreambuf MemoryStreambuf := construct ⟨[0x08, 7]⟩ 1
      ((∀ this', underflow.run this ≠ .error copyOutside this')
        ↔ ∀ buffer c, this.ComesTo [0x08, 7] buffer c → this.lineSize ≤ buffer.length →
            c.copyCount ≤ this.lineSize)
      ∧ ∀ buffer c, this.ComesTo [0x08, 7] buffer c → buffer.length < this.lineSize →
          c.copied this.lineSize buffer ≠ 0 →
          ∃ this', underflow.run this
            = .error (.decoderError "insufficient buffer size for copying") this' :=
  copiesInside_iff (.constructed _ none (by decide) (by decide))
    (MemoryStreambuf.suppliesFinitely _)

/-- A row of one byte is decoded, and then seven bytes are copied from it. -/
theorem copiesOutside_copyShort
    : ¬ ∀ (this : DecoderStreambuf MemoryStreambuf), this.Reachable →
          ∀ this', underflow.run this ≠ .error copyOutside this' := by
  intro inside
  have new : Reachable (construct (⟨[0x08, 7, 0xc7]⟩ : MemoryStreambuf) 1) :=
    .constructed _ none (by decide) (by decide)
  have first
      : underflow.run (construct (⟨[0x08, 7, 0xc7]⟩ : MemoryStreambuf) 1)
        = .ok (some 7)
            { stream := ⟨[0xc7]⟩, lineSize := 1, buffer := [7], videoSize := 2, area := [7] } :=
    rfl
  have reachable := new.underflow (MemoryStreambuf.suppliesFinitely _)
  rw [first] at reachable
  exact inside _ (reachable.gbump 1) _ rfl

end DecoderStreambuf

end Capt.Compression
