import Libcapt.Compression.CommandDecoding
import Libcapt.Compression.CommandParsing

/-! What the decoder does with any input: it reads the command at the front of the input
and performs it, or it throws.
-/

namespace Capt.Compression

open Streams

-----------------------------------------------------------------------------------------
-- The effect of a command
-----------------------------------------------------------------------------------------

namespace Command

/-- What `decodeNext` returns for the command: the number of its bytes, and 0 for EOP. -/
def size : Command → Nat
  | eop => 0
  | c => c.bytes.length

/-- The lines of the command log. -/
def log : Command → List String
  | copyLong n => ["CopyLong " ++ toString n]
  | copyShort n => ["CopyShort " ++ toString n]
  | copyThenRaw n data => ["CopyThenRaw " ++ toString n ++ " " ++ toString data.length]
  | copyThenRawLong n data =>
      ["Extend " ++ toString (8 * (data.length / 8)),
        "CopyThenRawLong " ++ toString n ++ " " ++ toString data.length]
  | copyThenRepeat n r _ => ["CopyThenRepeat " ++ toString n ++ " " ++ toString r]
  | copyThenRepeatLong n r _ =>
      ["Extend " ++ toString (8 * (r / 8)),
        "CopyThenRepeatLong " ++ toString n ++ " " ++ toString r]
  | repeatThenRaw r _ data => ["RepeatThenRaw " ++ toString r ++ " " ++ toString data.length]
  | repeatThenRawLong r _ data =>
      ["Extend " ++ toString (8 * (data.length / 8)),
        "RepeatThenRawLong " ++ toString r ++ " " ++ toString data.length]
  | repeatX r => ["RepeatX " ++ toString r]
  | repeatXLong r => ["Extend " ++ toString (8 * (r / 8)), "RepeatXLong " ++ toString r]
  | eop => ["EOP"]
  | eol => ["EOL"]
  | nop => ["NOP"]

/-- The number of bytes that the decoder copies for the command. -/
def copied (lineSize : Nat) (buffer : List UInt8) : Command → Nat
  | eol => lineSize - buffer.length % lineSize
  | c => c.copyCount

/-- The bytes by which the decoder extends its buffer: those copied from one line before
the end of the buffer, then those of the command itself.
-/
def appended (lineSize : Nat) (buffer : List UInt8) (c : Command) : List UInt8 :=
  (buffer.drop (buffer.length - lineSize)).take (c.copied lineSize buffer) ++ c.payload

/-- The size that a command returns is the number of its bytes. -/
theorem size_eq {c : Command} (valid : c.Valid) (some : c ≠ .eop)
    : c.size = c.layout.length := by
  rw [← bytes_eq_layout valid]
  cases c with
  | eop => exact absurd rfl some
  | _ => rfl

end Command

namespace DecoderStreambuf

variable {σ : Type}

/-- What the decoder does once it has read a command. -/
def perform : Command → Action (DecoderStreambuf σ) Nat
  | .eop => return 0
  | .eol => do
    endLine
    return 1
  | c => do
    copy c.copyCount
    insert c.payload
    return c.size

/-- Inserting nothing does nothing. -/
theorem insert_nil : (insert [] : Action (DecoderStreambuf σ) Unit) = pure () := by
  funext this
  change EStateM.Result.ok () { this with buffer := this.buffer ++ [] } = .ok () this
  rw [List.append_nil]

/-- `raw` is an insertion. -/
theorem raw_eq (data : List UInt8)
    : (raw data : Action (DecoderStreambuf σ) Unit) = insert data := by
  unfold raw
  split
  · rename_i none
    rw [List.length_eq_zero_iff.mp none, insert_nil]
  · rfl

/-- `repeat` is an insertion of equal bytes. -/
theorem repeats_eq (count : Nat) (b : UInt8)
    : (repeats count b : Action (DecoderStreambuf σ) Unit)
      = insert (List.replicate count b) := by
  unfold repeats
  split
  · rename_i none
    rw [none, List.replicate_zero, insert_nil]
  · rfl

/-- Two insertions in a row are one of both parts. -/
theorem insert_bind_insert {α : Type} (left right : List UInt8)
    (next : Unit → Action (DecoderStreambuf σ) α)
    : (do insert left; insert right; next ()) = (do insert (left ++ right); next ()) := by
  funext this
  change (next ()).run { this with buffer := this.buffer ++ left ++ right }
    = (next ()).run { this with buffer := this.buffer ++ (left ++ right) }
  rw [List.append_assoc]

/-- The bytes of a repetition and raw bytes are inserted one after the other. -/
theorem repeats_raw {size r : Nat} {b : UInt8} {data : List UInt8}
    : (do
        repeats r b
        raw data
        return size : Action (DecoderStreambuf σ) Nat)
      = (do
          copy 0
          insert (List.replicate r b ++ data)
          return size) := by
  rw [repeats_eq, raw_eq]
  exact insert_bind_insert (List.replicate r b) data fun _ => pure size

/-- `NOP` does nothing, and is one byte long. -/
theorem perform_nop : (perform .nop : Action (DecoderStreambuf σ) Nat) = pure 1 := by
  have run : (perform .nop : Action (DecoderStreambuf σ) Nat)
      = (do
          insert []
          return 1) :=
    rfl
  rw [run, insert_nil]
  rfl

-----------------------------------------------------------------------------------------
-- The outcomes of a command
-----------------------------------------------------------------------------------------

/-- The fault of a copy that reads past the end of the buffer. -/
def copyOutside : Fault := .undefinedBehaviour "copy from outside the buffer"

variable {this : DecoderStreambuf σ} {c : Command}

/-- The decoder once a command has extended the buffer. -/
def extended (this : DecoderStreambuf σ) (c : Command) : DecoderStreambuf σ :=
  { this with buffer := this.buffer ++ c.appended this.lineSize this.buffer }

/-- The copy of the command reads inside the buffer, or there is none. -/
def CopiesInside (lineSize : Nat) (buffer : List UInt8) (c : Command) : Prop :=
  c.copied lineSize buffer = 0
    ∨ (lineSize ≤ buffer.length ∧ c.copied lineSize buffer ≤ lineSize)

/-- A copy from inside the last whole line. -/
theorem run_copy_inside {count : Nat}
    (inside : count = 0 ∨ (this.lineSize ≤ this.buffer.length ∧ count ≤ this.lineSize))
    : (copy count).run this
      = .ok () { this with
          buffer := this.buffer
            ++ (this.buffer.drop (this.buffer.length - this.lineSize)).take count } := by
  unfold copy
  split
  · rename_i none
    rw [none, List.take_zero, List.append_nil]
    rfl
  · rename_i some
    have enough : ¬ this.buffer.length < this.lineSize := by omega
    have fits : ¬ count > this.lineSize := by omega
    simp only [EStateM.run_bind, EStateM.run_get, enough, fits, ↓reduceIte]
    rfl

/-- Before the first whole line there is nothing to copy from. -/
theorem run_copy_short {count : Nat} (some : count ≠ 0)
    (short : this.buffer.length < this.lineSize)
    : (copy count).run this
      = .error (.decoderError "insufficient buffer size for copying") this := by
  simp only [copy, some, EStateM.run_bind, EStateM.run_get, short, ↓reduceIte]
  rfl

/-- A copy that reaches past the buffer. -/
theorem run_copy_outside {count : Nat} (enough : this.lineSize ≤ this.buffer.length)
    (past : this.lineSize < count)
    : (copy count).run this = .error copyOutside this := by
  have some : count ≠ 0 := by omega
  have notShort : ¬ this.buffer.length < this.lineSize := by omega
  simp only [copy, some, EStateM.run_bind, EStateM.run_get, notShort, past, ↓reduceIte]
  rfl

/-- `endLine` is a copy of what the line still needs. -/
theorem run_endLine (nonempty : 0 < this.lineSize)
    : endLine.run this
      = (copy (this.lineSize - this.buffer.length % this.lineSize)).run this := by
  have nonzero : ¬ this.lineSize = 0 := by omega
  simp only [endLine, EStateM.run_bind, EStateM.run_get, nonzero, ↓reduceIte]

/-- Other commands than EOP and EOL copy, and then insert bytes of their own. -/
theorem perform_eq (notEop : c ≠ .eop) (notEol : c ≠ .eol)
    : (perform c : Action (DecoderStreambuf σ) Nat)
      = (do
          copy c.copyCount
          insert c.payload
          return c.size) := by
  cases c with
  | eop => exact absurd rfl notEop
  | eol => exact absurd rfl notEol
  | _ => rfl

/-- Only `EOL` copies a number of bytes that depends on the line. -/
theorem copied_eq (notEol : c ≠ .eol) (lineSize : Nat) (buffer : List UInt8)
    : c.copied lineSize buffer = c.copyCount := by
  cases c with
  | eol => exact absurd rfl notEol
  | _ => rfl

/-- A command whose copy is inside the buffer extends the buffer. -/
theorem run_perform_inside (nonempty : 0 < this.lineSize)
    (inside : CopiesInside this.lineSize this.buffer c)
    : (perform c).run this = .ok c.size (this.extended c) := by
  by_cases isEop : c = .eop
  · subst isEop
    simp [perform, extended, Command.appended, Command.copied, Command.copyCount,
      Command.payload, Command.size]
  by_cases isEol : c = .eol
  · subst isEol
    have run := (run_endLine nonempty).trans (run_copy_inside inside)
    simp only [perform, run_bind_ok run, extended, Command.appended, Command.copied,
      Command.payload, List.append_nil]
    rfl
  · rw [CopiesInside, copied_eq isEol] at inside
    rw [perform_eq isEop isEol, run_bind_ok (run_copy_inside inside)]
    unfold extended Command.appended
    rw [copied_eq isEol, ← List.append_assoc]
    rfl

/-- A command that copies before there is a line throws. -/
theorem run_perform_short (nonempty : 0 < this.lineSize)
    (some : c.copied this.lineSize this.buffer ≠ 0)
    (short : this.buffer.length < this.lineSize)
    : (perform c).run this
      = .error (.decoderError "insufficient buffer size for copying") this := by
  by_cases isEop : c = .eop
  · subst isEop
    exact absurd rfl some
  by_cases isEol : c = .eol
  · subst isEol
    exact run_bind_error ((run_endLine nonempty).trans (run_copy_short some short))
  · rw [copied_eq isEol] at some
    rw [perform_eq isEop isEol]
    exact run_bind_error (run_copy_short some short)

/-- A command that copies more than a line reads past the end of the buffer. -/
theorem run_perform_outside (enough : this.lineSize ≤ this.buffer.length)
    (past : this.lineSize < c.copied this.lineSize this.buffer)
    : (perform c).run this = .error copyOutside this := by
  by_cases isEop : c = .eop
  · subst isEop
    exact absurd past (Nat.not_lt_zero _)
  by_cases isEol : c = .eol
  · subst isEol
    exact absurd past (Nat.not_lt.mpr (Nat.sub_le ..))
  · rw [copied_eq isEol] at past
    rw [perform_eq isEop isEol]
    exact run_bind_error (run_copy_outside enough past)

section Reading

variable [FiniteSource Fault UInt8 σ] {start : DecoderStreambuf σ}
  {logged : List String} {input rest : List UInt8}
  {parsed : Option (Command × List UInt8)}

/-- While a command is read, only the stream and the command log change. -/
structure Reading (start this : DecoderStreambuf σ) (logged : List String)
    (input : List UInt8)
    : Prop where
  state
    : this = { start with
        stream := this.stream
        commandLog := start.commandLog.map (· ++ logged) }
  stream : SuppliesFinitely this.stream input

/-- The action reads what is `parsed` from the input and performs it; when nothing is, it
throws and has changed neither the buffer nor the sizes.
-/
def Recognises (action : Action (DecoderStreambuf σ) Nat) (start : DecoderStreambuf σ)
    (logged : List String) (input : List UInt8) (parsed : Option (Command × List UInt8))
    : Prop :=
  ∀ this, Reading start this logged input →
    match parsed with
    | some (c, rest) =>
      ∃ this', Reading start this' c.log rest ∧ action.run this = (perform c).run this'
    | none =>
      ∃ what this' logged' left, Reading start this' logged' left
        ∧ action.run this = .error (.decoderError what) this'

/-- An action that reads nothing more performs the command. -/
theorem Recognises.performs {action : Action (DecoderStreambuf σ) Nat}
    (same : action = perform c) (all : logged = c.log)
    : Recognises action start logged input (some (c, input)) := by
  subst same all
  exact fun this reading => ⟨this, reading, rfl⟩

/-- A first step that returns is followed by the rest of the action. -/
theorem Recognises.step {β : Type} {first : Action (DecoderStreambuf σ) β}
    {next : β → Action (DecoderStreambuf σ) Nat} {b : β} {logged' : List String}
    {left : List UInt8}
    (h
      : ∀ this, Reading start this logged input →
          ∃ this', first.run this = .ok b this' ∧ Reading start this' logged' left)
    (tail : Recognises (next b) start logged' left parsed)
    : Recognises (first >>= next) start logged input parsed := by
  intro this reading
  obtain ⟨middle, run, reading'⟩ := h this reading
  rw [run_bind_ok run]
  exact tail middle reading'

/-- A first step that throws ends the action. -/
theorem Recognises.stop {β : Type} {first : Action (DecoderStreambuf σ) β}
    {next : β → Action (DecoderStreambuf σ) Nat}
    (h
      : ∀ this, Reading start this logged input →
          ∃ what this' left, first.run this = .error (.decoderError what) this'
            ∧ Reading start this' logged left)
    : Recognises (first >>= next) start logged input none := by
  intro this reading
  obtain ⟨what, this', left, run, reading'⟩ := h this reading
  exact ⟨what, this', logged, left, reading', run_bind_error run⟩

/-- A logged text is added to the log. -/
theorem Recognises.clog {next : Unit → Action (DecoderStreambuf σ) Nat} (text : String)
    (tail : Recognises (next ()) start (logged ++ [text]) input parsed)
    : Recognises (DecoderStreambuf.clog text >>= next) start logged input parsed := by
  refine .step (fun this reading => ⟨_, rfl, ?_, reading.stream⟩) tail
  rw [reading.state]
  simp [Option.map_map, Function.comp_def]

/-- A check of an argument passes when the argument is in range. -/
theorem Recognises.passes {next : Unit → Action (DecoderStreambuf σ) Nat}
    {value min max : Nat} {paramName : String} (low : min ≤ value) (high : value ≤ max)
    (tail : Recognises (next ()) start logged input parsed)
    : Recognises (DecoderStreambuf.checkBounds value min max paramName >>= next) start logged
        input parsed := by
  have passes : ¬ (value < min ∨ value > max) := by omega
  refine .step (fun this reading => ⟨this, ?_, reading⟩) tail
  rw [DecoderStreambuf.checkBounds, if_neg passes]
  rfl

/-- A count outside its bounds is no command. -/
theorem Recognises.fails {next : Unit → Action (DecoderStreambuf σ) Nat}
    {value min max : Nat} {paramName : String} (outside : ¬ (min ≤ value ∧ value ≤ max))
    : Recognises (DecoderStreambuf.checkBounds value min max paramName >>= next) start logged
        input none := by
  have fails : value < min ∨ value > max := by omega
  obtain ⟨what, thrown⟩ : ∃ what, ∀ this : DecoderStreambuf σ,
      (DecoderStreambuf.checkBounds value min max paramName).run this
        = .error (.decoderError what) this := by
    rw [DecoderStreambuf.checkBounds, if_pos fails]
    exact ⟨_, fun _ => rfl⟩
  exact .stop fun this reading => ⟨what, this, input, thrown this, reading⟩

/-- A command with one checked argument. -/
theorem Recognises.check {next : Unit → Action (DecoderStreambuf σ) Nat}
    {value min max : Nat} {paramName : String} (valid : c.Valid ↔ min ≤ value ∧ value ≤ max)
    (tail : c.Valid → Recognises (next ()) start logged input (some (c, input)))
    : Recognises (DecoderStreambuf.checkBounds value min max paramName >>= next) start logged
        input (c.checked input) := by
  unfold Command.checked
  split
  · rename_i inside
    exact .passes (valid.mp inside).1 (valid.mp inside).2 (tail inside)
  · rename_i outside
    exact .fails fun bounds => outside (valid.mpr bounds)

/-- A command with two checked arguments. -/
theorem Recognises.checkBoth {next : Unit → Action (DecoderStreambuf σ) Nat}
    {first min max second min' max' : Nat} {name name' : String}
    (valid
      : c.Valid ↔ (min ≤ first ∧ first ≤ max) ∧ (min' ≤ second ∧ second ≤ max'))
    (tail : c.Valid → Recognises (next ()) start logged input (some (c, input)))
    : Recognises
        (DecoderStreambuf.checkBounds first min max name >>= fun _ =>
          DecoderStreambuf.checkBounds second min' max' name' >>= next) start logged input
        (c.checked input) := by
  by_cases inside : min ≤ first ∧ first ≤ max
  · refine .passes inside.1 inside.2 (.check ?_ tail)
    rw [valid]
    exact ⟨And.right, fun bounds => ⟨inside, bounds⟩⟩
  · have invalid : ¬ c.Valid := fun holds => inside (valid.mp holds).1
    rw [Command.checked, if_neg invalid]
    exact .fails inside

/-- Taking a byte follows the input. -/
theorem Recognises.mustGet {next : UInt8 → Action (DecoderStreambuf σ) Nat}
    {f : UInt8 → List UInt8 → Option (Command × List UInt8)}
    (tail : ∀ b rest, Recognises (next b) start logged rest (f b rest))
    : Recognises (DecoderStreambuf.mustGet >>= next) start logged input
        (Command.byte input f) := by
  cases input with
  | nil =>
      refine .stop fun this reading => ?_
      obtain ⟨s, run, next⟩ := reading.stream.sbumpc
      refine ⟨"unexpected EOF", { this with stream := s }, _, ?_, ?_, next⟩
      · rw [DecoderStreambuf.mustGet, run_bind_ok (run_zoom_ok run)]
        rfl
      · rw [reading.state]
  | cons b rest =>
      refine .step (fun this reading => ?_) (tail b rest)
      obtain ⟨s, run, next⟩ := reading.stream.sbumpc
      refine ⟨{ this with stream := s }, ?_, ?_, next⟩
      · rw [DecoderStreambuf.mustGet, run_bind_ok (run_zoom_ok run)]
        rfl
      · rw [reading.state]

/-- Reading a block follows the input. -/
theorem Recognises.mustRead {n : Nat} {next : List UInt8 → Action (DecoderStreambuf σ) Nat}
    {f : List UInt8 → List UInt8 → Option (Command × List UInt8)}
    (tail
      : ∀ data rest, data.length = n → Recognises (next data) start logged rest (f data rest))
    : Recognises (DecoderStreambuf.mustRead n >>= next) start logged input
        (Command.block n input f) := by
  unfold Command.block
  split
  · rename_i enough
    have length : (input.take n).length = n := List.length_take_of_le enough
    refine .step (fun this reading => ?_) (tail _ _ length)
    obtain ⟨s, run, next⟩ := reading.stream.sgetn n
    refine ⟨{ this with stream := s }, ?_, ?_, next⟩
    · rw [DecoderStreambuf.mustRead, run_bind_ok (run_zoom_ok run)]
      simp only [length, ne_eq, not_true_eq_false, ↓reduceIte]
      rfl
    · rw [reading.state]
  · rename_i short
    refine .stop fun this reading => ?_
    obtain ⟨s, run, next⟩ := reading.stream.sgetn n
    have length : (input.take n).length ≠ n := by
      rw [List.length_take]
      omega
    refine ⟨"unexpected EOF", { this with stream := s }, _, ?_, ?_, next⟩
    · rw [DecoderStreambuf.mustRead, run_bind_ok (run_zoom_ok run)]
      simp only [length, ne_eq, not_false_eq_true, ↓reduceIte]
      rfl
    · rw [reading.state]

-----------------------------------------------------------------------------------------
-- Every command
-----------------------------------------------------------------------------------------

/-- A command copies, appends its own bytes and returns its size. -/
theorem Recognises.appends {next : Action (DecoderStreambuf σ) Unit} {size : Nat}
    (valid : c.Valid) (plain : c ≠ .eop ∧ c ≠ .eol)
    (payload : next = DecoderStreambuf.insert c.payload) (length : size = c.layout.length)
    (all : logged = c.log)
    : Recognises (do DecoderStreambuf.copy c.copyCount; next; return size) start logged input
        (some (c, input)) := by
  refine .performs ?_ all
  rw [payload, length, ← Command.size_eq valid plain.1]
  exact (perform_eq plain.1 plain.2).symm

/-- A command that inserts nothing of its own copies and returns its size. -/
theorem Recognises.copies {size : Nat} (valid : c.Valid) (plain : c ≠ .eop ∧ c ≠ .eol)
    (none : c.payload = []) (length : size = c.layout.length) (all : logged = c.log)
    : Recognises (do DecoderStreambuf.copy c.copyCount; return size) start logged input
        (some (c, input)) :=
  have nothing : pure () = DecoderStreambuf.insert c.payload := by rw [none, insert_nil]
  .appends valid plain nothing length all

/-- The bounds of a copy followed by something else, as they are checked. -/
theorem copy_bounds {n k low high : Nat}
    : (n ≤ 7 ∧ low ≤ k ∧ k ≤ high) ↔ (0 ≤ n ∧ n ≤ 7) ∧ (low ≤ k ∧ k ≤ high) := by
  simp only [Nat.zero_le, true_and]

/-- The bounds of a repetition followed by raw bytes, as they are checked. -/
theorem repeat_bounds {r k low high : Nat}
    : (2 ≤ r ∧ r ≤ 7 ∧ low ≤ k ∧ k ≤ high) ↔ (2 ≤ r ∧ r ≤ 7) ∧ (low ≤ k ∧ k ≤ high) :=
  and_assoc.symm

/-- `CopyThenRaw`, field by field. -/
theorem decodeCopyThenRaw_recognises (cmd : UInt8)
    : Recognises (decodeCopyThenRaw cmd) start [] input
        (Command.block (highField cmd) input fun data rest =>
          (Command.copyThenRaw (lowField cmd) data).checked rest) := by
  simp only [decodeCopyThenRaw]
  refine .clog _ (.mustRead fun data rest length => ?_)
  rw [← length]
  refine .checkBoth copy_bounds fun valid => ?_
  exact .appends valid (by simp) (raw_eq data) (Nat.add_comm ..) rfl

/-- `CopyThenRepeat`, field by field. -/
theorem decodeCopyThenRepeat_recognises (cmd : UInt8)
    : Recognises (decodeCopyThenRepeat cmd) start [] input
        (Command.byte input fun b rest =>
          (Command.copyThenRepeat (lowField cmd) (highField cmd) b).checked rest) := by
  simp only [decodeCopyThenRepeat]
  refine .mustGet fun b rest => .clog _ (.checkBoth copy_bounds fun valid => ?_)
  exact .appends valid (by simp) (repeats_eq ..) rfl rfl

/-- `CopyLong`, field by field. -/
theorem decodeCopyLong_recognises (cmd : UInt8)
    : Recognises (decodeCopyLong cmd) start [] input
        ((Command.copyLong (eightsField cmd)).checked input) := by
  simp only [decodeCopyLong]
  have whole := (eightsField_le cmd).2
  refine .clog _ (.check ?_ fun valid => ?_)
  · constructor
    · rintro ⟨low, high, _⟩
      exact ⟨low, high⟩
    · rintro ⟨low, high⟩
      exact ⟨low, high, whole⟩
  · exact .copies valid (by simp) rfl rfl rfl

/-- `CopyShort`, field by field. -/
theorem decodeCopyShort_recognises {n : Nat} (some : n ≠ 0) (small : n < 8)
    : Recognises (decodeCopyShort n) start [] input ((Command.copyShort n).checked input) := by
  have valid : (Command.copyShort n).Valid :=
    ⟨Nat.one_le_iff_ne_zero.mpr some, Nat.le_of_lt_succ small⟩
  rw [Command.checked_valid valid]
  exact .clog _ (.copies valid (by simp) rfl rfl rfl)

/-- `RepeatX`, field by field. -/
theorem decodeRepeatX_recognises (r : Nat)
    : Recognises (decodeRepeatX r) start [] input ((Command.repeatX r).checked input) := by
  refine .clog _ (.check Iff.rfl fun valid => ?_)
  exact .appends valid (by simp) (repeats_eq ..) rfl rfl

/-- `RepeatThenRaw`, field by field. -/
theorem decodeRepeatThenRaw_recognises (r n : Nat)
    : Recognises (decodeRepeatThenRaw r n) start [] input
        (Command.byte input fun b rest =>
          Command.block n rest fun data rest =>
            (Command.repeatThenRaw r b data).checked rest) := by
  refine .mustGet fun b rest => .clog _ (.mustRead fun data rest length => ?_)
  subst length
  refine .checkBoth repeat_bounds fun valid => ?_
  rw [repeats_raw]
  exact .appends valid (by simp) rfl (Nat.add_comm ..) rfl

/-- The byte commands whose two highest bits are set, by cases on which count is zero. -/
theorem decodeShort_recognises (cmd : UInt8)
    : Recognises (decodeShort cmd) start [] input (Command.parseShort cmd input) := by
  have cases
      : (decodeShort cmd : Action (DecoderStreambuf σ) Nat)
        = if lowField cmd ≠ 0 ∧ highField cmd = 0 then decodeCopyShort (lowField cmd)
          else if lowField cmd = 0 ∧ highField cmd ≠ 0 then decodeRepeatX (highField cmd)
          else if lowField cmd ≠ 0 ∧ highField cmd ≠ 0 then
            decodeRepeatThenRaw (highField cmd) (lowField cmd)
          else
            throw (.decoderError ("unknown command: 0x" ++ setw 2 [Char.ofNat cmd.toNat])) :=
    rfl
  rw [cases]
  unfold Command.parseShort
  by_cases copy : lowField cmd ≠ 0 ∧ highField cmd = 0
  · rw [if_pos copy, if_pos copy]
    exact decodeCopyShort_recognises copy.1 (lowField_lt cmd)
  rw [if_neg copy, if_neg copy]
  by_cases rep : lowField cmd = 0 ∧ highField cmd ≠ 0
  · rw [if_pos rep, if_pos rep]
    exact decodeRepeatX_recognises _
  rw [if_neg rep, if_neg rep]
  by_cases both : lowField cmd ≠ 0 ∧ highField cmd ≠ 0
  · rw [if_pos both, if_pos both]
    exact decodeRepeatThenRaw_recognises _ _
  · rw [if_neg both, if_neg both]
    exact fun this reading => ⟨_, this, [], input, reading, rfl⟩

/-- The counts of an extended command do not overflow their byte. -/
theorem extended_toNat (cmd : UInt8) {low : UInt8} (small : low.toNat < 8)
    : (((cmd &&& 0x1f) <<< 3) + low).toNat = eightsField cmd + low.toNat := by
  have eights := (eightsField_le cmd).1
  rw [UInt8.toNat_add, show ((cmd &&& 0x1f) <<< 3).toNat = eightsField cmd from rfl]
  omega

/-- The text of an extension, with the count that its command has. -/
theorem extension_text {cmd : UInt8} {count low : Nat} (same : count = eightsField cmd + low)
    (small : low < 8)
    : eightsField cmd = 8 * (count / 8) := by
  have whole := (eightsField_le cmd).2
  omega

/-- The extended commands, by cases on the highest bits of the second byte. -/
theorem decodeExtended_recognises (cmd next : UInt8)
    : Recognises (decodeExtended ((cmd &&& 0x1f) <<< 3) next) start
        ["Extend " ++ toString (eightsField cmd)] input
        (Command.parseExtended (eightsField cmd) next input) := by
  have high : (((cmd &&& 0x1f) <<< 3) + ((next >>> 3) &&& 7)).toNat
      = eightsField cmd + highField next :=
    extended_toNat cmd (highField_lt next)
  have low : (((cmd &&& 0x1f) <<< 3) + (next &&& 7)).toNat
      = eightsField cmd + lowField next :=
    extended_toNat cmd (lowField_lt next)
  unfold decodeExtended Command.parseExtended
  by_cases zero : next &&& 0xc0 = 0
  · rw [if_pos zero, if_pos zero]
    obtain ⟨count, same⟩ : ∃ count, count = eightsField cmd + highField next := ⟨_, rfl⟩
    simp only [decodeRepeatXLong, high, ← same]
    refine .clog _ (.check Iff.rfl fun valid => ?_)
    rw [extension_text same (highField_lt next)]
    exact .appends valid (by simp) (repeats_eq ..) rfl rfl
  rw [if_neg zero, if_neg zero]
  by_cases eight : next &&& 0xc0 = 0x80
  · rw [if_pos eight, if_pos eight]
    obtain ⟨count, same⟩ : ∃ count, count = eightsField cmd + highField next := ⟨_, rfl⟩
    simp only [decodeCopyThenRepeatLong, high, ← same]
    refine .mustGet fun b rest => .clog _ (.checkBoth copy_bounds fun valid => ?_)
    rw [extension_text same (highField_lt next)]
    exact .appends valid (by simp) (repeats_eq ..) rfl rfl
  rw [if_neg eight, if_neg eight]
  by_cases four : next &&& 0xc0 = 0x40
  · rw [if_pos four, if_pos four]
    simp only [decodeRepeatThenRawLong, low]
    refine .mustGet fun b rest => .clog _ (.mustRead fun data rest length => ?_)
    have text := extension_text length (lowField_lt next)
    rw [← length]
    refine .checkBoth repeat_bounds fun valid => ?_
    rw [repeats_raw, text]
    exact .appends valid (by simp) rfl (Nat.add_comm ..) rfl
  · rw [if_neg four, if_neg four]
    simp only [decodeCopyThenRawLong, high]
    refine .clog _ (.mustRead fun data rest length => ?_)
    have text := extension_text length (highField_lt next)
    rw [← length]
    refine .checkBoth copy_bounds fun valid => ?_
    rw [text]
    exact .appends valid (by simp) (raw_eq data) (Nat.add_comm ..) rfl

/-- The decoder recognises exactly the commands. -/
theorem decodeCommand_recognises (cmd : UInt8)
    : Recognises (decodeCommand cmd) start [] input (Command.parseFrom cmd input) := by
  unfold decodeCommand Command.parseFrom
  split
  · exact .clog _ (.performs rfl rfl)
  split
  · exact .clog _ (.performs rfl rfl)
  split
  · exact .clog _ (.performs perform_nop.symm rfl)
  split
  · exact .clog _ (.mustGet fun next rest => decodeExtended_recognises cmd next)
  split
  · exact decodeCopyLong_recognises cmd
  split
  · exact decodeCopyThenRepeat_recognises cmd
  split
  · exact decodeCopyThenRaw_recognises cmd
  · exact decodeShort_recognises cmd

/-- `decodeNext` reads the command at the front of the input and performs it, or it throws. -/
theorem decodeNext_recognises
    : Recognises decodeNext start [] input (Command.parse input) :=
  .mustGet fun cmd _ => decodeCommand_recognises cmd

/-- Nothing is read yet. -/
theorem reading_start (supply : SuppliesFinitely start.stream input)
    : Reading start start [] input := by
  refine ⟨?_, supply⟩
  have none : start.commandLog.map (· ++ []) = start.commandLog := by
    cases start.commandLog with
    | none => rfl
    | some log => simp
  rw [none]

/-- Where a command stands in the input, the decoder reads it and then performs it. -/
theorem run_decodeNext_command (supply : SuppliesFinitely this.stream input)
    (parsed : Command.parse input = some (c, rest))
    : ∃ this', Reading this this' c.log rest
        ∧ decodeNext.run this = (perform c).run this' := by
  have outcome := decodeNext_recognises this (reading_start supply)
  rwa [parsed] at outcome

/-- Where no command stands, the decoder throws, and has decoded nothing. -/
theorem run_decodeNext_rejected (supply : SuppliesFinitely this.stream input)
    (none : Command.parse input = none)
    : ∃ what this' logged left, Reading this this' logged left
        ∧ decodeNext.run this = .error (.decoderError what) this' := by
  have outcome := decodeNext_recognises this (reading_start supply)
  rwa [none] at outcome

-----------------------------------------------------------------------------------------
-- The command codec
-----------------------------------------------------------------------------------------

/-- The decoder has executed `c`: it has taken the command from its stream, which still has
`rest`, logged it with its arguments, and extended its buffer as the command says.
-/
structure Executed (this this' : DecoderStreambuf σ) (c : Command) (rest : List UInt8)
    : Prop where
  state
    : this' = { this with
        stream := this'.stream
        commandLog := this.commandLog.map (· ++ c.log)
        buffer := this.buffer ++ c.appended this.lineSize this.buffer }
  stream : SuppliesFinitely this'.stream rest

/-- A command that was read and whose copy is inside the buffer is executed. -/
theorem Reading.executed {this' : DecoderStreambuf σ} (h : Reading this this' c.log rest)
    (nonempty : 0 < this.lineSize) (inside : CopiesInside this.lineSize this.buffer c)
    : ∃ final, (perform c).run this' = .ok c.size final ∧ Executed this final c rest := by
  have size : this'.lineSize = this.lineSize := by rw [h.state]
  have buffer : this'.buffer = this.buffer := by rw [h.state]
  refine ⟨this'.extended c, ?_, ?_, h.stream⟩
  · refine run_perform_inside (by rwa [size]) ?_
    rwa [size, buffer]
  · unfold extended
    rw [size, buffer]
    conv_lhs => rw [h.state]

/-- Everything that `decodeNext` can do. -/
inductive Decode (this : DecoderStreambuf σ) (input : List UInt8)
    : EStateM.Result Fault (DecoderStreambuf σ) Nat → Prop
  | executed {c rest this'} (begins : Command.Begins input c rest)
    (inside : CopiesInside this.lineSize this.buffer c) (executed : Executed this this' c rest)
    : Decode this input (.ok c.size this')
  | short {c rest this'} (begins : Command.Begins input c rest)
    (some : c.copied this.lineSize this.buffer ≠ 0) (short : this.buffer.length < this.lineSize)
    (kept : this'.lineSize = this.lineSize)
    : Decode this input (.error (.decoderError "insufficient buffer size for copying") this')
  | outside {c rest this'} (begins : Command.Begins input c rest)
    (enough : this.lineSize ≤ this.buffer.length)
    (past : this.lineSize < c.copied this.lineSize this.buffer)
    (kept : this'.lineSize = this.lineSize)
    : Decode this input (.error copyOutside this')
  | rejected {what this'} (none : Command.parse input = none)
    (kept : this'.lineSize = this.lineSize)
    : Decode this input (.error (.decoderError what) this')

/-- One call of the decoder is one step of the relation, by cases on what stands in the input. -/
theorem decodeNext_decode (nonempty : 0 < this.lineSize)
    (supply : SuppliesFinitely this.stream input)
    : Decode this input (decodeNext.run this) := by
  cases parsed : Command.parse input with
  | none =>
      obtain ⟨what, middle, logged, left, reading, thrown⟩ :=
        run_decodeNext_rejected supply parsed
      rw [thrown]
      exact .rejected parsed (by rw [reading.state])
  | some result =>
      obtain ⟨c, rest⟩ := result
      have begins := Command.parse_begins parsed
      obtain ⟨middle, reading, performs⟩ := run_decodeNext_command supply parsed
      have size : middle.lineSize = this.lineSize := by rw [reading.state]
      have buffer : middle.buffer = this.buffer := by rw [reading.state]
      rw [performs]
      by_cases inside : CopiesInside this.lineSize this.buffer c
      · obtain ⟨final, returns, executed⟩ := reading.executed nonempty inside
        rw [returns]
        exact .executed begins inside executed
      obtain ⟨some, unfit⟩ := not_or.mp inside
      rcases Nat.lt_or_ge this.buffer.length this.lineSize with short | enough
      · rw [run_perform_short (by rwa [size]) (by rwa [size, buffer]) (by rwa [size, buffer])]
        exact .short begins some short size
      · have past := Nat.lt_of_not_le fun fits => unfit ⟨enough, fits⟩
        rw [run_perform_outside (by rwa [size, buffer]) (by rwa [size, buffer])]
        exact .outside begins enough past size

/-- What `decodeNext` executes when it returns. -/
theorem run_decodeNext_ok {this' : DecoderStreambuf σ} {n : Nat} (nonempty : 0 < this.lineSize)
    (supply : SuppliesFinitely this.stream input) (run : decodeNext.run this = .ok n this')
    : ∃ c rest, Command.Begins input c rest ∧ n = c.size
        ∧ CopiesInside this.lineSize this.buffer c ∧ Executed this this' c rest := by
  have decode := decodeNext_decode nonempty supply
  rw [run] at decode
  cases decode with
  | executed begins inside executed => exact ⟨_, _, begins, rfl, inside, executed⟩

/-- Where a line is long enough for any copy and the buffer has one, every copy is inside. -/
theorem copiesInside_of_wide {lineSize : Nat} {buffer : List UInt8} (valid : c.Valid)
    (wide : 248 ≤ lineSize) (enough : lineSize ≤ buffer.length)
    : CopiesInside lineSize buffer c := by
  refine Or.inr ⟨enough, ?_⟩
  cases c <;> simp only [Command.Valid, Command.copied, Command.copyCount] at valid ⊢ <;> omega

/-- Both directions of the command codec. Whatever follows them, the bytes that the
compressor writes for a command are executed as that command, all of them and no others,
and their number is returned (0 for EOP). Conversely, when `decodeNext` returns, the bytes
it has taken stand for the command that it has executed.
-/
theorem codec
    : (∀ (c : Command) (output : Buffer) (rest : List UInt8) (this : DecoderStreambuf σ),
        c.Valid → 248 ≤ this.lineSize → this.lineSize ≤ this.buffer.length →
        SuppliesFinitely this.stream (c.bytes ++ rest) →
        c.emit output = (output.insert c.bytes, c.bytes.length)
        ∧ ∃ this', decodeNext.run this = .ok c.size this' ∧ Executed this this' c rest)
      ∧ ∀ (input : List UInt8) (this this' : DecoderStreambuf σ) (n : Nat),
          248 ≤ this.lineSize → this.lineSize ≤ this.buffer.length →
          SuppliesFinitely this.stream input → decodeNext.run this = .ok n this' →
          ∃ c rest, Command.Begins input c rest ∧ n = c.size ∧ Executed this this' c rest := by
  constructor
  · intro c output rest this valid wide enough supply
    refine ⟨Command.emit_eq valid output, ?_⟩
    have parsed : Command.parse (c.bytes ++ rest) = some (c, rest) :=
      Command.Begins.parse ⟨valid, c.bytes, .written c, rfl⟩
    obtain ⟨middle, reading, performs⟩ := run_decodeNext_command supply parsed
    obtain ⟨final, run, executed⟩ :=
      reading.executed (by omega) (copiesInside_of_wide valid wide enough)
    exact ⟨final, performs.trans run, executed⟩
  · intro input this this' n wide _ supply run
    obtain ⟨c, rest, begins, size, _, executed⟩ := run_decodeNext_ok (by omega) supply run
    exact ⟨c, rest, begins, size, executed⟩

end Reading

/-- A copy of two bytes and a raw byte, followed by EOP. -/
theorem codec_copyThenRaw
    : let this : DecoderStreambuf MemoryStreambuf :=
        { stream := ⟨[0x0a, 7, 0x42]⟩, lineSize := 248, buffer := List.replicate 248 1 }
      (Command.copyThenRaw 2 [7]).emit {} = ({ bytes := [0x0a, 7] }, 2)
      ∧ ∃ this', decodeNext.run this = .ok 2 this'
          ∧ Executed this this' (.copyThenRaw 2 [7]) [0x42] := by
  have supply : SuppliesFinitely (⟨[0x0a, 7, 0x42]⟩ : MemoryStreambuf)
      ((Command.copyThenRaw 2 [7]).bytes ++ [0x42]) :=
    MemoryStreambuf.suppliesFinitely _
  exact codec.1 (.copyThenRaw 2 [7]) {} [0x42] _ (by decide) (by decide)
    (Nat.le_of_eq List.length_replicate.symm) supply

end DecoderStreambuf

end Capt.Compression
