import Libcapt.Examples.PbmHeader
import Mathlib.Data.List.TakeWhile

/-! Which headers of PBM pages are accepted, and what is read from them. -/

namespace Capt

open Streams IStream

-----------------------------------------------------------------------------------------
-- The text of a header
-----------------------------------------------------------------------------------------

/-- A number as `operator>>` reads it, with white space and a sign before it. -/
structure Numeral where
  spaces : List UInt8
  sign : List UInt8
  digits : List UInt8
  spaces_isspace : ∀ c ∈ spaces, isspace c = true
  sign_isSign : sign = [] ∨ sign = [43] ∨ sign = [45]
  digits_isDigit : ∀ c ∈ digits, isDigit c = true
  nonempty : digits ≠ []
  fits : decimalValue digits < 2 ^ 32

namespace Numeral

/-- The numeral as it stands in the file. -/
def bytes (this : Numeral) : List UInt8 := this.spaces ++ this.sign ++ this.digits

/-- A negative number is taken modulo the range of the type. -/
def value (this : Numeral) : Nat :=
  if this.sign = [45] then unsigned (2 ^ 32 - decimalValue this.digits)
  else decimalValue this.digits

/-- The digits without white space and a sign before them. -/
def plain (digits : List UInt8) (digits_isDigit : ∀ c ∈ digits, isDigit c = true)
    (nonempty : digits ≠ []) (fits : decimalValue digits < 2 ^ 32)
    : Numeral where
  spaces := []
  sign := []
  digits := digits
  spaces_isspace := nofun
  sign_isSign := .inl rfl
  digits_isDigit := digits_isDigit
  nonempty := nonempty
  fits := fits

end Numeral

/-- What follows the magic number and one white space: lines of comments, the width and the
height, and whatever stands behind the height up to the next white space.
-/
structure PbmText where
  comments : List (List UInt8)
  width : Numeral
  separator : UInt8
  height : Numeral
  junk : List UInt8
  ending : UInt8
  comments_oneLine : ∀ line ∈ comments, 10 ∉ line
  separator_isspace : isspace separator = true
  junk_notSpace : ∀ c ∈ junk, isspace c = false
  junk_notDigit : ∀ c, junk.head? = some c → isDigit c = false
  ending_isspace : isspace ending = true

/-- The newline is a white space. -/
theorem isspace_newline : isspace 10 = true := rfl

namespace PbmText

/-- The header without comments, with one space between its numbers. -/
def plain (width height : Numeral) : PbmText where
  comments := []
  width := width
  separator := 32
  height := height
  junk := []
  ending := 10
  comments_oneLine := nofun
  separator_isspace := rfl
  junk_notSpace := nofun
  junk_notDigit := nofun
  ending_isspace := isspace_newline

/-- Comments as they stand in the file: a hash, the text and a newline for each. -/
def commentBytes (comments : List (List UInt8)) : List UInt8 :=
  comments.flatMap fun line => 35 :: line ++ [10]

/-- The header as it stands in the file, up to the white space behind the height. -/
def bytes (this : PbmText) : List UInt8 :=
  commentBytes this.comments ++ (this.width.bytes
    ++ this.separator :: (this.height.bytes ++ (this.junk ++ [this.ending])))

/-- The header followed by the rest of the file, as the reader goes through it. -/
theorem bytes_append (this : PbmText) (rest : List UInt8)
    : this.bytes ++ rest
      = commentBytes this.comments ++ (this.width.bytes
          ++ this.separator :: (this.height.bytes ++ (this.junk ++ this.ending :: rest))) := by
  simp [bytes]

/-- The plain header is two numbers, a space and a newline. -/
theorem plain_bytes (width height : Numeral)
    : (plain width height).bytes = width.bytes ++ 32 :: (height.bytes ++ [10]) :=
  rfl

end PbmText

/-- A white space is no digit. -/
theorem isDigit_of_isspace {c : UInt8} (space : isspace c = true) : isDigit c = false := by
  simp only [isspace, isDigit, Bool.or_eq_true, beq_iff_eq, Bool.and_eq_true, decide_eq_true_eq,
    Bool.and_eq_false_iff, decide_eq_false_iff_not] at space ⊢
  grind

/-- A digit is no white space. -/
theorem isspace_of_isDigit {c : UInt8} (digit : isDigit c = true) : isspace c = false := by
  cases space : isspace c with
  | false => rfl
  | true => exact absurd digit (by rw [isDigit_of_isspace space]; decide)

/-- A number does not begin with white space. -/
theorem Numeral.begins (this : Numeral) (rest : List UInt8)
    : ∃ first more, this.sign ++ (this.digits ++ rest) = first :: more
        ∧ isspace first = false ∧ first ≠ 35 := by
  obtain ⟨first, more, some⟩ := List.exists_cons_of_ne_nil this.nonempty
  rcases this.sign_isSign with sign | sign | sign
  · have digit := this.digits_isDigit first (some ▸ List.mem_cons_self)
    refine ⟨first, more ++ rest, ?_, isspace_of_isDigit digit, ?_⟩
    · rw [sign, some]
      rfl
    · rintro rfl
      cases digit
  · exact ⟨43, this.digits ++ rest, by rw [sign]; rfl, by decide, by decide⟩
  · exact ⟨45, this.digits ++ rest, by rw [sign]; rfl, by decide, by decide⟩

-----------------------------------------------------------------------------------------
-- Reading characters
-----------------------------------------------------------------------------------------

/-- A stream in a good state before the bytes. -/
def reader (bytes : List UInt8) : IStream := ⟨⟨bytes⟩, false, false⟩

namespace IStream

variable {this : IStream} {bytes rest : List UInt8} {b : UInt8}

/-- The sentry of a good stream does nothing. -/
theorem run_sentry_good (good : this.good = true) : sentry.run this = .ok true this := by
  unfold sentry
  rw [run_get_bind, if_pos good]
  rfl

/-- The sentry of any other one sets `failbit`. -/
theorem run_sentry_bad (bad : ¬ this.good = true)
    : sentry.run this = .ok false { this with fail := true } := by
  unfold sentry
  rw [run_get_bind, if_neg bad]
  change EStateM.Result.ok false { this with eof := this.eof || false, fail := this.fail || true }
    = _
  rw [Bool.or_false, Bool.or_true]

/-- `get` gives the next byte. -/
theorem run_getChar (b : UInt8) (rest : List UInt8)
    : getChar.run (reader (b :: rest)) = .ok (some b) (reader rest) :=
  rfl

/-- At the end of the file `get` sets `eofbit` and `failbit`. -/
theorem run_getChar_end : getChar.run (reader []) = .ok none ⟨⟨[]⟩, true, true⟩ :=
  rfl

/-- `peek` gives the next byte and leaves it. -/
theorem run_peek (b : UInt8) (rest : List UInt8)
    : peek.run (reader (b :: rest)) = .ok (some b) (reader (b :: rest)) :=
  rfl

/-- At the end of the file `peek` sets `eofbit` only. -/
theorem run_peek_end : peek.run (reader []) = .ok none ⟨⟨[]⟩, true, false⟩ :=
  rfl

/-- `read` of bytes that are there. -/
theorem run_read_whole (front rest : List UInt8)
    : (read front.length).run (reader (front ++ rest)) = .ok front (reader rest) := by
  have taken : (onRdbuf (Source.sgetn front.length)).run (reader (front ++ rest))
      = .ok front (reader rest) := by
    apply run_zoom_ok
    change EStateM.Result.ok ((front ++ rest).take front.length)
      (⟨(front ++ rest).drop front.length⟩ : MemoryStreambuf) = _
    rw [List.take_left, List.drop_left]
  unfold read
  rw [run_bind_ok (run_sentry_good rfl)]
  change EStateM.run (onRdbuf (Source.sgetn front.length) >>= _) _ = _
  rw [run_bind_ok taken, if_neg (Nat.lt_irrefl _)]
  rfl

/-- A read that meets the end of the stream sets both flags. -/
theorem run_read_short {n : Nat} (short : bytes.length < n)
    : (read n).run (reader bytes) = .ok bytes ⟨⟨[]⟩, true, true⟩ := by
  have taken : (onRdbuf (Source.sgetn n)).run (reader bytes) = .ok bytes (reader []) := by
    apply run_zoom_ok
    change EStateM.Result.ok (bytes.take n) (⟨bytes.drop n⟩ : MemoryStreambuf) = _
    rw [List.take_of_length_le (Nat.le_of_lt short), List.drop_of_length_le (Nat.le_of_lt short)]
  unfold read
  rw [run_bind_ok (run_sentry_good rfl)]
  change EStateM.run (onRdbuf (Source.sgetn n) >>= _) _ = _
  rw [run_bind_ok taken, if_pos short]
  rfl

-----------------------------------------------------------------------------------------
-- Reading numbers
-----------------------------------------------------------------------------------------

/-- The bytes up to where a property no longer holds. -/
theorem takeWhile_front {p : UInt8 → Bool} {front rest : List UInt8}
    (all : ∀ c ∈ front, p c = true) (stop : ∀ c, rest.head? = some c → p c = false)
    : (front ++ rest).takeWhile p = front ∧ (front ++ rest).dropWhile p = rest := by
  have none : rest.takeWhile p = [] ∧ rest.dropWhile p = rest := by
    cases rest with
    | nil => exact ⟨rfl, rfl⟩
    | cons c rest =>
        have other := stop c rfl
        exact ⟨List.takeWhile_cons_of_neg (by simp [other]),
          List.dropWhile_cons_of_neg (by simp [other])⟩
  rw [List.takeWhile_append_of_pos all, List.dropWhile_append_of_pos all, none.1, none.2,
    List.append_nil]
  exact ⟨rfl, rfl⟩

/-- What is skipped is the longest front whose bytes are all to be skipped. -/
theorem run_skipWhile (skipped : UInt8 → Bool) (bytes : List UInt8)
    : (skipWhile skipped).run (reader bytes)
      = .ok (bytes.dropWhile skipped ≠ []) (reader (bytes.dropWhile skipped)) :=
  rfl

/-- The parts of a number without a sign. -/
theorem numberParts_plain {c : UInt8} (other : c ≠ 45 ∧ c ≠ 43) (bytes : List UInt8)
    : numberParts (c :: bytes)
      = (false, (c :: bytes).takeWhile isDigit, (c :: bytes).dropWhile isDigit) := by
  simp [numberParts, other]

/-- A number is split where its digits end. -/
theorem numberParts_numeral (numeral : Numeral) {rest : List UInt8}
    (stop : ∀ c, rest.head? = some c → isDigit c = false)
    : numberParts (numeral.sign ++ (numeral.digits ++ rest))
      = (decide (numeral.sign = [45]), numeral.digits, rest) := by
  have parts := takeWhile_front numeral.digits_isDigit stop
  have signed : ∀ sign, sign = [43] ∨ sign = [45] →
      numberParts (sign ++ (numeral.digits ++ rest))
        = (decide (sign = [45]), numeral.digits, rest) := by
    rintro sign (rfl | rfl)
    · exact congrArg (Prod.mk false) (Prod.ext parts.1 parts.2)
    · exact congrArg (Prod.mk true) (Prod.ext parts.1 parts.2)
  rcases numeral.sign_isSign with sign | sign
  · obtain ⟨first, more, some⟩ := List.exists_cons_of_ne_nil numeral.nonempty
    have digit : isDigit first = true :=
      numeral.digits_isDigit first (some ▸ List.mem_cons_self)
    have other : first ≠ 45 ∧ first ≠ 43 := by
      constructor
      · rintro rfl
        cases digit
      · rintro rfl
        cases digit
    rw [some] at parts ⊢
    rw [sign, List.nil_append, List.cons_append, numberParts_plain other]
    exact congrArg (Prod.mk false) (Prod.ext parts.1 parts.2)
  · exact signed _ sign

/-- How a number is read behind white space. -/
theorem run_readUnsigned_some {bytes : List UInt8} (some : bytes.dropWhile isspace ≠ [])
    {negative : Bool} {digits rest : List UInt8}
    (parts : numberParts (bytes.dropWhile isspace) = (negative, digits, rest))
    : readUnsigned.run (reader bytes)
      = if digits = [] ∨ decimalValue digits ≥ 2 ^ 32 then
          .ok none ⟨⟨rest⟩, rest = [], true⟩
        else
          .ok (if negative then unsigned (2 ^ 32 - decimalValue digits) else decimalValue digits)
            ⟨⟨rest⟩, rest = [], false⟩ := by
  unfold readUnsigned
  rw [run_bind_ok (run_sentry_good rfl)]
  change EStateM.run (skipWhile isspace >>= _) _ = _
  rw [run_bind_ok (run_skipWhile isspace bytes), if_pos (decide_eq_true some), run_get_bind]
  rw [show (reader (bytes.dropWhile isspace)).rdbuf.buffer = bytes.dropWhile isspace from rfl,
    parts]
  by_cases refused : digits = [] ∨ decimalValue digits ≥ 2 ^ 32
  · simp only [refused, decide_true, if_true, run_modify_bind, setstate]
    rfl
  · simp only [refused, decide_false, if_false, run_modify_bind, setstate]
    cases negative <;> rfl

/-- A number is read up to where its digits end. -/
theorem run_readUnsigned (numeral : Numeral) {rest : List UInt8}
    (stop : ∀ c, rest.head? = some c → isDigit c = false)
    : readUnsigned.run (reader (numeral.bytes ++ rest))
      = .ok (some numeral.value) ⟨⟨rest⟩, rest = [], false⟩ := by
  have same : numeral.bytes ++ rest
      = numeral.spaces ++ (numeral.sign ++ (numeral.digits ++ rest)) := by
    rw [Numeral.bytes, List.append_assoc, List.append_assoc]
  obtain ⟨first, more, begins, notSpace, _⟩ := numeral.begins rest
  have skips := takeWhile_front numeral.spaces_isspace fun c same => by
    cases (congrArg List.head? begins).symm.trans same
    exact notSpace
  have accepted : ¬ (numeral.digits = [] ∨ decimalValue numeral.digits ≥ 2 ^ 32) := by
    rintro (none | big)
    · exact numeral.nonempty none
    · exact absurd numeral.fits (Nat.not_lt.mpr big)
  have parts := numberParts_numeral numeral stop
  rw [← skips.2] at parts
  rw [same, run_readUnsigned_some _ parts, if_neg accepted]
  · unfold Numeral.value
    by_cases negative : numeral.sign = [45]
    · simp [negative]
    · simp [negative]
  · rw [skips.2, begins]
    exact List.cons_ne_nil _ _

/-- A number is expected and only white space follows. -/
theorem run_readUnsigned_end {bytes : List UInt8} (nothing : bytes.dropWhile isspace = [])
    : readUnsigned.run (reader bytes) = .ok none ⟨⟨[]⟩, true, true⟩ := by
  unfold readUnsigned
  rw [run_bind_ok (run_sentry_good rfl)]
  change EStateM.run (skipWhile isspace >>= _) _ = _
  rw [run_bind_ok (run_skipWhile isspace bytes), nothing]
  rfl

/-- After an error nothing is extracted. -/
theorem run_readUnsigned_bad (bad : ¬ this.good = true)
    : readUnsigned.run this = .ok none { this with fail := true } := by
  unfold readUnsigned
  rw [run_bind_ok (run_sentry_bad bad)]
  rfl

/-- The first byte that is left is one that is not skipped. -/
theorem head_dropWhile {p : UInt8 → Bool} (bytes : List UInt8) (c : UInt8)
    (first : (bytes.dropWhile p).head? = some c)
    : p c = false := by
  have stops := List.head?_dropWhile_not p bytes
  rw [first] at stops
  simpa using stops

/-- What is split off is a sign and digits, and no digit follows. -/
theorem numberParts_split {bytes digits rest : List UInt8} {negative : Bool}
    (parts : numberParts bytes = (negative, digits, rest))
    : ∃ sign, (sign = [] ∨ sign = [43] ∨ sign = [45]) ∧ bytes = sign ++ (digits ++ rest)
        ∧ negative = decide (sign = [45]) ∧ (∀ c ∈ digits, isDigit c = true)
        ∧ ∀ c, rest.head? = some c → isDigit c = false := by
  have split : ∀ body : List UInt8, body = body.takeWhile isDigit ++ body.dropWhile isDigit :=
    fun body => (List.takeWhile_append_dropWhile).symm
  have digitsOf : ∀ body : List UInt8, ∀ c ∈ body.takeWhile isDigit, isDigit c = true :=
    fun body c member => List.mem_takeWhile_imp member
  cases bytes with
  | nil =>
      cases parts
      exact ⟨[], .inl rfl, rfl, rfl, nofun, nofun⟩
  | cons c bytes =>
      by_cases minus : c = 45
      · subst minus
        cases parts
        exact ⟨[45], .inr (.inr rfl), congrArg (List.cons 45) (split bytes), rfl, digitsOf bytes,
          head_dropWhile bytes⟩
      · by_cases plus : c = 43
        · subst plus
          cases parts
          exact ⟨[43], .inr (.inl rfl), congrArg (List.cons 43) (split bytes), rfl,
            digitsOf bytes, head_dropWhile bytes⟩
        · rw [numberParts_plain ⟨minus, plus⟩] at parts
          cases parts
          exact ⟨[], .inl rfl, split (c :: bytes), rfl, digitsOf (c :: bytes),
            head_dropWhile (c :: bytes)⟩

/-- Where a number is read the stream has begun with it. -/
theorem readUnsigned_some {bytes : List UInt8} {value : Nat} {this' : IStream}
    (run : readUnsigned.run (reader bytes) = .ok (some value) this')
    : ∃ (numeral : Numeral) (rest : List UInt8), bytes = numeral.bytes ++ rest
        ∧ value = numeral.value ∧ (∀ c, rest.head? = some c → isDigit c = false)
        ∧ this' = ⟨⟨rest⟩, rest = [], false⟩ := by
  by_cases nothing : bytes.dropWhile isspace = []
  · cases (run_readUnsigned_end nothing).symm.trans run
  · generalize parts : numberParts (bytes.dropWhile isspace) = result at *
    obtain ⟨negative, digits, rest⟩ := result
    rw [run_readUnsigned_some nothing parts] at run
    by_cases refused : digits = [] ∨ decimalValue digits ≥ 2 ^ 32
    · rw [if_pos refused] at run
      cases run
    · rw [if_neg refused] at run
      obtain ⟨sign, isSign, body, rfl, isDigits, stop⟩ := numberParts_split parts
      obtain ⟨some, small⟩ := not_or.mp refused
      refine ⟨⟨bytes.takeWhile isspace, sign, digits, fun c => List.mem_takeWhile_imp, isSign,
        isDigits, some, Nat.not_le.mp small⟩, rest, ?_, ?_, stop, ?_⟩
      · rw [Numeral.bytes, List.append_assoc, List.append_assoc, ← body]
        exact List.takeWhile_append_dropWhile.symm
      · unfold Numeral.value
        by_cases minus : sign = [45]
        · rw [decide_eq_true minus, if_pos rfl] at run
          cases run
          rw [if_pos minus]
        · rw [decide_eq_false minus, if_neg Bool.false_ne_true] at run
          cases run
          rw [if_neg minus]
      · injection run with _ last
        exact last.symm

end IStream

-----------------------------------------------------------------------------------------
-- Skipping
-----------------------------------------------------------------------------------------

/-- A comment is skipped with its newline, by induction on its text. -/
theorem run_skipComment {line : List UInt8} (oneLine : 10 ∉ line) (rest : List UInt8) {fuel : Nat}
    (turns : line.length < fuel)
    : (skipComment fuel).run (reader (line ++ 10 :: rest)) = .ok () (reader rest) := by
  induction line generalizing fuel with
  | nil =>
      obtain ⟨fuel, rfl⟩ := Nat.exists_eq_succ_of_ne_zero (Nat.ne_of_gt turns)
      unfold skipComment
      rw [List.nil_append, run_bind_ok (run_getChar 10 rest)]
      rfl
  | cons c line ih =>
      obtain ⟨fuel, rfl⟩ := Nat.exists_eq_succ_of_ne_zero (Nat.ne_of_gt (Nat.zero_lt_of_lt turns))
      have other : ¬ some c = some 10 := by
        intro same
        cases same
        exact oneLine List.mem_cons_self
      unfold skipComment
      rw [List.cons_append, run_bind_ok (run_getChar c _), if_neg other, run_get_bind]
      exact ih (fun member => oneLine (List.mem_cons_of_mem c member))
        (Nat.lt_of_succ_lt_succ turns)

/-- A comment that is not ended is refused. -/
theorem run_skipComment_end {bytes : List UInt8} (oneLine : 10 ∉ bytes) {fuel : Nat}
    (turns : bytes.length < fuel)
    : ∃ this', (skipComment fuel).run (reader bytes)
        = .error (.runtimeError "PBM: unexpected EOF") this' := by
  induction bytes generalizing fuel with
  | nil =>
      obtain ⟨fuel, rfl⟩ := Nat.exists_eq_succ_of_ne_zero (Nat.ne_of_gt turns)
      unfold skipComment
      rw [run_bind_ok run_getChar_end]
      exact ⟨_, rfl⟩
  | cons c bytes ih =>
      obtain ⟨fuel, rfl⟩ := Nat.exists_eq_succ_of_ne_zero (Nat.ne_of_gt (Nat.zero_lt_of_lt turns))
      have other : ¬ some c = some 10 := by
        intro same
        cases same
        exact oneLine List.mem_cons_self
      unfold skipComment
      rw [run_bind_ok (run_getChar c _), if_neg other, run_get_bind]
      exact ih (fun member => oneLine (List.mem_cons_of_mem c member))
        (Nat.lt_of_succ_lt_succ turns)

/-- The lines of comments are skipped, by induction on them. -/
theorem run_skipComments {comments : List (List UInt8)}
    (oneLine : ∀ line ∈ comments, 10 ∉ line) {first : UInt8} (other : first ≠ 35)
    (rest : List UInt8) {fuel : Nat} (turns : comments.length < fuel)
    : (skipComments fuel).run (reader (PbmText.commentBytes comments ++ first :: rest))
      = .ok () (reader (first :: rest)) := by
  induction comments generalizing fuel with
  | nil =>
      obtain ⟨fuel, rfl⟩ := Nat.exists_eq_succ_of_ne_zero (Nat.ne_of_gt turns)
      have stop : ¬ some first = some 35 := fun same => other (Option.some_inj.mp same)
      unfold skipComments
      rw [PbmText.commentBytes, List.flatMap_nil, List.nil_append,
        run_bind_ok (run_peek first rest), if_neg stop]
      rfl
  | cons line comments ih =>
      obtain ⟨fuel, rfl⟩ := Nat.exists_eq_succ_of_ne_zero (Nat.ne_of_gt (Nat.zero_lt_of_lt turns))
      have bytes : PbmText.commentBytes (line :: comments) ++ first :: rest
          = 35 :: line ++ 10 :: (PbmText.commentBytes comments ++ first :: rest) := by
        simp [PbmText.commentBytes]
      have skip : (skipComment
          ((35 :: line ++ 10 :: (PbmText.commentBytes comments ++ first :: rest)).length + 1)).run
            (reader (35 :: line ++ 10 :: (PbmText.commentBytes comments ++ first :: rest)))
          = .ok () (reader (PbmText.commentBytes comments ++ first :: rest)) := by
        apply run_skipComment
        · intro member
          rcases List.mem_cons.mp member with same | member
          · cases same
          · exact oneLine line List.mem_cons_self member
        · simp only [List.cons_append, List.length_cons, List.length_append]
          omega
      unfold skipComments
      rw [bytes, List.cons_append, run_bind_ok (run_peek 35 _), if_pos rfl, run_get_bind]
      rw [List.cons_append] at skip
      rw [show (reader (35 :: (line ++ 10 :: (PbmText.commentBytes comments ++ first :: rest)))
        ).rdbuf.buffer = 35 :: (line ++ 10 :: (PbmText.commentBytes comments ++ first :: rest))
          from rfl, run_bind_ok skip]
      exact ih (fun line member => oneLine line (List.mem_cons_of_mem _ member))
        (Nat.lt_of_succ_lt_succ turns)

/-- What follows the height is skipped with the white space behind it, by induction on it. -/
theorem run_skipToSpace {junk : List UInt8} (notSpace : ∀ c ∈ junk, isspace c = false)
    {ending : UInt8} (space : isspace ending = true) (rest : List UInt8) {fuel : Nat}
    (turns : junk.length < fuel)
    : (skipToSpace fuel).run (reader (junk ++ ending :: rest)) = .ok () (reader rest) := by
  induction junk generalizing fuel with
  | nil =>
      obtain ⟨fuel, rfl⟩ := Nat.exists_eq_succ_of_ne_zero (Nat.ne_of_gt turns)
      unfold skipToSpace
      rw [List.nil_append, run_bind_ok (run_getChar ending rest), run_get_bind]
      rw [Option.map_some, Option.getD_some, space]
      rfl
  | cons c junk ih =>
      obtain ⟨fuel, rfl⟩ := Nat.exists_eq_succ_of_ne_zero (Nat.ne_of_gt (Nat.zero_lt_of_lt turns))
      have other := notSpace c List.mem_cons_self
      unfold skipToSpace
      rw [List.cons_append, run_bind_ok (run_getChar c _), run_get_bind]
      rw [Option.map_some, Option.getD_some, other]
      exact ih (fun c member => notSpace c (List.mem_cons_of_mem _ member))
        (Nat.lt_of_succ_lt_succ turns)

/-- Where the comments are skipped and the stream is still good, they were lines of comments. -/
theorem skipComments_good {fuel : Nat} {bytes : List UInt8} {this' : IStream}
    (run : (skipComments fuel).run (reader bytes) = .ok () this')
    : ¬ this'.good = true
      ∨ ∃ comments rest, bytes = PbmText.commentBytes comments ++ rest
          ∧ (∀ line ∈ comments, 10 ∉ line) ∧ this' = reader rest := by
  induction fuel generalizing bytes with
  | zero => cases run
  | succ fuel ih =>
      unfold skipComments at run
      cases bytes with
      | nil =>
          rw [run_bind_ok run_peek_end] at run
          cases run
          exact .inl Bool.false_ne_true
      | cons first bytes =>
          rw [run_bind_ok (run_peek first bytes)] at run
          by_cases comment : some first = some 35
          · cases comment
            rw [if_pos rfl, run_get_bind] at run
            by_cases ended : 10 ∈ 35 :: bytes
            · obtain ⟨line, rest, split, oneLine⟩ := List.eq_append_cons_of_mem ended
              have turns : line.length < (35 :: bytes).length + 1 := by
                rw [split, List.length_append]
                omega
              have skip := run_skipComment oneLine rest turns
              rw [← split] at skip
              change EStateM.run (skipComment ((35 :: bytes).length + 1) >>= _) _ = _ at run
              rw [run_bind_ok skip] at run
              rcases ih run with bad | ⟨comments, rest', rfl, lines, last⟩
              · exact .inl bad
              · cases line with
                | nil => cases split
                | cons c line =>
                    cases split
                    refine .inr ⟨line :: comments, rest', ?_, ?_, last⟩
                    · simp [PbmText.commentBytes]
                    · intro other member
                      rcases List.mem_cons.mp member with rfl | member
                      · exact fun inside => oneLine (List.mem_cons_of_mem _ inside)
                      · exact lines other member
            · obtain ⟨last, thrown⟩ := run_skipComment_end ended (Nat.lt_succ_self _)
              cases (run_bind_error thrown).symm.trans run
          · rw [if_neg comment] at run
            cases run
            exact .inr ⟨[], first :: bytes, rfl, nofun, rfl⟩

/-- Where a character is skipped up to and the stream is not at its end, there was white space. -/
theorem skipToSpace_good {fuel : Nat} {bytes : List UInt8} {this' : IStream}
    (run : (skipToSpace fuel).run (reader bytes) = .ok () this')
    : this'.eof = true
      ∨ ∃ junk ending rest, bytes = junk ++ ending :: rest
          ∧ (∀ c ∈ junk, isspace c = false) ∧ isspace ending = true ∧ this' = reader rest := by
  induction fuel generalizing bytes with
  | zero => cases run
  | succ fuel ih =>
      unfold skipToSpace at run
      cases bytes with
      | nil =>
          rw [run_bind_ok run_getChar_end, run_get_bind] at run
          cases run
          exact .inl rfl
      | cons c bytes =>
          rw [run_bind_ok (run_getChar c bytes), run_get_bind, Option.map_some,
            Option.getD_some] at run
          cases space : isspace c with
          | true =>
              rw [space] at run
              cases run
              exact .inr ⟨[], c, bytes, rfl, nofun, space, rfl⟩
          | false =>
              rw [space] at run
              rcases ih run with atEnd | ⟨junk, ending, rest, rfl, notSpace, ends, last⟩
              · exact .inl atEnd
              · refine .inr ⟨c :: junk, ending, rest, rfl, ?_, ends, last⟩
                intro other member
                rcases List.mem_cons.mp member with rfl | member
                · exact space
                · exact notSpace other member

-----------------------------------------------------------------------------------------
-- Headers
-----------------------------------------------------------------------------------------

namespace PbmText

/-- The first byte behind the comments, which does not begin another one. -/
theorem begins (this : PbmText) (rest : List UInt8)
    : ∃ first more, this.width.bytes ++ rest = first :: more ∧ first ≠ 35 := by
  obtain ⟨first, more, some, _, other⟩ := this.width.begins rest
  have bytes : this.width.bytes ++ rest = this.width.spaces ++ first :: more := by
    rw [Numeral.bytes, List.append_assoc, List.append_assoc, some]
  cases spaces : this.width.spaces with
  | nil =>
      rw [bytes, spaces]
      exact ⟨first, more, rfl, other⟩
  | cons c spaces' =>
      rw [bytes, spaces]
      refine ⟨c, _, rfl, ?_⟩
      rintro rfl
      exact absurd (this.width.spaces_isspace 35 (spaces ▸ List.mem_cons_self)) (by decide)

end PbmText

/-- Every comment takes at least one byte. -/
theorem length_commentBytes (comments : List (List UInt8))
    : comments.length ≤ (PbmText.commentBytes comments).length := by
  induction comments with
  | nil => exact Nat.le_refl 0
  | cons line comments ih =>
      change comments.length + 1 ≤ (35 :: line ++ [10] ++ PbmText.commentBytes comments).length
      simp only [List.length_append, List.length_cons]
      omega

/-- No digit follows the height. -/
theorem PbmText.ended (this : PbmText) (rest : List UInt8) (c : UInt8)
    (first : (this.junk ++ this.ending :: rest).head? = some c)
    : isDigit c = false := by
  cases junk : this.junk with
  | nil =>
      rw [junk] at first
      cases first
      exact isDigit_of_isspace this.ending_isspace
  | cons b junk' =>
      rw [junk] at first
      cases first
      exact this.junk_notDigit _ (by rw [junk]; rfl)

/-- The size is read up to the white space that ends it. -/
theorem run_readPbmSize (text : PbmText) (rest : List UInt8)
    : readPbmSize.run (reader (text.bytes ++ rest))
      = .ok (text.width.value, text.height.value) (reader rest) := by
  rw [text.bytes_append]
  generalize behind : text.separator :: (text.height.bytes ++ (text.junk ++ text.ending :: rest))
    = body
  obtain ⟨first, more, some, other⟩ := text.begins body
  have comments : (skipComments ((PbmText.commentBytes text.comments
        ++ (text.width.bytes ++ body)).length + 1)).run
          (reader (PbmText.commentBytes text.comments ++ (text.width.bytes ++ body)))
      = .ok () (reader (text.width.bytes ++ body)) := by
    rw [some]
    apply run_skipComments text.comments_oneLine other
    have least := length_commentBytes text.comments
    rw [List.length_append]
    omega
  have separated : ∀ c, body.head? = Option.some c → isDigit c = false := by
    rw [← behind]
    intro c same
    cases same
    exact isDigit_of_isspace text.separator_isspace
  have nonempty : body ≠ [] := by
    rw [← behind]
    exact List.cons_ne_nil _ _
  unfold readPbmSize
  rw [run_get_bind]
  change EStateM.run (skipComments ((PbmText.commentBytes text.comments
    ++ (text.width.bytes ++ body)).length + 1) >>= _) _ = _
  rw [run_bind_ok comments, run_bind_ok (run_readUnsigned text.width separated),
    decide_eq_false nonempty, ← behind]
  change EStateM.run (getChar >>= _) (reader _) = _
  rw [run_bind_ok (run_getChar text.separator _), Option.map_some, Option.getD_some,
    text.separator_isspace]
  have nonempty' : text.junk ++ text.ending :: rest ≠ [] := by simp
  change EStateM.run (readUnsigned >>= _) _ = _
  rw [run_bind_ok (run_readUnsigned text.height (text.ended rest)),
    decide_eq_false nonempty']
  change EStateM.run (skipToSpace ((text.junk ++ text.ending :: rest).length + 1) >>= _)
    (reader _) = _
  have turns : text.junk.length < (text.junk ++ text.ending :: rest).length + 1 := by
    rw [List.length_append]
    omega
  rw [run_bind_ok (run_skipToSpace text.junk_notSpace text.ending_isspace rest turns)]
  rfl

/-- Where a size is read it was written like that. -/
theorem readPbmSize_ok {bytes : List UInt8} {width height : Nat} {this' : IStream}
    (run : readPbmSize.run (reader bytes) = .ok (width, height) this')
    : ∃ (text : PbmText) (rest : List UInt8), bytes = text.bytes ++ rest
        ∧ width = text.width.value ∧ height = text.height.value ∧ this' = reader rest := by
  unfold readPbmSize at run
  rw [run_get_bind] at run
  obtain ⟨_, first, skipped, run⟩ := run_bind_eq_ok run
  obtain ⟨number, second, width', run⟩ := run_bind_eq_ok run
  cases number with
  | none => cases run
  | some value =>
      rcases skipComments_good skipped with bad | ⟨comments, body, rfl, oneLine, rfl⟩
      · cases (run_readUnsigned_bad bad).symm.trans width'
      obtain ⟨widthText, rest, rfl, rfl, _, rfl⟩ := readUnsigned_some width'
      cases rest with
      | nil => cases run
      | cons separator rest =>
          change EStateM.run (getChar >>= _) (reader (separator :: rest)) = _ at run
          rw [run_bind_ok (run_getChar separator rest), Option.map_some, Option.getD_some] at run
          cases space : isspace separator with
          | false =>
              rw [space] at run
              cases run
          | true =>
              rw [space] at run
              change EStateM.run (readUnsigned >>= _) _ = _ at run
              obtain ⟨number, third, height', run⟩ := run_bind_eq_ok run
              cases number with
              | none => cases run
              | some value =>
                  obtain ⟨heightText, behind, rfl, rfl, stop, rfl⟩ := readUnsigned_some height'
                  change EStateM.run (skipToSpace (behind.length + 1) >>= _) _ = _ at run
                  obtain ⟨_, last, toSpace, finish⟩ := run_bind_eq_ok run
                  rw [run_get_bind] at finish
                  cases behind with
                  | nil =>
                      cases toSpace
                      cases finish
                  | cons c behind =>
                      change EStateM.run (skipToSpace _) (reader (c :: behind)) = _ at toSpace
                      rcases skipToSpace_good toSpace
                        with atEnd | ⟨junk, ending, rest, split, notSpace, ends, rfl⟩
                      · rw [if_pos atEnd] at finish
                        cases finish
                      · cases finish
                        have notDigit : ∀ b, junk.head? = some b → isDigit b = false := by
                          intro b first
                          apply stop
                          rw [split, List.head?_append, first]
                          rfl
                        refine ⟨⟨comments, widthText, separator, heightText, junk, ending, oneLine,
                          space, notSpace, notDigit, ends⟩, rest, ?_, rfl, rfl, rfl⟩
                        rw [PbmText.bytes_append, split]

/-- The magic number and the byte behind it. -/
theorem run_magic (p four space : UInt8) (body : List UInt8)
    : (IStream.read 3).run (reader (p :: four :: space :: body))
      = .ok [p, four, space] (reader body) :=
  run_read_whole [p, four, space] body

/-- What is accepted as the header of a page, and what is read from it. -/
theorem readPbmHeader_some_iff {bytes : List UInt8} {width height : Nat} {this' : IStream}
    : readPbmHeader.run (reader bytes) = .ok (some (width, height)) this'
      ↔ ∃ (space : UInt8) (text : PbmText) (rest : List UInt8),
          isspace space = true ∧ bytes = 80 :: 52 :: space :: (text.bytes ++ rest)
          ∧ width = text.width.value ∧ height = text.height.value ∧ this' = reader rest := by
  constructor
  · intro run
    rcases Nat.lt_or_ge bytes.length 3 with short | long
    · unfold readPbmHeader at run
      rw [run_bind_ok (run_read_short short)] at run
      cases run
    · match bytes, long with
      | p :: four :: space :: body, _ =>
          unfold readPbmHeader at run
          rw [run_bind_ok (run_magic p four space body), run_get_bind,
            if_neg (show ¬ (reader body).eof = true from Bool.false_ne_true)] at run
          by_cases magic : p ≠ 80 ∨ four ≠ 52 ∨ (!isspace space) = true
          · simp only [magic, if_true] at run
            cases run
          · simp only [magic, if_false] at run
            obtain ⟨size, last, sized, finish⟩ := run_bind_eq_ok run
            cases finish
            obtain ⟨text, rest, rfl, rfl, rfl, rfl⟩ := readPbmSize_ok sized
            simp only [not_or, not_not, Bool.not_eq_true, Bool.not_eq_false'] at magic
            obtain ⟨rfl, rfl, isSpace⟩ := magic
            exact ⟨space, text, rest, isSpace, rfl, rfl, rfl, rfl⟩
  · rintro ⟨space, text, rest, isSpace, rfl, rfl, rfl, rfl⟩
    unfold readPbmHeader
    rw [run_bind_ok (run_magic 80 52 space (text.bytes ++ rest)), run_get_bind,
      if_neg (show ¬ (reader (text.bytes ++ rest)).eof = true from Bool.false_ne_true)]
    have magic : ¬ ((80 : UInt8) ≠ 80 ∨ (52 : UInt8) ≠ 52 ∨ (!isspace space) = true) := by
      simp [isSpace]
    simp only [if_neg magic]
    rw [run_bind_ok (run_readPbmSize text rest)]
    rfl

end Capt
