import Mathlib.Algebra.Group.Int.Defs
import Mathlib.Algebra.Group.Nat.Defs
import Libcapt.Streams.GetArea

/-! How a call can end other than by returning, and the conversions that the messages of
its exceptions use.
-/

namespace Capt

/-- The exceptions that the library throws, with their `what()` text. The last two are
not exceptions: the call has no defined continuation, or it has not ended.
-/
inductive Fault where
  | decoderError (what : String)
  | protocolError (what : String)
  | unexpectedBehaviourError (what : String)
  | outOfRange (what : String)
  | overflowError (what : String)
  | runtimeError (what : String)
  | badOptionalAccess
  | undefinedBehaviour (what : String)
  | unfinished
  deriving Repr, DecidableEq

/-- A member function of an object with state `σ`. -/
abbrev Action (σ α : Type) := EStateM Fault σ α

/-- A stream buffer over bytes in memory. -/
abbrev MemoryStreambuf := Streams.MemoryStreambuf Fault UInt8

/-- A conversion to the 32-bit `unsigned`. -/
def unsigned (n : Nat) : Nat := n % 2 ^ 32

/-- A number of 32 bits is not changed. -/
theorem unsigned_eq {n : Nat} (h : n < 2 ^ 32) : unsigned n = n := Nat.mod_eq_of_lt h

/-- An incremented counter counts on from where it wrapped around. -/
theorem unsigned_succ (n : Nat) : unsigned (unsigned n + 1) = unsigned (n + 1) := by
  simp [unsigned]

/-- `std::setfill('0') << std::setw(width)` applied to a converted number. -/
def setw (width : Nat) (digits : List Char) : String :=
  String.ofList (List.replicate (width - digits.length) '0' ++ digits)

/-- `std::hex` with the given field width. -/
def hex (width n : Nat) : String := setw width (Nat.toDigits 16 n)

/-- `std::hex << std::uppercase` with the given field width. -/
def hexUpper (width n : Nat) : String := setw width ((Nat.toDigits 16 n).map Char.toUpper)

end Capt
