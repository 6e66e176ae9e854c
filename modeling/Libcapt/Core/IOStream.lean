import Libcapt.Core.Fault
import Libcapt.Streams.Invariant
import Libcapt.Streams.LittleEndian

/-! A `std::iostream` with the default exception mask, connected to a device. -/

namespace Capt

open Streams

/-- What happens between the library and the device: a chunk is sent while `backlog` is
still unread, and answered at once; or the caller is asked whether to stop.
-/
inductive Event where
  | flushed (chunk backlog answer : List UInt8)
  | polled (stop : Bool)
  deriving DecidableEq

/-- The device answers a chunk by what has happened before. The log is not part of the
stream: it records what the device has seen. Memory that no read has filled holds
indeterminate bytes.
-/
structure IOStream where
  input : List UInt8 := []
  good : Bool := true
  pending : List UInt8 := []
  log : List Event := []
  device : List Event → List UInt8 → List UInt8 := fun _ _ => []
  indeterminate : Nat → UInt8 := fun _ => 0

namespace IOStream

/-- `read`. A short read sets `failbit` and `eofbit`; a stream that is not good gives
nothing.
-/
def read (n : Nat) : Action IOStream (List UInt8) := do
  let this ← get
  if this.good then
    set { this with input := this.input.drop n, good := decide (n ≤ this.input.length) }
    return this.input.take n
  else return []

/-- `rdbuf()->sbumpc()`, which does not look at the stream's state. -/
def sbumpc : Action IOStream (Option UInt8) := do
  let this ← get
  set { this with input := this.input.tail }
  return this.input.head?

/-- `write`, to a stream that is not good without effect. -/
def write (data : List UInt8) : Action IOStream Unit := do
  let this ← get
  if this.good then set { this with pending := this.pending ++ data }
  else return

/-- `std::flush`. The device answers what it receives. -/
def flush : Action IOStream Unit := do
  let this ← get
  if this.good then
    let answer := this.device this.log this.pending
    set {
      this with
      input := this.input ++ answer
      pending := []
      log := this.log ++ [Event.flushed this.pending this.input answer]
    }
  else return

/-- The memory of `size` bytes after a read of `bytes` into it. -/
def memory (this : IOStream) (size : Nat) (bytes : List UInt8) : List UInt8 :=
  bytes ++ ((List.range size).drop bytes.length).map this.indeterminate

/-- `ReadLittle`, of a number of `size` bytes. -/
def readLittle (size : Nat) : Action IOStream Nat := do
  let this ← get
  if this.good then
    let bytes ← read size
    return littleValue (this.memory size bytes)
  else return 0

/-- `WriteLittle`, of a number of `size` bytes. -/
def writeLittle (size value : Nat) : Action IOStream Unit := do
  let this ← get
  if this.good then write (littleBytes size value)
  else return

-----------------------------------------------------------------------------------------
-- A good stream with enough input
-----------------------------------------------------------------------------------------

/-- The stream with other bytes to read. -/
def unread (this : IOStream) (input : List UInt8) : IOStream := { this with input := input }

/-- The stream after more bytes were written to it. -/
def written (this : IOStream) (data : List UInt8) : IOStream :=
  { this with pending := this.pending ++ data }

/-- The stream after a chunk was written and flushed. -/
def sent (this : IOStream) (data : List UInt8) : IOStream :=
  { this with
    input := this.input ++ this.device this.log (this.pending ++ data)
    pending := []
    log := this.log ++ [Event.flushed (this.pending ++ data) this.input
      (this.device this.log (this.pending ++ data))] }

/-- Other bytes to read do not change the state. -/
@[simp]
theorem unread_good (this : IOStream) (input : List UInt8)
    : (this.unread input).good = this.good :=
  rfl

/-- Bytes written do not change the state. -/
@[simp]
theorem written_good (this : IOStream) (data : List UInt8)
    : (this.written data).good = this.good :=
  rfl

variable {this : IOStream}

/-- A block that is there is read. -/
theorem run_read (good : this.good) (front rest : List UInt8)
    : (read front.length).run (this.unread (front ++ rest)) = .ok front (this.unread rest) := by
  have enough : decide (front.length ≤ (front ++ rest).length) = true := by simp
  unfold read
  rw [run_get_bind]
  simp only [unread, good, ↓reduceIte, enough, List.take_left, List.drop_left]
  rw [← good]
  rfl

/-- A number that is there is read. -/
theorem run_readLittle (good : this.good) (front rest : List UInt8)
    : (readLittle front.length).run (this.unread (front ++ rest))
      = .ok (littleValue front) (this.unread rest) := by
  have full : ((List.range front.length).drop front.length) = [] :=
    List.drop_of_length_le (by simp)
  unfold readLittle
  rw [run_get_bind, unread_good, if_pos good, run_bind_ok (run_read good front rest), memory, full,
    List.map_nil, List.append_nil]
  rfl

/-- A read that meets the end of the stream gives a number all the same. -/
theorem run_readLittle_short (good : this.good) {size : Nat} (short : this.input.length < size)
    : (readLittle size).run this
      = .ok (littleValue (this.memory size this.input))
          { this with input := [], good := false } := by
  have ended : decide (size ≤ this.input.length) = false := decide_eq_false (by omega)
  have all : (read size).run this = .ok this.input { this with input := [], good := false } := by
    unfold read
    rw [run_get_bind, if_pos good, ended, List.take_of_length_le (by omega),
      List.drop_of_length_le (by omega)]
    rfl
  unfold readLittle
  rw [run_get_bind, if_pos good, run_bind_ok all]
  rfl

/-- From a stream that is not good zero is read. -/
theorem run_readLittle_bad (bad : ¬ this.good) (size : Nat)
    : (readLittle size).run this = .ok 0 this := by
  unfold readLittle
  rw [run_get_bind, if_neg bad]
  rfl

/-- A good stream takes the bytes. -/
theorem run_write (good : this.good) (data : List UInt8)
    : (write data).run this = .ok () (this.written data) := by
  unfold write
  rw [run_get_bind, if_pos good]
  rfl

/-- A good stream takes the bytes of the number. -/
theorem run_writeLittle (good : this.good) (size value : Nat)
    : (writeLittle size value).run this = .ok () (this.written (littleBytes size value)) := by
  unfold writeLittle
  rw [run_get_bind, if_pos good, run_write good]

/-- A good stream sends what is pending, and the device answers it. -/
theorem run_flush (good : this.good) (data : List UInt8)
    : flush.run (this.written data) = .ok () (this.sent data) := by
  unfold flush
  rw [run_get_bind, written_good, if_pos good]
  rfl

-----------------------------------------------------------------------------------------
-- Any stream
-----------------------------------------------------------------------------------------

/-- The number that a read of `size` bytes gives, with what the memory held where bytes are
missing.
-/
def number (this : IOStream) (size : Nat) : Nat :=
  if this.good then littleValue (this.memory size (this.input.take size)) else 0

/-- The stream after a read of `size` bytes. -/
def afterRead (this : IOStream) (size : Nat) : IOStream :=
  if this.good then
    { this with input := this.input.drop size, good := decide (size ≤ this.input.length) }
  else this

variable {size : Nat}

/-- What is read of any stream, and how it is left. -/
theorem run_readLittle_any
    : (readLittle size).run this = .ok (this.number size) (this.afterRead size) := by
  unfold readLittle number afterRead
  rw [run_get_bind]
  by_cases good : this.good
  · simp only [read, good, ↓reduceIte, EStateM.run_bind, EStateM.run_get]
    rfl
  · simp only [good, Bool.false_eq_true, ↓reduceIte]
    rfl

/-- A number that is there in full does not depend on the memory. -/
theorem number_whole (good : this.good) (whole : size ≤ this.input.length)
    : this.number size = littleValue (this.input.take size) := by
  have full : (List.range size).drop (this.input.take size).length = [] := by
    rw [List.length_take, Nat.min_eq_left whole]
    exact List.drop_of_length_le (by simp)
  rw [number, if_pos good, memory, full, List.map_nil, List.append_nil]

/-- A number that is there in full is taken off the input. -/
theorem afterRead_whole (good : this.good) (whole : size ≤ this.input.length)
    : this.afterRead size = this.unread (this.input.drop size) := by
  rw [afterRead, if_pos good, decide_eq_true whole, unread, ← good]

/-- The stream is good behind a number exactly if it was and the number was there in full. -/
theorem afterRead_good : (this.afterRead size).good ↔ this.good ∧ size ≤ this.input.length := by
  unfold afterRead
  by_cases good : this.good
  · rw [if_pos good]
    simp [good]
  · rw [if_neg good]
    simp [good]

end IOStream

/-- The bytes that a file receives. -/
def Event.bytes : Event → List UInt8
  | .flushed chunk _ _ => chunk
  | .polled _ => []

/-- All that was sent, as the file that a device keeps of it. -/
def fileOf (log : List Event) : List UInt8 := log.flatMap Event.bytes

/-- What is sent later comes later in the file. -/
theorem fileOf_append (log more : List Event) : fileOf (log ++ more) = fileOf log ++ fileOf more :=
  List.flatMap_append

end Capt
