import Libcapt.Core.PacketFraming

/-! A payload in memory that is read from its front. -/

namespace Capt

open Streams

/-- A reader of a payload in memory, and how far it has read. -/
structure PacketReader where
  payload : List UInt8
  iter : Nat := 0
  inside : iter ≤ payload.length := by exact Nat.zero_le _

namespace PacketReader

/-- The bytes that are still to be read. -/
def left (this : PacketReader) : List UInt8 := this.payload.drop this.iter

/-- The iterator moved over `count` of the bytes that are left. -/
def advance (this : PacketReader) (count : Nat) (fits : count ≤ this.payload.length - this.iter)
    : PacketReader :=
  {
    payload := this.payload
    iter := this.iter + count
    inside := by
      have before := this.inside
      omega
  }

/-- `ReadByte`. -/
def readByte : Action PacketReader UInt8 := do
  let this ← get
  if h : this.iter < this.payload.length then
    let value := this.payload[this.iter]
    set (this.advance 1 (Nat.sub_pos_of_lt h))
    return value
  else throw (.outOfRange "packet payload EOF")

/-- `ReadUint16`, byte by byte. -/
def readUint16 : Action PacketReader UInt16 := do
  let lo ← readByte
  let hi ← readByte
  return (hi.toUInt16 <<< 8) ||| lo.toUInt16

/-- `ReadUint32`, byte by byte. -/
def readUint32 : Action PacketReader UInt32 := do
  let value : UInt32 := 0
  let b ← readByte
  let value := value ||| b.toUInt32
  let b ← readByte
  let value := value ||| (b.toUInt32 <<< 8)
  let b ← readByte
  let value := value ||| (b.toUInt32 <<< 16)
  let b ← readByte
  let value := value ||| (b.toUInt32 <<< 24)
  return value

/-- `ReadBytes`. -/
def readBytes (count : Nat) : Action PacketReader (List UInt8) := do
  let this ← get
  if h : this.payload.length - this.iter < count then throw (.outOfRange "packet payload EOF")
  else
    set (this.advance count (Nat.le_of_not_lt h))
    return this.left.take count

variable {this : PacketReader}

/-- What is left is as long as the payload behind the position. -/
theorem length_left : this.left.length = this.payload.length - this.iter := by
  rw [left, List.length_drop]

/-- To advance is to drop from what is left. -/
theorem left_advance {count : Nat} (fits : count ≤ this.payload.length - this.iter)
    : (this.advance count fits).left = this.left.drop count := by
  rw [left, left, List.drop_drop]
  rfl

-----------------------------------------------------------------------------------------
-- What each read gives and leaves
-----------------------------------------------------------------------------------------

/-- At the end of the payload a byte is refused. -/
theorem run_readByte_nil (h : this.left = [])
    : readByte.run this = .error (.outOfRange "packet payload EOF") this := by
  have ended : ¬ this.iter < this.payload.length := by
    have none := List.drop_eq_nil_iff.mp h
    omega
  unfold readByte
  rw [run_get_bind, dif_neg ended]
  rfl

/-- A byte that is there is read. -/
theorem run_readByte_cons {b : UInt8} {rest : List UInt8} (h : this.left = b :: rest)
    : ∃ this', readByte.run this = .ok b this' ∧ this'.left = rest := by
  have some : this.iter < this.payload.length := by
    have length := congrArg List.length h
    rw [length_left, List.length_cons] at length
    omega
  have split := h
  rw [left, List.drop_eq_getElem_cons some] at split
  injection split with first _
  refine ⟨this.advance 1 (Nat.sub_pos_of_lt some), ?_, ?_⟩
  · unfold readByte
    rw [run_get_bind, dif_pos some, ← first]
    rfl
  · rw [left_advance, h]
    rfl

/-- A block that is there is read. -/
theorem run_readBytes {count : Nat} (fits : count ≤ this.left.length)
    : ∃ this', (readBytes count).run this = .ok (this.left.take count) this'
        ∧ this'.left = this.left.drop count := by
  have enough : ¬ this.payload.length - this.iter < count := by
    rw [← length_left]
    exact Nat.not_lt.mpr fits
  refine ⟨this.advance count (Nat.le_of_not_lt enough), ?_, left_advance _⟩
  unfold readBytes
  rw [run_get_bind, dif_neg enough]
  rfl

/-- A block that is not there in full is refused, and nothing of it is read. -/
theorem run_readBytes_past {count : Nat} (past : this.left.length < count)
    : (readBytes count).run this = .error (.outOfRange "packet payload EOF") this := by
  unfold readBytes
  rw [run_get_bind, dif_pos (length_left ▸ past)]
  rfl

/-- Bytes that are read one by one. -/
def takeBytes : Nat → Action PacketReader (List UInt8)
  | 0 => return []
  | count + 1 => do
    let b ← readByte
    let rest ← takeBytes count
    return b :: rest

/-- Bytes that are there are taken one by one. -/
theorem run_takeBytes {count : Nat} (enough : count ≤ this.left.length)
    : ∃ this', (takeBytes count).run this = .ok (this.left.take count) this'
        ∧ this'.left = this.left.drop count := by
  induction count generalizing this with
  | zero => exact ⟨this, rfl, rfl⟩
  | succ count ih =>
      cases h : this.left with
      | nil => simp [h] at enough
      | cons b rest =>
          obtain ⟨middle, first, next⟩ := run_readByte_cons h
          obtain ⟨this', others, last⟩ := @ih middle (by simpa [h, next] using enough)
          rw [next] at others last
          refine ⟨this', ?_, last⟩
          rw [takeBytes, run_bind_ok first, run_bind_ok others]
          rfl

/-- Where too few bytes are left, the exception comes after they were taken. -/
theorem run_takeBytes_past {count : Nat} (few : this.left.length < count)
    : ∃ this', (takeBytes count).run this = .error (.outOfRange "packet payload EOF") this'
        ∧ this'.left = [] := by
  induction count generalizing this with
  | zero => exact absurd few (Nat.not_lt_zero _)
  | succ count ih =>
      cases h : this.left with
      | nil => exact ⟨this, run_bind_error (run_readByte_nil h), h⟩
      | cons b rest =>
          obtain ⟨middle, first, next⟩ := run_readByte_cons h
          obtain ⟨this', others, last⟩ := @ih middle (by simpa [h, next] using few)
          refine ⟨this', ?_, last⟩
          rw [takeBytes, run_bind_ok first]
          exact run_bind_error others

/-- A 16-bit number is two bytes taken one by one. -/
theorem readUint16_eq
    : readUint16
      = do
        let bytes ← takeBytes 2
        return UInt16.ofNat (littleValue bytes) := by
  simp only [readUint16, takeBytes, join_uint16, bind_assoc, pure_bind]

/-- A 32-bit number is four bytes taken one by one. -/
theorem readUint32_eq
    : readUint32
      = do
        let bytes ← takeBytes 4
        return UInt32.ofNat (littleValue bytes) := by
  simp only [readUint32, takeBytes, join_uint32, bind_assoc, pure_bind]

end PacketReader

end Capt
