import Libcapt.Core.PacketFields
import Libcapt.Protocol.AnswerReading

/-! The extended status that the payload of an answer gives. -/

namespace Capt.Protocol

open Streams StreamPacket

/-- The status in a payload, unless it is too short or its first byte reports an error. The
sixth byte is not used.
-/
def statusOf : List UInt8 → Option ExtendedStatus
  | basic :: changed :: aux :: controller :: paper :: _ :: e₁ :: e₂ :: s₁ :: s₂ :: g₁ :: g₂
      :: h₁ :: h₂ :: d₁ :: d₂ :: _ =>
    if basic &&& BasicStatus.errorBit ≠ 0 then none
    else some {
      basic := basic
      changed := changed
      aux := aux
      controller := controller
      paperAvailableBits := paper
      engine := UInt16.ofNat (littleValue [e₁, e₂])
      start := UInt16.ofNat (littleValue [s₁, s₂])
      printing := UInt16.ofNat (littleValue [g₁, g₂])
      shipped := UInt16.ofNat (littleValue [h₁, h₂])
      printed := UInt16.ofNat (littleValue [d₁, d₂])
    }
  | _ => none

variable {stream : IOStream} {header : PacketHeader}

/-- Two bytes at the front are read as a number. -/
theorem run_readUint16_pair (good : stream.good) (a b : UInt8) (left : List UInt8)
    : readUint16.run (reading stream header (a :: b :: left) [])
      = .ok (UInt16.ofNat (littleValue [a, b])) (reading stream header left []) := by
  have read := @run_readInt_front stream header left [] good [a, b]
  unfold readUint16
  exact run_bind_ok read

/-- A payload with a status is read as that status. -/
theorem run_readExtendedStatus_some (good : stream.good) {content : List UInt8}
    {status : ExtendedStatus} (given : statusOf content = some status)
    : ∃ left, readExtendedStatus.run (reading stream header content [])
        = .ok status (reading stream header left []) := by
  unfold statusOf at given
  split at given
  · split at given
    · cases given
    · rename_i left clear
      cases given
      refine ⟨left, ?_⟩
      rw [readExtendedStatus, run_bind_ok (run_readByte good _), if_neg clear]
      rw [run_bind_ok (run_readByte good _), run_bind_ok (run_readByte good _),
        run_bind_ok (run_readByte good _), run_bind_ok (run_readByte good _),
        run_bind_ok (run_readByte good _)]
      rw [run_bind_ok (run_readUint16_pair good ..), run_bind_ok (run_readUint16_pair good ..),
        run_bind_ok (run_readUint16_pair good ..), run_bind_ok (run_readUint16_pair good ..),
        run_bind_ok (run_readUint16_pair good ..)]
      rfl
  · cases given

/-- A payload that is too short is not read. -/
theorem readExtendedStatus_short (good : stream.good) {content : List UInt8}
    (short : content.length < 16)
    : ∃ err s, readExtendedStatus.run (reading stream header content []) = .error err s := by
  cases content with
  | nil =>
      obtain ⟨err, s, run⟩ := takes_readByte.throws (reading stream header [] []) rfl
        Nat.one_pos
      exact ⟨err, s, run_bind_error run⟩
  | cons basic content =>
      rw [readExtendedStatus, run_bind_ok (run_readByte good _)]
      by_cases error : basic &&& BasicStatus.errorBit ≠ 0
      · rw [if_pos error]
        exact ⟨_, _, rfl⟩
      · rw [if_neg error]
        exact (takes_extendedStatusRest basic).throws (reading stream header content []) rfl
          (Nat.lt_of_succ_lt_succ short)

/-- A payload without a status is refused. -/
theorem run_readExtendedStatus_none (good : stream.good) {content : List UInt8}
    (refused : statusOf content = none)
    : ∃ err s, readExtendedStatus.run (reading stream header content []) = .error err s := by
  rcases Nat.lt_or_ge content.length 16 with short | long
  · exact readExtendedStatus_short good short
  · match content, long with
    | basic :: changed :: aux :: controller :: paper :: unused :: e₁ :: e₂ :: s₁ :: s₂ :: g₁
        :: g₂ :: h₁ :: h₂ :: d₁ :: d₂ :: left, _ =>
        by_cases error : basic &&& BasicStatus.errorBit ≠ 0
        · rw [readExtendedStatus, run_bind_ok (run_readByte good _), if_pos error]
          exact ⟨_, _, rfl⟩
        · rw [statusOf, if_neg error] at refused
          cases refused

/-- Reading returns a status if and only if the payload has it. -/
theorem readExtendedStatus_iff (good : stream.good) {content : List UInt8}
    {status : ExtendedStatus}
    : (∃ s, readExtendedStatus.run (reading stream header content []) = .ok status s)
      ↔ statusOf content = some status := by
  constructor
  · rintro ⟨s, run⟩
    cases given : statusOf content with
    | some other =>
        obtain ⟨left, read⟩ := @run_readExtendedStatus_some _ header good _ _ given
        cases read.symm.trans run
        rfl
    | none =>
        obtain ⟨err, s', thrown⟩ := @run_readExtendedStatus_none _ header good _ given
        cases thrown.symm.trans run
  · intro given
    obtain ⟨left, read⟩ := @run_readExtendedStatus_some _ header good _ _ given
    exact ⟨_, read⟩

end Capt.Protocol
