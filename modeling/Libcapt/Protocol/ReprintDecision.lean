import Libcapt.Core.PacketFields
import Libcapt.Protocol.Protocol
import Mathlib.Data.Nat.ModEq

/-! Which page is printed again after a rejected one, when the page counters of the printer
have only the low 16 bits of the page numbers.
-/

namespace Capt

open Streams Protocol StreamPacket

/-- The answer to `PC_GET_EXTENDED_STATUS`. Its sixth byte is not used. -/
def ExtendedStatus.answer (this : ExtendedStatus) (unused : UInt8) : List PacketField :=
  [
    .byte this.basic,
    .byte this.changed,
    .byte this.aux,
    .byte this.controller,
    .byte this.paperAvailableBits,
    .byte unused,
    .uint16 this.engine,
    .uint16 this.start,
    .uint16 this.printing,
    .uint16 this.shipped,
    .uint16 this.printed
  ]

variable {stream : IOStream} {header : PacketHeader} {rest : List UInt8}

/-- The answer as it is sent, byte by byte. -/
theorem answer_payload (status : ExtendedStatus) (unused : UInt8)
    : (build (status.answer unused)).payload
      = status.basic :: status.changed :: status.aux :: status.controller
        :: status.paperAvailableBits :: unused
        :: (littleBytes 2 status.engine.toNat ++ (littleBytes 2 status.start.toNat
          ++ (littleBytes 2 status.printing.toNat ++ (littleBytes 2 status.shipped.toNat
            ++ (littleBytes 2 status.printed.toNat ++ []))))) := by
  rw [build_payload]
  rfl

/-- A status that does not report an error is read back from its answer. -/
theorem run_readExtendedStatus (good : stream.good) (status : ExtendedStatus) (unused : UInt8)
    (clear : status.basic &&& BasicStatus.errorBit = 0)
    : readExtendedStatus.run
        (reading stream header (build (status.answer unused)).payload rest)
      = .ok status (reading stream header [] rest) := by
  rw [answer_payload, readExtendedStatus, run_bind_ok (run_readByte good _),
    if_neg (not_not_intro clear)]
  rw [run_bind_ok (run_readByte good _), run_bind_ok (run_readByte good _),
    run_bind_ok (run_readByte good _), run_bind_ok (run_readByte good _),
    run_bind_ok (run_readByte good _)]
  rw [run_bind_ok (run_readUint16 good _), run_bind_ok (run_readUint16 good _),
    run_bind_ok (run_readUint16 good _), run_bind_ok (run_readUint16 good _),
    run_bind_ok (run_readUint16 good _)]
  rfl

/-- A status that reports an error is not read. -/
theorem run_readExtendedStatus_error (good : stream.good) (status : ExtendedStatus)
    (unused : UInt8) (error : status.basic &&& BasicStatus.errorBit ≠ 0)
    : ∃ err s, readExtendedStatus.run
          (reading stream header (build (status.answer unused)).payload rest)
        = .error err s := by
  rw [answer_payload, readExtendedStatus, run_bind_ok (run_readByte good _), if_pos error]
  exact ⟨_, _, rfl⟩

/-- The page to be printed again after `p` pages were printed and the page `s` was started:
the page in print is the one after the last printed one.
-/
def decision (p s : Nat) : ReprintStatus :=
  if s ≡ p + 1 [MOD 2 ^ 16] then .current else .prev

/-- A rejected status that carries these numbers is read as one that asks for that page. -/
def Decides (p s : Nat) : Prop :=
  ∀ (stream : IOStream) (header : PacketHeader) (status : ExtendedStatus) (unused : UInt8)
    (rest : List UInt8) (read : ExtendedStatus) (after : Scope IOStream Unit),
    stream.good → status.rejected → status.printed = UInt16.ofNat p →
    status.start = UInt16.ofNat s →
    readExtendedStatus.run (reading stream header (build (status.answer unused)).payload rest)
      = .ok read after →
    read.getReprintStatus = decision p s

/-- The comparison of the counters is one of the numbers, but for the wrap. -/
theorem current_iff {p s : Nat}
    : ((p % 2 ^ 16 : Nat) : Int) + 1 = (s % 2 ^ 16 : Nat)
      ↔ s ≡ p + 1 [MOD 2 ^ 16] ∧ ¬ (p % 2 ^ 16 = 65535 ∧ s % 2 ^ 16 = 0) := by
  unfold Nat.ModEq
  omega

/-- The decision, in the numbers that the printer has counted. -/
theorem getReprintStatus_eq {status : ExtendedStatus} {p s : Nat} (rejected : status.rejected)
    (printed : status.printed = UInt16.ofNat p) (start : status.start = UInt16.ofNat s)
    : status.getReprintStatus
      = if s ≡ p + 1 [MOD 2 ^ 16] ∧ ¬ (p % 2 ^ 16 = 65535 ∧ s % 2 ^ 16 = 0) then .current
        else .prev := by
  unfold ExtendedStatus.getReprintStatus
  rw [printed, start, UInt16.toNat_ofNat', UInt16.toNat_ofNat']
  simp only [rejected, Bool.not_true, Bool.false_eq_true, ↓reduceIte, ne_eq, ite_not, current_iff]

/-- A rejected status in which the counters are at these numbers. -/
def rejectedAt (p s : Nat) : ExtendedStatus :=
  {
    basic := 0
    changed := 0
    aux := 0
    controller := ControllerStatus.printRejected
    paperAvailableBits := 0
    engine := 0
    start := UInt16.ofNat s
    printing := 0
    shipped := 0
    printed := UInt16.ofNat p
  }

/-- Such a status is a rejection. -/
theorem rejectedAt_rejected (p s : Nat) : (rejectedAt p s).rejected := by
  change (ControllerStatus.printRejected &&& ControllerStatus.printRejected != 0) = true
  decide

/-- Where the last printed page has the number 65535 and the next one 0, the page in print
is taken for the one before it.
-/
theorem not_decides_wrap {p s : Nat} (wrap : p % 2 ^ 16 = 65535 ∧ s % 2 ^ 16 = 0)
    : ¬ Decides p s := by
  intro decides
  have asked := decides {} {} (rejectedAt p s) 0 [] (rejectedAt p s) _ rfl
    (rejectedAt_rejected p s) rfl rfl (run_readExtendedStatus rfl (rejectedAt p s) 0
      (show (0 : UInt8) &&& BasicStatus.errorBit = 0 from by decide))
  have next : s ≡ p + 1 [MOD 2 ^ 16] := by
    unfold Nat.ModEq
    omega
  rw [getReprintStatus_eq (rejectedAt_rejected p s) rfl rfl, decision, if_pos next,
    if_neg (fun both => both.2 wrap)] at asked
  cases asked

/-- The page is the right one unless the counters wrap between the last printed page and
the one in print.
-/
theorem reprint_decision (p s : Nat)
    : Decides p s ↔ ¬ (p % 2 ^ 16 = 65535 ∧ s % 2 ^ 16 = 0) := by
  constructor
  · intro decides wrap
    exact not_decides_wrap wrap decides
  · intro within stream header status unused rest read after good rejected printed start run
    by_cases clear : status.basic &&& BasicStatus.errorBit = 0
    · cases (run_readExtendedStatus good status unused clear).symm.trans run
      rw [getReprintStatus_eq rejected printed start, decision]
      simp only [within, not_false_eq_true, and_true]
    · obtain ⟨err, s, failed⟩ := @run_readExtendedStatus_error stream header rest good status
        unused clear
      cases failed.symm.trans run

/-- After 65535 printed pages the next one is started. -/
theorem reprint_wrap : ¬ ∀ p s, Decides p s := by
  intro decides
  exact not_decides_wrap (by decide) (decides 65535 65536)

end Capt
