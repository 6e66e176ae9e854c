import Libcapt.Examples.PrinterInfo
import Libcapt.Printer.Completion

/-! The size of the video buffer is measured exactly: it is filled by large blocks first, and then
again by large blocks up to a threshold and by single bytes behind it.
-/

namespace Capt.Printerinfo

open Streams Protocol
open BasicCaptPrinter (Succeeded)

-----------------------------------------------------------------------------------------
-- A printer with a buffer
-----------------------------------------------------------------------------------------

/-- What an event does to the number of bytes in the buffer. -/
def hold (held : Nat) : Event → Nat
  | .flushed chunk _ _ =>
    if chunkOpcode chunk = 0xC0A0 then held + (chunk.drop 4).length
    else if chunkOpcode chunk = 0xE0A4 then 0
    else held
  | .polled _ => held

/-- The bytes in the buffer at the end of a log. -/
def held (log : List Event) : Nat := log.foldl hold 0

/-- Video data is held, and the command that discards data empties the buffer. -/
theorem held_flushed (log : List Event) (opcode : UInt16) (payload backlog answer : List UInt8)
    : held (log ++ [.flushed (PacketHeader.frame opcode payload) backlog answer])
      = if opcode.toNat = 0xC0A0 then held log + payload.length
        else if opcode.toNat = 0xE0A4 then 0
        else held log := by
  rw [held, List.foldl_append, List.foldl_cons, List.foldl_nil, hold, chunkOpcode_frame, drop_frame]
  rfl

/-- The device is a printer that has no paper and a buffer of this capacity. It says that it is
busy exactly where the buffer is full.
-/
structure Buffers (capacity : Nat) (device : List Event → List UInt8 → List UInt8) : Prop where
  info : ∀ log, ∃ info, answerOf 0xA1A1 infoOf (device log infoRequest) = some info
  reserves : ∀ log, Succeeded 0xA2A0 (device log (commandChunk 0xA2A0))
  answers
    : ∀ log, ∀ opcode ∈ [0xE0A2, 0xE0A4],
        ∃ code, answeredCode opcode (device log (commandChunk opcode)) = some code
  online : ∀ log, ∃ code, answeredCode 0xE0A5 (device log (onlineChunk 0)) = some code
  status
    : ∀ log, ∃ status,
        answeredExtendedStatus (device log extendedStatusRequest) = some status
          ∧ status.paperAvailableBits = 0
          ∧ (status.basic &&& BasicStatus.imDataBusy ≠ 0 ↔ capacity ≤ held log)
  busy
    : ∀ log, ∃ status,
        answeredCode 0xE0A0 (device log statusRequest) = some status
          ∧ (status &&& BasicStatus.imDataBusy ≠ 0 ↔ capacity ≤ held log)
          ∧ status &&& BasicStatus.cmdBusy = 0 ∧ status &&& BasicStatus.errorBit = 0

/-- Nothing is unread, and the buffer holds this number of bytes. -/
abbrev Holding (device : List Event → List UInt8 → List UInt8) (count : Nat)
    : IOStream → Prop :=
  IOStream.Tells device fun log => held log = count

variable {device : List Event → List UInt8 → List UInt8} {capacity count : Nat}

-----------------------------------------------------------------------------------------
-- What is sent
-----------------------------------------------------------------------------------------

/-- A batch is held. -/
theorem holding_videoData {batchSize : Nat} (fits : batchSize ≤ 65531)
    : Returns (Holding device count) (icVideoData (List.replicate batchSize 0xff))
        (fun _ => Holding device (count + batchSize)) := by
  apply IOStream.returns_send (List.length_replicate ▸ fits) (by decide)
  rintro log answer rfl
  rw [held_flushed, if_pos (by decide), List.length_replicate]

/-- A begin of a page changes nothing. -/
theorem holding_begin {opcode : UInt16} {payload : List UInt8} (fits : payload.length ≤ 65531)
    (begins : opcode.toNat ∈ [0xD0A0, 0xD0A1])
    : Returns (Holding device count)
        (do
          PacketHeader.writeTo opcode payload
          IOStream.flush)
        (fun _ => Holding device count) := by
  simp only [List.mem_cons, List.not_mem_nil, or_false] at begins
  apply IOStream.returns_send fits
  · rcases begins with same | same <;> simp [same]
  · rintro log answer rfl
    rw [held_flushed]
    rcases begins with same | same <;> simp [same]

/-- A request empties the buffer or changes nothing. -/
theorem holding_request {α : Type} {opcode : UInt16} {payload : List UInt8}
    {answer : Action (Scope IOStream Unit) α} {decode : List UInt8 → Option α} {V : α → Prop}
    {count' : Nat} (fits : payload.length ≤ 65531) (answered : Answered opcode)
    (reads : Reading answer decode)
    (changed : (if opcode.toNat = 0xE0A4 then 0 else count) = count')
    (gives
      : ∀ log, held log = count →
          ∃ value,
            answerOf opcode decode (device log (PacketHeader.frame opcode payload)) = some value
              ∧ V value)
    : Returns (Holding device count) (request opcode payload answer)
        (fun value stream => V value ∧ Holding device count' stream) := by
  have data : opcode.toNat ≠ 0xC0A0 := by
    intro same
    exact answered (by simp [same])
  have asks : Returns (Holding device count) (request opcode payload answer)
      (fun value => IOStream.Tells device fun log => V value ∧ held log = count') := by
    apply returns_request fits answered reads
    rintro log rfl
    obtain ⟨value, given, holds⟩ := gives log rfl
    refine ⟨value, given, fun reply => ⟨holds, ?_⟩⟩
    rw [held_flushed, if_neg data]
    exact changed
  apply asks.returning
  rintro value stream ⟨paired, same, holds, kept⟩
  exact ⟨holds, paired, same, kept⟩

-----------------------------------------------------------------------------------------
-- The loop
-----------------------------------------------------------------------------------------

section Buffers

variable (buffers : Buffers capacity device) {thresh fuel batchSize : Nat}

include buffers

/-- The status says that the buffer is full where it is. -/
theorem holding_basicStatus
    : Returns (Holding device count) (pcrGetBasicStatus false)
        (fun result stream =>
          ((result.1 &&& BasicStatus.imDataBusy ≠ 0 ↔ capacity ≤ count)
            ∧ result.1 &&& BasicStatus.cmdBusy = 0 ∧ result.1 &&& BasicStatus.errorBit = 0)
          ∧ Holding device count stream) := by
  apply holding_request (Nat.zero_le _) (by decide) reading_basicStatus rfl
  rintro log rfl
  obtain ⟨status, given, told⟩ := buffers.busy log
  exact ⟨(status, none), answerOf_map given fun status => (status, none), told⟩

/-- Where the buffer is full the loop is left. -/
theorem fillLoop_full (full : capacity ≤ count)
    : Returns (Holding device count) (fillLoop thresh (fuel + 1) batchSize count)
        (fun total stream => total = count ∧ Holding device count stream) := by
  refine (holding_basicStatus buffers).bind fun result => Returns.given fun told => ?_
  apply Returns.ite
  · exact fun _ => .pure fun stream holding => ⟨rfl, holding⟩
  · exact fun free => absurd (told.1.mpr full) free

/-- Where it is not full a block is sent. -/
theorem fillLoop_sends {Q : Nat → IOStream → Prop} (more : count < capacity)
    (fits : batch thresh batchSize count ≤ 65531)
    (small : count + batch thresh batchSize count < 2 ^ 64)
    (rest
      : Returns (Holding device (count + batch thresh batchSize count))
          (fillLoop thresh fuel (batch thresh batchSize count)
            (count + batch thresh batchSize count)) Q)
    : Returns (Holding device count) (fillLoop thresh (fuel + 1) batchSize count) Q := by
  refine (holding_basicStatus buffers).bind fun result => Returns.given fun told => ?_
  obtain ⟨busy, command, error⟩ := told
  apply Returns.ite
  · exact fun full => absurd (busy.mp full) (Nat.not_le_of_lt more)
  · intro _
    apply Returns.ite
    · exact fun some => absurd command some
    · intro _
      apply Returns.ite
      · exact fun some => absurd error some
      · intro _
        rw [sizeT, Nat.mod_eq_of_lt small]
        exact (holding_videoData fits).bind fun _ => rest

/-- Byte by byte the buffer is filled exactly, by induction on the turns. -/
theorem fillLoop_bytes (small : capacity < 2 ^ 64) (below : count ≤ capacity)
    (turns : capacity - count < fuel)
    : Returns (Holding device count) (fillLoop thresh fuel 1 count)
        (fun total stream => total = capacity ∧ Holding device capacity stream) := by
  induction fuel generalizing count with
  | zero => exact absurd turns (Nat.not_lt_zero _)
  | succ fuel ih =>
      rcases Nat.eq_or_lt_of_le below with rfl | more
      · exact fillLoop_full buffers (Nat.le_refl count)
      · have single : batch thresh 1 count = 1 := by simp [batch]
        apply fillLoop_sends buffers more
        · rw [single]
          decide
        · rw [single]
          exact Nat.lt_of_le_of_lt more small
        · rw [single]
          exact ih more (by omega)

/-- Block by block it is filled up to the last block that it is not full before. -/
theorem fillLoop_blocks (some : 0 < batchSize) (fits : batchSize ≤ 65531)
    (small : capacity + batchSize ≤ 2 ^ 64) (never : thresh = 0 ∨ capacity + batchSize ≤ thresh)
    (whole : batchSize ∣ count) (below : count < capacity + batchSize)
    (turns : capacity - count < fuel)
    : Returns (Holding device count) (fillLoop thresh fuel batchSize count)
        (fun total stream =>
          (batchSize ∣ total ∧ capacity ≤ total ∧ total < capacity + batchSize)
            ∧ Holding device total stream) := by
  induction fuel generalizing count with
  | zero => exact absurd turns (Nat.not_lt_zero _)
  | succ fuel ih =>
      rcases Nat.lt_or_ge count capacity with more | full
      · have same : batch thresh batchSize count = batchSize := by
          unfold batch
          apply if_neg
          rintro ⟨positive, reached, _⟩
          omega
        apply fillLoop_sends buffers more
        · rwa [same]
        · rw [same]
          omega
        · rw [same]
          exact ih (Nat.dvd_add whole (Nat.dvd_refl _)) (by omega) (by omega)
      · apply (fillLoop_full buffers full).returning
        rintro total stream ⟨rfl, holding⟩
        exact ⟨⟨whole, full, below⟩, holding⟩

/-- Behind the threshold the blocks are single bytes. -/
theorem fillLoop_switches (positive : thresh ≠ 0) (some : 0 < batchSize)
    (fits : batchSize ≤ 65531) (small : capacity < 2 ^ 64)
    (reached : thresh + batchSize ≤ capacity) (below : count < thresh + batchSize)
    (turns : capacity - count < fuel)
    : Returns (Holding device count) (fillLoop thresh fuel batchSize count)
        (fun total stream => total = capacity ∧ Holding device capacity stream) := by
  induction fuel generalizing count with
  | zero => exact absurd turns (Nat.not_lt_zero _)
  | succ fuel ih =>
      have more : count < capacity := Nat.lt_of_lt_of_le below reached
      rcases Nat.lt_or_ge count thresh with before | behind
      · have same : batch thresh batchSize count = batchSize :=
          if_neg fun change => absurd change.2.1 (Nat.not_le_of_lt before)
        apply fillLoop_sends buffers more
        · rwa [same]
        · rw [same]
          omega
        · rw [same]
          exact ih (by omega) (by omega)
      · have single : batch thresh batchSize count = 1 := by
          unfold batch
          split
          · rfl
          · rename_i kept
            exact not_not.mp fun other => kept ⟨positive, behind, other⟩
        apply fillLoop_sends buffers more
        · rw [single]
          decide
        · rw [single]
          omega
        · rw [single]
          exact fillLoop_bytes buffers small (by omega) (by omega)

/-- A command whose code is not looked at. -/
theorem holding_command {opcode : UInt16} (command : opcode ∈ [0xE0A2, 0xE0A4]) {count' : Nat}
    (changed : (if opcode.toNat = 0xE0A4 then 0 else count) = count')
    : Returns (Holding device count) (execCmd opcode) (fun _ => Holding device count') := by
  have answered : Answered opcode := by
    simp only [List.mem_cons, List.not_mem_nil, or_false] at command
    rcases command with rfl | rfl <;> decide
  have asks : Returns (Holding device count) (execCmd opcode)
      (fun _ stream => True ∧ Holding device count' stream) := by
    apply holding_request (Nat.zero_le _) answered reading_byte changed
    rintro log rfl
    obtain ⟨code, given⟩ := buffers.answers log opcode command
    exact ⟨code, given, trivial⟩
  exact asks.returning fun _ _ => And.right

/-- What the second filling gives, from what the first one gave. A buffer that is not larger than
the threshold is not filled byte by byte, since the difference wraps around.
-/
def Measured (capacity total : Nat) : Prop :=
  if 12288 < capacity then total = capacity
  else 6144 ∣ total ∧ capacity ≤ total ∧ total < capacity + 6144

/-- The two fillings, with the buffer emptied between them. -/
theorem fillBuffer_measures (small : capacity + 6144 ≤ 2 ^ 64) (turns : capacity < fuel)
    : Returns (Holding device 0)
        (do
          let buffSize ← fillBuffer fuel 6144 0
          let _ ← pcrDiscardData
          fillBuffer fuel 6144 (sizeT (buffSize + 2 ^ 64 - 16384)))
        (fun total stream => Measured capacity total ∧ Holding device total stream) := by
  have blocks : ∀ {thresh : Nat}, thresh = 0 ∨ capacity + 6144 ≤ thresh →
      Returns (Holding device 0) (fillBuffer fuel 6144 thresh)
        (fun total stream =>
          (6144 ∣ total ∧ capacity ≤ total ∧ total < capacity + 6144)
            ∧ Holding device total stream) := by
    intro thresh never
    apply fillLoop_blocks buffers (by decide) (by decide) (by omega) never (Nat.dvd_zero _)
    · omega
    · exact turns
  refine (blocks (.inl rfl)).bind fun buffSize => Returns.given fun filled => ?_
  obtain ⟨⟨count, rfl⟩, full, below⟩ := filled
  have empties : Returns (Holding device (6144 * count)) pcrDiscardData
      (fun _ => Holding device 0) :=
    holding_command buffers (by decide) rfl
  refine empties.bind fun _ => ?_
  by_cases large : 12288 < capacity
  · have threshold : sizeT (6144 * count + 2 ^ 64 - 16384) = 6144 * count - 16384 := by
      unfold sizeT
      omega
    rw [threshold]
    simp only [Measured, large, if_true]
    have some : 6144 * count - 16384 ≠ 0 := by omega
    have reached : 6144 * count - 16384 + 6144 ≤ capacity := by omega
    apply (fillLoop_switches buffers some (by decide) (by decide) (by omega) reached
      (Nat.add_pos_right _ (by decide)) turns).returning
    rintro total stream ⟨rfl, holding⟩
    exact ⟨rfl, holding⟩
  · have threshold : capacity + 6144 ≤ sizeT (6144 * count + 2 ^ 64 - 16384) := by
      unfold sizeT
      omega
    simp only [Measured, large, if_false]
    exact blocks (.inr threshold)

/-- The whole program. -/
theorem returns_main (positive : 0 < capacity) (small : capacity + 6144 ≤ 2 ^ 64)
    (turns : capacity < fuel)
    : Returns (Holding device count) (main fuel)
        (fun result stream => ∃ info total, result = (0, ⟨info, some total⟩)
          ∧ Measured capacity total ∧ Holding device total stream) := by
  have asksInfo : Returns (Holding device count) pcGetPrinterInfo
      (fun _ stream => True ∧ Holding device count stream) := by
    apply holding_request (Nat.zero_le _) (by decide) reading_printerInfo rfl
    rintro log rfl
    obtain ⟨info, given⟩ := buffers.info log
    exact ⟨info, given, trivial⟩
  have reserves : Returns (Holding device count) pcReserveUnit
      (fun code stream => code = 0 ∧ Holding device count stream) := by
    apply holding_request (Nat.zero_le _) (by decide) reading_byte rfl
    rintro log rfl
    exact ⟨0, buffers.reserves log, rfl⟩
  have clears : Returns (Holding device count) pcrClearError (fun _ => Holding device count) :=
    holding_command buffers (by decide) rfl
  have empties : Returns (Holding device count) pcrDiscardData (fun _ => Holding device 0) :=
    holding_command buffers (by decide) rfl
  have goesOnline : Returns (Holding device 0) (pcrGoOnline 0)
      (fun _ stream => True ∧ Holding device 0 stream) := by
    apply holding_request (BasicCaptPrinter.signedPayload_fits _) (by decide) reading_byte rfl
    intro log _
    obtain ⟨code, given⟩ := buffers.online log
    exact ⟨code, given, trivial⟩
  have asksStatus : Returns (Holding device 0) pcGetExtendedStatus
      (fun status stream =>
        (status.paperAvailableBits = 0 ∧ status.basic &&& BasicStatus.imDataBusy = 0)
          ∧ Holding device 0 stream) := by
    apply holding_request (Nat.zero_le _) (by decide) reading_extendedStatus rfl
    intro log empty
    obtain ⟨status, given, paper, busy⟩ := buffers.status log
    rw [empty] at busy
    exact ⟨status, given, paper, not_not.mp fun full => absurd (busy.mp full) (by omega)⟩
  refine asksInfo.bind fun info => (reserves.from fun _ => And.right).bind fun code => ?_
  refine Returns.given fun zero => Returns.ite (fun refused => absurd zero refused) fun _ => ?_
  refine clears.bind fun _ => empties.bind fun _ => goesOnline.bind fun _ => ?_
  refine (asksStatus.from fun _ => And.right).bind fun status => Returns.given fun free => ?_
  refine Returns.ite (fun paper => absurd free.1 paper) fun _ => ?_
  have beginsData : Returns (Holding device 0) icBeginData (fun _ => Holding device 0) :=
    holding_begin (Nat.zero_le _) (by decide)
  refine beginsData.bind fun _ => Returns.ite (fun busy => absurd free.2 busy) fun _ => ?_
  have beginsPage : Returns (Holding device 0) (icBeginPage dummyParams)
      (fun _ => Holding device 0) :=
    holding_begin (pageHeader_fits dummyParams) (by decide)
  refine beginsPage.bind fun _ => ?_
  have result : ∀ total, Returns
      (fun stream => Measured capacity total ∧ Holding device total stream)
      (pure (0, ⟨info, some total⟩) : Action IOStream (Nat × Shown))
      (fun result stream => ∃ info total, result = (0, ⟨info, some total⟩)
        ∧ Measured capacity total ∧ Holding device total stream) :=
    fun total => .pure fun stream holds => ⟨info, total, rfl, holds⟩
  have measures := (fillBuffer_measures buffers small turns).bind result
  simpa only [bind_assoc] using measures

end Buffers

/-- On a printer without paper that takes video data until its buffer is full the program shows
exactly the capacity of the buffer, whatever has happened before. Where the capacity is not larger
than 12288 it shows the next multiple of the size of a block. The buffer is full in the end.
-/
theorem main_measures {capacity fuel : Nat} {stream : IOStream}
    (buffers : Buffers capacity stream.device) (quiet : stream.Paired) (positive : 0 < capacity)
    (small : capacity + 6144 ≤ 2 ^ 64) (turns : capacity < fuel)
    : ∃ info total stream',
        (main fuel).run stream = .ok (0, ⟨info, some total⟩) stream'
          ∧ Measured capacity total ∧ held stream'.log = total ∧ stream'.Paired := by
  obtain ⟨_, stream', run, info, total, rfl, measured, holding⟩ :=
    returns_main buffers positive small turns stream ⟨quiet, rfl, rfl⟩
  exact ⟨info, total, stream', run, measured, holding.log, holding.paired⟩

/-- The status: the unit is reserved, and the buffer is full or not. -/
def bufferStatus (full : Bool) : ExtendedStatus where
  basic := bif full then BasicStatus.imDataBusy else 0
  changed := 0
  aux := 0
  controller := 0
  paperAvailableBits := 0
  engine := 0
  start := 0
  printing := 0
  shipped := 0
  printed := 0

/-- The payloads of this printer, by opcode. -/
def bufferPayload (capacity held opcode : Nat) : List UInt8 :=
  if opcode = 0xA0A0 then statusPayload (bufferStatus (capacity ≤ held))
  else if opcode = 0xA1A1 then [0, 0, 0, 0, 0, 0, 5, 0, 0, 0]
  else if opcode = 0xE0A0 then [(bufferStatus (capacity ≤ held)).basic]
  else [0]

/-- A stream to a printer with a buffer of this capacity. -/
def bufferStream (capacity : Nat) : IOStream where
  device := answering fun log => bufferPayload capacity (held log)

/-- Every payload fits in a packet. -/
theorem bufferPayload_fits (capacity held opcode : Nat)
    : (bufferPayload capacity held opcode).length ≤ 65531 := by
  unfold bufferPayload
  split
  · rw [statusPayload_length]
    decide
  · split
    · decide
    · split <;> exact (by decide : 1 ≤ 65531)

/-- The status says whether the buffer is full. -/
theorem bufferStatus_busy (full : Bool)
    : statusOf (statusPayload (bufferStatus full)) = some (bufferStatus full)
      ∧ ((bufferStatus full).basic &&& BasicStatus.imDataBusy ≠ 0 ↔ full = true)
      ∧ (bufferStatus full).basic &&& BasicStatus.cmdBusy = 0
      ∧ (bufferStatus full).basic &&& BasicStatus.errorBit = 0 := by
  cases full <;> decide

/-- This printer buffers up to its capacity. -/
theorem buffers_bufferStream (capacity : Nat)
    : Buffers capacity (bufferStream capacity).device := by
  constructor
  case info =>
    intro log
    unfold infoRequest
    rw [bufferStream, answerOf_answering (by decide)]
    exact ⟨_, rfl⟩
  case reserves =>
    intro log
    unfold Succeeded answeredCode commandChunk
    rw [bufferStream, answerOf_answering (by decide)]
    rfl
  case answers =>
    intro log opcode command
    unfold answeredCode commandChunk
    simp only [List.mem_cons, List.not_mem_nil, or_false] at command
    rcases command with rfl | rfl
    · rw [bufferStream, answerOf_answering (by decide)]
      exact ⟨_, rfl⟩
    · rw [bufferStream, answerOf_answering (by decide)]
      exact ⟨_, rfl⟩
  case online =>
    intro log
    unfold answeredCode onlineChunk
    rw [bufferStream, answerOf_answering (by decide)]
    exact ⟨_, rfl⟩
  case status =>
    intro log
    obtain ⟨given, busy, _⟩ := bufferStatus_busy (capacity ≤ held log)
    unfold answeredExtendedStatus extendedStatusRequest
    rw [bufferStream, answerOf_answering (by decide)]
    exact ⟨_, given, rfl, busy.trans decide_eq_true_iff⟩
  case busy =>
    intro log
    obtain ⟨_, busy, free⟩ := bufferStatus_busy (capacity ≤ held log)
    unfold answeredCode statusRequest
    rw [bufferStream, answerOf_answering (by decide)]
    exact ⟨_, rfl, busy.trans decide_eq_true_iff, free⟩

/-- At a printer with a buffer of 20000 bytes. -/
theorem main_measures_bufferStream
    : ∃ info total stream',
        (main 20001).run (bufferStream 20000) = .ok (0, ⟨info, some total⟩) stream'
          ∧ Measured 20000 total ∧ held stream'.log = total ∧ stream'.Paired :=
  main_measures (buffers_bufferStream 20000)
    (paired_answering fun log => bufferPayload_fits 20000 (held log)) (by decide) (by decide)
    (by decide)

end Capt.Printerinfo
