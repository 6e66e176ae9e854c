import Libcapt.Core.IOStream

/-! The four bytes before each payload: an opcode and the size of the whole packet. -/

namespace Capt

open Streams

/-- Opcode and payload size, as the header's extraction leaves them. -/
structure PacketHeader where
  opcode : UInt16 := 0
  payloadSize : UInt16 := 0
  deriving DecidableEq, Repr

namespace PacketHeader

/-- The bytes of a packet. -/
def frame (opcode : UInt16) (payload : List UInt8) : List UInt8 :=
  littleBytes 2 opcode.toNat ++ (littleBytes 2 (4 + payload.length) ++ payload)

/-- Writes the header and the payload, which has to fit in a packet. -/
def writeTo (opcode : UInt16) (payload : List UInt8) : Action IOStream Unit := do
  let stream ← get
  if stream.good then
    if 4 + payload.length > 65535 then throw (.overflowError "packet size overflow")
    else
      IOStream.writeLittle 2 opcode.toNat
      IOStream.writeLittle 2 (4 + payload.length)
      IOStream.write payload
  else return

/-- An action of the stream. -/
def onStream {α : Type} (action : Action IOStream α) : Action (IOStream × PacketHeader) α :=
  zoom Prod.fst (fun stream s => (stream, s.2)) action

/-- `operator>>`. It changes the header as far as it gets. -/
def extract : Action (IOStream × PacketHeader) Unit := do
  let opcode ← onStream (IOStream.readLittle 2)
  modify fun s => (s.1, { s.2 with opcode := UInt16.ofNat opcode })
  let size ← onStream (IOStream.readLittle 2)
  let s ← get
  if s.1.good then
    if size < 4 then throw (.runtimeError "impossible packet size")
    else modify fun s => (s.1, { s.2 with payloadSize := UInt16.ofNat (size - 4) })
  else return

-----------------------------------------------------------------------------------------
-- A good stream
-----------------------------------------------------------------------------------------

variable {stream : IOStream} {opcode : UInt16} {payload : List UInt8}

/-- A payload that fits is written whole, after its header. -/
theorem run_writeTo (good : stream.good) (fits : payload.length ≤ 65531)
    : (writeTo opcode payload).run stream = .ok () (stream.written (frame opcode payload)) := by
  have small : ¬ 4 + payload.length > 65535 := by omega
  unfold writeTo
  rw [run_get_bind, if_pos good, if_neg small,
    run_bind_ok (IOStream.run_writeLittle good 2 opcode.toNat)]
  rw [run_bind_ok (IOStream.run_writeLittle ((IOStream.written_good ..).trans good) 2 _),
    IOStream.run_write ((IOStream.written_good ..).trans ((IOStream.written_good ..).trans good))]
  simp only [IOStream.written, frame, List.append_assoc]

/-- A payload that does not fit is refused, and nothing of it is written. -/
theorem run_writeTo_overflow (good : stream.good) (long : 65531 < payload.length)
    : (writeTo opcode payload).run stream
      = .error (.overflowError "packet size overflow") stream := by
  have large : 4 + payload.length > 65535 := by omega
  unfold writeTo
  rw [run_get_bind, if_pos good, if_pos large]
  rfl

/-- What the header's reader does on its stream. -/
theorem run_onStream {α : Type} {action : Action IOStream α} {stream' : IOStream} {value : α}
    (h : action.run stream = .ok value stream') (header : PacketHeader)
    : (onStream action).run (stream, header) = .ok value (stream', header) := by
  unfold onStream
  exact run_zoom_ok h

/-- When the size is not read the announced one stays, and there is no exception. -/
theorem run_extract_bad {value size : Nat} {middle stream' : IOStream}
    (first : (IOStream.readLittle 2).run stream = .ok value middle)
    (second : (IOStream.readLittle 2).run middle = .ok size stream') (bad : ¬ stream'.good)
    (header : PacketHeader)
    : extract.run (stream, header)
      = .ok () (stream', { header with opcode := UInt16.ofNat value }) := by
  unfold extract
  rw [run_bind_ok (run_onStream first _), run_modify_bind, run_bind_ok (run_onStream second _),
    run_get_bind]
  dsimp only
  rw [if_neg bad]
  rfl

-----------------------------------------------------------------------------------------
-- Reading a header
-----------------------------------------------------------------------------------------

/-- The stream has the four bytes of a header. -/
def Complete (stream : IOStream) : Prop := stream.good ∧ 4 ≤ stream.input.length

/-- The size that a complete header announces. -/
def size (stream : IOStream) : Nat := littleValue ((stream.input.drop 2).take 2)

/-- The header that a complete one with a possible size stands for. -/
def announced (stream : IOStream) : PacketHeader :=
  {
    opcode := UInt16.ofNat (littleValue (stream.input.take 2))
    payloadSize := UInt16.ofNat (size stream - 4)
  }

/-- Both numbers of a complete header are there. -/
theorem Complete.halves (complete : Complete stream)
    : 2 ≤ stream.input.length ∧ 2 ≤ (stream.input.drop 2).length := by
  have four := complete.2
  rw [List.length_drop]
  omega

/-- Both reads succeed where the four bytes of the header are there. -/
theorem afterRead_good_iff
    : ((stream.afterRead 2).afterRead 2).good ↔ Complete stream := by
  rw [IOStream.afterRead_good, IOStream.afterRead_good]
  constructor
  · rintro ⟨⟨good, two⟩, more⟩
    rw [IOStream.afterRead_whole good two] at more
    change 2 ≤ (stream.input.drop 2).length at more
    rw [List.length_drop] at more
    exact ⟨good, by omega⟩
  · intro complete
    obtain ⟨two, more⟩ := complete.halves
    refine ⟨⟨complete.1, two⟩, ?_⟩
    rw [IOStream.afterRead_whole complete.1 two]
    exact more

/-- The second number that is read is the announced size. -/
theorem number_size (complete : Complete stream) : (stream.afterRead 2).number 2 = size stream := by
  obtain ⟨two, more⟩ := complete.halves
  rw [IOStream.afterRead_whole complete.1 two]
  exact @IOStream.number_whole (stream.unread (stream.input.drop 2)) 2 complete.1 more

/-- The opcode is stored before it is known whether the header is complete. -/
theorem run_extract_any (stream : IOStream) (header : PacketHeader)
    : extract.run (stream, header)
      = if ((stream.afterRead 2).afterRead 2).good then
          if (stream.afterRead 2).number 2 < 4 then
            .error (.runtimeError "impossible packet size")
              ((stream.afterRead 2).afterRead 2,
                { header with opcode := UInt16.ofNat (stream.number 2) })
          else
            .ok () ((stream.afterRead 2).afterRead 2,
              {
                opcode := UInt16.ofNat (stream.number 2)
                payloadSize := UInt16.ofNat ((stream.afterRead 2).number 2 - 4)
              })
        else
          .ok () ((stream.afterRead 2).afterRead 2,
            { header with opcode := UInt16.ofNat (stream.number 2) }) := by
  unfold extract
  rw [run_bind_ok (run_onStream IOStream.run_readLittle_any _), run_modify_bind,
    run_bind_ok (run_onStream IOStream.run_readLittle_any _), run_get_bind]
  dsimp only
  split
  · split <;> rfl
  · rfl

/-- A complete header with a possible size. -/
def Valid (stream : IOStream) : Prop := Complete stream ∧ 4 ≤ size stream

/-- A complete header with a size that is not possible. -/
def Impossible (stream : IOStream) : Prop := Complete stream ∧ size stream < 4

/-- Behind both reads the stream stands behind the header. -/
theorem afterRead_complete (complete : Complete stream)
    : (stream.afterRead 2).afterRead 2 = stream.unread (stream.input.drop 4) := by
  obtain ⟨two, more⟩ := complete.halves
  have again :=
    @IOStream.afterRead_whole (stream.unread (stream.input.drop 2)) 2 complete.1 more
  have both : (stream.input.drop 2).drop 2 = stream.input.drop 4 := by rw [List.drop_drop]
  rw [IOStream.afterRead_whole complete.1 two, again, ← both]
  rfl

/-- A valid header is extracted. -/
theorem run_extract_valid (valid : Valid stream) (header : PacketHeader)
    : extract.run (stream, header)
      = .ok () (stream.unread (stream.input.drop 4), announced stream) := by
  obtain ⟨complete, possible⟩ := valid
  have first := IOStream.number_whole complete.1 complete.halves.1
  rw [run_extract_any, if_pos (afterRead_good_iff.mpr complete), number_size complete,
    if_neg (Nat.not_lt.mpr possible), first, afterRead_complete complete]
  rfl

/-- An impossible size makes the extraction throw. -/
theorem run_extract_refused (impossible : Impossible stream) (header : PacketHeader)
    : ∃ stream', extract.run (stream, header)
        = .error (.runtimeError "impossible packet size")
            (stream', { header with opcode := UInt16.ofNat (stream.number 2) }) := by
  obtain ⟨complete, few⟩ := impossible
  refine ⟨(stream.afterRead 2).afterRead 2, ?_⟩
  rw [run_extract_any, if_pos (afterRead_good_iff.mpr complete), number_size complete, if_pos few]

/-- A header that is cut off is no error; the size stays as it was. -/
theorem run_extract_incomplete (incomplete : ¬ Complete stream) (header : PacketHeader)
    : ∃ stream', extract.run (stream, header)
        = .ok () (stream', { header with opcode := UInt16.ofNat (stream.number 2) }) := by
  refine ⟨(stream.afterRead 2).afterRead 2, ?_⟩
  rw [run_extract_any, if_neg (fun good => incomplete (afterRead_good_iff.mp good))]

section Frame

variable (opcode) (rest : List UInt8)

/-- A frame and what follows, number by number. -/
theorem frame_append (payload : List UInt8)
    : frame opcode payload ++ rest
      = littleBytes 2 opcode.toNat
        ++ (littleBytes 2 (4 + payload.length) ++ (payload ++ rest)) := by
  rw [frame, List.append_assoc, List.append_assoc]

/-- The first two bytes of a frame are its opcode. -/
theorem name_frame (payload : List UInt8)
    : littleValue ((frame opcode payload ++ rest).take 2) = opcode.toNat := by
  rw [frame_append, List.take_left' (littleBytes_length 2 _)]
  exact littleValue_littleBytes_of_lt opcode.toNat_lt

/-- Behind the opcode stands the size. -/
theorem drop_two_frame (payload : List UInt8)
    : (frame opcode payload ++ rest).drop 2
      = littleBytes 2 (4 + payload.length) ++ (payload ++ rest) := by
  rw [frame_append, List.drop_left' (littleBytes_length 2 _)]

/-- The size counts the header as well. -/
theorem size_frame (fits : payload.length ≤ 65531)
    : littleValue (((frame opcode payload ++ rest).drop 2).take 2) = 4 + payload.length := by
  rw [drop_two_frame, List.take_left' (littleBytes_length 2 _)]
  exact littleValue_littleBytes_of_lt (by omega)

/-- Behind the header stands the payload. -/
theorem drop_frame_append (payload : List UInt8)
    : (frame opcode payload ++ rest).drop 4 = payload ++ rest := by
  have both : (frame opcode payload ++ rest).drop 4
      = ((frame opcode payload ++ rest).drop 2).drop 2 := by
    rw [List.drop_drop]
  rw [both, drop_two_frame, List.drop_left' (littleBytes_length 2 _)]

end Frame

/-- The header of a packet is read back, whatever the header was before. -/
theorem run_extract (good : stream.good) (fits : payload.length ≤ 65531)
    (header : PacketHeader) (rest : List UInt8)
    : extract.run (stream.unread (frame opcode payload ++ rest), header)
      = .ok () (stream.unread (payload ++ rest),
          { opcode := opcode, payloadSize := UInt16.ofNat payload.length }) := by
  have name := name_frame opcode rest payload
  have total := size_frame opcode rest fits
  have complete : Complete (stream.unread (frame opcode payload ++ rest)) := by
    refine ⟨good, ?_⟩
    change 4 ≤ (frame opcode payload ++ rest).length
    simp [frame]
    omega
  have whole := run_extract_valid ⟨complete, (Nat.le_add_right 4 _).trans_eq total.symm⟩ header
  change _ = EStateM.Result.ok () (stream.unread ((frame opcode payload ++ rest).drop 4),
    (⟨UInt16.ofNat (littleValue ((frame opcode payload ++ rest).take 2)),
      UInt16.ofNat (littleValue (((frame opcode payload ++ rest).drop 2).take 2) - 4)⟩
      : PacketHeader)) at whole
  rw [name, total, drop_frame_append, Nat.add_sub_cancel_left, UInt16.ofNat_toNat] at whole
  exact whole

end PacketHeader

end Capt
