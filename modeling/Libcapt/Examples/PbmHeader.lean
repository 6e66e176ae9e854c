import Libcapt.Core.Fault
import Libcapt.Protocol.Status

/-! The header of a page of a PBM file, as the programs read it from a `std::istream`. -/

namespace Capt

open Streams

/-- A `std::istream` with the default exception mask and locale, over bytes in memory. -/
structure IStream where
  rdbuf : MemoryStreambuf
  eof : Bool := false
  fail : Bool := false

/-- `std::isspace` of the default locale. -/
def isspace (c : UInt8) : Bool := c == 32 || 9 ≤ c && c ≤ 13

namespace IStream

/-- `good()`. -/
def good (this : IStream) : Bool := !this.eof && !this.fail

/-- An action on the buffer of the stream. -/
def onRdbuf {α : Type} (action : Action MemoryStreambuf α) : Action IStream α :=
  zoom rdbuf (fun rdbuf this => { this with rdbuf := rdbuf }) action

/-- `setstate`, which only ever sets bits. -/
def setstate (eof fail : Bool) : Action IStream Unit :=
  modify fun this => { this with eof := this.eof || eof, fail := this.fail || fail }

/-- The sentry of an unformatted input function. -/
def sentry : Action IStream Bool := do
  let this ← get
  if this.good then return true
  else
    setstate false true
    return false

/-- `read`. A short read sets both bits. -/
def read (n : Nat) : Action IStream (List UInt8) := do
  if ← sentry then
    let data ← onRdbuf (Source.sgetn n)
    if data.length < n then
      setstate true true
      return data
    else return data
  else return []

/-- `peek`, which at the end of the buffer sets `eofbit`. -/
def peek : Action IStream (Option UInt8) := do
  if ← sentry then
    match ← onRdbuf Source.sgetc with
    | some c => return some c
    | none =>
      setstate true false
      return none
  else return none

/-- Named `get` in the source. -/
def getChar : Action IStream (Option UInt8) := do
  if ← sentry then
    match ← onRdbuf Source.sbumpc with
    | some c => return some c
    | none =>
      setstate true true
      return none
  else return none

/-- Skips the bytes of the kind that `skipped` gives, and says whether a byte follows. -/
def skipWhile (skipped : UInt8 → Bool) : Action IStream Bool := do
  modify fun this => { this with rdbuf := ⟨this.rdbuf.buffer.dropWhile skipped⟩ }
  let this ← get
  return this.rdbuf.buffer ≠ []

/-- The bytes that `operator>>` takes as digits. -/
def isDigit (c : UInt8) : Bool := 48 ≤ c && c ≤ 57

/-- The number that the digits stand for. -/
def decimalValue (digits : List UInt8) : Nat :=
  digits.foldl (fun value c => 10 * value + (c.toNat - 48)) 0

/-- The sign, the digits and what follows them. -/
def numberParts (bytes : List UInt8) : Bool × List UInt8 × List UInt8 :=
  let rest := if bytes.head? = some 45 ∨ bytes.head? = some 43 then bytes.tail else bytes
  (bytes.head? = some 45, rest.takeWhile isDigit, rest.dropWhile isDigit)

/-- `operator>>` for `unsigned`, as `std::num_get` converts decimal numbers: a negative number
is converted modulo the range of the type. Gives nothing where the stream fails.
-/
def readUnsigned : Action IStream (Option Nat) := do
  if ← sentry then
    if ← skipWhile isspace then
      let this ← get
      let (negative, digits, rest) := numberParts this.rdbuf.buffer
      modify fun this => { this with rdbuf := ⟨rest⟩ }
      setstate (rest = []) (digits = [] ∨ decimalValue digits ≥ 2 ^ 32)
      if digits = [] ∨ decimalValue digits ≥ 2 ^ 32 then return none
      else if negative then return some (unsigned (2 ^ 32 - decimalValue digits))
      else return some (decimalValue digits)
    else
      setstate true true
      return none
  else return none

end IStream

open IStream

/-- `while (stream.get() != '\n')` inside a comment. -/
def skipComment : Nat → Action IStream Unit
  | 0 => throw .unfinished
  | fuel + 1 => do
    if (← getChar) = some 10 then return
    else
      let stream ← get
      if stream.eof then throw (.runtimeError "PBM: unexpected EOF")
      else skipComment fuel

/-- `while (stream.peek() == '#')`. -/
def skipComments : Nat → Action IStream Unit
  | 0 => throw .unfinished
  | fuel + 1 => do
    if (← peek) = some 35 then
      let stream ← get
      skipComment (stream.rdbuf.buffer.length + 1)
      skipComments fuel
    else return

/-- `while (!std::isspace(stream.get()) && stream.good())`. -/
def skipToSpace : Nat → Action IStream Unit
  | 0 => throw .unfinished
  | fuel + 1 => do
    let c ← getChar
    let stream ← get
    if !(c.map isspace).getD false && stream.good then skipToSpace fuel
    else return

/-- `readPbmHeader` behind the magic number. Each turn of a loop takes a byte off the stream
or ends the loop.
-/
def readPbmSize : Action IStream (Nat × Nat) := do
  let stream ← get
  skipComments (stream.rdbuf.buffer.length + 1)
  match ← readUnsigned with
  | none => throw (.runtimeError "PBM: failed to read width")
  | some width =>
    let c ← getChar
    if !(c.map isspace).getD false then throw (.runtimeError "PBM: unexpected char")
    else
      match ← readUnsigned with
      | none => throw (.runtimeError "PBM: failed to read height")
      | some height =>
        let stream ← get
        skipToSpace (stream.rdbuf.buffer.length + 1)
        let stream ← get
        if stream.eof then throw (.runtimeError "PBM: unexpected EOF")
        else return (width, height)

/-- Gives the width and the height, or nothing where the function returns false. -/
def readPbmHeader : Action IStream (Option (Nat × Nat)) := do
  let buffer ← read 3
  let stream ← get
  if stream.eof then return none
  else
    match buffer with
    | [p, four, c] =>
      if p ≠ 80 ∨ four ≠ 52 ∨ !isspace c then throw (.runtimeError "PBM: invalid magic")
      else
        let size ← readPbmSize
        return some size
    -- the caller gave a stream that was not good
    | _ => throw (.undefinedBehaviour "magic number was not read")

namespace PbmPageProvider

/-- `ReadHeader`, which has fixed values for what the file does not say. -/
def readHeader : Action IStream (Option PageParams) := do
  match ← readPbmHeader with
  | none => return none
  | some (width, lines) =>
    if width % 8 ≠ 0 then throw (.runtimeError "PBM width must be a multiple of 8")
    else
      return some {
        paperSize := 0x09
        tonerDensity := 0x3f
        mode := 0
        resolution := 0x11
        smoothEnable := true
        tonerSaving := false
        marginLeft := 1
        marginTop := 1
        imageLineSize := UInt16.ofNat (width / 8)
        imageLines := UInt16.ofNat lines
        paperWidth := 4960
        paperHeight := 7014
      }

end PbmPageProvider

end Capt
