import Mathlib.Logic.Function.Iterate
import Zwaved.Bytes

/-!
# The Transport Service reassembler

Transport Service (command class `0x55`) splits a datagram longer than the radio frame into a
FIRST_SEGMENT and SUBSEQUENT_SEGMENTs, each with a two-byte check sequence. This module models
`TransportService.cpp`: the check sequence `fcs` and the class `Assembler`, which holds one
datagram in flight and places each segment's payload at its offset.

`place` indexes two `std::vector`s without a check of its own. The model's `place` makes that
access explicit: an index past the end of a vector is a `Fault`, where the source's behaviour is
undefined.
-/

namespace Zwaved.TransportService

/-- `COMMAND_CLASS`. -/
def commandClass : UInt8 := 0x55

/-- `COMMAND_MASK`: the command is the top five bits of its byte. -/
def commandMask : UInt8 := 0xF8

/-- `DATAGRAM_SIZE_MASK`: the low three bits carry the high bits of the datagram size. -/
def datagramSizeMask : UInt8 := 0x07

/-- `SESSION_ID_MASK`. -/
def sessionIdMask : UInt8 := 0xF0

/-- `SESSION_ID_SHIFT`. -/
def sessionIdShift : UInt8 := 4

/-- `EXT_FLAG`: a header extension precedes the payload. -/
def extFlag : UInt8 := 0x08

/-- `OFFSET_HIGH_MASK`. -/
def offsetHighMask : UInt8 := 0x07

/-- `TRANSPORT_SERVICE_FIRST_SEGMENT`. -/
def firstSegment : UInt8 := 0xC0

/-- `TRANSPORT_SERVICE_SUBSEQUENT_SEGMENT`. -/
def subsequentSegment : UInt8 := 0xE0

/-- `FCS_LEN`. -/
def fcsLen : ℕ := 2

/-- One bit of the check sequence: shift out the top bit, and add the polynomial `0x1021` when it
was set. -/
def fcsBit (crc : UInt16) : UInt16 :=
  if crc &&& 0x8000 ≠ 0 then (crc <<< 1) ^^^ 0x1021 else crc <<< 1

/-- One byte of the check sequence. -/
def fcsByte (crc : UInt16) (byte : UInt8) : UInt16 :=
  fcsBit^[8] (crc ^^^ (byte.toUInt16 <<< (8 : UInt16)))

/-- `fcs`: CRC-16-CCITT, seeded `0x1D0F`. -/
def fcs (data : Bytes) : UInt16 := data.foldl fcsByte 0x1D0F

/-- An access outside a vector: the source's behaviour is undefined. -/
inductive Fault
  /-- Element `index` of a vector of `size` elements. -/
  | outOfRange (index size : ℕ)
  deriving DecidableEq, Repr

/-- `TransportService::Assembler`: one peer's datagram in flight. -/
structure Assembler where
  /-- `active_`: a datagram is in flight. -/
  active : Bool := false
  /-- `sessionId_`. -/
  sessionId : UInt8 := 0
  /-- `datagramSize_`: the size the datagram's FIRST_SEGMENT declared. -/
  datagramSize : ℕ := 0
  /-- `receivedCount_`: how many positions have been filled. -/
  receivedCount : ℕ := 0
  /-- `buffer_`. -/
  buffer : Bytes := []
  /-- `received_`: which positions have been filled. -/
  received : List Bool := []
  deriving DecidableEq, Repr

namespace Assembler

/-- `reset`: the session id and the size stay as they were. -/
def reset (a : Assembler) : Assembler :=
  { a with active := false, receivedCount := 0, buffer := [], received := [] }

/-- `payloadStart`: where the payload starts, past the header extension when the flag is set. -/
def payloadStart (segment : Bytes) (bodyLen baseHeader : ℕ) : Option ℕ :=
  if segment.byte 3 &&& extFlag ≠ 0 then
    if bodyLen < baseHeader + 1 then none
    else
      let start := baseHeader + 1 + (segment.byte baseHeader).toNat
      if start > bodyLen then none else some start
  else if baseHeader > bodyLen then none else some baseHeader

/-- The loop of `place`, from position `pos` on: a byte past the datagram ends it, and a position
that is already filled is skipped. -/
def placeFrom (a : Assembler) (pos : ℕ) : Bytes → Except Fault Assembler
  | [] => .ok a
  | byte :: payload =>
    if pos ≥ a.datagramSize then .ok a
    else match a.received[pos]? with
      | none => .error (.outOfRange pos a.received.length)
      | some true => placeFrom a (pos + 1) payload
      | some false =>
        if pos < a.buffer.length then
          placeFrom { a with
            buffer := a.buffer.set pos byte
            received := a.received.set pos true
            receivedCount := a.receivedCount + 1 } (pos + 1) payload
        else .error (.outOfRange pos a.buffer.length)

/-- `place`: the payload goes in at `offset`, and the datagram comes out once it is whole. -/
def place (a : Assembler) (offset : ℕ) (payload : Bytes) :
    Except Fault (Assembler × Option Bytes) := do
  let a ← placeFrom a offset payload
  if a.receivedCount = a.datagramSize then
    return ({ a with active := false, buffer := [], received := [], receivedCount := 0 },
      some a.buffer)
  else return (a, none)

/-- The datagram size that a segment declares: eleven bits over its second and third byte. -/
def declaredSize (segment : Bytes) : ℕ :=
  ((segment.byte 1 &&& datagramSizeMask).toNat <<< 8) ||| (segment.byte 2).toNat

/-- The session id that a segment declares. -/
def declaredSession (segment : Bytes) : UInt8 :=
  (segment.byte 3 &&& sessionIdMask) >>> sessionIdShift

/-- The datagram offset that a SUBSEQUENT_SEGMENT declares. -/
def declaredOffset (segment : Bytes) : ℕ :=
  ((segment.byte 3 &&& offsetHighMask).toNat <<< 8) ||| (segment.byte 4).toNat

/-- `handleFirst`: a FIRST_SEGMENT starts a datagram over and places its payload. The size and the
session id are assigned before the segment is refused. -/
def handleFirst (a : Assembler) (segment : Bytes) (bodyLen : ℕ) :
    Except Fault (Assembler × Option Bytes) :=
  if bodyLen < 4 then .ok (a, none)
  else
    let a := { a with
      datagramSize := declaredSize segment
      sessionId := declaredSession segment }
    match payloadStart segment bodyLen 4 with
    | none => .ok (a, none)
    | some start =>
      if a.datagramSize = 0 then .ok (a, none)
      else
        place { a with
          buffer := List.replicate a.datagramSize 0
          received := List.replicate a.datagramSize false
          receivedCount := 0
          active := true } 0 (segment.subspan start (bodyLen - start))

/-- `handleSubsequent`: a SUBSEQUENT_SEGMENT of the session in flight places its payload at the
offset that it carries. -/
def handleSubsequent (a : Assembler) (segment : Bytes) (bodyLen : ℕ) :
    Except Fault (Assembler × Option Bytes) :=
  if a.active = false ∨ bodyLen < 5 then .ok (a, none)
  else if declaredSession segment ≠ a.sessionId then .ok (a, none)
  else match payloadStart segment bodyLen 5 with
    | none => .ok (a, none)
    | some start => place a (declaredOffset segment) (segment.subspan start (bodyLen - start))

/-- The check sequence at the end of a segment. -/
def trailer (segment : Bytes) : UInt16 :=
  ((segment.byte (segment.length - fcsLen)).toUInt16 <<< (8 : UInt16)) |||
    ((segment.byte (segment.length - fcsLen + 1)).toUInt16 &&& 0x00FF)

/-- A Transport Service segment whose check sequence is right. -/
def FcsValid (segment : Bytes) : Prop :=
  ¬ (segment.length < fcsLen + 1 ∨ segment.byte 0 ≠ commandClass) ∧
    fcs (segment.subspan 0 (segment.length - fcsLen)) = trailer segment

instance (segment : Bytes) : Decidable (FcsValid segment) :=
  inferInstanceAs (Decidable (_ ∧ _))

/-- `feedSegment`: one raw segment in, and the datagram out when its last missing byte arrives. -/
def feedSegment (a : Assembler) (segment : Bytes) : Except Fault (Assembler × Option Bytes) :=
  if ¬ FcsValid segment then .ok (a, none)
  else
    let bodyLen := segment.length - fcsLen
    let command := segment.byte 1 &&& commandMask
    if command = firstSegment then handleFirst a segment bodyLen
    else if command = subsequentSegment then handleSubsequent a segment bodyLen
    else .ok (a, none)

end Assembler

end Zwaved.TransportService
