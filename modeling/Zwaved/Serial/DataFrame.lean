import Zwaved.Bytes

/-!
# Data frames of the serial link

`ZwaveDataFrame.cpp`: a data frame on the wire is a start byte, a length, the type, the command, the
payload and a checksum over everything from the length on. The length counts what comes after it.

`parseFromBuffer_toBuffer`: a frame whose payload is not too long is read back as it was written.
-/

namespace Zwaved.Serial

/-- `ZwaveDataFrame::FrameType`. -/
inductive FrameType
  /-- `REQUEST`. -/
  | request
  /-- `RESPONSE`. -/
  | response
  deriving DecidableEq, Repr

/-- The byte of a frame type. -/
def FrameType.toByte : FrameType → UInt8
  | .request => 0x00
  | .response => 0x01

/-- `ZwaveDataFrame`. -/
structure ZwaveDataFrame where
  /-- `frameType`. -/
  frameType : FrameType := .request
  /-- `commandId`. -/
  commandId : UInt8 := 0
  /-- `payload`. -/
  payload : Bytes := []
  /-- `valid`: the frame was parsed or set. -/
  valid : Bool := false
  deriving DecidableEq, Repr

namespace ZwaveDataFrame

/-- `SOF`. -/
def sof : UInt8 := 0x01

/-- `CHECKSUM_SEED`. -/
def checksumSeed : UInt8 := 0xFF

/-- `MIN_FRAME_SIZE`. -/
def minFrameSize : ℕ := 5

/-- `MAX_PAYLOAD_SIZE`. -/
def maxPayloadSize : ℕ := 250

/-- `MAX_FRAME_SIZE`. -/
def maxFrameSize : ℕ := maxPayloadSize + 5

/-- `frameLength`: type, command, payload and checksum, in one byte. -/
def frameLength (frame : ZwaveDataFrame) : UInt8 := UInt8.ofNat (2 + frame.payload.length + 1)

/-- `calculateChecksum`. -/
def calculateChecksum (frame : ZwaveDataFrame) : UInt8 :=
  frame.payload.foldl (· ^^^ ·)
    (checksumSeed ^^^ frame.frameLength ^^^ frame.frameType.toByte ^^^ frame.commandId)

/-- `validateChecksum`. -/
def validateChecksum (frame : ZwaveDataFrame) (checksum : UInt8) : Bool :=
  checksum == frame.calculateChecksum

/-- `toBuffer`. -/
def toBuffer (frame : ZwaveDataFrame) : Bytes :=
  [sof, frame.frameLength, frame.frameType.toByte, frame.commandId] ++ frame.payload ++
    [frame.calculateChecksum]

/-- `parseFromBuffer`: the frame as it is left behind, and whether it was parsed. A refused checksum
leaves the fields that were read. -/
def parseFromBuffer (frame : ZwaveDataFrame) (buffer : Bytes) : ZwaveDataFrame × Bool :=
  let refused := ({ frame with valid := false }, false)
  if buffer.length < minFrameSize then refused
  else if buffer.byte 0 ≠ sof then refused
  else
    let frameLength := (buffer.byte 1).toNat
    if frameLength < 3 ∨ frameLength > maxPayloadSize + 3 then refused
    else if buffer.length < frameLength + 2 then refused
    else
      let typeRaw := buffer.byte 2
      if typeRaw > FrameType.response.toByte then refused
      else
        let frame := { frame with
          frameType := if typeRaw = FrameType.response.toByte then .response else .request
          commandId := buffer.byte 3
          payload := buffer.subspan 4 (frameLength - 3) }
        if frame.validateChecksum (buffer.byte (1 + frameLength)) then
          ({ frame with valid := true }, true)
        else ({ frame with valid := false }, false)

/-- `setHeader`. -/
def setHeader (frame : ZwaveDataFrame) (type : FrameType) (cmd : UInt8) : ZwaveDataFrame :=
  { frame with frameType := type, commandId := cmd, valid := true }

/-- `setPayload`: a payload that is too long leaves the frame as it was. -/
def setPayload (frame : ZwaveDataFrame) (data : Bytes) : ZwaveDataFrame × Bool :=
  if data.length > maxPayloadSize then (frame, false)
  else ({ frame with payload := data, valid := true }, true)

variable {frame : ZwaveDataFrame}

/-- A frame is five bytes longer than its payload. -/
@[simp] theorem length_toBuffer (frame : ZwaveDataFrame) :
    frame.toBuffer.length = frame.payload.length + 5 := by
  simp [toBuffer]

/-- The length byte of a frame counts the payload and three more, if that fits a byte. -/
theorem frameLength_toNat (h : frame.payload.length ≤ maxPayloadSize) :
    frame.frameLength.toNat = frame.payload.length + 3 := by
  simp only [maxPayloadSize] at h
  simp only [frameLength, UInt8.toNat_ofNat']
  omega

/-- The last byte of a frame is its checksum. -/
theorem byte_checksum (frame : ZwaveDataFrame) :
    frame.toBuffer.byte (frame.payload.length + 4) = frame.calculateChecksum := by
  simp [toBuffer, Bytes.byte]

/-- The payload starts at the fifth byte. -/
theorem subspan_payload (frame : ZwaveDataFrame) :
    frame.toBuffer.subspan 4 frame.payload.length = frame.payload := by
  simp [toBuffer, Bytes.subspan]

/-- A frame type is read back. -/
theorem frameType_toByte (type : FrameType) :
    ¬ type.toByte > FrameType.response.toByte ∧
      (if type.toByte = FrameType.response.toByte then FrameType.response else .request) = type := by
  cases type <;> decide

/-- A frame that is not too long is read back as it was written, whatever the frame was that it is
read into. -/
theorem parseFromBuffer_toBuffer (parsed : ZwaveDataFrame)
    (h : frame.payload.length ≤ maxPayloadSize) :
    parsed.parseFromBuffer frame.toBuffer = ({ frame with valid := true }, true) := by
  obtain ⟨htype, htypeEq⟩ := frameType_toByte frame.frameType
  have hlength : (frame.toBuffer.byte 1).toNat = frame.payload.length + 3 := frameLength_toNat h
  have hsof : frame.toBuffer.byte 0 = sof := rfl
  have htypeByte : frame.toBuffer.byte 2 = frame.frameType.toByte := rfl
  have hcommand : frame.toBuffer.byte 3 = frame.commandId := rfl
  have hchecksum : frame.toBuffer.byte (1 + (frame.payload.length + 3)) =
      frame.calculateChecksum := by
    rw [show 1 + (frame.payload.length + 3) = frame.payload.length + 4 by omega, byte_checksum]
  unfold parseFromBuffer
  simp only [minFrameSize, maxPayloadSize] at h ⊢
  rw [length_toBuffer, if_neg (by omega), if_neg (by simp [hsof]), hlength, if_neg (by omega),
    if_neg (by omega), htypeByte, if_neg htype, htypeEq, hcommand, hchecksum, Nat.add_sub_cancel,
    subspan_payload]
  have hvalid : ({ parsed with
      frameType := frame.frameType
      commandId := frame.commandId
      payload := frame.payload } : ZwaveDataFrame).validateChecksum frame.calculateChecksum =
        true := by
    simp [validateChecksum, calculateChecksum, frameLength]
  simp only [hvalid, if_true]

end ZwaveDataFrame

end Zwaved.Serial
