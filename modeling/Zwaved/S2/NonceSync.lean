import Zwaved.S2.Crypto

/-!
# Nonce synchronisation frames

`NonceSync.cpp`: NONCE_GET and NONCE_REPORT, by which a receiver hands out its entropy input (REI),
and the SPAN extension of an encapsulated frame, by which the sender answers with its own (SEI).
-/

namespace Zwaved.S2.NonceSync

/-- `COMMAND_CLASS`. -/
def commandClass : UInt8 := 0x9F

/-- `NONCE_GET`. -/
def nonceGetCommand : UInt8 := 0x01

/-- `NONCE_REPORT`. -/
def nonceReportCommand : UInt8 := 0x02

/-- `FLAG_SOS`: the SPAN is out of sync, and the REI is present. -/
def flagSos : UInt8 := 0x01

/-- `FLAG_MOS`: the MPAN is out of sync. -/
def flagMos : UInt8 := 0x02

/-- `SPAN_EXTENSION_TYPE`. -/
def spanExtensionType : UInt8 := 0x01

/-- `SPAN_EXTENSION_LENGTH`: length byte, flags byte and 16 bytes of SEI. -/
def spanExtensionLength : UInt8 := 18

/-- `SPAN_EXTENSION_FLAGS`: critical, of type SPAN, and nothing follows. -/
def spanExtensionFlags : UInt8 := 0x41

/-- `EXT_TYPE_MASK`. -/
def extTypeMask : UInt8 := 0x3F

/-- `EXT_MORE_FOLLOW_BIT`. -/
def extMoreFollowBit : UInt8 := 0x80

/-- `NonceSync::Report`. -/
structure Report where
  /-- `sequenceNumber`. -/
  sequenceNumber : UInt8
  /-- `sos`. -/
  sos : Bool
  /-- `mos`. -/
  mos : Bool
  /-- `rei`: the receiver's entropy input. -/
  rei : Option EntropyInput
  deriving DecidableEq, Repr

/-- `encodeNonceGet`. -/
def encodeNonceGet (sequenceNumber : UInt8) : Bytes :=
  [commandClass, nonceGetCommand, sequenceNumber]

/-- `encodeNonceReport`: the REI goes out with the SOS flag only. -/
def encodeNonceReport (report : Report) : Bytes :=
  let flags := (if report.sos then flagSos else 0) ||| (if report.mos then flagMos else 0)
  let rei := if report.sos then (report.rei.map Vector.toList).getD [] else []
  [commandClass, nonceReportCommand, report.sequenceNumber, flags] ++ rei

/-- `decodeNonceReport`: an SOS flag without the REI it promises is malformed. -/
def decodeNonceReport (payload : Bytes) : Option Report :=
  if payload.length < 4 ∨ payload.byte 0 ≠ commandClass ∨ payload.byte 1 ≠ nonceReportCommand then
    none
  else
    let sos := decide (payload.byte 3 &&& flagSos ≠ 0)
    let mos := decide (payload.byte 3 &&& flagMos ≠ 0)
    if sos then
      if payload.length < 4 + 16 then none
      else some { sequenceNumber := payload.byte 2, sos, mos, rei := some (payload.copyN 4 16) }
    else some { sequenceNumber := payload.byte 2, sos, mos, rei := none }

/-- `encodeSpanExtension`. -/
def encodeSpanExtension (senderEntropyInput : EntropyInput) : Bytes :=
  [spanExtensionLength, spanExtensionFlags] ++ senderEntropyInput.toList

/-- The loop of `findSpanExtension`, from `offset` on. -/
def findSpanExtensionFrom (extensions : Bytes) (offset : ℕ) : Option EntropyInput :=
  if offset + 2 ≤ extensions.length then
    let length := (extensions.byte offset).toNat
    if _h : length < 2 ∨ offset + length > extensions.length then none
    else
      let flags := extensions.byte (offset + 1)
      if flags &&& extTypeMask = spanExtensionType ∧ length = spanExtensionLength.toNat then
        some (extensions.copyN (offset + 2) 16)
      else if flags &&& extMoreFollowBit = 0 then none
      else findSpanExtensionFrom extensions (offset + length)
  else none
termination_by extensions.length - offset

/-- `findSpanExtension`: the SEI of the first SPAN extension of a chain. -/
def findSpanExtension (extensions : Bytes) : Option EntropyInput :=
  findSpanExtensionFrom extensions 0

/-- `commandByte`: the command of an S2 frame. -/
def commandByte (payload : Bytes) : Option UInt8 :=
  if payload.length < 2 ∨ payload.byte 0 ≠ commandClass then none else some (payload.byte 1)

/-- A report with an REI survives the wire. -/
theorem decodeNonceReport_encodeNonceReport (sequenceNumber : UInt8) (rei : EntropyInput) :
    decodeNonceReport (encodeNonceReport
        { sequenceNumber, sos := true, mos := false, rei := some rei }) =
      some { sequenceNumber, sos := true, mos := false, rei := some rei } := by
  have hrei := Bytes.copyN_append [commandClass, nonceReportCommand, sequenceNumber, flagSos] rei []
  have hmos : flagSos &&& flagMos = 0 := by decide
  have hsos : flagSos ≠ 0 := by decide
  simp only [List.append_nil, List.cons_append, List.nil_append, List.length_cons,
    List.length_nil] at hrei
  simp [encodeNonceReport, decodeNonceReport, Bytes.byte, hrei, hmos, hsos]

/-- A SPAN extension is eighteen bytes long: its header and the entropy input. -/
@[simp] theorem length_encodeSpanExtension (sei : EntropyInput) :
    (encodeSpanExtension sei).length = 18 := by simp [encodeSpanExtension]

/-- A SPAN extension at the head of a chain is found. -/
theorem findSpanExtension_encodeSpanExtension (sei : EntropyInput) (rest : Bytes) :
    findSpanExtension (encodeSpanExtension sei ++ rest) = some sei := by
  have hsei := Bytes.copyN_append [spanExtensionLength, spanExtensionFlags] sei rest
  have htype : spanExtensionFlags &&& extTypeMask = spanExtensionType := by decide
  have hlen : spanExtensionLength.toNat = 18 := rfl
  rw [findSpanExtension, findSpanExtensionFrom]
  simp only [List.cons_append, List.nil_append, List.length_cons, List.length_nil] at hsei
  simp [encodeSpanExtension, Bytes.byte, hsei, htype, hlen]

end Zwaved.S2.NonceSync
