import Zwaved.Protocol.Introspection
import Zwaved.Reads

/-!
# The reads of the decoders

The decoders of `HostApi.cpp` once more, with the reads of `Reads`, each in the place where the
source makes it. A decoder tests what the frame is and how long its payload is, and then reads no
further than it has tested, so none of them reads past the end of any frame (`readsInside`). What a
frame is decides which of the decoders of `handleIncomingFrame` can take it
(`decoderOf_eq_of_takes`), so no two do.
-/

namespace Zwaved.Protocol.HostApi

open Serial

namespace Checked

variable {α : Type}

/-- What the decoders have in common: a frame is refused for what it is, or because its payload is
shorter than some length. -/
def guarded (refused : Prop) [Decidable refused] (atLeast : ℕ) (payload : Bytes)
    (body : Read (Option α)) : Read (Option α) :=
  if refused then return none else if payload.length < atLeast then return none else body

/-- A decoder whose body succeeds on every payload of the guard's length succeeds on every payload,
with nothing if the frame is refused or too short. -/
theorem guarded_eq {refused : Prop} [Decidable refused] {atLeast : ℕ} {payload : Bytes}
    {body : Read (Option α)} {decoded : Option α}
    (h : atLeast ≤ payload.length → body = .ok decoded) :
    guarded refused atLeast payload body =
      .ok (if refused then none else if payload.length < atLeast then none else decoded) := by
  unfold guarded
  by_cases hrefused : refused
  · rw [if_pos hrefused, if_pos hrefused]
    rfl
  rw [if_neg hrefused, if_neg hrefused]
  by_cases hshort : payload.length < atLeast
  · rw [if_pos hshort, if_pos hshort]
    rfl
  · rw [if_neg hshort, if_neg hshort]
    exact h (Nat.not_lt.mp hshort)

/-- `decodeSendDataCallback` and `decodeSendDataMultiCallback`. -/
def decodeTransmitCallback (commandId : UInt8) (frame : ZwaveDataFrame) :
    Read (Option SendDataCallback) :=
  guarded (frame.valid = false ∨ frame.commandId ≠ commandId) 2 frame.payload do
    let callbackId ← frame.payload.readAt 0
    let txStatus ← frame.payload.readAt 1
    return some { callbackId, txStatus }

/-- `decodeApplicationCommand`. -/
def decodeApplicationCommand (frame : ZwaveDataFrame) : Read (Option ApplicationCommand) :=
  guarded (frame.valid = false ∨ frame.commandId ≠ cmdApplicationCommand) 3 frame.payload do
    let rxStatus ← frame.payload.readAt 0
    let sourceNodeId ← frame.payload.readAt 1
    let ccLen := (← frame.payload.readAt 2).toNat
    if ccLen = 0 ∨ frame.payload.length < 3 + ccLen then return none
    else
      let ccData ← frame.payload.readSpan 3 ccLen
      return some { rxStatus, sourceNodeId, ccData }

/-- The frame is no response to the command. -/
def NoAnswer (commandId : UInt8) (frame : ZwaveDataFrame) : Prop :=
  frame.valid = false ∨ frame.commandId ≠ commandId ∨ frame.frameType ≠ .response

instance (commandId : UInt8) (frame : ZwaveDataFrame) : Decidable (NoAnswer commandId frame) :=
  inferInstanceAs (Decidable (_ ∨ _))

/-- The loop of `decodeVersion` that looks for the end of the string. -/
def versionLength (payload : Bytes) : ℕ → ℕ → Read ℕ
  | 0, len => return len
  | left + 1, len => do
    if (← payload.readAt len) ≠ 0 then versionLength payload left (len + 1) else return len

/-- `decodeVersion`. -/
def decodeVersion (frame : ZwaveDataFrame) : Read (Option VersionResponse) :=
  guarded (NoAnswer cmdGetVersion frame) (versionStringLen + 1) frame.payload do
    let len ← versionLength frame.payload versionStringLen 0
    let version ← frame.payload.readSpan 0 len
    let libraryType ← frame.payload.readAt versionStringLen
    return some { version, libraryType }

/-- `decodeInitData`. -/
def decodeInitData (frame : ZwaveDataFrame) : Read (Option InitDataResponse) :=
  guarded (NoAnswer cmdSerialApiGetInitData frame) initDataHeader frame.payload do
    let serialApiVersion ← frame.payload.readAt 0
    let capabilities ← frame.payload.readAt 1
    let bitmapLen := (← frame.payload.readAt 2).toNat
    if frame.payload.length < initDataHeader + bitmapLen + initDataTrailer then return none
    else
      let bitmap ← (List.range bitmapLen).mapM fun byteIdx =>
        frame.payload.readAt (initDataHeader + byteIdx)
      let chipType ← frame.payload.readAt (initDataHeader + bitmapLen)
      let chipVersion ← frame.payload.readAt (initDataHeader + bitmapLen + 1)
      return some
        { serialApiVersion, capabilities, chipType, chipVersion, nodeIds := bitmapNodeIds bitmap }

/-- `decodeNodeProtocolInfo`. -/
def decodeNodeProtocolInfo (frame : ZwaveDataFrame) : Read (Option NodeProtocolInfoResponse) :=
  guarded (NoAnswer cmdGetNodeProtocolInfo frame) npiPayloadBytes frame.payload do
    let capabilities ← frame.payload.readAt 0
    let security ← frame.payload.readAt 1
    let reserved ← frame.payload.readAt 2
    let basicDeviceType ← frame.payload.readAt 3
    let genericDeviceType ← frame.payload.readAt 4
    let specificDeviceType ← frame.payload.readAt 5
    return some
      { capabilities, security, reserved, basicDeviceType, genericDeviceType, specificDeviceType }

/-- `decodeMemoryId`. -/
def decodeMemoryId (frame : ZwaveDataFrame) : Read (Option MemoryIdResponse) :=
  guarded (NoAnswer cmdMemoryGetId frame) (homeIdLen + 1) frame.payload do
    let homeId ← (List.range homeIdLen).mapM fun idx => frame.payload.readAt idx
    let controllerNodeId ← frame.payload.readAt homeIdLen
    return some { homeId, controllerNodeId }

/-- `decodeRemoveFailedNodeResponse`. -/
def decodeRemoveFailedNodeResponse (frame : ZwaveDataFrame) :
    Read (Option FailedNodeRemoval.RemoveFailedNodeResponse) :=
  guarded (NoAnswer FailedNodeRemoval.cmdRemoveFailedNodeId frame) 1 frame.payload do
    let status ← frame.payload.readAt 0
    return some { status }

/-- `decodeRemoveFailedNodeCallback`. -/
def decodeRemoveFailedNodeCallback (frame : ZwaveDataFrame) :
    Read (Option FailedNodeRemoval.RemoveFailedNodeCallback) :=
  guarded (frame.valid = false ∨ frame.commandId ≠ FailedNodeRemoval.cmdRemoveFailedNodeId ∨
      frame.frameType ≠ .request) 2 frame.payload do
    let sessionId ← frame.payload.readAt 0
    let status ← frame.payload.readAt 1
    return some { sessionId, status }

/-- `decodeRequestNodeInfoResponse`. -/
def decodeRequestNodeInfoResponse (frame : ZwaveDataFrame) : Read (Option Bool) :=
  guarded (NoAnswer cmdRequestNodeInfo frame) 1 frame.payload do
    return some ((← frame.payload.readAt 0) != 0)

/-- `decodeApplicationUpdate`. -/
def decodeApplicationUpdate (frame : ZwaveDataFrame) : Read (Option ApplicationUpdate) :=
  guarded (frame.valid = false ∨ frame.commandId ≠ cmdApplicationUpdate ∨
      frame.frameType ≠ .request) 3 frame.payload do
    let status ← frame.payload.readAt 0
    let nodeId ← frame.payload.readAt 1
    let length := (← frame.payload.readAt 2).toNat
    let stop := min frame.payload.length (3 + length)
    if status = statusNodeInfoReceived ∧ stop ≥ 6 then
      let basicDeviceType ← frame.payload.readAt 3
      let genericDeviceType ← frame.payload.readAt 4
      let specificDeviceType ← frame.payload.readAt 5
      let commandClasses ← if stop > 6 then frame.payload.readSpan 6 (stop - 6) else pure []
      return some
        { status, nodeId,
          info := { basicDeviceType, genericDeviceType, specificDeviceType, commandClasses } }
    else return some { status, nodeId }

/-- The block that ends a node callback. -/
def decodeNodeInfo (payload : Bytes) (offset : ℕ) : Read NodeInfo :=
  if payload.length ≤ offset then return {}
  else do
    let bLen := (← payload.readAt offset).toNat
    let ccLen := bLen - 3
    let offset := offset + 1
    let (info, offset) : NodeInfo × ℕ ←
      if bLen ≥ 3 ∧ payload.length ≥ offset + 3 then do
        let basicDeviceType ← payload.readAt offset
        let genericDeviceType ← payload.readAt (offset + 1)
        let specificDeviceType ← payload.readAt (offset + 2)
        pure ({ basicDeviceType, genericDeviceType, specificDeviceType }, offset + 3)
      else pure ({}, offset)
    if ccLen > 0 ∧ payload.length ≥ offset + ccLen then
      let commandClasses ← payload.readSpan offset ccLen
      return { info with commandClasses }
    else return info

/-- `decodeNodeCallback`. -/
def decodeNodeCallback (frame : ZwaveDataFrame) (nodeId16Bit : Bool) :
    Read (Option NodeStatusCallback) :=
  if frame.valid = false then return none
  else
    guarded (frame.commandId ≠ cmdAddNodeToNetwork ∧ frame.commandId ≠ cmdRemoveNodeFromNetwork) 3
      frame.payload do
    let sessionId ← frame.payload.readAt 0
    let status ← frame.payload.readAt 1
    let out : NodeStatusCallback := { commandId := frame.commandId, sessionId, status }
    if nodeId16Bit then
      if frame.payload.length < 4 then return some out
      else
        let high ← frame.payload.readAt 2
        let low ← frame.payload.readAt 3
        let info ← decodeNodeInfo frame.payload 4
        return some { out with nodeId := high.toUInt16 <<< 8 ||| low.toUInt16, info }
    else
      let nodeId ← frame.payload.readAt 2
      let info ← decodeNodeInfo frame.payload 3
      return some { out with nodeId := nodeId.toUInt16, info }

/-! ## Each is within its frame -/

variable {frame : ZwaveDataFrame} {payload : Bytes}

/-- Read with checks, the transmit callback's decoder succeeds on every frame and gives what the
unchecked one does. -/
theorem decodeTransmitCallback_eq (commandId : UInt8) (frame : ZwaveDataFrame) :
    decodeTransmitCallback commandId frame = .ok (HostApi.decodeTransmitCallback commandId frame) := by
  refine guarded_eq fun hlength => ?_
  rw [Bytes.readAt_of_lt (by omega), Bytes.readAt_of_lt (by omega)]
  rfl

/-- Read with checks, the application command's decoder succeeds on every frame with the same
result. The command's length is compared with what is left before the bytes are read. -/
theorem decodeApplicationCommand_eq (frame : ZwaveDataFrame) :
    decodeApplicationCommand frame = .ok (HostApi.decodeApplicationCommand frame) := by
  refine guarded_eq fun hlength => ?_
  rw [Bytes.readAt_of_lt (by omega), Bytes.readAt_of_lt (by omega), Bytes.readAt_of_lt (by omega)]
  simp only [Read.ok_bind, Read.pure_eq_ok]
  by_cases hcut : (frame.payload.byte 2).toNat = 0 ∨
      frame.payload.length < 3 + (frame.payload.byte 2).toNat
  · rw [if_pos hcut, if_pos hcut]
  · rw [if_neg hcut, if_neg hcut, Bytes.readSpan_of_le (by omega)]
    rfl

/-- The loop stays within a string that the payload holds, and ends at the first zero or with it. -/
theorem versionLength_eq {left len : ℕ} (h : len + left ≤ payload.length) :
    versionLength payload left len =
      .ok (len + (((payload.drop len).take left).takeWhile (· ≠ 0)).length) := by
  induction left generalizing len with
  | zero => simp [versionLength]
  | succ left ih =>
    rw [versionLength, Bytes.readAt_of_lt (by omega), Bytes.drop_eq_byte_cons (by omega),
      List.take_succ_cons]
    simp only [Read.ok_bind, Read.pure_eq_ok]
    by_cases hzero : payload.byte len = 0
    · simp [hzero]
    · rw [if_pos hzero, ih (by omega), List.takeWhile_cons_of_pos (by simpa using hzero),
        List.length_cons, Nat.add_assoc, Nat.add_comm 1]

/-- Read with checks, the version decoder succeeds on every frame with the same result. -/
theorem decodeVersion_eq (frame : ZwaveDataFrame) :
    decodeVersion frame = .ok (HostApi.decodeVersion frame) := by
  refine guarded_eq fun hlength => ?_
  have hlen : 0 + versionStringLen ≤ frame.payload.length := by omega
  -- What the loop has counted is copied out again.
  have hstring : frame.payload.subspan 0
      ((frame.payload.take versionStringLen).takeWhile (· ≠ 0)).length =
        (frame.payload.take versionStringLen).takeWhile (· ≠ 0) :=
    List.prefix_iff_eq_take.mp ((List.takeWhile_prefix _).trans (List.take_prefix _ _)) |>.symm
  have hwithin : ((frame.payload.take versionStringLen).takeWhile (· ≠ 0)).length ≤
      versionStringLen :=
    Nat.le_trans (List.takeWhile_prefix _).length_le (List.length_take_le _ _)
  rw [versionLength_eq hlen, Bytes.readAt_of_lt (by omega), List.drop_zero, Nat.zero_add]
  simp only [Read.ok_bind]
  rw [Bytes.readSpan_of_le (by omega), hstring]
  rfl

/-- Reading the bytes of a span one by one succeeds inside the payload and gives the span. -/
theorem mapM_readAt {offset count : ℕ} (h : offset + count ≤ payload.length) :
    ((List.range count).mapM fun i => payload.readAt (offset + i)) =
      .ok (payload.subspan offset count) := by
  induction count with
  | zero => rfl
  | succ count ih =>
    rw [List.range_succ, List.mapM_append, ih (by omega), List.mapM_cons,
      Bytes.readAt_of_lt (by omega), Bytes.subspan_succ (by omega)]
    rfl

/-- Read with checks, the init data decoder succeeds on every frame with the same result. The
bitmask's length is compared with what is left before the bits are read. -/
theorem decodeInitData_eq (frame : ZwaveDataFrame) :
    decodeInitData frame = .ok (HostApi.decodeInitData frame) := by
  refine guarded_eq fun hlength => ?_
  have hheader : 3 ≤ frame.payload.length := hlength
  rw [Bytes.readAt_of_lt (by omega), Bytes.readAt_of_lt (by omega), Bytes.readAt_of_lt (by omega)]
  simp only [Read.ok_bind, Read.pure_eq_ok]
  by_cases hcut : frame.payload.length <
      initDataHeader + (frame.payload.byte 2).toNat + initDataTrailer
  · rw [if_pos hcut, if_pos hcut]
  · have htrailer : initDataTrailer = 2 := rfl
    rw [if_neg hcut, if_neg hcut, mapM_readAt (by omega), Bytes.readAt_of_lt (by omega),
      Bytes.readAt_of_lt (by omega)]
    rfl

/-- Read with checks, the node protocol info decoder succeeds on every frame with the same
result. -/
theorem decodeNodeProtocolInfo_eq (frame : ZwaveDataFrame) :
    decodeNodeProtocolInfo frame = .ok (HostApi.decodeNodeProtocolInfo frame) := by
  refine guarded_eq fun hlength => ?_
  have hbytes : 6 ≤ frame.payload.length := hlength
  rw [Bytes.readAt_of_lt (by omega), Bytes.readAt_of_lt (by omega), Bytes.readAt_of_lt (by omega),
    Bytes.readAt_of_lt (by omega), Bytes.readAt_of_lt (by omega), Bytes.readAt_of_lt (by omega)]
  rfl

/-- Read with checks, the memory id decoder succeeds on every frame with the same result. -/
theorem decodeMemoryId_eq (frame : ZwaveDataFrame) :
    decodeMemoryId frame = .ok (HostApi.decodeMemoryId frame) := by
  refine guarded_eq fun hlength => ?_
  have hhomeId := mapM_readAt (show 0 + homeIdLen ≤ frame.payload.length by omega)
  simp only [Nat.zero_add] at hhomeId
  rw [hhomeId, Bytes.readAt_of_lt (by omega)]
  rfl

/-- Read with checks, the failed-node removal's response decoder succeeds on every frame with the
same result. -/
theorem decodeRemoveFailedNodeResponse_eq (frame : ZwaveDataFrame) :
    decodeRemoveFailedNodeResponse frame =
      .ok (FailedNodeRemoval.decodeRemoveFailedNodeResponse frame) := by
  refine guarded_eq fun hlength => ?_
  rw [Bytes.readAt_of_lt (by omega)]
  rfl

/-- Read with checks, the failed-node removal's callback decoder succeeds on every frame with the
same result. -/
theorem decodeRemoveFailedNodeCallback_eq (frame : ZwaveDataFrame) :
    decodeRemoveFailedNodeCallback frame =
      .ok (FailedNodeRemoval.decodeRemoveFailedNodeCallback frame) := by
  refine guarded_eq fun hlength => ?_
  rw [Bytes.readAt_of_lt (by omega), Bytes.readAt_of_lt (by omega)]
  rfl

/-- Read with checks, the decoder of the answer to a node info request succeeds on every frame with
the same result. -/
theorem decodeRequestNodeInfoResponse_eq (frame : ZwaveDataFrame) :
    decodeRequestNodeInfoResponse frame = .ok (HostApi.decodeRequestNodeInfoResponse frame) := by
  refine guarded_eq fun hlength => ?_
  rw [Bytes.readAt_of_lt (by omega)]
  rfl

/-- Read with checks, the application update decoder succeeds on every frame with the same result,
also where no node information block follows. -/
theorem decodeApplicationUpdate_eq (frame : ZwaveDataFrame) :
    decodeApplicationUpdate frame = .ok (HostApi.decodeApplicationUpdate frame) := by
  refine guarded_eq fun hlength => ?_
  rw [Bytes.readAt_of_lt (by omega), Bytes.readAt_of_lt (by omega), Bytes.readAt_of_lt (by omega)]
  simp only [Read.ok_bind, Read.pure_eq_ok]
  -- The list ends with the payload, whatever length the frame declares.
  have hstop : min frame.payload.length (3 + (frame.payload.byte 2).toNat) ≤ frame.payload.length :=
    Nat.min_le_left _ _
  generalize min frame.payload.length (3 + (frame.payload.byte 2).toNat) = stop at hstop ⊢
  by_cases hinfo : frame.payload.byte 0 = statusNodeInfoReceived ∧ stop ≥ 6
  · have hsix := hinfo.2
    rw [if_pos hinfo, if_pos hinfo, Bytes.readAt_of_lt (by omega), Bytes.readAt_of_lt (by omega),
      Bytes.readAt_of_lt (by omega)]
    simp only [Read.ok_bind]
    by_cases hclasses : stop > 6
    · rw [if_pos hclasses, Bytes.readSpan_of_le (by omega)]
      rfl
    · -- What the other model takes of nothing is nothing.
      rw [if_neg hclasses, show stop - 6 = 0 by omega]
      rfl
  · rw [if_neg hinfo, if_neg hinfo]

/-- Read with checks, the node information block's decoder succeeds at every offset with the same
result: it compares the offset and the block's own length with the payload first. -/
theorem decodeNodeInfo_eq (payload : Bytes) (offset : ℕ) :
    decodeNodeInfo payload offset = .ok (HostApi.decodeNodeInfo payload offset) := by
  unfold decodeNodeInfo HostApi.decodeNodeInfo
  -- Each read is behind the guard that makes it a read in the payload.
  by_cases hends : payload.length ≤ offset
  · rw [if_pos hends, if_pos hends]
    rfl
  rw [if_neg hends, if_neg hends, Bytes.readAt_of_lt (by omega)]
  simp only [Read.ok_bind, Read.pure_eq_ok]
  -- The three device types are there, or the classes follow the length at once.
  by_cases htypes : (payload.byte offset).toNat ≥ 3 ∧ payload.length ≥ offset + 1 + 3
  · rw [if_pos htypes, if_pos htypes, Bytes.readAt_of_lt (by omega), Bytes.readAt_of_lt (by omega),
      Bytes.readAt_of_lt (by omega)]
    simp only [Read.ok_bind]
    by_cases hclasses : (payload.byte offset).toNat - 3 > 0 ∧
        payload.length ≥ offset + 1 + 3 + ((payload.byte offset).toNat - 3)
    · rw [if_pos hclasses, if_pos hclasses, Bytes.readSpan_of_le (by omega)]
      rfl
    · rw [if_neg hclasses, if_neg hclasses]
  · rw [if_neg htypes, if_neg htypes]
    dsimp only
    by_cases hclasses : (payload.byte offset).toNat - 3 > 0 ∧
        payload.length ≥ offset + 1 + ((payload.byte offset).toNat - 3)
    · rw [if_pos hclasses, if_pos hclasses, Bytes.readSpan_of_le (by omega)]
      rfl
    · rw [if_neg hclasses, if_neg hclasses]

/-- Read with checks, the inclusion and exclusion callback's decoder succeeds on every frame with
the same result, for both widths of a node id. -/
theorem decodeNodeCallback_eq (frame : ZwaveDataFrame) (nodeId16Bit : Bool) :
    decodeNodeCallback frame nodeId16Bit = .ok (HostApi.decodeNodeCallback frame nodeId16Bit) := by
  unfold decodeNodeCallback HostApi.decodeNodeCallback
  by_cases hvalid : frame.valid = false
  · rw [if_pos hvalid, if_pos hvalid]
    rfl
  rw [if_neg hvalid, if_neg hvalid]
  refine guarded_eq fun hlength => ?_
  rw [Bytes.readAt_of_lt (by omega), Bytes.readAt_of_lt (by omega), Bytes.readAt_of_lt (by omega)]
  simp only [Read.ok_bind, Read.pure_eq_ok]
  cases nodeId16Bit with
  | false =>
    rw [if_neg Bool.false_ne_true, if_neg Bool.false_ne_true, decodeNodeInfo_eq]
    rfl
  | true =>
    rw [if_pos rfl, if_pos rfl]
    by_cases hcut : frame.payload.length < 4
    · rw [if_pos hcut, if_pos hcut]
    · rw [if_neg hcut, if_neg hcut, Bytes.readAt_of_lt (by omega), decodeNodeInfo_eq]
      rfl

end Checked

/-- None of the decoders reads past the end of the frame's payload, and each finds what the other
model has it find. -/
structure ReadsInside (frame : ZwaveDataFrame) : Prop where
  /-- `decodeSendDataCallback`. -/
  sendDataCallback : Checked.decodeTransmitCallback cmdSendData frame =
    .ok (decodeSendDataCallback frame)
  /-- `decodeSendDataMultiCallback`. -/
  sendDataMultiCallback : Checked.decodeTransmitCallback cmdSendDataMulti frame =
    .ok (decodeSendDataMultiCallback frame)
  /-- `decodeApplicationCommand`. -/
  applicationCommand : Checked.decodeApplicationCommand frame = .ok (decodeApplicationCommand frame)
  /-- `decodeVersion`. -/
  version : Checked.decodeVersion frame = .ok (decodeVersion frame)
  /-- `decodeInitData`. -/
  initData : Checked.decodeInitData frame = .ok (decodeInitData frame)
  /-- `decodeNodeProtocolInfo`. -/
  nodeProtocolInfo : Checked.decodeNodeProtocolInfo frame = .ok (decodeNodeProtocolInfo frame)
  /-- `decodeMemoryId`. -/
  memoryId : Checked.decodeMemoryId frame = .ok (decodeMemoryId frame)
  /-- `decodeRemoveFailedNodeResponse`. -/
  removeFailedNodeResponse : Checked.decodeRemoveFailedNodeResponse frame =
    .ok (FailedNodeRemoval.decodeRemoveFailedNodeResponse frame)
  /-- `decodeRemoveFailedNodeCallback`. -/
  removeFailedNodeCallback : Checked.decodeRemoveFailedNodeCallback frame =
    .ok (FailedNodeRemoval.decodeRemoveFailedNodeCallback frame)
  /-- `decodeRequestNodeInfoResponse`. -/
  requestNodeInfoResponse : Checked.decodeRequestNodeInfoResponse frame =
    .ok (decodeRequestNodeInfoResponse frame)
  /-- `decodeApplicationUpdate`. -/
  applicationUpdate : Checked.decodeApplicationUpdate frame = .ok (decodeApplicationUpdate frame)
  /-- `decodeNodeCallback`, with node ids of either width. -/
  nodeCallback : ∀ nodeId16Bit, Checked.decodeNodeCallback frame nodeId16Bit =
    .ok (decodeNodeCallback frame nodeId16Bit)

/-- No decoder reads outside the payload, whatever the frame. -/
theorem readsInside (frame : ZwaveDataFrame) : ReadsInside frame where
  sendDataCallback := Checked.decodeTransmitCallback_eq cmdSendData frame
  sendDataMultiCallback := Checked.decodeTransmitCallback_eq cmdSendDataMulti frame
  applicationCommand := Checked.decodeApplicationCommand_eq frame
  version := Checked.decodeVersion_eq frame
  initData := Checked.decodeInitData_eq frame
  nodeProtocolInfo := Checked.decodeNodeProtocolInfo_eq frame
  memoryId := Checked.decodeMemoryId_eq frame
  removeFailedNodeResponse := Checked.decodeRemoveFailedNodeResponse_eq frame
  removeFailedNodeCallback := Checked.decodeRemoveFailedNodeCallback_eq frame
  requestNodeInfoResponse := Checked.decodeRequestNodeInfoResponse_eq frame
  applicationUpdate := Checked.decodeApplicationUpdate_eq frame
  nodeCallback := Checked.decodeNodeCallback_eq frame

/-! ## Whose frame it is -/

/-- A decoder that `handleIncomingFrame` consults. -/
inductive Decoder
  /-- `decodeSendDataCallback`. -/
  | sendDataCallback
  /-- `decodeSendDataMultiCallback`. -/
  | sendDataMultiCallback
  /-- `decodeApplicationCommand`. -/
  | applicationCommand
  /-- `decodeRemoveFailedNodeResponse`. -/
  | removeFailedNodeResponse
  /-- `decodeRemoveFailedNodeCallback`. -/
  | removeFailedNodeCallback
  /-- `decodeRequestNodeInfoResponse`. -/
  | requestNodeInfoResponse
  /-- `decodeApplicationUpdate`. -/
  | applicationUpdate
  /-- `decodeNodeCallback`. -/
  | nodeCallback
  deriving DecidableEq, Repr

/-- The decoders in the order in which `handleIncomingFrame` consults them. -/
def Decoder.consulted : List Decoder :=
  [.sendDataCallback, .sendDataMultiCallback, .applicationCommand, .removeFailedNodeResponse,
    .removeFailedNodeCallback, .requestNodeInfoResponse, .applicationUpdate, .nodeCallback]

/-- The decoder returns a value for the frame. -/
def Decoder.takes (frame : ZwaveDataFrame) : Decoder → Bool
  | .sendDataCallback => (decodeSendDataCallback frame).isSome
  | .sendDataMultiCallback => (decodeSendDataMultiCallback frame).isSome
  | .applicationCommand => (decodeApplicationCommand frame).isSome
  | .removeFailedNodeResponse => (FailedNodeRemoval.decodeRemoveFailedNodeResponse frame).isSome
  | .removeFailedNodeCallback => (FailedNodeRemoval.decodeRemoveFailedNodeCallback frame).isSome
  | .requestNodeInfoResponse => (decodeRequestNodeInfoResponse frame).isSome
  | .applicationUpdate => (decodeApplicationUpdate frame).isSome
  | .nodeCallback => (decodeNodeCallback frame).isSome

/-- The decoder for a command, and, where there are two, for a direction. -/
def decoderOf (frame : ZwaveDataFrame) : Option Decoder :=
  if frame.commandId = cmdSendData then some .sendDataCallback
  else if frame.commandId = cmdSendDataMulti then some .sendDataMultiCallback
  else if frame.commandId = cmdApplicationCommand then some .applicationCommand
  else if frame.commandId = FailedNodeRemoval.cmdRemoveFailedNodeId then
    if frame.frameType = .response then some .removeFailedNodeResponse
    else some .removeFailedNodeCallback
  else if frame.commandId = cmdRequestNodeInfo then some .requestNodeInfoResponse
  else if frame.commandId = cmdApplicationUpdate then some .applicationUpdate
  else if frame.commandId = cmdAddNodeToNetwork ∨ frame.commandId = cmdRemoveNodeFromNetwork then
    some .nodeCallback
  else none

variable {frame : ZwaveDataFrame}

/-- A frame that decodes as a failed-node removal's response is a response. -/
theorem frameType_of_removeFailedNodeResponse {resp : FailedNodeRemoval.RemoveFailedNodeResponse}
    (h : FailedNodeRemoval.decodeRemoveFailedNodeResponse frame = some resp) :
    frame.frameType = .response := by
  unfold FailedNodeRemoval.decodeRemoveFailedNodeResponse at h
  split at h
  · cases h
  next hheader => exact not_not.mp fun hne => hheader (Or.inr (Or.inr hne))

/-- A frame that decodes as a failed-node removal's callback is a request. -/
theorem frameType_of_removeFailedNodeCallback
    {callback : FailedNodeRemoval.RemoveFailedNodeCallback}
    (h : FailedNodeRemoval.decodeRemoveFailedNodeCallback frame = some callback) :
    frame.frameType = .request := by
  unfold FailedNodeRemoval.decodeRemoveFailedNodeCallback at h
  split at h
  · cases h
  next hheader => exact not_not.mp fun hne => hheader (Or.inr (Or.inr hne))

/-- At most one decoder takes a frame: the one for what the frame is. -/
theorem decoderOf_eq_of_takes {d : Decoder} (h : d.takes frame = true) :
    decoderOf frame = some d := by
  unfold decoderOf
  -- A decoder that takes the frame has checked its command, and where two share one, its type.
  cases d with
  | sendDataCallback =>
    obtain ⟨callback, hdecoded⟩ := Option.isSome_iff_exists.mp h
    rw [commandId_of_transmitCallback hdecoded]
    rfl
  | sendDataMultiCallback =>
    obtain ⟨callback, hdecoded⟩ := Option.isSome_iff_exists.mp h
    rw [commandId_of_transmitCallback hdecoded]
    rfl
  | applicationCommand =>
    obtain ⟨command, hdecoded⟩ := Option.isSome_iff_exists.mp h
    rw [commandId_of_applicationCommand hdecoded]
    rfl
  | removeFailedNodeResponse =>
    obtain ⟨resp, hdecoded⟩ := Option.isSome_iff_exists.mp h
    rw [commandId_of_removeFailedNodeResponse hdecoded,
      frameType_of_removeFailedNodeResponse hdecoded]
    rfl
  | removeFailedNodeCallback =>
    obtain ⟨callback, hdecoded⟩ := Option.isSome_iff_exists.mp h
    rw [commandId_of_removeFailedNodeCallback hdecoded,
      frameType_of_removeFailedNodeCallback hdecoded]
    rfl
  | requestNodeInfoResponse =>
    obtain ⟨accepted, hdecoded⟩ := Option.isSome_iff_exists.mp h
    rw [commandId_of_requestNodeInfoResponse hdecoded]
    rfl
  | applicationUpdate =>
    obtain ⟨update, hdecoded⟩ := Option.isSome_iff_exists.mp h
    rw [commandId_of_applicationUpdate hdecoded]
    rfl
  | nodeCallback =>
    obtain ⟨callback, hdecoded⟩ := Option.isSome_iff_exists.mp h
    obtain hadd | hremove := commandId_of_nodeCallback hdecoded
    · rw [hadd]
      rfl
    · rw [hremove]
      rfl

/-- The decoders stay inside the frame, and at most one of those that `handleIncomingFrame` consults
returns a value for it. -/
theorem decoders_inside_and_unique (frame : ZwaveDataFrame) :
    ReadsInside frame ∧ (Decoder.consulted.filter (Decoder.takes frame)).length ≤ 1 := by
  refine ⟨readsInside frame, ?_⟩
  have hsublist : (Decoder.consulted.filter (Decoder.takes frame)).Sublist
      (Decoder.consulted.filter (decoderOf frame = some ·)) :=
    List.monotone_filter_right _ fun d htakes => decide_eq_true (decoderOf_eq_of_takes htakes)
  -- A decoder stands in the list once.
  have honce : ∀ o : Option Decoder, (Decoder.consulted.filter (o = some ·)).length ≤ 1 := by
    intro o
    cases o with
    | none => decide
    | some d => cases d <;> decide
  exact Nat.le_trans hsublist.length_le (honce _)

end Zwaved.Protocol.HostApi
