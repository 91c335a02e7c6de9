import Zwaved.FailedNodeRemoval
import Zwaved.Protocol.Commands

/-!
# The frames of the Host API

`HostApi.cpp`: the frame that each request of the protocol thread is sent as, and the decoders of
what the controller sends of its own accord, and `HostApiSession.cpp`, which follows the one
inclusion or exclusion under way. The decoders that only the introspection of the dongle uses are in
`Introspection`, and the pair for removing a failed node is in `FailedNodeRemoval`.

Every decoder asks for a command of its own, so of the decoders that the thread tries one after the
other, no two take the same frame (`commandId_of_*`).
-/

namespace Zwaved.Protocol

open Serial

namespace HostApi

/-- `CMD_APPLICATION_COMMAND`. -/
def cmdApplicationCommand : UInt8 := 0x04

/-- `CMD_SEND_DATA`. -/
def cmdSendData : UInt8 := 0x13

/-- `CMD_SEND_DATA_MULTI`. -/
def cmdSendDataMulti : UInt8 := 0x14

/-- `CMD_APPLICATION_UPDATE`. -/
def cmdApplicationUpdate : UInt8 := 0x49

/-- `CMD_ADD_NODE_TO_NETWORK`. -/
def cmdAddNodeToNetwork : UInt8 := 0x4A

/-- `CMD_REMOVE_NODE_FROM_NETWORK`. -/
def cmdRemoveNodeFromNetwork : UInt8 := 0x4B

/-- `CMD_REQUEST_NODE_INFO`. -/
def cmdRequestNodeInfo : UInt8 := 0x60

/-- `ADD_MODE_STOP`. -/
def addModeStop : UInt8 := 0x05

/-- `ADD_MODE_STOP_REPLICATION`. -/
def addModeStopReplication : UInt8 := 0x06

/-- `ADD_MODE_SMART_START_INCLUDE`. -/
def addModeSmartStartInclude : UInt8 := 0x08

/-- `REMOVE_MODE_STOP`. -/
def removeModeStop : UInt8 := 0x05

/-! ## Requests -/

/-- `MODE_MASK`. -/
def modeMask : UInt8 := 0x0F

/-- A flag of the first byte. -/
def flag (bit : UInt8) (set : Bool) : UInt8 := if set then 1 <<< bit else 0

/-- A request frame. -/
def requestFrame (commandId : UInt8) (payload : Bytes) : ZwaveDataFrame :=
  ((({} : ZwaveDataFrame).setHeader .request commandId).setPayload payload).1

/-- The frame of a request that manages the network: `encodeAddNode`, `encodeRemoveNode`,
`encodeRemoveFailedNode` and `encodeRequestNodeInfo`. -/
def encodeNetworkRequest : NetworkRequest → ZwaveDataFrame
  | .addNode mode power nwi protocolLongRange skipFlNeighbors sessionId includeHomeIds nwiHomeId
      authHomeId =>
    let flags := (mode &&& modeMask) ||| flag 7 power ||| flag 6 nwi ||| flag 5 protocolLongRange |||
      flag 4 skipFlNeighbors
    let homeIds := if includeHomeIds then
        nwiHomeId.toList ++ if mode = addModeSmartStartInclude then authHomeId.toList else []
      else []
    requestFrame cmdAddNodeToNetwork ([flags, sessionId] ++ homeIds)
  | .removeNode mode power nwe sessionId =>
    let flags := (mode &&& modeMask) ||| flag 7 power ||| flag 6 nwe
    requestFrame cmdRemoveNodeFromNetwork [flags, sessionId]
  | .removeFailedNode nodeId sessionId =>
    FailedNodeRemoval.encodeRemoveFailedNode { nodeId, sessionId }
  | .requestNodeInfo nodeId _ => requestFrame cmdRequestNodeInfo [nodeId]

/-- `encodeSendData`. -/
def encodeSendData (request : SendDataRequest) : ZwaveDataFrame :=
  requestFrame cmdSendData ([request.nodeId, UInt8.ofNat request.data.length] ++ request.data ++
    [request.txOptions, request.callbackId])

/-- `encodeSendDataMulti`. -/
def encodeSendDataMulti (request : SendDataMultiRequest) : ZwaveDataFrame :=
  requestFrame cmdSendDataMulti (UInt8.ofNat request.nodeIds.length :: request.nodeIds ++
    UInt8.ofNat request.data.length :: request.data ++ [request.txOptions, request.callbackId])

/-- The frame of a request. -/
def encodeRequest : Request → ZwaveDataFrame
  | .network request => encodeNetworkRequest request
  | .sendData request => encodeSendData request
  | .sendDataMulti request => encodeSendDataMulti request

/-! ## Callbacks -/

/-- `SendDataCallback`. -/
structure SendDataCallback where
  /-- `callbackId`. -/
  callbackId : UInt8
  /-- `txStatus`. -/
  txStatus : UInt8
  deriving DecidableEq, Repr

/-- A callback of the command that says how a transmission went. -/
def decodeTransmitCallback (commandId : UInt8) (frame : ZwaveDataFrame) : Option SendDataCallback :=
  if frame.valid = false ∨ frame.commandId ≠ commandId then none
  else if frame.payload.length < 2 then none
  else some { callbackId := frame.payload.byte 0, txStatus := frame.payload.byte 1 }

/-- `decodeSendDataCallback`. -/
def decodeSendDataCallback (frame : ZwaveDataFrame) : Option SendDataCallback :=
  decodeTransmitCallback cmdSendData frame

/-- `decodeSendDataMultiCallback`. -/
def decodeSendDataMultiCallback (frame : ZwaveDataFrame) : Option SendDataCallback :=
  decodeTransmitCallback cmdSendDataMulti frame

/-- `ApplicationCommand`. -/
structure ApplicationCommand where
  /-- `rxStatus`. -/
  rxStatus : UInt8
  /-- `sourceNodeId`. -/
  sourceNodeId : NodeId
  /-- `ccData`. -/
  ccData : Bytes
  deriving DecidableEq, Repr

/-- `decodeApplicationCommand`. -/
def decodeApplicationCommand (frame : ZwaveDataFrame) : Option ApplicationCommand :=
  if frame.valid = false ∨ frame.commandId ≠ cmdApplicationCommand then none
  else if frame.payload.length < 3 then none
  else
    let ccLen := (frame.payload.byte 2).toNat
    if ccLen = 0 ∨ frame.payload.length < 3 + ccLen then none
    else some
      { rxStatus := frame.payload.byte 0
        sourceNodeId := frame.payload.byte 1
        ccData := frame.payload.subspan 3 ccLen }

/-- `decodeRequestNodeInfoResponse`: whether the request was accepted. -/
def decodeRequestNodeInfoResponse (frame : ZwaveDataFrame) : Option Bool :=
  if frame.valid = false ∨ frame.commandId ≠ cmdRequestNodeInfo ∨ frame.frameType ≠ .response then
    none
  else if frame.payload.length < 1 then none
  else some (frame.payload.byte 0 != 0)

/-- What a node says of itself. -/
structure NodeInfo where
  /-- `basicDeviceType`. -/
  basicDeviceType : UInt8 := 0
  /-- `genericDeviceType`. -/
  genericDeviceType : UInt8 := 0
  /-- `specificDeviceType`. -/
  specificDeviceType : UInt8 := 0
  /-- `commandClasses`. -/
  commandClasses : Bytes := []
  deriving DecidableEq, Repr

/-- `ApplicationUpdate`. -/
structure ApplicationUpdate where
  /-- `status`. -/
  status : UInt8
  /-- `nodeId`. -/
  nodeId : NodeId
  /-- The device types and the classes. -/
  info : NodeInfo := {}
  deriving DecidableEq, Repr

/-- `STATUS_NODE_INFO_RECEIVED`. -/
def statusNodeInfoReceived : UInt8 := 0x84

/-- `decodeApplicationUpdate`. -/
def decodeApplicationUpdate (frame : ZwaveDataFrame) : Option ApplicationUpdate :=
  if frame.valid = false ∨ frame.commandId ≠ cmdApplicationUpdate ∨ frame.frameType ≠ .request then
    none
  else if frame.payload.length < 3 then none
  else
    let payload := frame.payload
    let update : ApplicationUpdate := { status := payload.byte 0, nodeId := payload.byte 1 }
    let stop := min payload.length (3 + (payload.byte 2).toNat)
    if update.status = statusNodeInfoReceived ∧ stop ≥ 6 then
      some { update with info :=
        { basicDeviceType := payload.byte 3
          genericDeviceType := payload.byte 4
          specificDeviceType := payload.byte 5
          commandClasses := payload.subspan 6 (stop - 6) } }
    else some update

/-- `NodeStatusCallback`. -/
structure NodeStatusCallback where
  /-- `commandId`: an inclusion or an exclusion. -/
  commandId : UInt8
  /-- `sessionId`. -/
  sessionId : UInt8
  /-- `status`. -/
  status : UInt8
  /-- `nodeId`. -/
  nodeId : UInt16 := 0
  /-- The device types and the classes. -/
  info : NodeInfo := {}
  deriving DecidableEq, Repr

/-- The block that ends a callback: its length, the device types and the classes. A class list that
runs past the payload is dropped. -/
def decodeNodeInfo (payload : Bytes) (offset : ℕ) : NodeInfo :=
  if payload.length ≤ offset then {}
  else
    let bLen := (payload.byte offset).toNat
    let ccLen := bLen - 3
    let offset := offset + 1
    let (info, offset) : NodeInfo × ℕ :=
      if bLen ≥ 3 ∧ payload.length ≥ offset + 3 then
        ({ basicDeviceType := payload.byte offset
           genericDeviceType := payload.byte (offset + 1)
           specificDeviceType := payload.byte (offset + 2) }, offset + 3)
      else ({}, offset)
    if ccLen > 0 ∧ payload.length ≥ offset + ccLen then
      { info with commandClasses := payload.subspan offset ccLen }
    else info

/-- `decodeNodeCallback`. -/
def decodeNodeCallback (frame : ZwaveDataFrame) (nodeId16Bit : Bool := false) :
    Option NodeStatusCallback :=
  if frame.valid = false then none
  else if frame.commandId ≠ cmdAddNodeToNetwork ∧ frame.commandId ≠ cmdRemoveNodeFromNetwork then
    none
  else if frame.payload.length < 3 then none
  else
    let payload := frame.payload
    let out : NodeStatusCallback :=
      { commandId := frame.commandId, sessionId := payload.byte 0, status := payload.byte 1 }
    if nodeId16Bit then
      if payload.length < 4 then some out
      else some { out with
        nodeId := (payload.byte 2).toUInt16 <<< 8 ||| (payload.byte 3).toUInt16
        info := decodeNodeInfo payload 4 }
    else some { out with
      nodeId := (payload.byte 2).toUInt16
      info := decodeNodeInfo payload 3 }

/-! ## Sessions -/

/-- `ActiveSession`. -/
structure ActiveSession where
  /-- `commandId`. -/
  commandId : UInt8
  /-- `sessionId`. -/
  sessionId : UInt8
  deriving DecidableEq, Repr

/-- `STATUS_COMPLETED`, which `HostApiSession.cpp` calls `STATUS_DONE_INCLUSION` and
`STATUS_DONE_EXCLUSION`. -/
def statusCompleted : UInt8 := 0x06

/-- `STATUS_FAILED_INCLUDE` and `STATUS_FAILED_EXCLUDE`. -/
def statusFailed : UInt8 := 0x07

/-- `STATUS_NOT_PRIMARY`. -/
def statusNotPrimary : UInt8 := 0x23

/-- `isTerminalStatus`. -/
def isTerminalStatus (commandId status : UInt8) : Bool :=
  if status = statusNotPrimary then true
  else if commandId = cmdAddNodeToNetwork then status = statusCompleted ∨ status = statusFailed
  else if commandId = cmdRemoveNodeFromNetwork then status = statusCompleted ∨ status = statusFailed
  else false

/-! ## Whose frame it is -/

variable {frame : ZwaveDataFrame}

/-- A frame that decodes as a transmit callback has the command that was asked for. -/
theorem commandId_of_transmitCallback {commandId : UInt8} {callback : SendDataCallback}
    (h : decodeTransmitCallback commandId frame = some callback) : frame.commandId = commandId := by
  unfold decodeTransmitCallback at h
  split at h
  · cases h
  next hheader => exact not_not.mp fun hne => hheader (Or.inr hne)

/-- A frame that decodes as an application command has its command id. -/
theorem commandId_of_applicationCommand {command : ApplicationCommand}
    (h : decodeApplicationCommand frame = some command) :
    frame.commandId = cmdApplicationCommand := by
  unfold decodeApplicationCommand at h
  split at h
  · cases h
  next hheader => exact not_not.mp fun hne => hheader (Or.inr hne)

/-- A frame that decodes as the answer to a node info request has its command id. -/
theorem commandId_of_requestNodeInfoResponse {accepted : Bool}
    (h : decodeRequestNodeInfoResponse frame = some accepted) :
    frame.commandId = cmdRequestNodeInfo := by
  unfold decodeRequestNodeInfoResponse at h
  split at h
  · cases h
  next hheader => exact not_not.mp fun hne => hheader (Or.inr (Or.inl hne))

/-- A frame that decodes as an application update has its command id. -/
theorem commandId_of_applicationUpdate {update : ApplicationUpdate}
    (h : decodeApplicationUpdate frame = some update) : frame.commandId = cmdApplicationUpdate := by
  unfold decodeApplicationUpdate at h
  split at h
  · cases h
  next hheader => exact not_not.mp fun hne => hheader (Or.inr (Or.inl hne))

/-- A frame that decodes as the response of a failed-node removal has its command id. -/
theorem commandId_of_removeFailedNodeResponse {resp : FailedNodeRemoval.RemoveFailedNodeResponse}
    (h : FailedNodeRemoval.decodeRemoveFailedNodeResponse frame = some resp) :
    frame.commandId = FailedNodeRemoval.cmdRemoveFailedNodeId := by
  unfold FailedNodeRemoval.decodeRemoveFailedNodeResponse at h
  split at h
  · cases h
  next hheader => exact not_not.mp fun hne => hheader (Or.inr (Or.inl hne))

/-- A frame that decodes as the callback of a failed-node removal has its command id. -/
theorem commandId_of_removeFailedNodeCallback {callback : FailedNodeRemoval.RemoveFailedNodeCallback}
    (h : FailedNodeRemoval.decodeRemoveFailedNodeCallback frame = some callback) :
    frame.commandId = FailedNodeRemoval.cmdRemoveFailedNodeId := by
  unfold FailedNodeRemoval.decodeRemoveFailedNodeCallback at h
  split at h
  · cases h
  next hheader => exact not_not.mp fun hne => hheader (Or.inr (Or.inl hne))

/-- What is decoded of a callback: one of the two commands, the header bytes, and the block unless
the payload ends within a node id of two bytes. -/
theorem decodeNodeCallback_spec {nodeId16Bit : Bool} {callback : NodeStatusCallback}
    (h : decodeNodeCallback frame nodeId16Bit = some callback) :
    (frame.commandId = cmdAddNodeToNetwork ∨ frame.commandId = cmdRemoveNodeFromNetwork) ∧
      3 ≤ frame.payload.length ∧ callback.commandId = frame.commandId ∧
      callback.info = if nodeId16Bit = true ∧ frame.payload.length < 4 then {}
        else decodeNodeInfo frame.payload (if nodeId16Bit then 4 else 3) := by
  unfold decodeNodeCallback at h
  -- The guards say that the frame is valid, has one of the two commands, and is long enough.
  split at h
  · cases h
  split at h
  · cases h
  next hother =>
  have hcommand : frame.commandId = cmdAddNodeToNetwork ∨
      frame.commandId = cmdRemoveNodeFromNetwork := by
    by_contra hne
    exact hother (not_or.mp hne)
  split at h
  · cases h
  next hlength =>
  dsimp only at h
  refine ⟨hcommand, Nat.le_of_not_lt hlength, ?_⟩
  -- With ids of two bytes the node information is one byte further, if it is there.
  cases nodeId16Bit with
  | false =>
    obtain rfl := Option.some.inj h
    exact ⟨rfl, rfl⟩
  | true =>
    rw [if_pos rfl] at h
    by_cases hshort : frame.payload.length < 4
    · rw [if_pos hshort] at h
      obtain rfl := Option.some.inj h
      exact ⟨rfl, (if_pos ⟨rfl, hshort⟩).symm⟩
    · rw [if_neg hshort] at h
      obtain rfl := Option.some.inj h
      exact ⟨rfl, (if_neg fun hcut => hshort hcut.2).symm⟩

/-- A frame that decodes as a node callback is one of an inclusion or of an exclusion. -/
theorem commandId_of_nodeCallback {nodeId16Bit : Bool} {callback : NodeStatusCallback}
    (h : decodeNodeCallback frame nodeId16Bit = some callback) :
    frame.commandId = cmdAddNodeToNetwork ∨ frame.commandId = cmdRemoveNodeFromNetwork :=
  (decodeNodeCallback_spec h).1

end HostApi

end Zwaved.Protocol
