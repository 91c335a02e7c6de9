import Zwaved.Protocol.Thread
import Zwaved.Serial.FrameTransport

/-!
# What a send carries

A SendData frame says by its own length fields where its data ends, and the controller reads it by
these (`parseSendData`, `parseSendDataMulti`). The encoders write the lengths as bytes, and
`setPayload` refuses a payload of more than 250 bytes; they do not look at what it returns, and then
the frame goes out with no payload at all. So a request is carried as it is exactly if its payload
fits the frame (`carriedOrRefused_iff`).
-/

namespace Zwaved.Protocol

open Serial HostApi

/-! ## What the controller reads -/

/-- The request that a SendData payload carries: a node, a length, the data, the options and the
callback. -/
def parseSendData : Bytes → Option SendDataRequest
  | nodeId :: length :: rest =>
    match rest.drop length.toNat with
    | [txOptions, callbackId] =>
      some { nodeId, data := rest.take length.toNat, txOptions, callbackId }
    | _ => none
  | _ => none

/-- The request that a SendDataMulti payload carries: two lists, each behind its length. -/
def parseSendDataMulti : Bytes → Option SendDataMultiRequest
  | count :: rest =>
    match rest.drop count.toNat with
    | length :: tail =>
      match tail.drop length.toNat with
      | [txOptions, callbackId] =>
        some
          { nodeIds := rest.take count.toNat
            data := tail.take length.toNat
            txOptions
            callbackId }
      | _ => none
    | [] => none
  | [] => none

/-- The request that a frame carries, if it carries a send. -/
def parseSend (frame : ZwaveDataFrame) : Option Request :=
  if frame.commandId = cmdSendData then (parseSendData frame.payload).map Request.sendData
  else if frame.commandId = cmdSendDataMulti then
    (parseSendDataMulti frame.payload).map Request.sendDataMulti
  else none

/-- The request that the controller reads off the link. -/
def readSend (bytes : Bytes) : Option Request :=
  let (frame, parsed) := ({} : ZwaveDataFrame).parseFromBuffer bytes
  if parsed then parseSend frame else none

/-- The thread reports that a send failed. -/
def ReportsFailure (callbackId : UInt8) (outputs : List ThreadOutput) : Prop :=
  .sendDataCallback { callbackId, txStatus := transmitCompleteFail } ∈ outputs

/-- The frame of a request carries the request, or its failure is reported, and nothing else is
written to the dongle. -/
structure CarriedOrRefused (s : ProtocolThread) (t : FrameTransport) (request : Request)
    (callbackId : UInt8) (attempts : Vector FrameTransport.Attempt FrameTransport.maxSendRetries) :
    Prop where
  /-- The frame carries the request, or the send is reported as failed. -/
  carried : parseSend (encodeRequest request) = some request ∨
    ReportsFailure callbackId
      (s.afterSend request (t.sendRequest (encodeRequest request) attempts).2.2).2
  /-- What is written is a frame that carries the request. -/
  written : ∀ bytes, .write bytes ∈ (t.sendRequest (encodeRequest request) attempts).2.1 →
    readSend bytes = some request

/-- The payload that `encodeSendData` makes. -/
def sendDataPayload (request : SendDataRequest) : Bytes :=
  [request.nodeId, UInt8.ofNat request.data.length] ++ request.data ++
    [request.txOptions, request.callbackId]

/-- The payload that `encodeSendDataMulti` makes. -/
def sendDataMultiPayload (request : SendDataMultiRequest) : Bytes :=
  UInt8.ofNat request.nodeIds.length :: request.nodeIds ++
    UInt8.ofNat request.data.length :: request.data ++ [request.txOptions, request.callbackId]

/-! ## Round trips -/

/-- A SendData request reads back from its payload, if its data fits the length byte. -/
theorem parseSendData_payload (request : SendDataRequest) (h : request.data.length < 256) :
    parseSendData (sendDataPayload request) = some request := by
  have hlength : (UInt8.ofNat request.data.length).toNat = request.data.length := by
    rw [UInt8.toNat_ofNat']
    exact Nat.mod_eq_of_lt h
  have hpayload : sendDataPayload request = request.nodeId :: UInt8.ofNat request.data.length ::
      (request.data ++ [request.txOptions, request.callbackId]) := by
    simp [sendDataPayload]
  rw [hpayload, parseSendData, hlength, List.drop_left, List.take_left]

/-- A multicast request reads back from its payload, if its nodes and its data fit the length
bytes. -/
theorem parseSendDataMulti_payload (request : SendDataMultiRequest)
    (hnodes : request.nodeIds.length < 256) (h : request.data.length < 256) :
    parseSendDataMulti (sendDataMultiPayload request) = some request := by
  have hcount : (UInt8.ofNat request.nodeIds.length).toNat = request.nodeIds.length := by
    rw [UInt8.toNat_ofNat']
    exact Nat.mod_eq_of_lt hnodes
  have hlength : (UInt8.ofNat request.data.length).toNat = request.data.length := by
    rw [UInt8.toNat_ofNat']
    exact Nat.mod_eq_of_lt h
  have hpayload : sendDataMultiPayload request = UInt8.ofNat request.nodeIds.length ::
      (request.nodeIds ++ UInt8.ofNat request.data.length ::
        (request.data ++ [request.txOptions, request.callbackId])) := by
    simp [sendDataMultiPayload]
  rw [hpayload, parseSendDataMulti, hcount, List.drop_left, List.take_left]
  dsimp only
  rw [hlength, List.drop_left, List.take_left]

/-! ## Frames that fit -/

variable {s : ProtocolThread} {t : FrameTransport} {request : Request} {callbackId : UInt8}
  {attempts : Vector FrameTransport.Attempt FrameTransport.maxSendRetries}

/-- A payload that fits a frame is carried by the request frame. -/
theorem requestFrame_of_le (commandId : UInt8) {payload : Bytes}
    (h : payload.length ≤ ZwaveDataFrame.maxPayloadSize) :
    requestFrame commandId payload = { commandId, payload, valid := true } := by
  unfold requestFrame ZwaveDataFrame.setPayload
  rw [if_neg (Nat.not_lt.mpr h)]
  rfl

/-- A payload that does not fit a frame is dropped: the request frame carries none. -/
theorem requestFrame_of_gt (commandId : UInt8) {payload : Bytes}
    (h : ZwaveDataFrame.maxPayloadSize < payload.length) :
    requestFrame commandId payload = { commandId, valid := true } := by
  unfold requestFrame ZwaveDataFrame.setPayload
  rw [if_pos h]
  rfl

/-- The controller reads off the link what the frame carries. -/
theorem readSend_toBuffer {frame : ZwaveDataFrame}
    (h : frame.payload.length ≤ ZwaveDataFrame.maxPayloadSize) :
    readSend frame.toBuffer = parseSend frame := by
  unfold readSend
  rw [ZwaveDataFrame.parseFromBuffer_toBuffer _ h]
  rfl

/-- A frame that carries its request is as good as the link. -/
theorem carriedOrRefused_of_parseSend (s : ProtocolThread) (t : FrameTransport)
    (callbackId : UInt8) (attempts : Vector FrameTransport.Attempt FrameTransport.maxSendRetries)
    (hlength : (encodeRequest request).payload.length ≤ ZwaveDataFrame.maxPayloadSize)
    (h : parseSend (encodeRequest request) = some request) :
    CarriedOrRefused s t request callbackId attempts := by
  refine ⟨Or.inl h, fun bytes hwrite => ?_⟩
  obtain ⟨rfl, -⟩ := (FrameTransport.write_mem_sendAttempts_iff t _ bytes true _).mp hwrite
  rw [readSend_toBuffer hlength, h]

/-- A frame that does not is harmless exactly if the port accepts no write: only then is nothing
written, and the send fails. -/
theorem carriedOrRefused_iff_unwritten
    (hfails : ReportsFailure callbackId (s.afterSend request false).2)
    (hlength : (encodeRequest request).payload.length ≤ ZwaveDataFrame.maxPayloadSize)
    (h : parseSend (encodeRequest request) ≠ some request) :
    CarriedOrRefused s t request callbackId attempts ↔
      ∀ attempt ∈ attempts.toList, attempt.written = false := by
  constructor
  -- The frame that was written does not read as the request, so nothing may be written.
  · intro hsend attempt hattempt
    by_contra hwritten
    have hwrite := (FrameTransport.write_mem_sendAttempts_iff t (encodeRequest request).toBuffer _
      true attempts.toList).mpr ⟨rfl, attempt, hattempt, by simpa using hwritten⟩
    have hread := hsend.written _ hwrite
    rw [readSend_toBuffer hlength] at hread
    exact h hread
  -- If no attempt writes, the request fails and says so.
  · intro hunwritten
    constructor
    · refine Or.inr ?_
      unfold FrameTransport.sendRequest
      rw [FrameTransport.sendAttempts_of_unwritten t _ true hunwritten]
      exact hfails
    · intro bytes hwrite
      obtain ⟨-, attempt, hattempt, hwritten⟩ :=
        (FrameTransport.write_mem_sendAttempts_iff t _ bytes true _).mp hwrite
      rw [hunwritten attempt hattempt] at hwritten
      cases hwritten

/-- A frame that carries its request if the payload fits, and none if it is empty, is right exactly
if the payload fits or nothing is written. -/
theorem carriedOrRefused_iff_fits {commandId : UInt8} {payload : Bytes}
    (hframe : encodeRequest request = requestFrame commandId payload)
    (hfails : ReportsFailure callbackId (s.afterSend request false).2)
    (hread : payload.length ≤ ZwaveDataFrame.maxPayloadSize →
      parseSend { commandId, payload, valid := true } = some request)
    (hempty : parseSend { commandId, valid := true } ≠ some request) :
    CarriedOrRefused s t request callbackId attempts ↔
      payload.length ≤ ZwaveDataFrame.maxPayloadSize ∨
        ∀ attempt ∈ attempts.toList, attempt.written = false := by
  -- A payload that fits is sent whole, and one that does not is cut to nothing.
  by_cases hfits : payload.length ≤ ZwaveDataFrame.maxPayloadSize
  · have hwhole := hframe.trans (requestFrame_of_le commandId hfits)
    refine iff_of_true (carriedOrRefused_of_parseSend s t _ attempts ?_ ?_) (Or.inl hfits)
    · rw [hwhole]
      exact hfits
    · rw [hwhole]
      exact hread hfits
  · have hcut := hframe.trans (requestFrame_of_gt commandId (Nat.lt_of_not_le hfits))
    rw [or_iff_right hfits]
    refine carriedOrRefused_iff_unwritten hfails ?_ ?_
    · rw [hcut]
      exact Nat.zero_le _
    · rw [hcut]
      exact hempty

/-- A SendData frame that was not sent is reported as failed. -/
theorem reportsFailure_afterSendData (s : ProtocolThread) (callbackId : UInt8) :
    ReportsFailure callbackId (s.afterSendData callbackId false).2 := List.mem_singleton_self _

/-- A send is carried as it is, or fails and is reported, whatever the transport does, exactly if
its payload fits a frame: 246 bytes of data, less one for each node of a multicast. Otherwise an
empty payload goes out as soon as the port accepts a write. -/
theorem carriedOrRefused_iff (s : ProtocolThread) (t : FrameTransport)
    (attempts : Vector FrameTransport.Attempt FrameTransport.maxSendRetries) :
    (∀ request : SendDataRequest,
      CarriedOrRefused s t (.sendData request) request.callbackId attempts ↔
        4 + request.data.length ≤ ZwaveDataFrame.maxPayloadSize ∨
          ∀ attempt ∈ attempts.toList, attempt.written = false) ∧
    ∀ request : SendDataMultiRequest,
      CarriedOrRefused s t (.sendDataMulti request) request.callbackId attempts ↔
        4 + request.nodeIds.length + request.data.length ≤ ZwaveDataFrame.maxPayloadSize ∨
          ∀ attempt ∈ attempts.toList, attempt.written = false := by
  have hmax : ZwaveDataFrame.maxPayloadSize = 250 := rfl
  constructor
  -- The payload of a SendData has four bytes besides the data.
  · intro request
    have hlength : (sendDataPayload request).length = 4 + request.data.length := by
      simp [sendDataPayload]
      omega
    rw [← hlength]
    refine carriedOrRefused_iff_fits rfl (reportsFailure_afterSendData s _) (fun hfits => ?_)
      fun hparse => by cases hparse
    exact congrArg (Option.map Request.sendData) (parseSendData_payload request (by omega))
  -- That of a multicast has the node ids besides.
  · intro request
    have hlength : (sendDataMultiPayload request).length =
        4 + request.nodeIds.length + request.data.length := by
      simp [sendDataMultiPayload]
      omega
    rw [← hlength]
    refine carriedOrRefused_iff_fits rfl (reportsFailure_afterSendData s _) (fun hfits => ?_)
      fun hparse => by cases hparse
    exact congrArg (Option.map Request.sendDataMulti)
      (parseSendDataMulti_payload request (by omega) (by omega))

set_option maxRecDepth 4000 in
/-- The dongle acknowledges at once. A request with 247 bytes of data goes out without a payload,
and nothing is reported. -/
theorem not_carriedOrRefused_long : ¬ CarriedOrRefused {} {}
    (.sendData { nodeId := 5, data := List.replicate 247 0x20, txOptions := 0x25, callbackId := 7 })
    7 #v[{ written := true, reads := [[ack]] }, { written := false, reads := [] },
      { written := false, reads := [] }] := by
  intro h
  have hread := h.written [0x01, 0x03, 0x00, 0x13, 0xEF] (by decide)
  exact absurd hread (by decide)

end Zwaved.Protocol
