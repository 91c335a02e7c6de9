import Zwaved.Protocol.HostApi

/-!
# The protocol thread

The loop of `ProtocolThread.cpp`. While a dongle is connected, the thread takes a request from its
queue and sends it, or else pumps the transport; either way the frames that come in are handed to
`handleIncomingFrame`. A request is sent in two steps, before and after `sendRequest`, and what
comes in while the transport waits for the ACK is handled in between. After a SendData with a
callback the thread goes on pumping until the callback has come or a deadline has passed.

An inclusion or exclusion that is started goes into the session tracker, which lives as long as the
connection, and a callback with a terminal status ends it. A callback that says what the new node is
puts the node into the registry and keeps it in `pendingInclusion` for the terminal callback.
-/

namespace Zwaved.Protocol

open Reactive Serial HostApi

/-- `MessageBus::SessionStatus`. -/
structure SessionStatus where
  /-- `active`. -/
  active : Bool := false
  /-- `commandId`. -/
  commandId : UInt8 := 0
  /-- `sessionId`. -/
  sessionId : UInt8 := 0
  deriving DecidableEq, Repr

/-- The status of a session under way. -/
def SessionStatus.ofSession (session : ActiveSession) : SessionStatus :=
  { active := true, commandId := session.commandId, sessionId := session.sessionId }

/-- What the thread publishes, sends and writes to the node registry. -/
inductive ThreadOutput
  /-- A frame is handed to the transport. -/
  | send (frame : ZwaveDataFrame)
  /-- SessionStatus. -/
  | sessionStatus (status : SessionStatus)
  /-- NodeInclusionStatus, or NodeExclusionStatus. -/
  | nodeStatus (callback : NodeStatusCallback)
  /-- NodeIncluded. -/
  | nodeIncluded (nodeId : NodeId) (commandClasses : Bytes)
  /-- SendDataCallback. -/
  | sendDataCallback (callback : SendDataCallback)
  /-- ApplicationCommand. -/
  | applicationCommand (command : ApplicationCommand)
  /-- RemoveFailedNodeStatus. -/
  | removeFailedNodeStatus (status : FailedNodeRemoval.RemoveFailedNodeStatus)
  /-- RequestNodeInfoStatus. -/
  | requestNodeInfoStatus (nodeId : NodeId) (sessionId : UInt8) (accepted : Bool)
  /-- NodeInfoUpdate. -/
  | nodeInfoUpdate (update : ApplicationUpdate)
  /-- `NodeRegistry::add`. -/
  | registryAdd (nodeId : NodeId) (info : NodeInfo)
  /-- `NodeRegistry::remove`. -/
  | registryRemove (nodeId : NodeId)
  /-- `NodeRegistry::updateDeviceClass` and, for a list that is not empty,
  `NodeRegistry::updateCommandClasses`. -/
  | registryUpdate (nodeId : NodeId) (info : NodeInfo)
  deriving DecidableEq

/-- An effect of the removal of a failed node. -/
def ThreadOutput.ofRemoval : FailedNodeRemoval.Effect → ThreadOutput
  | .publish status => .removeFailedNodeStatus status
  | .remove nodeId => .registryRemove nodeId
  | .send frame => .send frame

/-- Where `dispatchRequest` stands. -/
inductive Phase
  /-- Nothing is being dispatched. -/
  | idle
  /-- `sendRequest` is under way. -/
  | sending (request : Request)
  /-- A SendData was sent and waits for its callback. -/
  | throttled
  deriving DecidableEq

/-- The thread's state, and that of `runConnectedSession` while a dongle is connected. -/
structure ProtocolThread where
  /-- `runConnectedSession` is running. -/
  connected : Bool := false
  /-- Where `dispatchRequest` stands. -/
  phase : Phase := .idle
  /-- The session tracker's `current`. -/
  tracker : Option ActiveSession := none
  /-- `pendingSendData`. -/
  pendingSendData : Option UInt8 := none
  /-- `activeFailedNodeRemoval`. -/
  activeFailedNodeRemoval : FailedNodeRemoval.Slot := none
  /-- `activeRequestNodeInfo`: the node and the session. -/
  activeRequestNodeInfo : Option (NodeId × UInt8) := none
  /-- `pendingInclusion`. -/
  pendingInclusion : Option (NodeId × Bytes) := none
  deriving DecidableEq

namespace ProtocolThread

/-! ## Frames -/

/-- `STATUS_PROTOCOL_DONE`. -/
def statusProtocolDone : UInt8 := 0x05

/-- The callback says what the node is: `hasNodeInfo`. -/
def HasNodeInfo (info : NodeInfo) : Prop :=
  info.commandClasses ≠ [] ∨ info.basicDeviceType ≠ 0 ∨ info.genericDeviceType ≠ 0 ∨
    info.specificDeviceType ≠ 0

instance : DecidablePred HasNodeInfo := fun _ => inferInstanceAs (Decidable (_ ∨ _))

/-- The callback of an inclusion names the new node and says what it is. -/
def Reports (callback : NodeStatusCallback) : Prop :=
  callback.commandId = cmdAddNodeToNetwork ∧ callback.nodeId ≠ 0 ∧ HasNodeInfo callback.info

instance : DecidablePred Reports := fun _ => inferInstanceAs (Decidable (_ ∧ _))

/-- The callback of an exclusion names the node that is gone. -/
def Excludes (callback : NodeStatusCallback) : Prop :=
  callback.commandId = cmdRemoveNodeFromNetwork ∧ callback.nodeId ≠ 0 ∧
    (callback.status = statusProtocolDone ∨ callback.status = statusCompleted)

instance : DecidablePred Excludes := fun _ => inferInstanceAs (Decidable (_ ∧ _))

/-- The first half of the node callback branch: the registry is told. -/
def register (s : ProtocolThread) (callback : NodeStatusCallback) : ProtocolThread × List ThreadOutput :=
  if Reports callback then
    ({ s with pendingInclusion := some (callback.nodeId.toUInt8, callback.info.commandClasses) },
      [.registryAdd callback.nodeId.toUInt8 callback.info])
  else if Excludes callback then (s, [.registryRemove callback.nodeId.toUInt8])
  else (s, [])

/-- The second half: a terminal status ends the session, whichever it is, and announces the node
that is pending, if it ends an inclusion. -/
def finish (s : ProtocolThread) (callback : NodeStatusCallback) : ProtocolThread × List ThreadOutput :=
  if isTerminalStatus callback.commandId callback.status then
    let announced := match s.pendingInclusion with
      | some (nodeId, commandClasses) =>
        if callback.commandId = cmdAddNodeToNetwork then [.nodeIncluded nodeId commandClasses] else []
      | none => []
    ({ s with pendingInclusion := none, tracker := none }, announced ++ [.sessionStatus {}])
  else (s, [])

/-- The node callback branch of `handleIncomingFrame`. -/
def onNodeCallback (s : ProtocolThread) (callback : NodeStatusCallback) :
    ProtocolThread × List ThreadOutput :=
  let (s, registered) := s.register callback
  let (s, finished) := s.finish callback
  (s, .nodeStatus callback :: registered ++ finished)

/-- `handleRequestNodeInfoResponse`. -/
def onRequestNodeInfoResponse (s : ProtocolThread) (accepted : Bool) :
    ProtocolThread × List ThreadOutput :=
  let pending := s.activeRequestNodeInfo.getD (0, 0)
  ({ s with activeRequestNodeInfo := none },
    [.requestNodeInfoStatus pending.1 pending.2 accepted])

/-- `handleApplicationUpdateFrame`. -/
def onApplicationUpdate (update : ApplicationUpdate) : List ThreadOutput :=
  .nodeInfoUpdate update ::
    if update.status = statusNodeInfoReceived ∧ update.nodeId ≠ 0 then
      [.registryUpdate update.nodeId update.info]
    else []

/-- `handleIncomingFrame`: the first decoder that takes the frame has it. -/
def handleIncomingFrame (s : ProtocolThread) (frame : ZwaveDataFrame) :
    ProtocolThread × List ThreadOutput :=
  match decodeSendDataCallback frame with
  | some callback => (s, [.sendDataCallback callback])
  | none =>
  match decodeSendDataMultiCallback frame with
  | some callback => (s, [.sendDataCallback callback])
  | none =>
  match decodeApplicationCommand frame with
  | some command => (s, [.applicationCommand command])
  | none =>
  if (FailedNodeRemoval.decodeRemoveFailedNodeResponse frame).isSome ∨
      (FailedNodeRemoval.decodeRemoveFailedNodeCallback frame).isSome then
    let (slot, effects) :=
      FailedNodeRemoval.handleRemoveFailedNodeFrame s.activeFailedNodeRemoval frame
    ({ s with activeFailedNodeRemoval := slot }, effects.map ThreadOutput.ofRemoval)
  else
  match decodeRequestNodeInfoResponse frame with
  | some accepted => s.onRequestNodeInfoResponse accepted
  | none =>
  match decodeApplicationUpdate frame with
  | some update => (s, onApplicationUpdate update)
  | none =>
  match decodeNodeCallback frame with
  | some callback => s.onNodeCallback callback
  | none => (s, [])

/-- The callback that the throttle waits for has come. -/
def clearPendingSendData (s : ProtocolThread) (frame : ZwaveDataFrame) : ProtocolThread :=
  match s.pendingSendData, (decodeSendDataCallback frame).or (decodeSendDataMultiCallback frame) with
  | some pending, some callback =>
    if callback.callbackId = pending then { s with pendingSendData := none } else s
  | _, _ => s

/-- The handler that `runConnectedSession` gives the transport. -/
def onFrame (s : ProtocolThread) (frame : ZwaveDataFrame) : ProtocolThread × List ThreadOutput :=
  (s.clearPendingSendData frame).handleIncomingFrame frame

/-! ## Requests -/

/-- The session that a request starts: every mode does but those that stop one. -/
def starts : Request → Option ActiveSession
  | .network (.addNode mode _ _ _ _ sessionId _ _ _) =>
    if mode ≠ addModeStop ∧ mode ≠ addModeStopReplication then
      some { commandId := cmdAddNodeToNetwork, sessionId }
    else none
  | .network (.removeNode mode _ _ sessionId) =>
    if mode ≠ removeModeStop then some { commandId := cmdRemoveNodeFromNetwork, sessionId } else none
  | _ => none

/-- `dispatchRequest`, up to `sendRequest`. -/
def dispatchRequest (s : ProtocolThread) (request : Request) : ProtocolThread × List ThreadOutput :=
  let (s, begun) : ProtocolThread × List ThreadOutput := match starts request with
    | some session => ({ s with tracker := some session }, [.sessionStatus (.ofSession session)])
    | none => (s, [])
  let s := match request with
    | .network (.removeFailedNode nodeId sessionId) =>
      { s with activeFailedNodeRemoval := some { nodeId, sessionId } }
    | .network (.requestNodeInfo nodeId sessionId) =>
      { s with activeRequestNodeInfo := some (nodeId, sessionId) }
    | _ => s
  ({ s with phase := .sending request }, begun ++ [.send (encodeRequest request)])

/-- A SendData was sent, or not: without a callback the thread only sleeps. -/
def afterSendData (s : ProtocolThread) (callbackId : UInt8) (sent : Bool) :
    ProtocolThread × List ThreadOutput :=
  if sent then
    if callbackId ≠ 0 then
      ({ s with phase := .throttled, pendingSendData := some callbackId }, [])
    else ({ s with phase := .idle }, [])
  else ({ s with phase := .idle },
    [.sendDataCallback { callbackId, txStatus := transmitCompleteFail }])

/-- `dispatchRequest`, after `sendRequest` returned `sent`. -/
def afterSend (s : ProtocolThread) (request : Request) (sent : Bool) :
    ProtocolThread × List ThreadOutput :=
  match request with
  | .network (.addNode ..) | .network (.removeNode ..) => ({ s with phase := .idle }, [])
  | .network (.removeFailedNode nodeId sessionId) =>
    if sent then ({ s with phase := .idle }, [])
    else ({ s with phase := .idle, activeFailedNodeRemoval := none },
      [.removeFailedNodeStatus
        { nodeId, sessionId, phase := .response, status := FailedNodeRemoval.statusRemoveFail }])
  | .network (.requestNodeInfo nodeId sessionId) =>
    if sent then ({ s with phase := .idle }, [])
    else ({ s with phase := .idle, activeRequestNodeInfo := none },
      [.requestNodeInfoStatus nodeId sessionId false])
  | .sendData request => s.afterSendData request.callbackId sent
  | .sendDataMulti request => s.afterSendData request.callbackId sent

/-! ## Runs -/

/-- What happens on the thread. -/
inductive Event
  /-- A dongle was opened and looked at: `runConnectedSession` is called. -/
  | connect
  /-- The dongle is gone, and `runConnectedSession` returns. -/
  | disconnect
  /-- A request is taken from the queue. -/
  | dispatch (request : Request)
  /-- `sendRequest` returns. -/
  | sent (ok : Bool)
  /-- The transport hands in a frame, during a send or from the pump. -/
  | frame (frame : ZwaveDataFrame)
  /-- The throttle looks whether the callback has come or the deadline has passed. -/
  | resume (deadline : Bool)
  deriving DecidableEq

/-- One event; one that cannot happen where the thread stands changes nothing. A new connection
finds everything cleared. -/
def step (s : ProtocolThread) : Event → ProtocolThread × List ThreadOutput
  | .connect => if s.connected then (s, []) else ({ connected := true }, [])
  | .disconnect =>
    if s.connected ∧ s.phase = .idle then
      ({ s with connected := false, tracker := none, pendingSendData := none }, [])
    else (s, [])
  | .dispatch request =>
    if s.connected ∧ s.phase = .idle then s.dispatchRequest request else (s, [])
  | .sent ok =>
    match s.phase with
    | .sending request => s.afterSend request ok
    | .idle | .throttled => (s, [])
  | .frame frame => if s.connected then s.onFrame frame else (s, [])
  | .resume deadline =>
    if s.phase = .throttled ∧ (s.pendingSendData = none ∨ deadline) then
      ({ s with phase := .idle, pendingSendData := none }, [])
    else (s, [])

/-! ## What a frame does -/

variable {frame : ZwaveDataFrame}

/-- The first three decoders take the frames of their own commands only. -/
theorem firstDecoders_eq_none (hsendData : frame.commandId ≠ cmdSendData)
    (hmulti : frame.commandId ≠ cmdSendDataMulti)
    (hcommand : frame.commandId ≠ cmdApplicationCommand) :
    decodeSendDataCallback frame = none ∧ decodeSendDataMultiCallback frame = none ∧
      decodeApplicationCommand frame = none := by
  simp only [Option.eq_none_iff_forall_ne_some]
  exact ⟨fun _ heq => hsendData (commandId_of_transmitCallback heq),
    fun _ heq => hmulti (commandId_of_transmitCallback heq),
    fun _ heq => hcommand (commandId_of_applicationCommand heq)⟩

/-- The last decoder gets its frames: none of the others takes them. -/
theorem onFrame_nodeCallback (s : ProtocolThread) {callback : NodeStatusCallback}
    (h : decodeNodeCallback frame = some callback) : s.onFrame frame = s.onNodeCallback callback := by
  have hcommand := commandId_of_nodeCallback h
  -- The command of the frame is one of the two, so no other decoder takes it.
  have hother : ∀ commandId, commandId ≠ cmdAddNodeToNetwork →
      commandId ≠ cmdRemoveNodeFromNetwork → frame.commandId ≠ commandId := by
    rintro commandId hadd hremove rfl
    exact hcommand.elim hadd hremove
  obtain ⟨hsendData, hmulti, hcommandFrame⟩ := firstDecoders_eq_none
    (hother _ (by decide) (by decide)) (hother _ (by decide) (by decide))
    (hother _ (by decide) (by decide))
  have hresponse : FailedNodeRemoval.decodeRemoveFailedNodeResponse frame = none := by
    rw [Option.eq_none_iff_forall_ne_some]
    exact fun _ heq => hother _ (by decide) (by decide) (commandId_of_removeFailedNodeResponse heq)
  have hremoved : FailedNodeRemoval.decodeRemoveFailedNodeCallback frame = none := by
    rw [Option.eq_none_iff_forall_ne_some]
    exact fun _ heq => hother _ (by decide) (by decide) (commandId_of_removeFailedNodeCallback heq)
  have hinfo : decodeRequestNodeInfoResponse frame = none := by
    rw [Option.eq_none_iff_forall_ne_some]
    exact fun _ heq => hother _ (by decide) (by decide) (commandId_of_requestNodeInfoResponse heq)
  have hupdate : decodeApplicationUpdate frame = none := by
    rw [Option.eq_none_iff_forall_ne_some]
    exact fun _ heq => hother _ (by decide) (by decide) (commandId_of_applicationUpdate heq)
  -- Neither is it the callback of a SendData, so that stays pending.
  have hclear : s.clearPendingSendData frame = s := by
    unfold clearPendingSendData
    rw [hsendData, hmulti]
    cases s.pendingSendData <;> rfl
  unfold onFrame handleIncomingFrame
  rw [hclear, hsendData, hmulti, hcommandFrame, hresponse, hremoved, hinfo, hupdate, h]
  simp only [Option.isSome_none, Bool.false_eq_true, or_self, if_false]

/-- Nothing of the session is touched, neither the tracker nor the node that is pending, and neither
is spoken of. -/
structure Aside (s : ProtocolThread) (result : ProtocolThread × List ThreadOutput) : Prop where
  /-- The connection stays. -/
  connected : result.1.connected = s.connected
  /-- The session stays. -/
  tracker : result.1.tracker = s.tracker
  /-- The node that is pending stays. -/
  pendingInclusion : result.1.pendingInclusion = s.pendingInclusion
  /-- No status is published. -/
  quiet : ∀ status, ThreadOutput.sessionStatus status ∉ result.2
  /-- No node is announced. -/
  unannounced : ∀ nodeId commandClasses, ThreadOutput.nodeIncluded nodeId commandClasses ∉ result.2

/-- A handler that does nothing stays aside of the exchange. -/
theorem Aside.refl (s : ProtocolThread) : Aside s (s, []) :=
  ⟨rfl, rfl, rfl, by simp, by simp⟩

/-- Clearing a pending SendData stays aside of the exchange and leaves its phase. -/
theorem aside_clearPendingSendData (s : ProtocolThread) (frame : ZwaveDataFrame) :
    Aside s (s.clearPendingSendData frame, []) ∧ (s.clearPendingSendData frame).phase = s.phase := by
  unfold clearPendingSendData
  split
  · split
    · exact ⟨⟨rfl, rfl, rfl, by simp, by simp⟩, rfl⟩
    · exact ⟨Aside.refl s, rfl⟩
  · exact ⟨Aside.refl s, rfl⟩

/-- A frame that is no node callback stays aside of the exchange and leaves its phase. -/
theorem aside_onFrame (s : ProtocolThread) (h : decodeNodeCallback frame = none) :
    Aside s (s.onFrame frame) ∧ (s.onFrame frame).1.phase = s.phase := by
  have hclear := aside_clearPendingSendData s frame
  unfold onFrame handleIncomingFrame
  generalize s.clearPendingSendData frame = s' at hclear ⊢
  obtain ⟨⟨hconnected, htracker, hpending, -, -⟩, hphase⟩ := hclear
  split
  -- The branches of `handleIncomingFrame` before that of a node's callback.
  · exact ⟨⟨hconnected, htracker, hpending, by simp, by simp⟩, hphase⟩
  split
  · exact ⟨⟨hconnected, htracker, hpending, by simp, by simp⟩, hphase⟩
  split
  · exact ⟨⟨hconnected, htracker, hpending, by simp, by simp⟩, hphase⟩
  split
  -- A frame of a removal reports and removes, and does not start or end a session.
  · refine ⟨⟨hconnected, htracker, hpending, ?_, ?_⟩, hphase⟩
    · intro status hmem
      obtain ⟨effect, -, heffect⟩ := List.mem_map.mp hmem
      cases effect <;> cases heffect
    · intro nodeId commandClasses hmem
      obtain ⟨effect, -, heffect⟩ := List.mem_map.mp hmem
      cases effect <;> cases heffect
  split
  · exact ⟨⟨hconnected, htracker, hpending, by simp [onRequestNodeInfoResponse],
      by simp [onRequestNodeInfoResponse]⟩, hphase⟩
  split
  · next update _ =>
    refine ⟨⟨hconnected, htracker, hpending, ?_, ?_⟩, hphase⟩
    · intro status
      unfold onApplicationUpdate
      split <;> simp
    · intro nodeId commandClasses
      unfold onApplicationUpdate
      split <;> simp
  -- No branch takes the frame.
  rw [h]
  exact ⟨⟨hconnected, htracker, hpending, by simp, by simp⟩, hphase⟩

/-- The registry is told without a word about the session. -/
theorem register_spec (s : ProtocolThread) (callback : NodeStatusCallback) :
    (s.register callback).1.connected = s.connected ∧ (s.register callback).1.phase = s.phase ∧
      (s.register callback).1.tracker = s.tracker ∧
      (∀ status, ThreadOutput.sessionStatus status ∉ (s.register callback).2) ∧
      ∀ nodeId commandClasses,
        ThreadOutput.nodeIncluded nodeId commandClasses ∉ (s.register callback).2 := by
  unfold register
  split
  · exact ⟨rfl, rfl, rfl, by simp, by simp⟩
  split
  · exact ⟨rfl, rfl, rfl, by simp, by simp⟩
  · exact ⟨rfl, rfl, rfl, by simp, by simp⟩

/-- What comes after a send has nothing to do with the session either. -/
theorem aside_afterSend (s : ProtocolThread) (request : Request) (sent : Bool) :
    Aside s (s.afterSend request sent) ∧
      ∀ other, (s.afterSend request sent).1.phase ≠ .sending other := by
  -- A SendData, sent or not, ends its sending and keeps to its own callback.
  have hsendData : ∀ callbackId, Aside s (s.afterSendData callbackId sent) ∧
      ∀ other, (s.afterSendData callbackId sent).1.phase ≠ .sending other := by
    intro callbackId
    unfold afterSendData
    split
    · split
      · exact ⟨⟨rfl, rfl, rfl, by simp, by simp⟩, by simp⟩
      · exact ⟨⟨rfl, rfl, rfl, by simp, by simp⟩, by simp⟩
    · exact ⟨⟨rfl, rfl, rfl, by simp, by simp⟩, by simp⟩
  unfold afterSend
  -- The requests in the order of the source. Only a failed one reports something.
  split
  · exact ⟨⟨rfl, rfl, rfl, by simp, by simp⟩, by simp⟩
  · exact ⟨⟨rfl, rfl, rfl, by simp, by simp⟩, by simp⟩
  · split
    · exact ⟨⟨rfl, rfl, rfl, by simp, by simp⟩, by simp⟩
    · exact ⟨⟨rfl, rfl, rfl, by simp, by simp⟩, by simp⟩
  · split
    · exact ⟨⟨rfl, rfl, rfl, by simp, by simp⟩, by simp⟩
    · exact ⟨⟨rfl, rfl, rfl, by simp, by simp⟩, by simp⟩
  · exact hsendData _
  · exact hsendData _

/-- What a dispatch does to the session: it starts one, or leaves it alone. -/
theorem dispatchRequest_spec (s : ProtocolThread) (request : Request) :
    (s.dispatchRequest request).1.phase = .sending request ∧
      (s.dispatchRequest request).1.connected = s.connected ∧
      (s.dispatchRequest request).1.pendingInclusion = s.pendingInclusion ∧
      (s.dispatchRequest request).1.tracker = (starts request).or s.tracker ∧
      (s.dispatchRequest request).2 =
        ((starts request).map fun session => ThreadOutput.sessionStatus (.ofSession session)).toList ++
          [.send (encodeRequest request)] := by
  unfold dispatchRequest
  cases hstarts : starts request with
  | none =>
    dsimp only
    split <;> exact ⟨rfl, rfl, rfl, rfl, rfl⟩
  | some session =>
    dsimp only
    split <;> exact ⟨rfl, rfl, rfl, rfl, rfl⟩

end ProtocolThread

end Zwaved.Protocol
