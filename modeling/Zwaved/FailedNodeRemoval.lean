import Zwaved.Reactive.Run
import Zwaved.Serial.DataFrame

/-!
# Removing a failed node

`FUNC_ID_ZW_REMOVE_FAILED_NODE_ID`, as `ProtocolThread.cpp` handles it. A request names a node and a
session. The controller answers with a RESPONSE, which says whether the removal started, and later
with a callback, which carries the session but not the node. The node is therefore kept in a slot,
`activeFailedNodeRemoval`, from when the request is taken from the queue.

The slot is overwritten by the next request, which does not wait for the callback of the one before,
and the callback's session is never compared with the slot's. `attributed_of_inStep` says that this
is all that goes wrong: where every callback finds the request of its own session in the slot, a
removal and a published status are about the node that was requested.
-/

namespace Zwaved.FailedNodeRemoval

open Reactive Serial

/-- `CMD_REMOVE_FAILED_NODE_ID`. -/
def cmdRemoveFailedNodeId : UInt8 := 0x61

/-- `RemoveFailedNodeRequest`. -/
structure RemoveFailedNodeRequest where
  /-- `nodeId`. -/
  nodeId : NodeId
  /-- `sessionId`. -/
  sessionId : UInt8
  deriving DecidableEq, Repr

/-- `RemoveFailedNodeResponse`. -/
structure RemoveFailedNodeResponse where
  /-- `status`. -/
  status : UInt8
  deriving DecidableEq, Repr

/-- `RemoveFailedNodeResponse::STATUS_STARTED`. -/
def statusStarted : UInt8 := 0x00

/-- `RemoveFailedNodeResponse::STATUS_REMOVE_FAIL`. -/
def statusRemoveFail : UInt8 := 0x20

/-- `RemoveFailedNodeCallback`. -/
structure RemoveFailedNodeCallback where
  /-- `sessionId`. -/
  sessionId : UInt8
  /-- `status`. -/
  status : UInt8
  deriving DecidableEq, Repr

/-- `RemoveFailedNodeCallback::STATUS_REMOVED`. -/
def statusRemoved : UInt8 := 0x01

/-- `encodeRemoveFailedNode`. -/
def encodeRemoveFailedNode (request : RemoveFailedNodeRequest) : ZwaveDataFrame :=
  ((({} : ZwaveDataFrame).setHeader .request cmdRemoveFailedNodeId).setPayload
    [request.nodeId, request.sessionId]).1

/-- `decodeRemoveFailedNodeResponse`. -/
def decodeRemoveFailedNodeResponse (frame : ZwaveDataFrame) : Option RemoveFailedNodeResponse :=
  if frame.valid = false ∨ frame.commandId ≠ cmdRemoveFailedNodeId ∨ frame.frameType ≠ .response then
    none
  else if frame.payload.length < 1 then none
  else some { status := frame.payload.byte 0 }

/-- `decodeRemoveFailedNodeCallback`. -/
def decodeRemoveFailedNodeCallback (frame : ZwaveDataFrame) : Option RemoveFailedNodeCallback :=
  if frame.valid = false ∨ frame.commandId ≠ cmdRemoveFailedNodeId ∨ frame.frameType ≠ .request then
    none
  else if frame.payload.length < 2 then none
  else some { sessionId := frame.payload.byte 0, status := frame.payload.byte 1 }

/-- The `phase` of a status. -/
inductive Phase
  /-- `PHASE_RESPONSE`. -/
  | response
  /-- `PHASE_CALLBACK`. -/
  | callback
  deriving DecidableEq, Repr

/-- `MessageBus::RemoveFailedNodeStatus`. -/
structure RemoveFailedNodeStatus where
  /-- `nodeId`. -/
  nodeId : NodeId
  /-- `sessionId`. -/
  sessionId : UInt8
  /-- `phase`. -/
  phase : Phase
  /-- `status`. -/
  status : UInt8
  deriving DecidableEq, Repr

/-- What the protocol thread does. -/
inductive Effect
  /-- A status is published. -/
  | publish (status : RemoveFailedNodeStatus)
  /-- `NodeRegistry::remove`. -/
  | remove (nodeId : NodeId)
  /-- A frame is handed to the transport. -/
  | send (frame : ZwaveDataFrame)
  deriving DecidableEq, Repr

/-- `activeFailedNodeRemoval`. -/
abbrev Slot := Option RemoveFailedNodeRequest

/-- The node that the slot stands for; zero if it is empty. -/
def Slot.nodeId (slot : Slot) : NodeId := (slot.map RemoveFailedNodeRequest.nodeId).getD 0

/-- The session that the slot stands for; zero if it is empty. -/
def Slot.sessionId (slot : Slot) : UInt8 := (slot.map RemoveFailedNodeRequest.sessionId).getD 0

/-- The RESPONSE branch of `handleRemoveFailedNodeFrame`: a removal that did not start closes the
slot. -/
def onResponse (slot : Slot) (resp : RemoveFailedNodeResponse) : Slot × List Effect :=
  (if resp.status ≠ statusStarted then none else slot,
    [.publish ⟨slot.nodeId, slot.sessionId, .response, resp.status⟩])

/-- The callback branch of `handleRemoveFailedNodeFrame`. -/
def onCallback (slot : Slot) (callback : RemoveFailedNodeCallback) : Slot × List Effect :=
  (none, .publish ⟨slot.nodeId, callback.sessionId, .callback, callback.status⟩ ::
    if callback.status = statusRemoved ∧ slot.nodeId ≠ 0 then [.remove slot.nodeId] else [])

/-- `handleRemoveFailedNodeFrame`; a frame that is neither is left to the next handler. -/
def handleRemoveFailedNodeFrame (slot : Slot) (frame : ZwaveDataFrame) : Slot × List Effect :=
  match decodeRemoveFailedNodeResponse frame with
  | some resp => onResponse slot resp
  | none =>
    match decodeRemoveFailedNodeCallback frame with
    | some callback => onCallback slot callback
    | none => (slot, [])

/-- What happens on the protocol thread. -/
inductive Event
  /-- `dispatchRequest` takes a request from the queue and starts to send it. -/
  | dispatch (request : RemoveFailedNodeRequest)
  /-- The transport could not send it. -/
  | sendFailed (request : RemoveFailedNodeRequest)
  /-- The transport hands in a frame, during a send or from the pump. -/
  | frame (frame : ZwaveDataFrame)
  /-- A new connection to the controller. -/
  | connect
  deriving DecidableEq, Repr

/-- One event. -/
def step (slot : Slot) : Event → Slot × List Effect
  | .dispatch request => (some request, [.send (encodeRemoveFailedNode request)])
  | .sendFailed request =>
    (none, [.publish ⟨request.nodeId, request.sessionId, .response, statusRemoveFail⟩])
  | .frame frame => handleRemoveFailedNodeFrame slot frame
  | .connect => (none, [])

/-! ## Who a callback is about -/

/-- What an event does about a node is backed by a request for that node in that session: a removal
that a callback causes, and a status of a callback. -/
structure Backed (earlier : List Event) (slot : Slot) (event : Event) : Prop where
  /-- A node is removed for a callback whose session it was requested in. -/
  removed : ∀ frame callback nodeId, event = .frame frame →
    decodeRemoveFailedNodeCallback frame = some callback →
    Effect.remove nodeId ∈ (step slot event).2 →
    Event.dispatch ⟨nodeId, callback.sessionId⟩ ∈ earlier
  /-- A status of a callback pairs a node and a session that were requested together. -/
  published : ∀ status, Effect.publish status ∈ (step slot event).2 → status.phase = .callback →
    Event.dispatch ⟨status.nodeId, status.sessionId⟩ ∈ earlier

/-- A run in which every callback is about the node that was requested. -/
def Attributed (events : List Event) : Prop :=
  ∀ pre event, pre ++ [event] <+: events → Backed pre (exec step none pre) event

/-- A callback finds the request of its own session in the slot. -/
def InStep (slot : Slot) : Event → Prop
  | .frame frame => ∀ callback ∈ decodeRemoveFailedNodeCallback frame,
      slot.map RemoveFailedNodeRequest.sessionId = some callback.sessionId
  | _ => True

instance (slot : Slot) : DecidablePred (InStep slot)
  | .frame _ => inferInstanceAs (Decidable (∀ callback ∈ _, _ = some _))
  | .dispatch _ | .sendFailed _ | .connect => inferInstanceAs (Decidable True)

/-- No frame is both a RESPONSE and a callback. -/
theorem decodeRemoveFailedNodeResponse_eq_none {frame : ZwaveDataFrame}
    {callback : RemoveFailedNodeCallback}
    (h : decodeRemoveFailedNodeCallback frame = some callback) :
    decodeRemoveFailedNodeResponse frame = none := by
  unfold decodeRemoveFailedNodeCallback at h
  split_ifs at h with hheader
  simp only [not_or, not_not] at hheader
  unfold decodeRemoveFailedNodeResponse
  rw [if_pos]
  refine Or.inr (Or.inr ?_)
  rw [hheader.2.2]
  decide

/-- The slot holds a request that was dispatched. -/
theorem dispatched_of_slot (events : List Event) {request : RemoveFailedNodeRequest}
    (h : exec step none events = some request) : Event.dispatch request ∈ events := by
  induction events using List.reverseRecOn with
  | nil => cases h
  | append_singleton events event ih =>
    rw [exec_concat] at h
    cases event with
    | dispatch request' =>
      obtain rfl := Option.some.inj h
      simp
    | sendFailed request' => cases h
    | connect => cases h
    | frame frame =>
      -- A frame leaves the slot or closes it.
      have hkept : (step (exec step none events) (.frame frame)).1 = exec step none events ∨
          (step (exec step none events) (.frame frame)).1 = none := by
        simp only [step, handleRemoveFailedNodeFrame]
        split
        · unfold onResponse
          dsimp only
          split_ifs
          · exact Or.inr rfl
          · exact Or.inl rfl
        · split
          · exact Or.inr rfl
          · exact Or.inl rfl
      rcases hkept with hkept | hkept
      · rw [hkept] at h
        exact List.mem_append_left _ (ih h)
      · rw [hkept] at h
        cases h

/-- Only a callback publishes a callback's status. -/
theorem callback_of_publish {slot : Slot} {event : Event} {status : RemoveFailedNodeStatus}
    (h : Effect.publish status ∈ (step slot event).2) (hphase : status.phase = .callback) :
    ∃ frame callback, event = .frame frame ∧
      decodeRemoveFailedNodeCallback frame = some callback ∧
      status.nodeId = slot.nodeId ∧ status.sessionId = callback.sessionId := by
  -- Only the callback frame is published as such: a dispatch says nothing, and a failed send and
  -- the response say so themselves.
  cases event with
  | dispatch request => simp [step] at h
  | connect => simp [step] at h
  | sendFailed request =>
    simp only [step, List.mem_singleton, Effect.publish.injEq] at h
    rw [h] at hphase
    cases hphase
  | frame frame =>
    simp only [step, handleRemoveFailedNodeFrame] at h
    split at h
    · simp only [onResponse, List.mem_singleton, Effect.publish.injEq] at h
      rw [h] at hphase
      cases hphase
    · split at h
      · next callback hcallback =>
        refine ⟨frame, callback, rfl, hcallback, ?_⟩
        -- The node is the one of the slot, while the session is that of the frame.
        simp only [onCallback, List.mem_cons, Effect.publish.injEq] at h
        rcases h with rfl | h
        · exact ⟨rfl, rfl⟩
        · split_ifs at h <;> simp at h
      · cases h

/-- A callback removes no node but the slot's. -/
theorem nodeId_of_remove {slot : Slot} {frame : ZwaveDataFrame}
    {callback : RemoveFailedNodeCallback} {nodeId : NodeId}
    (hcallback : decodeRemoveFailedNodeCallback frame = some callback)
    (h : Effect.remove nodeId ∈ (step slot (.frame frame)).2) : nodeId = slot.nodeId := by
  simp only [step, handleRemoveFailedNodeFrame, hcallback,
    decodeRemoveFailedNodeResponse_eq_none hcallback, onCallback, List.mem_cons, reduceCtorEq,
    false_or] at h
  split_ifs at h
  · simpa using h
  · cases h

/-- Where every callback finds the request of its own session in the slot, every removal and every
status of a callback is about the node that was requested in that session. -/
theorem attributed_of_inStep (events : List Event)
    (h : ∀ pre event, pre ++ [event] <+: events → InStep (exec step none pre) event) :
    Attributed events := by
  intro pre event hpre
  have hinStep := h pre event hpre
  -- The slot's node was requested in the callback's session.
  have hrequested : ∀ frame callback, event = .frame frame →
      decodeRemoveFailedNodeCallback frame = some callback →
      Event.dispatch ⟨(exec step none pre).nodeId, callback.sessionId⟩ ∈ pre := by
    rintro frame callback rfl hcallback
    obtain ⟨request, hslot, hsession⟩ := Option.map_eq_some_iff.mp (hinStep callback hcallback)
    have hmem := dispatched_of_slot pre hslot
    rw [hslot, ← hsession]
    exact hmem
  refine ⟨fun frame callback nodeId heq hcallback hremove => ?_, fun status hpublish hphase => ?_⟩
  · subst heq
    rw [nodeId_of_remove hcallback hremove]
    exact hrequested frame callback rfl hcallback
  · obtain ⟨frame, callback, heq, hcallback, hnode, hsession⟩ :=
      callback_of_publish hpublish hphase
    rw [hnode, hsession]
    exact hrequested frame callback heq hcallback

/-- The RESPONSE that a removal has started. -/
def started : ZwaveDataFrame :=
  { frameType := .response, commandId := cmdRemoveFailedNodeId, payload := [statusStarted],
    valid := true }

/-- The callback that the removal of a session is done. -/
def removed (sessionId : UInt8) : ZwaveDataFrame :=
  { frameType := .request, commandId := cmdRemoveFailedNodeId,
    payload := [sessionId, statusRemoved], valid := true }

/-- Two removals, one after the other. -/
def inTurn : List Event :=
  [.dispatch ⟨5, 1⟩, .frame started, .frame (removed 1), .dispatch ⟨6, 2⟩, .frame (removed 2)]

/-- Two removals one after the other are each told of their own end. -/
theorem inTurn_attributed : Attributed inTurn := by
  refine attributed_of_inStep inTurn fun pre event hpre => ?_
  obtain ⟨n, rfl, rfl⟩ := exists_take_of_prefix hpre
  revert n
  decide

/-- Two removals, where the second is dispatched before the callback of the first. -/
def overlapping : List Event :=
  [.dispatch ⟨5, 1⟩, .frame started, .dispatch ⟨6, 2⟩, .frame (removed 1)]

/-- Two removals under way at once: the callback of node 5's session is published for node 6, which
is removed. -/
theorem overlapping_removes :
    (step (exec step none (overlapping.take 3)) (.frame (removed 1))).2 =
        [.publish ⟨6, 1, .callback, statusRemoved⟩, .remove 6] ∧
      ¬ ∀ events, Attributed events := by
  refine ⟨by decide, fun h => ?_⟩
  have hbacked := h overlapping (overlapping.take 3) (.frame (removed 1)) List.prefix_rfl
  have hremoved := hbacked.removed (removed 1) ⟨1, statusRemoved⟩ 6 rfl (by decide) (by decide)
  exact absurd hremoved (by decide)

end Zwaved.FailedNodeRemoval
