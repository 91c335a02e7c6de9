import Zwaved.Protocol.Thread

/-!
# Removals on the protocol thread

A node goes out of the registry in two ways: the callback of an exclusion says that it is gone, or
the callback of a removal says that a failed node was taken out. `registryRemove_mem_step` says that
there is no other way. The second is what the machine of `FailedNodeRemoval` is about, and
`removal_run` finds a run of that machine in every run of the thread.
-/

namespace Zwaved.Protocol.ProtocolThread

open Reactive Serial HostApi

variable {frame : ZwaveDataFrame}

/-- Clearing a pending SendData leaves the removal that is under way. -/
theorem slot_clearPendingSendData (s : ProtocolThread) (frame : ZwaveDataFrame) :
    (s.clearPendingSendData frame).activeFailedNodeRemoval = s.activeFailedNodeRemoval := by
  unfold clearPendingSendData
  split
  · split <;> rfl
  · rfl

/-! ## What takes a node out of the registry -/

/-- The callback of an exclusion takes its node out. -/
theorem registryRemove_mem_onNodeCallback (s : ProtocolThread) (callback : NodeStatusCallback)
    (nodeId : NodeId) :
    .registryRemove nodeId ∈ (s.onNodeCallback callback).2 ↔
      Excludes callback ∧ callback.nodeId.toUInt8 = nodeId := by
  -- The status that ends a session adds a node at most.
  have hfinish (s : ProtocolThread) : .registryRemove nodeId ∉ (s.finish callback).2 := by
    unfold finish
    split
    · cases s.pendingInclusion with
      | none => simp
      | some node =>
        dsimp only
        split <;> simp
    · simp
  have hregister : .registryRemove nodeId ∈ (s.register callback).2 ↔
      Excludes callback ∧ callback.nodeId.toUInt8 = nodeId := by
    unfold register
    by_cases hreports : Reports callback
    -- A callback of an inclusion is none of an exclusion.
    · have hnot : ¬ Excludes callback := fun h => absurd (hreports.1.symm.trans h.1) (by decide)
      simp [hreports, hnot]
    · by_cases hexcludes : Excludes callback
      · simp [hreports, hexcludes, eq_comm]
      · simp [hreports, hexcludes]
  unfold onNodeCallback
  simp only [List.cons_append, List.mem_cons, reduceCtorEq, false_or, List.mem_append]
  rw [hregister]
  exact or_iff_left (hfinish _)

/-- A frame of another kind takes a node out only when it is the callback of a removal that went
through, and then the node of the slot. -/
theorem registryRemove_mem_onFrame (s : ProtocolThread) (h : decodeNodeCallback frame = none)
    (nodeId : NodeId) :
    .registryRemove nodeId ∈ (s.onFrame frame).2 ↔
      ∃ callback, FailedNodeRemoval.decodeRemoveFailedNodeCallback frame = some callback ∧
        callback.status = FailedNodeRemoval.statusRemoved ∧ nodeId ≠ 0 ∧
        s.activeFailedNodeRemoval.nodeId = nodeId := by
  have hslot := slot_clearPendingSendData s frame
  -- Without a callback of the removal the frame is taken by another decoder, none of which removes.
  cases hremoval : FailedNodeRemoval.decodeRemoveFailedNodeCallback frame with
  | none =>
    simp only [reduceCtorEq, false_and, exists_false, iff_false]
    unfold onFrame handleIncomingFrame
    -- The branches are those of `handleIncomingFrame`, in its order.
    split
    · simp
    split
    · simp
    split
    · simp
    split
    · simp only [FailedNodeRemoval.handleRemoveFailedNodeFrame, hremoval]
      split <;> simp [FailedNodeRemoval.onResponse, ThreadOutput.ofRemoval]
    split
    · simp [onRequestNodeInfoResponse]
    split
    · unfold onApplicationUpdate
      split <;> simp
    · simp [h]
  | some callback =>
    have hcommand := commandId_of_removeFailedNodeCallback hremoval
    -- A callback of the removal has its command, so none of the first three decoders takes it.
    have hother : ∀ commandId, commandId ≠ FailedNodeRemoval.cmdRemoveFailedNodeId →
        frame.commandId ≠ commandId := by
      rintro commandId hne rfl
      exact hne hcommand
    obtain ⟨hsendData, hmulti, hcommandFrame⟩ := firstDecoders_eq_none
      (hother _ (by decide)) (hother _ (by decide)) (hother _ (by decide))
    have hresponse := FailedNodeRemoval.decodeRemoveFailedNodeResponse_eq_none hremoval
    have houtputs : (s.onFrame frame).2 =
        (FailedNodeRemoval.onCallback s.activeFailedNodeRemoval callback).2.map
          ThreadOutput.ofRemoval := by
      unfold onFrame handleIncomingFrame
      rw [hsendData, hmulti, hcommandFrame, if_pos (by simp [hremoval])]
      simp only [FailedNodeRemoval.handleRemoveFailedNodeFrame, hresponse, hremoval, hslot]
    rw [houtputs]
    simp only [Option.some.injEq, exists_eq_left']
    unfold FailedNodeRemoval.onCallback
    dsimp only
    -- The callback says that the node is gone, and there is one in the slot.
    split
    · next hremoved =>
      simp only [List.map_cons, List.map_nil, ThreadOutput.ofRemoval, List.mem_cons, reduceCtorEq,
        ThreadOutput.registryRemove.injEq, List.not_mem_nil, or_false, false_or]
      constructor
      · rintro rfl
        exact ⟨hremoved.1, hremoved.2, rfl⟩
      · rintro ⟨-, -, hnode⟩
        exact hnode.symm
    -- Any other callback leaves the registry alone.
    · next hkept =>
      simp only [List.map_cons, List.map_nil, ThreadOutput.ofRemoval, List.mem_cons, reduceCtorEq,
        List.not_mem_nil, or_self, false_iff]
      rintro ⟨hstatus, hne, rfl⟩
      exact hkept ⟨hstatus, hne⟩

/-- A node is taken out of the registry by the callback of an exclusion with a final status, and by
that of a removal that went through, and by nothing else. -/
theorem registryRemove_mem_step (s : ProtocolThread) (event : Event) (nodeId : NodeId) :
    .registryRemove nodeId ∈ (s.step event).2 ↔
      ∃ frame, event = .frame frame ∧ s.connected = true ∧
        ((∃ callback, decodeNodeCallback frame = some callback ∧ Excludes callback ∧
            callback.nodeId.toUInt8 = nodeId) ∨
          ∃ callback, FailedNodeRemoval.decodeRemoveFailedNodeCallback frame = some callback ∧
            callback.status = FailedNodeRemoval.statusRemoved ∧ nodeId ≠ 0 ∧
            s.activeFailedNodeRemoval.nodeId = nodeId) := by
  cases event with
  | connect =>
    unfold step
    dsimp only
    split <;> simp
  | disconnect =>
    unfold step
    dsimp only
    split <;> simp
  | resume deadline =>
    unfold step
    dsimp only
    split <;> simp
  | dispatch request =>
    simp only [reduceCtorEq, false_and, exists_false, iff_false]
    unfold step
    dsimp only
    split
    · rw [(dispatchRequest_spec s request).2.2.2.2]
      cases starts request <;> simp
    · simp
  | sent ok =>
    simp only [reduceCtorEq, false_and, exists_false, iff_false]
    have hsendData (callbackId : UInt8) :
        .registryRemove nodeId ∉ (s.afterSendData callbackId ok).2 := by
      unfold afterSendData
      split
      · split <;> simp
      · simp
    unfold step
    dsimp only
    cases s.phase with
    | idle => simp
    | throttled => simp
    | sending request =>
      dsimp only
      unfold afterSend
      split
      · simp
      · simp
      · split <;> simp
      · split <;> simp
      · exact hsendData _
      · exact hsendData _
  | frame frame =>
    simp only [Event.frame.injEq, exists_eq_left']
    unfold step
    dsimp only
    cases hconnected : s.connected with
    | false => simp
    | true =>
      simp only [if_true, true_and]
      cases hcallback : decodeNodeCallback frame with
      | none =>
        rw [registryRemove_mem_onFrame s hcallback]
        simp
      | some callback =>
        rw [onFrame_nodeCallback s hcallback, registryRemove_mem_onNodeCallback]
        -- A node callback is not also the callback of a removal.
        have hremoval : FailedNodeRemoval.decodeRemoveFailedNodeCallback frame = none := by
          rw [Option.eq_none_iff_forall_ne_some]
          intro other heq
          have hremove := commandId_of_removeFailedNodeCallback heq
          rcases commandId_of_nodeCallback hcallback with hnode | hnode
          · exact absurd (hnode.symm.trans hremove) (by decide)
          · exact absurd (hnode.symm.trans hremove) (by decide)
        simp [hremoval]

/-! ## The removal of a failed node -/

/-- What an event is to the machine of `FailedNodeRemoval`. -/
def removalEvents (s : ProtocolThread) : Event → List FailedNodeRemoval.Event
  | .connect => if s.connected then [] else [.connect]
  | .dispatch (.network (.removeFailedNode nodeId sessionId)) =>
    if s.connected ∧ s.phase = .idle then [.dispatch { nodeId, sessionId }] else []
  | .sent ok =>
    match s.phase with
    | .sending (.network (.removeFailedNode nodeId sessionId)) =>
      if ok then [] else [.sendFailed { nodeId, sessionId }]
    | _ => []
  | .frame frame => if s.connected then [.frame frame] else []
  | _ => []

/-- A frame does to the slot what `handleRemoveFailedNodeFrame` does, whichever decoder takes it. -/
theorem removal_onFrame (s : ProtocolThread) (frame : ZwaveDataFrame) :
    (s.onFrame frame).1.activeFailedNodeRemoval =
        (FailedNodeRemoval.handleRemoveFailedNodeFrame s.activeFailedNodeRemoval frame).1 ∧
      ((FailedNodeRemoval.handleRemoveFailedNodeFrame s.activeFailedNodeRemoval frame).2.map
        ThreadOutput.ofRemoval).Sublist (s.onFrame frame).2 := by
  have hslot := slot_clearPendingSendData s frame
  by_cases hremoval : (FailedNodeRemoval.decodeRemoveFailedNodeResponse frame).isSome ∨
      (FailedNodeRemoval.decodeRemoveFailedNodeCallback frame).isSome
  · -- No decoder before takes a frame of the removal.
    have hcommand : frame.commandId = FailedNodeRemoval.cmdRemoveFailedNodeId := by
      rcases hremoval with h | h
      · exact commandId_of_removeFailedNodeResponse (Option.some_get h).symm
      · exact commandId_of_removeFailedNodeCallback (Option.some_get h).symm
    obtain ⟨hsendData, hmulti, hcommandFrame⟩ := firstDecoders_eq_none
      (by rw [hcommand]; decide) (by rw [hcommand]; decide) (by rw [hcommand]; decide)
    unfold onFrame handleIncomingFrame
    rw [hsendData, hmulti, hcommandFrame, if_pos hremoval, hslot]
    exact ⟨rfl, List.Sublist.refl _⟩
  · -- Any other frame leaves the slot alone.
    have hnone : FailedNodeRemoval.handleRemoveFailedNodeFrame s.activeFailedNodeRemoval frame =
        (s.activeFailedNodeRemoval, []) := by
      simp only [not_or, Option.not_isSome_iff_eq_none] at hremoval
      simp only [FailedNodeRemoval.handleRemoveFailedNodeFrame, hremoval.1, hremoval.2]
    rw [hnone]
    refine ⟨?_, List.nil_sublist _⟩
    cases hcallback : decodeNodeCallback frame with
    | some callback =>
      rw [onFrame_nodeCallback s hcallback]
      unfold onNodeCallback register finish
      dsimp only
      -- What a node's callback registers is its own session, never the slot.
      split <;> split <;> (try split) <;> rfl
    | none =>
      unfold onFrame handleIncomingFrame
      rw [if_neg hremoval]
      split
      · exact hslot
      split
      · exact hslot
      split
      · exact hslot
      split
      · exact hslot
      split
      · exact hslot
      · rw [hcallback]
        exact hslot

/-- One event of the thread does to the slot what its events of the removal do, and puts out what
they put out. -/
theorem removal_step (s : ProtocolThread) (event : Event) :
    (s.step event).1.activeFailedNodeRemoval =
        exec FailedNodeRemoval.step s.activeFailedNodeRemoval (s.removalEvents event) ∧
      ((emitted FailedNodeRemoval.step s.activeFailedNodeRemoval (s.removalEvents event)).map
        ThreadOutput.ofRemoval).Sublist (s.step event).2 := by
  -- The slot is written by a dispatched removal, by a send of one that fails, and by the two frames
  -- of the protocol.
  cases event with
  | connect =>
    unfold step removalEvents
    dsimp only
    split
    · exact ⟨rfl, List.nil_sublist _⟩
    · exact ⟨rfl, List.nil_sublist _⟩
  | disconnect =>
    unfold step
    dsimp only
    split
    · exact ⟨rfl, List.nil_sublist _⟩
    · exact ⟨rfl, List.nil_sublist _⟩
  | resume deadline =>
    unfold step
    dsimp only
    split
    · exact ⟨rfl, List.nil_sublist _⟩
    · exact ⟨rfl, List.nil_sublist _⟩
  | dispatch request =>
    unfold step
    dsimp only
    -- Only an idle thread with an open port dispatches.
    by_cases hidle : s.connected ∧ s.phase = .idle
    · rw [if_pos hidle]
      unfold dispatchRequest
      cases request with
      | network request =>
        cases request with
        -- The one request that takes the slot.
        | removeFailedNode nodeId sessionId =>
          simp only [removalEvents, if_pos hidle]
          exact ⟨rfl, List.Sublist.refl _⟩
        | addNode => cases starts _ <;> exact ⟨rfl, List.nil_sublist _⟩
        | removeNode => cases starts _ <;> exact ⟨rfl, List.nil_sublist _⟩
        | requestNodeInfo => exact ⟨rfl, List.nil_sublist _⟩
      | sendData request => exact ⟨rfl, List.nil_sublist _⟩
      | sendDataMulti request => exact ⟨rfl, List.nil_sublist _⟩
    -- Any other dispatch is passed over, and so is the list of events.
    · rw [if_neg hidle]
      have hnone : s.removalEvents (.dispatch request) = [] := by
        unfold removalEvents
        split <;> simp_all
      rw [hnone]
      exact ⟨rfl, List.nil_sublist _⟩
  | sent ok =>
    unfold step removalEvents
    dsimp only
    cases s.phase with
    | idle => exact ⟨rfl, List.nil_sublist _⟩
    | throttled => exact ⟨rfl, List.nil_sublist _⟩
    | sending request =>
      -- What is done after a SendData, sent or not, is with its own callback.
      have hsendData (callbackId : UInt8) :
          (s.afterSendData callbackId ok).1.activeFailedNodeRemoval = s.activeFailedNodeRemoval := by
        unfold afterSendData
        split
        · split <;> rfl
        · rfl
      cases request with
      | network request =>
        cases request with
        | addNode => exact ⟨rfl, List.nil_sublist _⟩
        | removeNode => exact ⟨rfl, List.nil_sublist _⟩
        | requestNodeInfo => cases ok <;> exact ⟨rfl, List.nil_sublist _⟩
        | removeFailedNode nodeId sessionId =>
          cases ok with
          | true => exact ⟨rfl, List.nil_sublist _⟩
          -- The failed send frees the slot and reports it.
          | false => exact ⟨rfl, List.Sublist.refl _⟩
      | sendData request => exact ⟨hsendData _, List.nil_sublist _⟩
      | sendDataMulti request => exact ⟨hsendData _, List.nil_sublist _⟩
  | frame frame =>
    unfold step removalEvents
    dsimp only
    split
    · obtain ⟨hslot, houtputs⟩ := removal_onFrame s frame
      refine ⟨hslot, ?_⟩
      simpa [emitted, FailedNodeRemoval.step] using houtputs
    · exact ⟨rfl, List.nil_sublist _⟩

/-- The events of the removal in a run of the thread. -/
def removalRun (s : ProtocolThread) (events : List Event) : List FailedNodeRemoval.Event :=
  (trace step s events).flatMap fun taken => taken.before.removalEvents taken.input

/-- A run of the thread has in it a run of the machine of `FailedNodeRemoval`: the slot is the same,
and what that machine does the thread does. -/
theorem removal_run (s : ProtocolThread) (events : List Event) :
    (exec step s events).activeFailedNodeRemoval =
        exec FailedNodeRemoval.step s.activeFailedNodeRemoval (s.removalRun events) ∧
      ((emitted FailedNodeRemoval.step s.activeFailedNodeRemoval (s.removalRun events)).map
        ThreadOutput.ofRemoval).Sublist (emitted step s events) := by
  induction events generalizing s with
  | nil => exact ⟨rfl, List.Sublist.refl _⟩
  | cons event events ih =>
    obtain ⟨hslot, houtputs⟩ := removal_step s event
    obtain ⟨hexec, hemitted⟩ := ih (s.step event).1
    have hrun : s.removalRun (event :: events) =
        s.removalEvents event ++ (s.step event).1.removalRun events := rfl
    rw [hrun, exec_append, emitted_append, List.map_append, emitted, ← hslot]
    exact ⟨hexec, houtputs.append hemitted⟩

end Zwaved.Protocol.ProtocolThread
