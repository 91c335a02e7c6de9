import Zwaved.Protocol.Sessions

/-!
# What a send is answered with

A caller that gives a callback id waits for a SendDataCallback with it. It may come from three
places: a send that fails is answered by the thread itself, a callback that comes in while the send
is under way is published by the handler of frames, and so is one that comes in while the thread
waits. When the deadline passes without it, the thread stops waiting and says nothing, so the send
is answered exactly if it fails or the dongle answers it in time (`answered_iff`).
-/

namespace Zwaved.Protocol

open Reactive Serial HostApi

namespace ProtocolThread

/-- The callback that a send asks for. -/
def callbackOf : Request → Option UInt8
  | .network _ => none
  | .sendData request => some request.callbackId
  | .sendDataMulti request => some request.callbackId

/-- The callback that a frame brings. -/
def decodeAnyCallback (frame : ZwaveDataFrame) : Option SendDataCallback :=
  (decodeSendDataCallback frame).or (decodeSendDataMultiCallback frame)

/-- What the transport does while a send is dispatched. -/
structure Behaviour where
  /-- The frames that it hands in before `sendRequest` returns. -/
  during : List ZwaveDataFrame
  /-- What `sendRequest` returns. -/
  sent : Bool
  /-- The frames that it hands in while the thread waits. -/
  waiting : List ZwaveDataFrame

/-- The events of the dispatch of a send, from the call to the return. The thread waits until the
callback has come or the deadline has passed, which leave it in the same state. -/
def Behaviour.events (b : Behaviour) (request : Request) : List Event :=
  .dispatch request :: (b.during.map Event.frame ++ .sent b.sent ::
    if b.sent then b.waiting.map Event.frame ++ [.resume true] else [])

/-- A SendDataCallback with the id is published. -/
def Answered (callbackId : UInt8) (outputs : List ThreadOutput) : Prop :=
  ∃ txStatus, .sendDataCallback { callbackId, txStatus } ∈ outputs

/-- The dongle's callback with the id is among the frames. -/
def Calls (callbackId : UInt8) (frames : List ZwaveDataFrame) : Prop :=
  ∃ frame ∈ frames, ∃ callback, decodeAnyCallback frame = some callback ∧
    callback.callbackId = callbackId

variable {s : ProtocolThread} {frame : ZwaveDataFrame} {callback : SendDataCallback}
  {callbackId : UInt8}

/-- A callback id is answered in two lists of outputs when it is in one of them. -/
theorem answered_append {outputs more : List ThreadOutput} :
    Answered callbackId (outputs ++ more) ↔
      Answered callbackId outputs ∨ Answered callbackId more := by
  simp only [Answered, List.mem_append, exists_or]

/-- A node callback answers no send. -/
theorem sendDataCallback_notMem_onNodeCallback (s : ProtocolThread)
    (status : NodeStatusCallback) (callback : SendDataCallback) :
    .sendDataCallback callback ∉ (s.onNodeCallback status).2 := by
  unfold onNodeCallback
  dsimp only
  intro hmem
  rcases List.mem_append.mp hmem with hmem | hmem
  · rcases List.mem_cons.mp hmem with hmem | hmem
    · cases hmem
    · unfold register at hmem
      split at hmem
      · simp at hmem
      · split at hmem <;> simp at hmem
  · unfold finish at hmem
    split at hmem
    · dsimp only at hmem
      split at hmem
      · split at hmem <;> simp at hmem
      · simp at hmem
    · simp at hmem

/-- A frame is published as a callback exactly if it is one. -/
theorem sendDataCallback_mem_onFrame : .sendDataCallback callback ∈ (s.onFrame frame).2 ↔
    decodeAnyCallback frame = some callback := by
  unfold onFrame handleIncomingFrame decodeAnyCallback
  generalize s.clearPendingSendData frame = s
  cases decodeSendDataCallback frame with
  | some found => simp [eq_comm]
  | none =>
    cases decodeSendDataMultiCallback frame with
    | some found => simp [eq_comm]
    | none =>
      simp only [Option.or_none, reduceCtorEq, iff_false]
      intro hmem
      split at hmem
      · simp at hmem
      split at hmem
      · obtain ⟨effect, -, heffect⟩ := List.mem_map.mp hmem
        cases effect <;> cases heffect
      split at hmem
      · simp [onRequestNodeInfoResponse] at hmem
      split at hmem
      · unfold onApplicationUpdate at hmem
        split at hmem <;> simp at hmem
      split at hmem
      · exact sendDataCallback_notMem_onNodeCallback s _ callback hmem
      · simp at hmem

/-- A frame answers a callback id exactly when it is a call for it. -/
theorem answered_onFrame :
    Answered callbackId (s.onFrame frame).2 ↔ Calls callbackId [frame] := by
  unfold Answered Calls
  simp only [sendDataCallback_mem_onFrame, List.mem_singleton, exists_eq_left]
  constructor
  · rintro ⟨txStatus, h⟩
    exact ⟨_, h, rfl⟩
  · rintro ⟨⟨_, txStatus⟩, h, rfl⟩
    exact ⟨txStatus, h⟩

/-- Frames that come in one after the other leave the thread where it stands, and answer a callback
exactly if they bring it. -/
theorem frames_spec (frames : List ZwaveDataFrame) (hconnected : s.connected = true) :
    (exec step s (frames.map Event.frame)).connected = true ∧
      (exec step s (frames.map Event.frame)).phase = s.phase ∧
      (Answered callbackId (emitted step s (frames.map Event.frame)) ↔ Calls callbackId frames) := by
  induction frames generalizing s with
  | nil => exact ⟨hconnected, rfl, by simp [Answered, Calls, emitted]⟩
  | cons frame frames ih =>
    have hstep : step s (.frame frame) = s.onFrame frame := if_pos hconnected
    obtain ⟨hstays, hphase, -⟩ := onFrame_session s frame
    obtain ⟨hend, hendPhase, hanswered⟩ := ih (hstays.trans hconnected)
    rw [List.map_cons, exec_cons, emitted, hstep]
    refine ⟨hend, hendPhase.trans hphase, ?_⟩
    rw [answered_append, answered_onFrame, hanswered]
    simp [Calls]

/-- Up to `sendRequest`, a send only hands a frame to the transport. -/
theorem step_dispatch_send {request : Request} (hcallback : callbackOf request = some callbackId)
    (hconnected : s.connected = true) (hidle : s.phase = .idle) :
    step s (.dispatch request) =
      ({ s with phase := .sending request }, [.send (encodeRequest request)]) := by
  have hstep : step s (.dispatch request) = s.dispatchRequest request :=
    if_pos ⟨hconnected, hidle⟩
  rw [hstep]
  cases request with
  | network request => cases hcallback
  | sendData request => rfl
  | sendDataMulti request => rfl

/-- A request with a callback id is followed up as a SendData with that id, whichever of the two
frames it was. -/
theorem afterSend_send {request : Request} (hcallback : callbackOf request = some callbackId)
    (sent : Bool) : s.afterSend request sent = s.afterSendData callbackId sent := by
  cases request with
  | network request => cases hcallback
  | sendData request => rw [← Option.some.inj hcallback]; rfl
  | sendDataMulti request => rw [← Option.some.inj hcallback]; rfl

/-- The dispatch of a send with a callback returns, whatever the transport does, and by then the
callback is answered exactly if the send failed, or the dongle's callback came in during the send or
while the thread waited. -/
theorem answered_iff {request : Request} (hcallback : callbackOf request = some callbackId)
    (hid : callbackId ≠ 0) (hconnected : s.connected = true) (hidle : s.phase = .idle)
    (b : Behaviour) :
    (exec step s (b.events request)).phase = .idle ∧
      (Answered callbackId (emitted step s (b.events request)) ↔
        b.sent = false ∨ Calls callbackId (b.during ++ b.waiting)) := by
  unfold Behaviour.events
  rw [emitted, exec_cons, step_dispatch_send hcallback hconnected hidle, emitted_append,
    exec_append, answered_append, answered_append]
  dsimp only
  -- The frames that come in during the send leave the thread in it.
  obtain ⟨hduring, hphase, hanswered⟩ := frames_spec b.during
    (s := { s with phase := .sending request }) hconnected
  generalize exec step { s with phase := .sending request } (b.during.map Event.frame) = s₁
    at hduring hphase ⊢
  have hsend : ¬ Answered callbackId [ThreadOutput.send (encodeRequest request)] := by
    simp [Answered]
  have hstep : step s₁ (.sent b.sent) = s₁.afterSendData callbackId b.sent := by
    have hafter : step s₁ (.sent b.sent) = s₁.afterSend request b.sent := by
      unfold step
      rw [hphase]
    exact hafter.trans (afterSend_send hcallback b.sent)
  rw [exec_cons, emitted, hstep, answered_append, hanswered, or_iff_right hsend]
  unfold afterSendData
  cases hsent : b.sent with
  | false =>
    -- The thread reports the failure itself.
    exact ⟨rfl, by simp [Answered]⟩
  | true =>
    rw [if_pos rfl, if_pos hid]
    dsimp only
    obtain ⟨-, hthrottled, hwaited⟩ := frames_spec b.waiting
      (s := { s₁ with phase := .throttled, pendingSendData := some callbackId }) hduring
    rw [if_pos rfl, exec_append, emitted_append, answered_append, hwaited]
    generalize exec step { s₁ with phase := .throttled, pendingSendData := some callbackId }
      (b.waiting.map Event.frame) = s₂ at hthrottled ⊢
    -- The wait ends, with the callback or with the deadline, and nothing is published.
    have hresume : step s₂ (.resume true) =
        ({ s₂ with phase := .idle, pendingSendData := none }, []) :=
      if_pos ⟨hthrottled, Or.inr rfl⟩
    rw [exec_cons, emitted, hresume]
    refine ⟨rfl, ?_⟩
    simp [Answered, Calls, emitted, or_and_right, exists_or]

/-- The callback comes in while the send is still under way. -/
theorem answered_iff_during :
    Answered 7 (emitted step { connected := true }
      (Behaviour.events
        { during := [{ commandId := cmdSendData, payload := [7, 0], valid := true }], sent := true,
          waiting := [] }
        (.sendData { nodeId := 5, data := [0x20, 0x02], txOptions := 0x25, callbackId := 7 }))) := by
  refine (answered_iff rfl (by decide) rfl rfl _).2.mpr (Or.inr ?_)
  exact ⟨_, List.mem_singleton_self _, _, rfl, rfl⟩

/-- A frame that the dongle takes and never calls back for leaves its sender without an answer, also
after the session ends. -/
theorem not_answered_timeout :
    ¬ Answered 7 (emitted step { connected := true }
      (Behaviour.events { during := [], sent := true, waiting := [] }
        (.sendData { nodeId := 5, data := [0x20, 0x02], txOptions := 0x25, callbackId := 7 }))) := by
  rintro ⟨txStatus, hmem⟩
  cases List.mem_singleton.mp hmem

end ProtocolThread

end Zwaved.Protocol
