import Zwaved.Protocol.Connection.System
import Zwaved.Protocol.Sessions
import Zwaved.Reactive.Component
import Zwaved.Reactive.Fifo

/-!
# Connections are kept apart

`connections_isolated`: whatever the other threads do meanwhile, a request goes to the dongle at
most once and in order, and in a session only requests go out that were queued since the session
was about to start. The session starts with no slot in use, and the thread takes in it the steps
that it takes by itself. The five stores are bound to the same network, that of the DongleInfo that
was published last.
-/

namespace Zwaved.Protocol.Connection

open HostApi Reactive Serial
open Introspection (DongleInfo IntrospectionResult)

/-! ## What is seen -/

/-- A frame that a session hands to the transport. -/
def sentFrame? : ThreadOutput → Option ZwaveDataFrame
  | .send frame => some frame
  | _ => none

namespace Output

/-- A request comes to the queue. -/
def pushed? : Output → Option Request
  | .pushed request => some request
  | _ => none

/-- A request is taken for a session. -/
def dispatched? : Output → Option Request
  | .dispatched request => some request
  | _ => none

/-- A request is lost. -/
def cleared? : Output → Option Request
  | .cleared request => some request
  | _ => none

/-- A request leaves the queue. -/
def left? (output : Output) : Option Request := output.dispatched?.or output.cleared?

/-- The session puts something out. -/
def session? : Output → Option ThreadOutput
  | .session output => some output
  | _ => none

/-- A frame is handed to the transport. -/
def sent? (output : Output) : Option ZwaveDataFrame := output.session?.bind sentFrame?

/-- A DongleInfo is published. -/
def dongleInfo? : Output → Option DongleInfo
  | .dongleInfo info => some info
  | _ => none

end Output

/-- The request that an input brings to the queue. -/
def Input.request? : Input → Option Request
  | .pushRequest request => some request
  | _ => none

/-- The network of the last DongleInfo. -/
def lastHome (outputs : List Output) : Option Bytes :=
  (outputs.filterMap Output.dongleInfo?).getLast?.map DongleInfo.homeId

/-- The steps that the session takes in a step. -/
def sessionEvents : Taken ZwaveProtocolState Input → List ProtocolThread.Event
  | ⟨s, .proceed⟩ =>
    match s.stage with
    | .clearing => [.connect]
    | .atSession => if s.running then [] else [.disconnect]
    | .checking => if s.path.isSome then [] else [.disconnect]
    | .popping =>
      match s.queue with
      | [] => []
      | request :: _ => [.dispatch request]
    | _ => []
  | ⟨s, .sent ok⟩ => if s.stage = .dispatching then [.sent ok] else []
  | ⟨s, .frame frame⟩ =>
    if s.stage = .dispatching ∨ s.stage = .pumping then [.frame frame] else []
  | ⟨s, .resume deadline⟩ =>
    if s.stage = .dispatching then [.resume (deadline || !s.running)] else []
  | _ => []

/-- Nothing of what is announced but the DongleInfo is looked for. -/
theorem filterMap_announced {β : Type} {see : Output → Option β}
    (hseed : ∀ nodeId, see (.seed nodeId) = none)
    (hupdate : ∀ nodeId info, see (.updateDeviceClass nodeId info) = none)
    (hinit : ∀ init, see (.initData init) = none) (info : DongleInfo)
    (result : IntrospectionResult) :
    (ZwaveProtocolState.announced info result).filterMap see =
      [Output.dongleInfo info].filterMap see := by
  unfold ZwaveProtocolState.announced
  split
  · rfl
  · simp [List.filterMap_cons, List.filterMap_map, hseed, hupdate, hinit]

/-! ## The queue -/

/-- A step queues a request, takes the first or all of them, or leaves the queue alone. -/
theorem conserves_step (t : Taken ZwaveProtocolState Input) :
    Conserves ZwaveProtocolState.step ZwaveProtocolState.queue
      (fun t => (t.before.step t.input).2.filterMap Output.pushed?)
      (fun t => (t.before.step t.input).2.filterMap Output.left?) t := by
  obtain ⟨s, input⟩ := t
  rcases s.step_cases input with ⟨hsame, -⟩ | hdoes
  -- A step that changes nothing pushes and takes nothing.
  · exact Conserves.quiet (by rw [hsame]; rfl) (by rw [hsame]; rfl) (by rw [hsame])
  · unfold Conserves
    dsimp only
    generalize s.step input = out at hdoes
    cases hdoes with
    | pushRequest request => rfl
    -- `clearStaleTx` takes the whole queue, and each request of it is one that left.
    | clear hstage =>
      simp [Output.pushed?, Output.left?, Output.dispatched?, Output.cleared?, List.filterMap_map,
        Function.comp_def]
    | dispatch hstage hqueue =>
      simp [hqueue, Output.pushed?, Output.left?, Output.dispatched?, Output.cleared?,
        List.filterMap_map, Function.comp_def]
    -- What is announced of a dongle neither pushes a request nor takes one.
    | @announce info result hstage =>
      have hpushed : (ZwaveProtocolState.announced info result).filterMap Output.pushed? = [] :=
        filterMap_announced (fun _ => rfl) (fun _ _ => rfl) (fun _ => rfl) info result
      have hleft : (ZwaveProtocolState.announced info result).filterMap Output.left? = [] :=
        filterMap_announced (fun _ => rfl) (fun _ _ => rfl) (fun _ => rfl) info result
      rw [hpushed, hleft, List.append_nil, List.nil_append]
    | retained | moves | subscribeBus => exact List.append_nil _
    | _ =>
      simp [Output.pushed?, Output.left?, Output.dispatched?, Output.cleared?, List.filterMap_map,
        Function.comp_def]

/-- `pushRequest` queues its request, and nothing else does. -/
theorem pushed_step (s : ZwaveProtocolState) (input : Input) :
    (s.step input).2.filterMap Output.pushed? = input.request?.toList := by
  rcases s.step_cases input with ⟨hsame, -⟩ | hdoes
  · rw [hsame]
    cases input with
    | pushRequest request => cases congrArg Prod.snd hsame
    | _ => rfl
  · generalize s.step input = out at hdoes
    cases hdoes with
    | pushRequest request => rfl
    | moves hmoves => cases hmoves <;> rfl
    | announce hstage =>
      exact filterMap_announced (fun _ => rfl) (fun _ _ => rfl) (fun _ => rfl) _ _
    | retained | subscribeBus => rfl
    | _ => simp [Input.request?, Output.pushed?, List.filterMap_map, Function.comp_def]

/-! ## The session -/

section Session

variable {s : ZwaveProtocolState} {out : ZwaveProtocolState × List Output}

/-- The session takes the steps that it takes by itself. -/
def TakesEvents (s : ZwaveProtocolState) (events : List ProtocolThread.Event)
    (out : ZwaveProtocolState × List Output) : Prop :=
  out.1.session = exec ProtocolThread.step s.session events ∧
    out.2.filterMap Output.session? = emitted ProtocolThread.step s.session events

/-- A session event of the thread is the session's own step, and puts out what that does. -/
theorem takesEvents_sessionEvent (event : ProtocolThread.Event) (stage : Stage) :
    TakesEvents s [event] (s.sessionEvent event stage) := by
  refine ⟨rfl, ?_⟩
  simp [Output.session?, List.filterMap_map, Function.comp_def, emitted]

/-- Whichever move the thread makes, the session takes the steps of `sessionEvents` for it and puts
out what they do. -/
theorem takesEvents_of_does (hdoes : s.Does .proceed out) :
    TakesEvents s (sessionEvents ⟨s, .proceed⟩) out := by
  cases hdoes with
  -- Going from one stage to another is nothing that the session is told of.
  | moves hmoves =>
    have hnone : sessionEvents ⟨s, .proceed⟩ = [] := by
      cases hmoves <;> simp_all [sessionEvents]
    rw [hnone]
    exact ⟨rfl, rfl⟩
  | subscribeBus hstage | bind hstage | exit hstage =>
    simp only [sessionEvents, hstage]
    exact ⟨rfl, rfl⟩
  | @announce info result hstage =>
    simp only [sessionEvents, hstage]
    exact ⟨rfl, filterMap_announced (fun _ => rfl) (fun _ _ => rfl) (fun _ => rfl) info result⟩
  -- The queue is emptied first, which the session does not see, and then it is told of the
  -- connection.
  | clear hstage =>
    have hevents : sessionEvents ⟨s, .proceed⟩ = [.connect] := by
      simp only [sessionEvents, hstage]
    obtain ⟨hsession, houtputs⟩ :=
      takesEvents_sessionEvent (s := { s with queue := [] }) .connect .atSession
    rw [hevents]
    refine ⟨hsession, ?_⟩
    rw [List.filterMap_append, houtputs]
    simp [Output.session?, List.filterMap_map, Function.comp_def]
  -- The port is closed from either place of the loop by the same event.
  | disconnect hstage =>
    have hevents : sessionEvents ⟨s, .proceed⟩ = [.disconnect] := by
      rcases hstage with ⟨hstage, h⟩ | ⟨hstage, h⟩ <;> simp [sessionEvents, hstage, h]
    rw [hevents]
    exact takesEvents_sessionEvent .disconnect .atLoop
  -- The request taken is the one that the session is asked to dispatch, and the queue is none of
  -- its own.
  | @dispatch request queue hstage hqueue =>
    have hevents : sessionEvents ⟨s, .proceed⟩ = [.dispatch request] := by
      simp only [sessionEvents, hstage, hqueue]
    rw [hevents]
    exact takesEvents_sessionEvent (s := { s with queue }) (.dispatch request) .dispatching

/-- Whatever the input, the session takes the steps of `sessionEvents` for it and puts out what they
do. -/
theorem takesEvents_step (s : ZwaveProtocolState) (input : Input) :
    TakesEvents s (sessionEvents ⟨s, input⟩) (s.step input) := by
  cases input with
  | proceed =>
    -- At a stage that waits for another input nothing is done, and the session is told of nothing.
    rcases s.proceed_cases with ⟨hsame, hworks⟩ | hdoes
    · have hnone : sessionEvents ⟨s, .proceed⟩ = [] := by
        simp only [works] at hworks
        simp only [sessionEvents]
        split at hworks <;> simp_all
      rw [hnone, ZwaveProtocolState.step, hsame]
      exact ⟨rfl, rfl⟩
    · exact takesEvents_of_does hdoes
  -- The answers of the transport and the frames reach the session only while it is connected.
  | sent ok =>
    simp only [ZwaveProtocolState.step, ZwaveProtocolState.dispatchEvent, sessionEvents]
    split
    · exact takesEvents_sessionEvent _ _
    · exact ⟨rfl, rfl⟩
  | frame frame =>
    simp only [ZwaveProtocolState.step, ZwaveProtocolState.frame, sessionEvents]
    split
    · exact takesEvents_sessionEvent _ _
    · exact ⟨rfl, rfl⟩
  | resume deadline =>
    simp only [ZwaveProtocolState.step, ZwaveProtocolState.dispatchEvent, sessionEvents]
    split
    · exact takesEvents_sessionEvent _ _
    · exact ⟨rfl, rfl⟩
  -- Pushing and waking up are steps of the queue alone.
  | pushRequest request => exact ⟨rfl, rfl⟩
  | spuriousWakeUp => exact ⟨s.notifyPath_session, rfl⟩
  | dongleStatus status =>
    simp only [ZwaveProtocolState.step, ZwaveProtocolState.publishDongleStatus]
    split_ifs <;> exact ⟨rfl, rfl⟩
  | notify =>
    simp only [ZwaveProtocolState.step]
    split_ifs
    · exact ⟨s.notifyPath_session, rfl⟩
    · exact ⟨rfl, rfl⟩
  | destroy =>
    simp only [ZwaveProtocolState.step, ZwaveProtocolState.destroy]
    split
    · exact ⟨rfl, rfl⟩
    · exact ⟨s.notifyPath_session, rfl⟩
    · split_ifs <;> exact ⟨rfl, rfl⟩
    · exact ⟨rfl, rfl⟩
  | opened ok =>
    simp only [ZwaveProtocolState.step, ZwaveProtocolState.opened]
    split
    · split_ifs <;> exact ⟨rfl, rfl⟩
    · exact ⟨rfl, rfl⟩
  -- What the introspection finds is announced, and what it could not find is reported; neither
  -- comes from the session.
  | introspected result errors =>
    have herrors : (errors.map Output.daemonError).filterMap Output.session? = [] := by
      simp [Output.session?, List.filterMap_map, Function.comp_def]
    simp only [ZwaveProtocolState.step, ZwaveProtocolState.introspected]
    split_ifs
    · split
      · exact ⟨rfl, by rw [List.filterMap_append, herrors]; rfl⟩
      · exact ⟨rfl, herrors⟩
    · exact ⟨rfl, rfl⟩
  | pumped =>
    simp only [ZwaveProtocolState.step]
    split_ifs <;> exact ⟨rfl, rfl⟩

end Session

open ZwaveProtocolState in
/-- The session takes in a step the steps that it takes by itself. -/
theorem component_session :
    Component ZwaveProtocolState.step ProtocolThread.step ZwaveProtocolState.session sessionEvents
      Output.session? where
  moves s input := (takesEvents_step s input).1
  puts s input := (takesEvents_step s input).2

/-! ## What goes to the dongle -/

section Sends

variable (s : ProtocolThread)

/-- Registering a device sends no frame. -/
theorem send_notMem_register (callback : NodeStatusCallback) (sent : ZwaveDataFrame) :
    .send sent ∉ (s.register callback).2 := by
  unfold ProtocolThread.register
  split_ifs <;> simp

/-- The end of an inclusion or exclusion sends no frame. -/
theorem send_notMem_finish (callback : NodeStatusCallback) (sent : ZwaveDataFrame) :
    .send sent ∉ (s.finish callback).2 := by
  unfold ProtocolThread.finish
  split
  · cases s.pendingInclusion with
    | none => simp
    | some included =>
      dsimp only
      split <;> simp
  · simp

/-- A frame is answered on the bus, not to the dongle. -/
theorem send_notMem_onFrame (frame sent : ZwaveDataFrame) : .send sent ∉ (s.onFrame frame).2 := by
  unfold ProtocolThread.onFrame ProtocolThread.handleIncomingFrame
  -- The branches are those of `handleIncomingFrame` in its order: each publishes, none sends.
  split
  · simp
  split
  · simp
  split
  · simp
  split
  · dsimp only
    unfold FailedNodeRemoval.handleRemoveFailedNodeFrame
    split
    · simp [FailedNodeRemoval.onResponse, ThreadOutput.ofRemoval]
    · split
      · unfold FailedNodeRemoval.onCallback
        dsimp only
        split <;> simp [ThreadOutput.ofRemoval]
      · simp
  split
  · simp [ProtocolThread.onRequestNodeInfoResponse]
  split
  · unfold ProtocolThread.onApplicationUpdate
    split <;> simp
  split
  · simp [ProtocolThread.onNodeCallback, send_notMem_register, send_notMem_finish]
  · simp

variable {s}

/-- Outputs without a `send` hand no frame to the transport. -/
theorem filterMap_sentFrame {outputs : List ThreadOutput}
    (h : ∀ frame, ThreadOutput.send frame ∉ outputs) : outputs.filterMap sentFrame? = [] := by
  rw [List.filterMap_eq_nil_iff]
  intro output hmem
  cases output with
  | send frame => exact absurd hmem (h frame)
  | _ => rfl

/-- No event but a dispatch hands a frame to the transport. -/
theorem step_sends {event : ProtocolThread.Event} (hevent : ∀ request, event ≠ .dispatch request) :
    (s.step event).2.filterMap sentFrame? = [] := by
  cases event with
  | connect | disconnect | resume =>
    simp only [ProtocolThread.step]
    split <;> rfl
  | dispatch request => exact absurd rfl (hevent request)
  | sent ok =>
    simp only [ProtocolThread.step]
    split
    · unfold ProtocolThread.afterSend ProtocolThread.afterSendData
      split
      · rfl
      · rfl
      all_goals split_ifs <;> rfl
    all_goals rfl
  | frame frame =>
    simp only [ProtocolThread.step]
    split
    · exact filterMap_sentFrame (send_notMem_onFrame s frame)
    · rfl

/-- A dispatch hands the frame of its request to the transport, and no other. -/
theorem dispatch_sends (hconnected : s.connected = true) (hidle : s.phase = .idle)
    (request : Request) :
    (s.step (.dispatch request)).2.filterMap sentFrame? = [encodeRequest request] := by
  obtain ⟨-, -, -, -, houtputs⟩ := s.dispatchRequest_spec request
  rw [ProtocolThread.step, if_pos ⟨hconnected, hidle⟩, houtputs, List.filterMap_append]
  cases ProtocolThread.starts request <;> rfl

/-- An event of a dispatch leaves the connection as it is. -/
theorem connected_step {event : ProtocolThread.Event}
    (hevent : event ≠ .connect ∧ event ≠ .disconnect) :
    (s.step event).1.connected = s.connected := by
  -- Only the two events that open and close the port touch the flag.
  cases event with
  | connect => exact absurd rfl hevent.1
  | disconnect => exact absurd rfl hevent.2
  | dispatch request =>
    simp only [ProtocolThread.step]
    split
    · exact (s.dispatchRequest_spec request).2.1
    · rfl
  | sent ok =>
    simp only [ProtocolThread.step]
    split
    · exact (s.aside_afterSend _ ok).1.connected
    all_goals rfl
  | frame frame =>
    simp only [ProtocolThread.step]
    split
    · exact (s.onFrame_session frame).1
    · rfl
  | resume deadline =>
    simp only [ProtocolThread.step]
    split <;> rfl

/-- A frame that comes in leaves what the session waits for: answers are taken by the wait
itself. -/
theorem phase_frame (frame : ZwaveDataFrame) : (s.step (.frame frame)).1.phase = s.phase := by
  simp only [ProtocolThread.step]
  split
  · exact (s.onFrame_session frame).2.1
  · rfl

end Sends

/-! ## Where the session is -/

/-- The thread is in `runConnectedSession`. -/
def Stage.inSession : Stage → Bool
  | .atSession | .checking | .popping | .dispatching | .pumping => true
  | _ => false

/-- The session is where the thread is. -/
structure InStep (s : ZwaveProtocolState) : Prop where
  /-- It has begun, and is not over. -/
  connected : s.session.connected = s.stage.inSession
  /-- A request is under way in a dispatch, and nowhere else. -/
  phase : s.session.phase = .idle ↔ s.stage ≠ .dispatching

section InStep

variable {s s' : ZwaveProtocolState}

/-- A move that leaves the session, and does not enter or leave `runConnectedSession` or a dispatch,
keeps it where the thread is. -/
theorem InStep.keep (h : InStep s) (hsession : s'.session = s.session)
    (hin : s'.stage.inSession = s.stage.inSession)
    (hdispatching : s'.stage = .dispatching ↔ s.stage = .dispatching) : InStep s' where
  connected := by rw [hsession, hin, h.connected]
  phase := by rw [hsession, h.phase, Ne, Ne, hdispatching]

/-- An event of a dispatch keeps the session where the thread is. -/
theorem InStep.dispatchEvent (h : InStep s) (hstage : s.stage = .dispatching)
    {event : ProtocolThread.Event} (hevent : event ≠ .connect ∧ event ≠ .disconnect) :
    InStep (s.sessionEvent event
      (ZwaveProtocolState.dispatchStage (s.session.step event).1)).1 := by
  have hconnected := (connected_step hevent).trans h.connected
  rw [hstage] at hconnected
  unfold ZwaveProtocolState.dispatchStage
  split
  · next hidle => exact ⟨hconnected, by simp [hidle]⟩
  · next hbusy => exact ⟨hconnected, by simp [hbusy]⟩

/-- Every input keeps the session where the thread is, one case per move of the thread. -/
theorem InStep.step (h : InStep s) (input : Input) : InStep (s.step input).1 := by
  rcases s.step_cases input with ⟨hsame, -⟩ | hdoes
  · rwa [hsame]
  generalize s.step input = out at hdoes
  cases hdoes with
  -- These steps touch neither the session nor the stage.
  | pushRequest | dongleStatus | retained | destroy | join => exact h.keep rfl rfl Iff.rfl
  -- A thread that is woken up has no open port, before and after.
  | notify | spuriousWakeUp | notifyAll =>
    refine h.keep s.notifyPath_session ?_ ?_ <;> dsimp only <;> rw [s.notifyPath_stage] <;> split
    all_goals simp_all [Stage.inSession]
  | moves hmoves => refine h.keep rfl ?_ ?_ <;> cases hmoves <;> simp_all [Stage.inSession]
  | subscribeBus hstage | openFails hstage | introduced _ hstage | unknown _ hstage | bind hstage
  | announce hstage | exit hstage =>
    refine h.keep rfl ?_ ?_ <;> simp [hstage, Stage.inSession, ZwaveProtocolState.subscribeBus]
  -- The queue is cleared before the port counts as open, so the session starts afresh here.
  | clear hstage =>
    have hnot : s.session.connected = false := by rw [h.connected, hstage]; rfl
    have hsession : (s.session.step .connect).1 = { connected := true } := by
      simp [ProtocolThread.step, hnot]
    exact ⟨by simp [hsession, Stage.inSession], by simp [hsession]⟩
  -- The port is closed between two requests, when no request is out.
  | disconnect hstage =>
    have hstage' : s.stage = .atSession ∨ s.stage = .checking := by
      exact hstage.imp And.left And.left
    have hconnected : s.session.connected = true := by
      rcases hstage' with hstage | hstage <;> rw [h.connected, hstage] <;> rfl
    have hidle : s.session.phase = .idle := by
      rw [h.phase]
      rcases hstage' with hstage | hstage <;> rw [hstage] <;> simp
    have hsession : (s.session.step .disconnect).1 =
        { s.session with connected := false, tracker := none, pendingSendData := none } := by
      simp [ProtocolThread.step, hconnected, hidle]
    exact ⟨by simp [hsession, Stage.inSession], by simp [hsession, hidle]⟩
  -- A request is dispatched between two others, so the session can take it at once.
  | @dispatch request queue hstage hqueue =>
    have hconnected : s.session.connected = true := by rw [h.connected, hstage]; rfl
    have hidle : s.session.phase = .idle := by rw [h.phase, hstage]; simp
    obtain ⟨hphase, hstays, -⟩ := s.session.dispatchRequest_spec request
    have hsession : (s.session.step (.dispatch request)).1 =
        (s.session.dispatchRequest request).1 := by
      simp [ProtocolThread.step, hconnected, hidle]
    exact ⟨by simp [hsession, hstays, hconnected, Stage.inSession], by simp [hsession, hphase]⟩
  | sent ok hstage => exact h.dispatchEvent hstage ⟨by simp, by simp⟩
  | resume deadline hstage => exact h.dispatchEvent hstage ⟨by simp, by simp⟩
  -- A frame neither opens nor closes the port, and the phase that the session is in goes on.
  | frame frame hstage =>
    refine ⟨?_, ?_⟩
    · have hevent : ProtocolThread.Event.frame frame ≠ .connect ∧
          ProtocolThread.Event.frame frame ≠ .disconnect := ⟨by simp, by simp⟩
      exact (connected_step hevent).trans h.connected
    · rw [ZwaveProtocolState.sessionEvent_session, phase_frame]
      exact h.phase

end InStep

/-! ## The frames -/

section Frames

variable {s : ZwaveProtocolState}

/-- What the session hands to the transport is handed on as it is. -/
theorem filterMap_sent_session (outputs : List ThreadOutput) :
    (outputs.map Output.session).filterMap Output.sent? = outputs.filterMap sentFrame? := by
  rw [List.filterMap_map]
  rfl

/-- What a step sends is the request that it dispatches. -/
theorem sent_step (h : InStep s) (input : Input) :
    (s.step input).2.filterMap Output.sent? =
      ((s.step input).2.filterMap Output.dispatched?).map encodeRequest := by
  rcases s.step_cases input with ⟨hsame, -⟩ | hdoes
  -- A step that changes nothing sends nothing.
  · rw [hsame]
    rfl
  generalize s.step input = out at hdoes
  cases hdoes with
  -- Of what the session is told, only a dispatch makes it send a frame.
  | clear hstage =>
    have hsends : (s.session.step .connect).2.filterMap sentFrame? = [] := step_sends (by simp)
    simp only [List.filterMap_append, ZwaveProtocolState.sessionEvent_outputs,
      filterMap_sent_session, hsends]
    simp [Output.sent?, Output.session?, Output.dispatched?, List.filterMap_map,
      Function.comp_def]
  | disconnect hstage =>
    have hsends : (s.session.step .disconnect).2.filterMap sentFrame? = [] :=
      step_sends (by simp)
    simp only [ZwaveProtocolState.sessionEvent_outputs, filterMap_sent_session, hsends]
    simp [Output.dispatched?, List.filterMap_map, Function.comp_def]
  -- The session is idle when a request is dispatched, and sends its encoding.
  | @dispatch request queue hstage hqueue =>
    have hconnected : s.session.connected = true := by rw [h.connected, hstage]; rfl
    have hidle : s.session.phase = .idle := by rw [h.phase, hstage]; simp
    have hsends := dispatch_sends hconnected hidle request
    rw [List.filterMap_cons_none rfl, ZwaveProtocolState.sessionEvent_outputs,
      filterMap_sent_session, hsends]
    simp [Output.dispatched?, List.filterMap_map, Function.comp_def]
  | sent ok hstage =>
    have hsends : (s.session.step (.sent ok)).2.filterMap sentFrame? = [] := step_sends (by simp)
    simp only [ZwaveProtocolState.sessionEvent_outputs, filterMap_sent_session, hsends]
    simp [Output.dispatched?, List.filterMap_map, Function.comp_def]
  | resume deadline hstage =>
    have hsends : (s.session.step (.resume (deadline || !s.running))).2.filterMap sentFrame? =
        [] := step_sends (by simp)
    simp only [ZwaveProtocolState.sessionEvent_outputs, filterMap_sent_session, hsends]
    simp [Output.dispatched?, List.filterMap_map, Function.comp_def]
  | frame frame hstage =>
    have hsends : (s.session.step (.frame frame)).2.filterMap sentFrame? = [] :=
      step_sends (by simp)
    simp only [ZwaveProtocolState.sessionEvent_outputs, filterMap_sent_session, hsends]
    simp [Output.dispatched?, List.filterMap_map, Function.comp_def]
  | @announce info result hstage =>
    have hsent : (ZwaveProtocolState.announced info result).filterMap Output.sent? = [] :=
      filterMap_announced (fun _ => rfl) (fun _ _ => rfl) (fun _ => rfl) info result
    have hdispatched :
        (ZwaveProtocolState.announced info result).filterMap Output.dispatched? = [] :=
      filterMap_announced (fun _ => rfl) (fun _ _ => rfl) (fun _ => rfl) info result
    rw [hsent, hdispatched]
    rfl
  | introduced errors =>
    have hsent : (errors.map Output.daemonError).filterMap Output.sent? = [] := by
      simp [Output.sent?, Output.session?, List.filterMap_map, Function.comp_def]
    have hdispatched : (errors.map Output.daemonError).filterMap Output.dispatched? = [] := by
      simp [Output.dispatched?, List.filterMap_map, Function.comp_def]
    rw [List.filterMap_append, List.filterMap_append, hsent, hdispatched]
    rfl
  | unknown =>
    simp [Output.sent?, Output.session?, Output.dispatched?, List.filterMap_map,
      Function.comp_def]
  | _ => rfl

end Frames

/-! ## The stores -/

section Bound

variable {s : ZwaveProtocolState} {outputs : List Output}

/-- The stores are bound to the network of the last DongleInfo, but for those that have been bound
to the next one while the thread binds them. -/
def Bound (outputs : List Output) (s : ZwaveProtocolState) : Prop :=
  match s.stage with
  | .binding info _ stores =>
    stores <:+ Store.all ∧
      ∀ store, s.homes store = if store ∈ stores then lastHome outputs else some info.homeId
  | _ => ∀ store, s.homes store = lastHome outputs

/-- Without a DongleInfo the network of the last one stays the same. -/
theorem lastHome_append (outputs : List Output) {more : List Output}
    (hmore : more.filterMap Output.dongleInfo? = []) :
    lastHome (outputs ++ more) = lastHome outputs := by
  rw [lastHome, List.filterMap_append, hmore, List.append_nil, lastHome]

/-- Outside of the binding all stores are bound to the network of the last DongleInfo. -/
theorem bound_iff (hstage : ∀ info result stores, s.stage ≠ .binding info result stores) :
    Bound outputs s ↔ ∀ store, s.homes store = lastHome outputs := by
  unfold Bound
  split
  · next h => exact absurd h (hstage _ _ _)
  · exact Iff.rfl

/-- Every store is one of those that a DongleInfo binds. -/
theorem mem_all (store : Store) : store ∈ Store.all := by cases store <;> decide

/-- Nothing happens to the stores, and nothing is announced. -/
theorem Bound.keep (h : Bound outputs s) {s' : ZwaveProtocolState} {more : List Output}
    (hhomes : s'.homes = s.homes) (hmore : more.filterMap Output.dongleInfo? = [])
    (hstage : s'.stage = s.stage ∨
      (∀ info result stores, s.stage ≠ .binding info result stores) ∧
        ∀ info result stores, s'.stage ≠ .binding info result stores) :
    Bound (outputs ++ more) s' := by
  rcases hstage with hstage | ⟨hbefore, hafter⟩
  · unfold Bound at h ⊢
    rw [hstage, hhomes, lastHome_append outputs hmore]
    exact h
  · rw [bound_iff hafter, hhomes, lastHome_append outputs hmore]
    exact (bound_iff hbefore).mp h

/-- Every input keeps the stores bound to the network of the last DongleInfo, or on the way to the
next one. -/
theorem Bound.step (h : Bound outputs s) (input : Input) :
    Bound (outputs ++ (s.step input).2) (s.step input).1 := by
  rcases s.step_cases input with ⟨hsame, -⟩ | hdoes
  · rw [hsame]
    exact h.keep rfl rfl (Or.inl rfl)
  generalize s.step input = out at hdoes
  cases hdoes with
  | pushRequest | dongleStatus | retained | destroy | join => exact h.keep rfl rfl (Or.inl rfl)
  | notify | spuriousWakeUp | notifyAll =>
    refine h.keep s.notifyPath_homes rfl ?_
    dsimp only
    rw [s.notifyPath_stage]
    split
    · next hasleep => exact Or.inr (by simp [hasleep])
    · exact Or.inl rfl
  | moves hmoves => exact h.keep rfl rfl (Or.inr (by cases hmoves <;> simp_all))
  | subscribeBus hstage | openFails hstage | exit hstage =>
    exact h.keep rfl rfl (Or.inr (by simp [hstage, ZwaveProtocolState.subscribeBus]))
  | @introduced result info errors hstage hinfo =>
    have hbefore := (bound_iff (by simp [hstage])).mp h
    have hmore : (errors.map Output.daemonError ++ [Output.daemonError noError]).filterMap
        Output.dongleInfo? = [] := by
      simp [Output.dongleInfo?, List.filterMap_map, Function.comp_def]
    refine ⟨List.suffix_refl _, fun store => ?_⟩
    rw [if_pos (mem_all store), lastHome_append outputs hmore]
    exact hbefore store
  | unknown errors hstage hinfo =>
    refine h.keep rfl ?_ (Or.inr (by simp [hstage]))
    simp [Output.dongleInfo?, List.filterMap_map, Function.comp_def]
  | @bind info result store stores hstage =>
    unfold Bound at h
    rw [hstage] at h
    obtain ⟨hsuffix, hhomes⟩ := h
    have hnodup : (store :: stores).Nodup :=
      (show Store.all.Nodup by decide).sublist hsuffix.sublist
    refine ⟨(List.suffix_cons store stores).trans hsuffix, fun other => ?_⟩
    rw [lastHome_append outputs rfl]
    by_cases hother : other = store
    · subst hother
      rw [if_neg (List.nodup_cons.mp hnodup).1]
      exact Function.update_self ..
    · have hbound := hhomes other
      simp only [List.mem_cons, hother, false_or] at hbound
      exact (Function.update_of_ne hother ..).trans hbound
  | @announce info result hstage =>
    unfold Bound at h
    rw [hstage] at h
    have hmore : (ZwaveProtocolState.announced info result).filterMap Output.dongleInfo? = [info] :=
      filterMap_announced (fun _ => rfl) (fun _ _ => rfl) (fun _ => rfl) info result
    intro store
    rw [lastHome, List.filterMap_append, hmore, List.getLast?_concat, h.2 store,
      if_neg List.not_mem_nil]
    rfl
  | clear hstage =>
    refine h.keep rfl ?_ (Or.inr (by simp [hstage]))
    simp [Output.dongleInfo?, List.filterMap_map, Function.comp_def]
  | disconnect hstage =>
    refine h.keep rfl ?_ (Or.inr ?_)
    · simp [Output.dongleInfo?, List.filterMap_map, Function.comp_def]
    · rcases hstage with ⟨hstage, -⟩ | ⟨hstage, -⟩ <;> simp [hstage]
  | dispatch hstage hqueue =>
    refine h.keep rfl ?_ (Or.inr (by simp [hstage]))
    simp [Output.dongleInfo?]
  | sent ok hstage | resume deadline hstage =>
    refine h.keep rfl ?_ (Or.inr ?_)
    · simp [Output.dongleInfo?, List.filterMap_map, Function.comp_def]
    · simp only [hstage, ZwaveProtocolState.sessionEvent_stage, ZwaveProtocolState.dispatchStage]
      split_ifs <;> simp
  | frame frame hstage =>
    refine h.keep rfl ?_ (Or.inl rfl)
    simp [Output.dongleInfo?, List.filterMap_map, Function.comp_def]

end Bound

/-! ## Connections are kept apart -/

open ZwaveProtocolState

/-- After every run the session is where the thread is, the stores are bound, and the frames sent
are those of the dispatched requests, in their order. -/
theorem kept_run (inputs : List Input) :
    InStep (exec step {} inputs) ∧ Bound (emitted step {} inputs) (exec step {} inputs) ∧
      (emitted step {} inputs).filterMap Output.sent? =
        ((emitted step {} inputs).filterMap Output.dispatched?).map encodeRequest := by
  refine emitted_induction (I := fun outputs s => InStep s ∧ Bound outputs s ∧
    outputs.filterMap Output.sent? = (outputs.filterMap Output.dispatched?).map encodeRequest)
    step {} ⟨⟨rfl, by simp⟩, fun _ => rfl, rfl⟩ ?_ inputs
  rintro outputs s input ⟨hin, hbound, hsent⟩
  refine ⟨hin.step input, hbound.step input, ?_⟩
  rw [List.filterMap_append, List.filterMap_append, List.map_append, hsent, sent_step hin input]

/-- Where nothing is lost, what leaves the queue is dispatched. -/
theorem filterMap_left {outputs : List Output} (h : outputs.filterMap Output.cleared? = []) :
    outputs.filterMap Output.left? = outputs.filterMap Output.dispatched? := by
  refine List.filterMap_congr fun output hmem => ?_
  rw [Output.left?, List.filterMap_eq_nil_iff.mp h output hmem, Option.or_none]

/-- A session starts with an empty queue, and with nothing of the one before. -/
theorem starts_afresh {s : ZwaveProtocolState} (h : InStep s) (hstage : s.stage = .clearing) :
    (s.step .proceed).1.queue = [] ∧ (s.step .proceed).1.session = { connected := true } := by
  have hnot : s.session.connected = false := by rw [h.connected, hstage]; rfl
  simp [step, proceed, hstage, sessionEvent, ProtocolThread.step, hnot]

/-- Whatever the threads do: what was pushed was queued, and nothing else; what was queued has been
dispatched or cleared, in order, or is still on the queue; the frames that were sent are those of
the requests that were dispatched; from the clear before a session to the next one exactly what is
queued meanwhile is dispatched, and the session starts afresh and takes the steps that it takes by
itself; and the stores are bound to the network of the last DongleInfo, unless the thread is binding
them. -/
theorem connections_isolated (inputs : List Input) :
    let s := exec step {} inputs
    let outputs := emitted step {} inputs
    (outputs.filterMap Output.pushed? = inputs.filterMap Input.request?) ∧
      (outputs.filterMap Output.pushed? = outputs.filterMap Output.left? ++ s.queue) ∧
      (outputs.filterMap Output.sent? =
        (outputs.filterMap Output.dispatched?).map encodeRequest) ∧
      (∀ before after, inputs = before ++ .proceed :: after →
        (exec step {} before).stage = .clearing →
          let start := exec step {} (before ++ [.proceed])
          let later := emitted step start after
          start.session = { connected := true } ∧
            s.session = exec ProtocolThread.step start.session
              ((trace step start after).flatMap sessionEvents) ∧
            later.filterMap Output.session? = emitted ProtocolThread.step start.session
              ((trace step start after).flatMap sessionEvents) ∧
            (later.filterMap Output.cleared? = [] →
              later.filterMap Output.pushed? =
                later.filterMap Output.dispatched? ++ s.queue)) ∧
      ((∀ info result stores, s.stage ≠ .binding info result stores) →
        ∀ store, s.homes store = lastHome outputs) := by
  intro s outputs
  obtain ⟨-, hbound, hsent⟩ := kept_run inputs
  refine ⟨filterMap_emitted pushed_step {} inputs, ?_, hsent, ?_,
    fun hstage => (bound_iff hstage).mp hbound⟩
  · exact conserves_emitted queue {} inputs fun t _ => conserves_step t
  rintro before after rfl hclearing
  intro start later
  obtain ⟨hin, -, -⟩ := kept_run before
  obtain ⟨hempty, hfresh⟩ := starts_afresh hin hclearing
  have hstart : start = ((exec step {} before).step .proceed).1 := exec_concat step {} before .proceed
  have hs : s = exec step start after := by
    rw [show s = exec step {} (before ++ .proceed :: after) from rfl, exec_append, hstart]
    rfl
  refine ⟨by rw [hstart]; exact hfresh, ?_, ?_, fun hcleared => ?_⟩
  · rw [hs]
    exact component_session.exec_eq start after
  · exact component_session.emitted_eq start after
  · have hqueue := conserves_emitted queue start after fun t _ => conserves_step t
    rwa [hstart, hempty, List.nil_append, ← hstart, ← hs, filterMap_left hcleared] at hqueue

/-- A dongle that does not say who it is gets a session, too. -/
example : (exec step {} [.dongleStatus { connected := true, ttyPath := "/dev/ttyACM0" }, .proceed,
    .proceed, .proceed, .proceed, .proceed, .opened true, .introspected {} []]).stage =
    .clearing := rfl

end Zwaved.Protocol.Connection
