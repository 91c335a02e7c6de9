import Zwaved.Protocol.SendOrder

/-!
# Secure sends that are dropped

A caller that gives a callback id waits for a SendDataCallback with it. For a payload that goes out
as it is, the protocol thread sees to that, also when the payload cannot be sent. A payload that is
diverted to the security layer reaches it only inside a frame; one that an orchestrator gives up
never does. `AnsweredS0` and `AnsweredS2` count, for one move, the callback ids that are in a queue
before it or come with it: each is in the queue after it, or on a frame, or in a failed callback.

There are three places where a payload is given up: the S0 orchestrator drops a queue on a report
that it cannot use, and the S2 orchestrator refuses a request for a node without keys and drops a
queue on a report without an REI. None of them says so, and `neverSilent_iff` has that these are
all: a run answers every callback id exactly when nothing with a callback id is given up there.
-/

namespace Zwaved.Protocol

open Reactive

variable (bus : Bus)

/-- The callback ids that are told in a move that sending has failed. -/
def failedCallbacks (t : Step) : List UInt8 :=
  (bus.dispatcher.step t.before t.input).2.filterMap fun
    | .sendDataCallback callbackId txStatus => if txStatus ≠ 0 then some callbackId else none
    | .pushRequest _ => none

/-- The callback ids of payloads. -/
def callbackIds (queue : List S2.Pending) : List UInt8 := queue.map S2.Pending.callbackId

/-- Every callback id that is in the S0 queue of the node or comes into it is still there after the
move, or is on a frame, or is told that sending has failed. -/
def AnsweredS0 (nodeId : NodeId) (t : Step) : Prop :=
  ∀ callbackId ≠ 0,
    (callbackIds (t.before.state.queues nodeId ++ requestedS0 nodeId t)).count callbackId ≤
      (callbackIds ((bus.dispatcher.step t.before t.input).1.state.queues nodeId)).count callbackId +
        ((framesS0 bus nodeId t).map Prod.snd ++ failedCallbacks bus t).count callbackId

/-- The same of the S2 queue of the node. -/
def AnsweredS2 (nodeId : NodeId) (t : Step) : Prop :=
  ∀ callbackId ≠ 0,
    (callbackIds (t.before.state.transport.queues nodeId ++ requestedS2 nodeId t)).count callbackId ≤
      (callbackIds ((bus.dispatcher.step t.before t.input).1.state.transport.queues nodeId)).count
          callbackId +
        ((framesS2 bus nodeId t).map Prod.snd ++ failedCallbacks bus t).count callbackId

/-- No secure send is dropped silently in this run. -/
def NeverSilent (start : Config World Action) (moves : List (Move Draws Event Event Change)) : Prop :=
  ∀ t ∈ trace bus.dispatcher.step start moves, ∀ nodeId,
    AnsweredS0 bus nodeId t ∧ AnsweredS2 bus nodeId t

/-- Nothing with a callback id is given up in a move. -/
structure GivesUpNothing (t : Step) : Prop where
  /-- The S0 orchestrator gets a report that is malformed, or has no key. -/
  s0Report : ∀ nodeId ccData draws,
    Dispatcher.action? t = some (.applicationCommand .s0Outbound nodeId ccData, draws) →
    S0.Security.commandByte ccData = some S0.Security.nonceReport →
    S0.Security.decodeNonceReport ccData = none ∨ t.before.state.networkKey = none →
    ∀ pending ∈ t.before.state.queues nodeId, pending.callbackId = 0
  /-- The S2 orchestrator gets a request for a node that is not S2-secure, or has no keys. -/
  s2Request : ∀ nodeId payload callbackId draws,
    Dispatcher.action? t = some (.secureS2Send nodeId payload callbackId, draws) →
    t.before.state.transport.peerConfig bus.s2Ssl nodeId = none → callbackId = 0
  /-- The S2 orchestrator gets a report that leaves nothing to send under. -/
  s2Report : ∀ nodeId ccData draws report,
    Dispatcher.action? t = some (.applicationCommand .s2Outbound nodeId ccData, draws) →
    S2.NonceSync.commandByte ccData = some S2.NonceSync.nonceReportCommand →
    S2.NonceSync.decodeNonceReport ccData = some report →
    ¬ ((peerOf nodeId t).acceptNonceReport report).CanSend →
    ∀ pending ∈ t.before.state.transport.queues nodeId, pending.callbackId = 0

/-! ## What is not given up -/

variable {bus} {nodeId : NodeId} {t : Step}

/-- The callback ids of two queues are those of the first and then those of the second. -/
theorem callbackIds_append (queue more : List S2.Pending) :
    callbackIds (queue ++ more) = callbackIds queue ++ callbackIds more := List.map_append

/-- A callback id other than zero does not occur in a queue where all are zero. -/
theorem count_callbackIds_eq_zero {queue : List S2.Pending}
    (h : ∀ pending ∈ queue, pending.callbackId = 0) {callbackId : UInt8} (hid : callbackId ≠ 0) :
    (callbackIds queue).count callbackId = 0 := by
  refine List.count_eq_zero.mpr fun hmem => hid ?_
  obtain ⟨pending, hpending, rfl⟩ := List.mem_map.mp hmem
  exact h pending hpending

/-- A queue whose callback ids count for nothing has none but zero. -/
theorem callbackId_eq_zero {queue : List S2.Pending}
    (h : ∀ callbackId ≠ 0, (callbackIds queue).count callbackId ≤ 0) :
    ∀ pending ∈ queue, pending.callbackId = 0 := by
  intro pending hpending
  by_contra hid
  have hmem : pending.callbackId ∈ callbackIds queue := List.mem_map_of_mem hpending
  have hpos := List.count_pos_iff.mpr hmem
  have hzero := h pending.callbackId hid
  omega

/-- Frames made of queued payloads carry the payloads' callback ids, in their order. -/
theorem callbackIds_frames {frames : List (Bytes × UInt8)} {queue : List S2.Pending}
    (h : List.Forall₂ (IsFrameOf bus) frames queue) : frames.map Prod.snd = callbackIds queue := by
  induction h with
  | nil => rfl
  | cons hframe _ ih =>
    obtain ⟨context, classKey, nonce, extensions, rfl⟩ := hframe
    simp only [List.map_cons, callbackIds, ih]

/-- A step that gives up no request answers all that its S0 side drops. -/
theorem answeredS0_of (h : GivesUpNothing bus t) : AnsweredS0 bus nodeId t := by
  intro callbackId hid
  cases s0Moved bus nodeId t with
  | quiet hrequested _ hqueue =>
    rw [hrequested, hqueue, List.append_nil]
    omega
  | requested hrequested _ hqueue =>
    rw [hrequested, hqueue]
    omega
  | encrypted _ _ _ hwaiting hrequested hframes hleft =>
    -- The head of the queue is on the frame.
    rw [hrequested, hwaiting, hframes, hleft, List.append_nil]
    simp only [callbackIds, List.map_cons, List.map_nil, List.singleton_append, List.count_cons]
    omega
  | dropped haction hcommand hunusable hrequested _ _ =>
    rw [hrequested, List.append_nil,
      count_callbackIds_eq_zero (h.s0Report _ _ _ haction hcommand hunusable) hid]
    omega

/-- A step that gives up no request answers all that its S2 side drops. -/
theorem answeredS2_of (h : GivesUpNothing bus t) : AnsweredS2 bus nodeId t := by
  intro callbackId hid
  -- What is asked for is that a request that leaves the queue has gone into a frame or has been
  -- answered.
  cases s2Moved bus nodeId t with
  | quiet hrequested _ _ hqueue =>
    rw [hrequested, hqueue, List.append_nil]
    omega
  -- A request to a node without a configuration is refused in silence, so it is one without a
  -- callback.
  | @refused pending draws haction hconfig hrequested _ _ hqueue =>
    have hzero : pending.callbackId = 0 := h.s2Request _ _ _ _ haction hconfig
    have hone : (callbackIds [pending]).count callbackId = 0 :=
      count_callbackIds_eq_zero (by simpa using hzero) hid
    rw [hrequested, hqueue, callbackIds_append, List.count_append, hone]
    omega
  -- What leaves the queue here leaves in a frame.
  | sent _ _ _ hrequested _ hframes hqueue =>
    rw [hrequested, hqueue, callbackIds_frames hframes, callbackIds_append, List.count_append,
      List.count_append]
    omega
  | queued _ hrequested _ _ hqueue =>
    rw [hrequested, hqueue]
    omega
  | drained hrequested _ hframes hleft =>
    rw [hrequested, hleft, callbackIds_frames hframes, List.append_nil, List.count_append]
    omega
  -- The report cannot be used and the queue is dropped, so no one in it may wait for an answer.
  | dropped haction hcommand hdecoded hcannot hrequested _ _ _ =>
    rw [hrequested, List.append_nil,
      count_callbackIds_eq_zero (h.s2Report _ _ _ _ haction hcommand hdecoded hcannot) hid]
    omega

/-! ## What is given up -/

/-- The handlers of the orchestrators publish no SendDataCallback. -/
theorem failedCallbacks_eq_nil {action : Action} {draws : Draws}
    (haction : Dispatcher.action? t = some (action, draws))
    (hcommand : ∀ command, action ≠ .command command) : failedCallbacks bus t = [] := by
  obtain ⟨rest, -, hstep⟩ := bus.dispatcher.step_of_action? haction
  have houtputs : (bus.work t.before.state action draws).2.2 = [] := by
    cases action with
    | command command => exact absurd rfl (hcommand command)
    | secureSend | secureS2Send | applicationCommand | nextNonce | dongleInfo => rfl
  have hnone : (bus.dispatcher.step t.before t.input).2 = [] := by
    rw [hstep]
    exact houtputs
  rw [failedCallbacks, hnone, List.filterMap_nil]

/-- A queue that is emptied without a frame or a failed callback had no callback id in it. -/
theorem zero_of_emptied {queue left more : List S2.Pending} {answers : List UInt8}
    (h : ∀ callbackId ≠ 0, (callbackIds (queue ++ more)).count callbackId ≤
      (callbackIds left).count callbackId + answers.count callbackId)
    (hleft : left = []) (hanswers : answers = []) :
    ∀ pending ∈ queue ++ more, pending.callbackId = 0 := by
  refine callbackId_eq_zero fun callbackId hid => ?_
  have hcount := h callbackId hid
  rw [hleft, hanswers] at hcount
  exact hcount

/-- If a nonce report that cannot be used leaves nobody unanswered, all who waited had asked for no
answer: the code drops the queue without a word. -/
theorem zero_of_answeredS0 (h : AnsweredS0 bus nodeId t) {ccData : Bytes} {draws : Draws}
    (haction : Dispatcher.action? t = some (.applicationCommand .s0Outbound nodeId ccData, draws))
    (hcommand : S0.Security.commandByte ccData = some S0.Security.nonceReport)
    (hunusable : S0.Security.decodeNonceReport ccData = none ∨ t.before.state.networkKey = none) :
    ∀ pending ∈ t.before.state.queues nodeId, pending.callbackId = 0 := by
  obtain ⟨hframes, hqueues⟩ := step_deliveredS0 bus haction nodeId
  have hfailed := @failedCallbacks_eq_nil bus _ _ _ haction fun _ heq => nomatch heq
  have houtcome := onS0Outbound_outcome bus t.before.state nodeId ccData draws.nonce
  have hqueue := congrFun hqueues nodeId
  generalize bus.onS0Outbound t.before.state nodeId ccData draws.nonce = result
    at hframes hqueue houtcome
  -- Whether or not anything waited, nothing does now, and nothing went out.
  have hdropped : (bus.dispatcher.step t.before t.input).1.state.queues nodeId = [] ∧
      framesS0 bus nodeId t = [] := by
    cases houtcome with
    | ignored hother =>
      exact ⟨hqueue.trans (hother.resolve_left (not_not.mpr hcommand)), hframes⟩
    | encrypted _ _ hdecoded hkey => rcases hunusable with hnone | hnone <;> simp_all
    | dropped _ _ _ => exact ⟨hqueue.trans (Function.update_self ..), hframes⟩
  intro pending hpending
  exact zero_of_emptied h hdropped.1 (by rw [hdropped.2, hfailed]; rfl) pending
    (List.mem_append_left _ hpending)

/-- If a request for a node without an S2 configuration leaves nobody unanswered, it had asked for
no answer. -/
theorem zero_of_answeredS2_request (h : AnsweredS2 bus nodeId t) {payload : Bytes}
    {callbackId : UInt8} {draws : Draws}
    (haction : Dispatcher.action? t = some (.secureS2Send nodeId payload callbackId, draws))
    (hconfig : t.before.state.transport.peerConfig bus.s2Ssl nodeId = none) : callbackId = 0 := by
  have hfailed := @failedCallbacks_eq_nil bus _ _ _ haction fun _ heq => nomatch heq
  have hrequested : requestedS2 nodeId t = [{ payload, callbackId }] := by
    simp [requestedS2, haction]
  cases s2Moved bus nodeId t with
  | quiet hnone => rw [hnone] at hrequested; cases hrequested
  | refused _ _ _ hframes _ hqueue =>
    by_contra hid
    have hcount := h callbackId hid
    rw [hrequested, hqueue, hframes, hfailed, callbackIds_append, List.count_append] at hcount
    simp [callbackIds] at hcount
  | sent _ hsome => exact absurd hconfig hsome
  | queued hsome => exact absurd hconfig hsome
  | drained hnone => rw [hnone] at hrequested; cases hrequested
  | dropped _ _ _ _ hnone => rw [hnone] at hrequested; cases hrequested

/-- If a nonce report after which nothing can be sent leaves nobody unanswered, all who waited had
asked for no answer. -/
theorem zero_of_answeredS2_report (h : AnsweredS2 bus nodeId t) {ccData : Bytes} {draws : Draws}
    {report : S2.NonceSync.Report}
    (haction : Dispatcher.action? t = some (.applicationCommand .s2Outbound nodeId ccData, draws))
    (hcommand : S2.NonceSync.commandByte ccData = some S2.NonceSync.nonceReportCommand)
    (hdecoded : S2.NonceSync.decodeNonceReport ccData = some report)
    (hcannot : ¬ ((peerOf nodeId t).acceptNonceReport report).CanSend) :
    ∀ pending ∈ t.before.state.transport.queues nodeId, pending.callbackId = 0 := by
  obtain ⟨hframes, hqueues⟩ := step_deliveredS2 bus haction nodeId
  have hfailed := @failedCallbacks_eq_nil bus _ _ _ haction fun _ heq => nomatch heq
  have houtcome := S2.Transport.outbound_outcome bus.s2Ssl t.before.state.transport nodeId ccData
    draws.entropy
  have hqueue := congrFun hqueues nodeId
  generalize t.before.state.transport.outbound bus.s2Ssl nodeId ccData draws.entropy = result
    at hframes hqueue houtcome
  -- The report that is refused takes the queue with it, and nothing is sent.
  have hdropped : (bus.dispatcher.step t.before t.input).1.state.transport.queues nodeId = [] ∧
      framesS2 bus nodeId t = [] := by
    cases houtcome with
    | ignored hother =>
      rcases hother with hother | hempty | hnone
      · exact absurd hcommand hother
      · exact ⟨hqueue.trans hempty, hframes⟩
      · rw [hnone] at hdecoded
        cases hdecoded
    | drained _ hsame hcan =>
      rw [hsame] at hdecoded
      obtain rfl := Option.some.inj hdecoded
      exact absurd hcan hcannot
    | dropped _ _ _ _ => exact ⟨hqueue.trans (Function.update_self ..), hframes⟩
  -- What was on the queue has not been answered, and so it did not ask for an answer.
  intro pending hpending
  exact zero_of_emptied h hdropped.1 (by rw [hdropped.2, hfailed]; rfl) pending
    (List.mem_append_left _ hpending)

variable (bus)

/-- A run drops no secure send silently exactly when nothing with a callback id is given up in
it. -/
theorem neverSilent_iff (start : Config World Action)
    (moves : List (Move Draws Event Event Change)) :
    NeverSilent bus start moves ↔
      ∀ t ∈ trace bus.dispatcher.step start moves, GivesUpNothing bus t := by
  constructor
  · intro h t ht
    have hanswered := h t ht
    constructor
    · intro nodeId ccData draws
      exact zero_of_answeredS0 (hanswered nodeId).1
    · intro nodeId payload callbackId draws
      exact zero_of_answeredS2_request (hanswered nodeId).2
    · intro nodeId ccData draws report
      exact zero_of_answeredS2_report (hanswered nodeId).2
  · intro h t ht nodeId
    exact ⟨answeredS0_of (h t ht), answeredS2_of (h t ht)⟩

/-! ## Three commands that nobody hears of -/

/-- The lock with S2 is known, but the keys are not loaded. -/
def unkeyed : Config World Action where
  state := { transport :=
    { registry := { nodes := Function.update (fun _ => none) 6 (some .s2Authenticated) } } }
  agenda := []

/-- The lock with S0 answers a command with a report that has no nonce in it. -/
def emptyReport : List (Move Draws Event Event Change) :=
  happens (.command (.node 5 8 (.setDoorLock 0xFF))) ++
    happens (.applicationCommand 5 [0x98, 0x80])

/-- A send with callback id 8 is refused without keys, dropped on a malformed S0 report, and dropped
on an S2 report without an REI. -/
theorem not_neverSilent_dropped :
    ¬ NeverSilent Bus.sample unkeyed (happens (.command (.node 6 8 (.setDoorLock 0xFF)))) ∧
      ¬ NeverSilent Bus.sample s0Lock emptyReport ∧ ¬ NeverSilent Bus.sample s2Lock lost := by
  refine ⟨fun h => ?_, fun h => ?_, fun h => ?_⟩
  · have hsilent := h ⟨exec Bus.sample.dispatcher.step unkeyed
      ((happens (.command (.node 6 8 (.setDoorLock 0xFF)))).take 2), .work Draws.sample⟩
      ((mem_trace_iff ..).mpr ⟨_, _, rfl, rfl⟩) 6
    exact absurd (hsilent.2 8 (by decide)) (by decide +kernel)
  · have hsilent := h ⟨exec Bus.sample.dispatcher.step s0Lock (emptyReport.take 8),
      .work Draws.sample⟩ ((mem_trace_iff ..).mpr ⟨_, _, rfl, rfl⟩) 5
    exact absurd (hsilent.1 8 (by decide)) (by decide +kernel)
  · have hsilent := h ⟨exec Bus.sample.dispatcher.step s2Lock (lost.take 9), .work Draws.sample⟩
      ((mem_trace_iff ..).mpr ⟨_, _, rfl, rfl⟩) 6
    exact absurd (hsilent.2 8 (by decide)) (by decide +kernel)

end Zwaved.Protocol
