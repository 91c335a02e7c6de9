import Zwaved.Protocol.NonceQueue
import Zwaved.S2.Outbox

/-!
# The order of S2 sends

A payload for an S2 node is encrypted at once when there is a SPAN, and queued when there is none;
the queue is encrypted when the node reports its REI. Two things break the order that the queue
keeps. Inbound traffic may set up a SPAN while payloads wait: a request that comes then is encrypted
at once, before them. And a report that brings no REI, with no SPAN up, empties the queue, so that
whatever is encrypted after it comes in the place of what was lost. `SparesQueue` says of a move
that it does neither, and `keepsOrder_of` that the order is kept in a run of such moves.

As for S0, `S2Moved` says what a move does to the queue of a node, and the run is an instance of
`Reactive.Fifo`.
-/

namespace Zwaved.Protocol

open Reactive

variable (bus : Bus)

/-- A SendDataCommand for the node with an encapsulated frame: the frame and its callback id. -/
def encapsulatedTo (nodeId : NodeId) (action : Action) : Option (Bytes × UInt8) :=
  (sendDataTo nodeId action).filter fun frame =>
    frame.1.byte 1 = S2.Encapsulation.messageEncapsulation

/-- The payload that a move brings for the node: SecureS2SendRequest is delivered. -/
def requestedS2 (nodeId : NodeId) (t : Step) : List S2.Pending :=
  match Dispatcher.action? t with
  | some (.secureS2Send other payload callbackId, _) =>
    if other = nodeId then [{ payload, callbackId }] else []
  | _ => []

/-- The encapsulated frames for the node that the outbound orchestrator publishes. -/
def framesS2 (nodeId : NodeId) (t : Step) : List (Bytes × UInt8) :=
  match Dispatcher.action? t with
  | some (.secureS2Send _ _ _, _) => (publishedBy bus t).filterMap (encapsulatedTo nodeId)
  | some (.applicationCommand .s2Outbound _ _, _) =>
    (publishedBy bus t).filterMap (encapsulatedTo nodeId)
  | _ => []

/-- The payloads in these frames: the one that is requested, or as many as there are frames from the
head of the queue. -/
def encryptedS2 (nodeId : NodeId) (t : Step) : List S2.Pending :=
  match Dispatcher.action? t with
  | some (.secureS2Send _ payload callbackId, _) =>
    if framesS2 bus nodeId t = [] then [] else [{ payload, callbackId }]
  | _ => (t.before.state.transport.queues nodeId).take (framesS2 bus nodeId t).length

/-- A frame is the encryption of a payload, with its callback id. -/
def IsFrameOf (frame : Bytes × UInt8) (pending : S2.Pending) : Prop :=
  ∃ context classKey nonce extensions, frame = (S2.Encapsulation.encrypt bus.s2Ssl pending.payload
    context classKey nonce extensions, pending.callbackId)

/-! ## One move -/

/-- A frame that an encryption made is an encapsulated one. -/
theorem encapsulatedTo_frame (nodeId : NodeId) (inner : Bytes) (context : S2.Encapsulation.Context)
    (classKey : S2.Key) (nonce : S2.CcmNonce) (extensions : Bytes) (callbackId : UInt8) :
    encapsulatedTo nodeId (sendData nodeId (S2.Encapsulation.encrypt bus.s2Ssl inner context classKey
        nonce extensions) callbackId) =
      some (S2.Encapsulation.encrypt bus.s2Ssl inner context classKey nonce extensions,
        callbackId) := by
  obtain ⟨cipher, hframe⟩ :=
    S2.Encapsulation.encrypt_eq bus.s2Ssl inner context classKey nonce extensions
  simp [encapsulatedTo, sendDataTo, sendData, hframe, Bytes.byte]

/-- What is published to carry payloads to the node are the frames of these payloads. -/
theorem frames_of_carries {nodeId : NodeId} {sent : List S2.Published} {queue : List S2.Pending}
    (h : List.Forall₂ (S2.Carries bus.s2Ssl nodeId) sent queue) :
    List.Forall₂ (IsFrameOf bus) ((sent.flatMap bus.publishS2).filterMap (encapsulatedTo nodeId))
      queue := by
  induction h with
  | nil => exact .nil
  | cons hcarries _ ih =>
    obtain ⟨context, classKey, nonce, extensions, rfl⟩ := hcarries
    simp only [List.flatMap_cons, Bus.publishS2, List.singleton_append]
    rw [List.filterMap_cons_some (encapsulatedTo_frame ..)]
    exact .cons ⟨context, classKey, nonce, extensions, rfl⟩ ih

/-- The frames that carry another node's payloads are none of this node's. -/
theorem frames_of_carries_other {nodeId other : NodeId} (hother : other ≠ nodeId)
    {sent : List S2.Published} {queue : List S2.Pending}
    (h : List.Forall₂ (S2.Carries bus.s2Ssl other) sent queue) :
    (sent.flatMap bus.publishS2).filterMap (encapsulatedTo nodeId) = [] := by
  induction h with
  | nil => rfl
  | cons hcarries _ ih =>
    obtain ⟨context, classKey, nonce, extensions, rfl⟩ := hcarries
    simp only [List.flatMap_cons, Bus.publishS2, List.singleton_append]
    rw [List.filterMap_cons_none, ih]
    simp [encapsulatedTo, sendDataTo, sendData, hother]

/-- The live half of the node's link. -/
abbrev peerOf (nodeId : NodeId) (t : Step) : S2.Peer := t.before.state.transport.manager.peers nodeId

/-- What a move does to the queue of a node. -/
inductive S2Moved (nodeId : NodeId) (t : Step) : Prop
  /-- Nothing. -/
  | quiet (requested : requestedS2 nodeId t = []) (frames : framesS2 bus nodeId t = [])
    (encrypted : encryptedS2 bus nodeId t = [])
    (queue : (bus.dispatcher.step t.before t.input).1.state.transport.queues nodeId =
      t.before.state.transport.queues nodeId)
  /-- A payload is refused. -/
  | refused {pending : S2.Pending} {draws : Draws}
    (action : Dispatcher.action? t =
      some (.secureS2Send nodeId pending.payload pending.callbackId, draws))
    (config : t.before.state.transport.peerConfig bus.s2Ssl nodeId = none)
    (requested : requestedS2 nodeId t = [pending]) (frames : framesS2 bus nodeId t = [])
    (encrypted : encryptedS2 bus nodeId t = [])
    (queue : (bus.dispatcher.step t.before t.input).1.state.transport.queues nodeId =
      t.before.state.transport.queues nodeId)
  /-- A payload is encrypted at once. -/
  | sent {pending : S2.Pending} {draws : Draws}
    (action : Dispatcher.action? t =
      some (.secureS2Send nodeId pending.payload pending.callbackId, draws))
    (config : t.before.state.transport.peerConfig bus.s2Ssl nodeId ≠ none)
    (can : (peerOf nodeId t).CanSend) (requested : requestedS2 nodeId t = [pending])
    (encrypted : encryptedS2 bus nodeId t = [pending])
    (frames : List.Forall₂ (IsFrameOf bus) (framesS2 bus nodeId t) [pending])
    (queue : (bus.dispatcher.step t.before t.input).1.state.transport.queues nodeId =
      t.before.state.transport.queues nodeId)
  /-- A payload is queued. -/
  | queued {pending : S2.Pending}
    (config : t.before.state.transport.peerConfig bus.s2Ssl nodeId ≠ none)
    (requested : requestedS2 nodeId t = [pending])
    (frames : framesS2 bus nodeId t = []) (encrypted : encryptedS2 bus nodeId t = [])
    (queue : (bus.dispatcher.step t.before t.input).1.state.transport.queues nodeId =
      t.before.state.transport.queues nodeId ++ [pending])
  /-- The queue is encrypted. -/
  | drained (requested : requestedS2 nodeId t = [])
    (encrypted : encryptedS2 bus nodeId t = t.before.state.transport.queues nodeId)
    (frames : List.Forall₂ (IsFrameOf bus) (framesS2 bus nodeId t)
      (t.before.state.transport.queues nodeId))
    (left : (bus.dispatcher.step t.before t.input).1.state.transport.queues nodeId = [])
  /-- The queue is dropped. -/
  | dropped {ccData : Bytes} {draws : Draws} {report : S2.NonceSync.Report}
    (action : Dispatcher.action? t = some (.applicationCommand .s2Outbound nodeId ccData, draws))
    (command : S2.NonceSync.commandByte ccData = some S2.NonceSync.nonceReportCommand)
    (decoded : S2.NonceSync.decodeNonceReport ccData = some report)
    (cannot : ¬ ((peerOf nodeId t).acceptNonceReport report).CanSend)
    (requested : requestedS2 nodeId t = []) (frames : framesS2 bus nodeId t = [])
    (encrypted : encryptedS2 bus nodeId t = [])
    (left : (bus.dispatcher.step t.before t.input).1.state.transport.queues nodeId = [])

/-- A request to send moves the S2 queue of its node, and no other, as `S2Moved` says. -/
theorem s2Moved_request {nodeId : NodeId} {t : Step} {payload : Bytes} {callbackId : UInt8}
    {draws : Draws} (other : NodeId)
    (haction : Dispatcher.action? t = some (.secureS2Send other payload callbackId, draws)) :
    S2Moved bus nodeId t := by
  obtain ⟨rest, -, hstep⟩ := bus.dispatcher.step_of_action? haction
  have houtcome := S2.Transport.secureS2SendRequest_outcome bus.s2Ssl t.before.state.transport other
    { payload, callbackId } (draws.entropy 0)
  have hrequested : requestedS2 nodeId t =
      if other = nodeId then [{ payload, callbackId }] else [] := by
    simp only [requestedS2, haction]
  have hframes : framesS2 bus nodeId t =
      ((t.before.state.transport.secureS2SendRequest bus.s2Ssl other { payload, callbackId }
        (draws.entropy 0)).2.flatMap bus.publishS2).filterMap (encapsulatedTo nodeId) := by
    simp only [framesS2, publishedBy, haction, Bus.work]
  have hencrypted : encryptedS2 bus nodeId t =
      if framesS2 bus nodeId t = [] then [] else [{ payload, callbackId }] := by
    simp only [encryptedS2, haction]
  have hqueues : (bus.dispatcher.step t.before t.input).1.state.transport.queues =
      (t.before.state.transport.secureS2SendRequest bus.s2Ssl other { payload, callbackId }
        (draws.entropy 0)).1.queues := by
    rw [hstep]; rfl
  generalize t.before.state.transport.secureS2SendRequest bus.s2Ssl other { payload, callbackId }
    (draws.entropy 0) = result at houtcome hframes hqueues
  cases houtcome with
  | refused hconfig =>
    have hnone : framesS2 bus nodeId t = [] := hframes
    rw [hnone, if_pos rfl] at hencrypted
    have hqueue := congrFun hqueues nodeId
    by_cases hother : other = nodeId
    · subst hother
      rw [if_pos rfl] at hrequested
      exact .refused haction hconfig hrequested hnone hencrypted hqueue
    · rw [if_neg hother] at hrequested
      exact .quiet hrequested hnone hencrypted hqueue
  | sent hconfig hcan _ hcarries =>
    have hone : List.Forall₂ (S2.Carries bus.s2Ssl other) _ [{ payload, callbackId }] :=
      .cons hcarries .nil
    have hqueue := congrFun hqueues nodeId
    by_cases hother : other = nodeId
    · subst hother
      rw [if_pos rfl] at hrequested
      have hcarried := frames_of_carries bus hone
      rw [← hframes] at hcarried
      have hsome : framesS2 bus other t ≠ [] := by
        intro hnil
        rw [hnil] at hcarried
        cases hcarried
      rw [if_neg hsome] at hencrypted
      exact .sent haction hconfig hcan hrequested hencrypted hcarried hqueue
    · rw [if_neg hother] at hrequested
      have hnone : framesS2 bus nodeId t = [] := by
        rw [hframes]
        exact frames_of_carries_other bus hother hone
      rw [hnone, if_pos rfl] at hencrypted
      exact .quiet hrequested hnone hencrypted hqueue
  | queued hconfig _ _ sequence =>
    -- The NONCE_GET is no encapsulated frame.
    have hnone : framesS2 bus nodeId t = [] := by
      rw [hframes]
      dsimp only
      split
      · simp [Bus.publishS2, encapsulatedTo, sendDataTo, sendData, S2.NonceSync.encodeNonceGet,
          Bytes.byte, S2.NonceSync.nonceGetCommand, S2.Encapsulation.messageEncapsulation]
      · rfl
    rw [hnone, if_pos rfl] at hencrypted
    have hqueue := congrFun hqueues nodeId
    dsimp only at hqueue
    by_cases hother : other = nodeId
    · subst hother
      rw [if_pos rfl] at hrequested
      rw [Function.update_self] at hqueue
      exact .queued hconfig hrequested hnone hencrypted hqueue
    · rw [if_neg hother] at hrequested
      rw [Function.update_of_ne (Ne.symm hother)] at hqueue
      exact .quiet hrequested hnone hencrypted hqueue

/-- What a delivery to the outbound side sends and leaves. -/
theorem step_deliveredS2 {t : Step} {other : NodeId} {ccData : Bytes} {draws : Draws}
    (haction : Dispatcher.action? t = some (.applicationCommand .s2Outbound other ccData, draws))
    (nodeId : NodeId) :
    framesS2 bus nodeId t =
        ((t.before.state.transport.outbound bus.s2Ssl other ccData draws.entropy).2.flatMap
          bus.publishS2).filterMap (encapsulatedTo nodeId) ∧
      (bus.dispatcher.step t.before t.input).1.state.transport.queues =
        (t.before.state.transport.outbound bus.s2Ssl other ccData draws.entropy).1.queues := by
  obtain ⟨rest, -, hstep⟩ := bus.dispatcher.step_of_action? haction
  constructor
  · simp only [framesS2, publishedBy, haction, Bus.work, Bus.onApplicationCommand]
  · rw [hstep]
    rfl

/-- An ApplicationCommand that reaches the outbound side. -/
theorem s2Moved_report {nodeId : NodeId} {t : Step} {ccData : Bytes} {draws : Draws}
    (other : NodeId)
    (haction : Dispatcher.action? t = some (.applicationCommand .s2Outbound other ccData, draws)) :
    S2Moved bus nodeId t := by
  have houtcome := S2.Transport.outbound_outcome bus.s2Ssl t.before.state.transport other ccData
    draws.entropy
  have hrequested : requestedS2 nodeId t = [] := by simp only [requestedS2, haction]
  obtain ⟨hframes, hqueues⟩ := step_deliveredS2 bus haction nodeId
  -- As many requests are encrypted as frames are sent, from the head of the queue on.
  have hencrypted : encryptedS2 bus nodeId t =
      (t.before.state.transport.queues nodeId).take (framesS2 bus nodeId t).length := by
    simp only [encryptedS2, haction]
  generalize t.before.state.transport.outbound bus.s2Ssl other ccData draws.entropy = result
    at houtcome hframes hqueues
  -- The report is not for this orchestrator, or it drains the node's queue, or the queue is
  -- dropped.
  cases houtcome with
  | ignored _ =>
    have hnone : framesS2 bus nodeId t = [] := hframes
    rw [hnone, List.length_nil, List.take_zero] at hencrypted
    exact .quiet hrequested hnone hencrypted (congrFun hqueues nodeId)
  | drained _ _ _ _ hcarries =>
    have hqueue := congrFun hqueues nodeId
    dsimp only at hqueue
    by_cases hother : other = nodeId
    · subst hother
      rw [Function.update_self] at hqueue
      have hcarried := frames_of_carries bus hcarries
      rw [← hframes] at hcarried
      rw [hcarried.length_eq, List.take_length] at hencrypted
      exact .drained hrequested hencrypted hcarried hqueue
    -- The queue of another node is drained, so nothing of this one's is sent.
    · rw [Function.update_of_ne (Ne.symm hother)] at hqueue
      have hnone : framesS2 bus nodeId t = [] := by
        rw [hframes]
        exact frames_of_carries_other bus hother hcarries
      rw [hnone, List.length_nil, List.take_zero] at hencrypted
      exact .quiet hrequested hnone hencrypted hqueue
  | dropped hcommand hdecoded hcannot _ =>
    have hnone : framesS2 bus nodeId t = [] := hframes
    rw [hnone, List.length_nil, List.take_zero] at hencrypted
    have hqueue := congrFun hqueues nodeId
    dsimp only at hqueue
    by_cases hother : other = nodeId
    · subst hother
      rw [Function.update_self] at hqueue
      exact .dropped haction hcommand hdecoded hcannot hrequested hnone hencrypted hqueue
    · rw [Function.update_of_ne (Ne.symm hother)] at hqueue
      exact .quiet hrequested hnone hencrypted hqueue

/-- Every step of the dispatcher moves the S2 queue of a node in one of the ways of `S2Moved`. -/
theorem s2Moved (nodeId : NodeId) (t : Step) : S2Moved bus nodeId t := by
  cases haction : Dispatcher.action? t with
  | none =>
    obtain ⟨-, -, hstate⟩ := bus.dispatcher.step_of_action?_none haction
    have hframes : framesS2 bus nodeId t = [] := by simp only [framesS2, haction]
    refine .quiet (by simp only [requestedS2, haction]) hframes
      (by simp only [encryptedS2, haction, hframes, List.length_nil, List.take_zero]) ?_
    rcases hstate with hsame | ⟨change, hchange⟩
    · rw [hsame]
    · rw [hchange]
      cases change <;> rfl
  | some taken =>
    obtain ⟨action, draws⟩ := taken
    obtain ⟨rest, hagenda, hstep⟩ := bus.dispatcher.step_of_action? haction
    -- The others neither take a request nor send one, and leave the queues alone.
    have hquiet : requestedS2 nodeId t = [] → framesS2 bus nodeId t = [] →
        encryptedS2 bus nodeId t = [] →
        (bus.work t.before.state action draws).1.transport.queues =
          t.before.state.transport.queues → S2Moved bus nodeId t := by
      intro hrequested hframes hencrypted hqueues
      refine .quiet hrequested hframes hencrypted ?_
      rw [hstep]
      exact congrFun hqueues nodeId
    cases action with
    | secureS2Send other payload callbackId => exact s2Moved_request bus other haction
    | applicationCommand orchestrator other ccData =>
      cases orchestrator with
      | s0Outbound =>
        refine hquiet ?_ ?_ ?_ ?_
        · simp only [requestedS2, haction]
        · simp only [framesS2, haction]
        · simp only [encryptedS2, framesS2, haction, List.length_nil, List.take_zero]
        have houtcome := onS0Outbound_outcome bus t.before.state other ccData draws.nonce
        simp only [Bus.work, Bus.onApplicationCommand]
        generalize bus.onS0Outbound t.before.state other ccData draws.nonce = result at houtcome ⊢
        cases houtcome <;> rfl
      | s2Outbound => exact s2Moved_report bus other haction
      | s2Inbound =>
        refine hquiet ?_ ?_ ?_ ?_
        · simp only [requestedS2, haction]
        · simp only [framesS2, haction]
        · simp only [encryptedS2, framesS2, haction, List.length_nil, List.take_zero]
        · exact S2.Transport.inbound_queues ..
    | command | secureSend | nextNonce | dongleInfo =>
      refine hquiet ?_ ?_ ?_ rfl
      · simp only [requestedS2, haction]
      · simp only [framesS2, haction]
      · simp only [encryptedS2, framesS2, haction, List.length_nil, List.take_zero]

/-! ## The queue over a run -/

/-- The NONCE_REPORT of the node that a move delivers to the outbound orchestrator. -/
def reportedS2 (nodeId : NodeId) (t : Step) : Option S2.NonceSync.Report :=
  match Dispatcher.action? t with
  | some (.applicationCommand .s2Outbound other ccData, _) =>
    if other = nodeId ∧ S2.NonceSync.commandByte ccData = some S2.NonceSync.nonceReportCommand then
      S2.NonceSync.decodeNonceReport ccData
    else none
  | _ => none

/-- While payloads wait, no request comes that can be encrypted at once, and no report that leaves
nothing to send under. -/
def SparesQueue (nodeId : NodeId) (t : Step) : Prop :=
  t.before.state.transport.queues nodeId ≠ [] →
    (requestedS2 nodeId t ≠ [] → ¬ (peerOf nodeId t).CanSend) ∧
      ∀ report ∈ reportedS2 nodeId t, ((peerOf nodeId t).acceptNonceReport report).CanSend

instance (nodeId : NodeId) (t : Step) : Decidable (SparesQueue nodeId t) :=
  inferInstanceAs (Decidable (_ → _ ∧ _))

/-- The node is S2-secure and its keys are loaded. -/
def Reachable (nodeId : NodeId) (t : Step) : Prop :=
  t.before.state.transport.peerConfig bus.s2Ssl nodeId ≠ none

variable {bus} {nodeId : NodeId}

/-- A move that spares the queue keeps it first in, first out. -/
theorem conserves_s2 {t : Step} (hsecure : Reachable bus nodeId t) (hspares : SparesQueue nodeId t) :
    Conserves bus.dispatcher.step (·.state.transport.queues nodeId) (requestedS2 nodeId)
      (encryptedS2 bus nodeId) t := by
  unfold Conserves
  cases s2Moved bus nodeId t with
  | quiet hrequested _ hencrypted hqueue => simp [hrequested, hencrypted, hqueue]
  | refused _ hconfig => exact absurd hconfig hsecure
  | sent _ _ hcan hrequested hencrypted _ hqueue =>
    -- Nothing waited, so nothing was overtaken.
    have hempty : t.before.state.transport.queues nodeId = [] := by
      by_contra hne
      exact (hspares hne).1 (by simp [hrequested]) hcan
    simp [hrequested, hencrypted, hqueue, hempty]
  | queued _ hrequested _ hencrypted hqueue => simp [hrequested, hencrypted, hqueue]
  | drained hrequested hencrypted _ hleft => simp [hrequested, hencrypted, hleft]
  | dropped haction hcommand hdecoded hcannot hrequested _ hencrypted hleft =>
    have hempty : t.before.state.transport.queues nodeId = [] := by
      by_contra hne
      refine hcannot ((hspares hne).2 _ ?_)
      simp only [reportedS2, haction, hcommand, and_self, if_true, hdecoded, Option.mem_def]
    simp [hrequested, hencrypted, hempty, hleft]

/-- The frames of a move are those of the payloads that it encrypts. -/
theorem frames_encrypted (t : Step) :
    List.Forall₂ (IsFrameOf bus) (framesS2 bus nodeId t) (encryptedS2 bus nodeId t) := by
  cases s2Moved bus nodeId t with
  | quiet _ hframes hencrypted => rw [hframes, hencrypted]; exact .nil
  | refused _ _ _ hframes hencrypted => rw [hframes, hencrypted]; exact .nil
  | sent _ _ _ _ hencrypted hframes => rw [hencrypted]; exact hframes
  | queued _ _ hframes hencrypted => rw [hframes, hencrypted]; exact .nil
  | drained _ hencrypted hframes => rw [hencrypted]; exact hframes
  | dropped _ _ _ _ _ hframes hencrypted => rw [hframes, hencrypted]; exact .nil

variable (bus)

/-- S2 sends to the node keep their order in this run. -/
structure KeepsOrder (nodeId : NodeId) (start : Config World Action)
    (moves : List (Move Draws Event Event Change)) : Prop where
  /-- The frames that go out are those of the payloads that are encrypted. -/
  frames : ∀ t ∈ trace bus.dispatcher.step start moves,
    List.Forall₂ (IsFrameOf bus) (framesS2 bus nodeId t) (encryptedS2 bus nodeId t)
  /-- At every moment, the payloads that were encrypted are the first of those requested. -/
  inOrder : ∀ seen, seen <+: moves →
    ((trace bus.dispatcher.step start seen).flatMap (encryptedS2 bus nodeId)).map
        S2.Pending.payload <+:
      ((trace bus.dispatcher.step start seen).flatMap (requestedS2 nodeId)).map S2.Pending.payload

/-- With the node S2-secure and its keys loaded throughout, S2 sends to it keep their order in every
run whose moves spare its queue. -/
theorem keepsOrder_of (nodeId : NodeId) (start : Config World Action)
    (hstart : start.state.transport.queues nodeId = [])
    (moves : List (Move Draws Event Event Change))
    (hsecure : ∀ t ∈ trace bus.dispatcher.step start moves, Reachable bus nodeId t)
    (hspares : ∀ t ∈ trace bus.dispatcher.step start moves, SparesQueue nodeId t) :
    KeepsOrder bus nodeId start moves := by
  refine ⟨fun t _ => frames_encrypted t, fun seen hseen => ?_⟩
  obtain ⟨rest, rfl⟩ := hseen
  rw [trace_append] at hsecure hspares
  have hconserves : ∀ t ∈ trace bus.dispatcher.step start seen,
      Conserves bus.dispatcher.step (·.state.transport.queues nodeId) (requestedS2 nodeId)
        (encryptedS2 bus nodeId) t := fun t ht =>
    conserves_s2 (hsecure t (List.mem_append_left _ ht)) (hspares t (List.mem_append_left _ ht))
  refine (leaves_isPrefix ?_ seen hconserves).map S2.Pending.payload
  exact hstart

/-! ## Node 6

A lock that is included with S2, and how its commands are reordered. -/

/-- The lock is included, and the keys are loaded. -/
def s2Lock : Config World Action where
  state := { transport :=
    { registry := { nodes := Function.update (fun _ => none) 6 (some .s2Authenticated) }
      keys := some fun _ => Vector.replicate 16 5 } }
  agenda := []

/-- The lock reports an REI with SOS, or neither. -/
def reiReport (sos : Bool) : Bytes :=
  S2.NonceSync.encodeNonceReport
    { sequenceNumber := 1, sos, mos := false, rei := some (Vector.replicate 16 9) }

/-- The lock is locked, reports an REI, and is unlocked. -/
def locksThenUnlocks : List (Move Draws Event Event Change) :=
  happens (.command (.node 6 8 (.setDoorLock 0xFF))) ++
    happens (.applicationCommand 6 (reiReport true)) ++
    happens (.command (.node 6 9 (.setDoorLock 0x00)))

/-- The first command goes out when the report comes, and the second at once. -/
theorem keepsOrder_locksThenUnlocks :
    ((trace Bus.sample.dispatcher.step s2Lock locksThenUnlocks).flatMap
        (encryptedS2 Bus.sample 6)).map S2.Pending.payload = [[0x62, 0x01, 0xFF], [0x62, 0x01, 0x00]] ∧
      KeepsOrder Bus.sample 6 s2Lock locksThenUnlocks := by
  refine ⟨by decide +kernel, keepsOrder_of Bus.sample 6 s2Lock rfl locksThenUnlocks ?_ ?_⟩
  · unfold Reachable
    decide +kernel
  · decide +kernel

/-- The lock's half of the link, with the REI that we answer its NONCE_GET with. -/
def lockHalf : S2.Peer where
  config :=
    { classKey := (S2.KeyDerivation.networkKeyExpand S2.OpenSsl.standIn (Vector.replicate 16 5)).keyCcm
      personalization :=
        (S2.KeyDerivation.networkKeyExpand S2.OpenSsl.standIn (Vector.replicate 16 5)).personalization
      ourNodeId := 6
      peerNodeId := 0 }
  peerRei := some (Draws.sample.entropy 0)

/-- The lock is locked, and the command waits. The lock then reports by itself that its battery is
low, for which it asks us for a nonce, and is unlocked. -/
def overtaken : List (Move Draws Event Event Change) :=
  happens (.command (.node 6 8 (.setDoorLock 0xFF))) ++
    happens (.applicationCommand 6 (S2.NonceSync.encodeNonceGet 1)) ++
    happens (.applicationCommand 6
      ((lockHalf.encrypt S2.OpenSsl.standIn [0x80, 0x03, 0xFF] (Vector.replicate 16 2)).1.getD [])) ++
    happens (.command (.node 6 9 (.setDoorLock 0x00)))

/-- The lock answers the first command without an REI, and the second with one. -/
def lost : List (Move Draws Event Event Change) :=
  happens (.command (.node 6 8 (.setDoorLock 0xFF))) ++
    happens (.applicationCommand 6 (reiReport false)) ++
    happens (.command (.node 6 9 (.setDoorLock 0x00))) ++
    happens (.applicationCommand 6 (reiReport true))

/-- In both runs the second command is encrypted and the first is not. -/
theorem not_keepsOrder_overtaken :
    (∀ t ∈ trace Bus.sample.dispatcher.step s2Lock overtaken, Reachable Bus.sample 6 t) ∧
      ¬ KeepsOrder Bus.sample 6 s2Lock overtaken ∧
      (∀ t ∈ trace Bus.sample.dispatcher.step s2Lock lost, Reachable Bus.sample 6 t) ∧
      ¬ KeepsOrder Bus.sample 6 s2Lock lost := by
  unfold Reachable
  refine ⟨by decide +kernel, fun h => ?_, by decide +kernel, fun h => ?_⟩
  · exact absurd (h.inOrder overtaken (List.prefix_refl _)) (by decide +kernel)
  · exact absurd (h.inOrder lost (List.prefix_refl _)) (by decide +kernel)

end Zwaved.Protocol
