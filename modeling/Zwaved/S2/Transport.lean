import Zwaved.NodeRegistry
import Zwaved.S2.SpanStore

/-!
# The S2 transport

Two orchestrators share the process-wide SPAN manager of `Transport.cpp`. The inbound one
(`SecurityS2InboundOrchestrator.cpp`) answers NONCE_GETs, opens encapsulated frames and republishes
what is inside, and answers a frame that it cannot open with a report of a fresh REI. The outbound
one (`SecurityS2OutboundOrchestrator.cpp`) encrypts what is sent to an S2-secure node, and queues it
while it waits for the node's REI.

Both take every ApplicationCommand of the bus, in an order that the link order of the daemon fixes;
`inboundFirst` says which it is. A run is any sequence of events. An inner command that the inbound
side republishes comes back as an event of its own, so it is one of the run's events too. What the
SPAN store restores on a DongleInfo is taken from the event, whatever it is.
-/

namespace Zwaved.S2

/-- `classForScheme`. -/
def classForScheme : SecurityScheme → Option NetworkKeys.Class
  | .s2Unauthenticated => some .unauthenticated
  | .s2Authenticated => some .authenticated
  | .s2AccessControl => some .accessControl
  | .none | .s0 => none

/-- A payload that waits for a SPAN. -/
structure Pending where
  /-- `payload`. -/
  payload : Bytes
  /-- `callbackId`. -/
  callbackId : UInt8
  deriving DecidableEq, Repr

/-- What the two orchestrators, the SPAN manager, the node registry and the key slot hold. Each
orchestrator keeps a home id and a controller id of its own; both are set by the same event. -/
structure Transport where
  /-- `S2::Transport::manager()`. -/
  manager : SpanManager := {}
  /-- The outbound `queues`; a node without one has the empty one. -/
  queues : NodeId → List Pending := fun _ => []
  /-- `homeId`. -/
  homeId : HomeId := Vector.replicate 4 0
  /-- `controllerNodeId`. -/
  controllerNodeId : NodeId := 0
  /-- `NodeRegistry`. -/
  registry : NodeRegistry := {}
  /-- `NetworkKeys::current()`. -/
  keys : Option NetworkKeys.KeySet := none

/-- What the transport publishes. -/
inductive Published
  /-- SendDataCommand. -/
  | sendData (nodeId : NodeId) (payload : Bytes) (callbackId : UInt8)
  /-- ApplicationCommand, with the inner command of a frame that was opened. -/
  | applicationCommand (sourceNodeId : NodeId) (ccData : Bytes)
  deriving DecidableEq, Repr

/-- What reaches the transport, with the entropy that it draws. -/
inductive TransportEvent
  /-- ApplicationCommand. -/
  | applicationCommand (sourceNodeId : NodeId) (ccData : Bytes) (entropy : ℕ → EntropyInput)
  /-- SecureS2SendRequest. -/
  | secureS2SendRequest (nodeId : NodeId) (payload : Bytes) (callbackId : UInt8)
    (entropy : EntropyInput)
  /-- DongleInfo, with the SPANs that the store restores. -/
  | dongleInfo (homeId : Bytes) (controllerNodeId : NodeId) (restored : NodeMap InnerState)
  /-- The registry is written. -/
  | registryChanged (registry : NodeRegistry)
  /-- The network keys are loaded. -/
  | setCurrent (keys : NetworkKeys.KeySet)

/-- `NO_CALLBACK`. -/
def noCallback : UInt8 := 0x00

namespace Transport

variable (ssl : OpenSsl)

/-- `resolveClassKeys`. -/
def resolveClassKeys (keys : Option NetworkKeys.KeySet) (scheme : SecurityScheme) :
    Option KeyDerivation.NetworkKeys :=
  match classForScheme scheme, keys with
  | some cls, some keys => some (KeyDerivation.networkKeyExpand ssl (keys cls))
  | _, _ => none

/-- The configuration that `configurePeer` gives a node, when the node is S2-secure and the keys are
there. -/
def peerConfig (s : Transport) (nodeId : NodeId) : Option PeerConfig :=
  if s.registry.isSecure nodeId then
    (resolveClassKeys ssl s.keys (s.registry.securityScheme nodeId)).map fun derived =>
      { classKey := derived.keyCcm
        personalization := derived.personalization
        homeId := s.homeId
        ourNodeId := s.controllerNodeId
        peerNodeId := nodeId }
  else none

/-- `configurePeer`, which both orchestrators have. -/
def configurePeer (s : Transport) (nodeId : NodeId) : Option (PeerConfig × Transport) :=
  (s.peerConfig ssl nodeId).map fun config =>
    (config, { s with manager := s.manager.configurePeer nodeId config })

/-- `sendPlaintext` of `respondToNonceGet`. -/
def requestResync (s : Transport) (nodeId : NodeId) (rei : EntropyInput) :
    Transport × List Published :=
  let (payload, manager) := s.manager.respondToNonceGet nodeId rei
  ({ s with manager }, [.sendData nodeId payload noCallback])

/-- `onApplicationCommand` of the inbound orchestrator. A frame of two bytes is read past its end
for the sequence number; `decrypt` refuses it whatever is read there. -/
def inbound (s : Transport) (nodeId : NodeId) (data : Bytes) (rei : EntropyInput) :
    Transport × List Published :=
  if data.length < 2 ∨ data.byte 0 ≠ NonceSync.commandClass then (s, [])
  else match s.configurePeer ssl nodeId with
    | none => (s, [])
    | some (config, s) =>
      -- The node sets up its half of a SPAN.
      if data.byte 1 = NonceSync.nonceGetCommand then s.requestResync nodeId rei
      -- A NONCE_REPORT is left to the outbound side, even when there is nothing queued there.
      else if data.byte 1 ≠ Encapsulation.messageEncapsulation then (s, [])
      else match s.manager.receiveNonce ssl nodeId data with
        -- No SPAN, and the frame brings none: the next one has to.
        | (none, manager) => { s with manager }.requestResync nodeId rei
        | (some nonce, manager) =>
          let context : Encapsulation.Context :=
            { senderNodeId := nodeId
              receiverNodeId := s.controllerNodeId
              homeId := s.homeId
              sequenceNumber := data.byte 2 }
          match Encapsulation.decrypt ssl data context config.classKey nonce with
          -- The nonce is spent all the same.
          | none => { s with manager }.requestResync nodeId rei
          | some inner => ({ s with manager }, [.applicationCommand nodeId inner])

/-- `sendEncrypted`. -/
def sendEncrypted (s : Transport) (nodeId : NodeId) (pending : Pending) (sei : EntropyInput) :
    Option (Transport × Published) :=
  match s.manager.encrypt ssl nodeId pending.payload sei with
  | (none, _) => none
  | (some frame, manager) =>
    some ({ s with manager }, .sendData nodeId frame pending.callbackId)

/-- `onSecureS2SendRequest`. -/
def secureS2SendRequest (s : Transport) (nodeId : NodeId) (pending : Pending)
    (sei : EntropyInput) : Transport × List Published :=
  match s.configurePeer ssl nodeId with
  | none => (s, [])
  | some (_, s) =>
    match s.sendEncrypted ssl nodeId pending sei with
    -- The fast path: a SPAN is up.
    | some (s, sent) => (s, [sent])
    | none =>
      -- Only the first payload in a queue asks for a nonce, and the others wait with it.
      let queue := s.queues nodeId
      let s := { s with queues := Function.update s.queues nodeId (queue ++ [pending]) }
      if queue.isEmpty then
        let (payload, manager) := s.manager.nonceGet nodeId
        ({ s with manager }, [.sendData nodeId payload noCallback])
      else (s, [])

/-- The loop that drains a queue: it stops at the first payload that cannot be encrypted. -/
def drain (nodeId : NodeId) (entropy : ℕ → EntropyInput) :
    Transport → List Pending → Transport × List Published
  | s, [] => (s, [])
  | s, pending :: queue =>
    match s.sendEncrypted ssl nodeId pending (entropy queue.length) with
    | none => (s, [])
    | some (s, sent) =>
      let (s, rest) := drain nodeId entropy s queue
      (s, sent :: rest)

/-- `onApplicationCommand` of the outbound orchestrator. -/
def outbound (s : Transport) (nodeId : NodeId) (data : Bytes) (entropy : ℕ → EntropyInput) :
    Transport × List Published :=
  if NonceSync.commandByte data ≠ some NonceSync.nonceReportCommand then (s, [])
  -- Nothing waits for a report, so it is dropped, with the REI in it.
  else if (s.queues nodeId).isEmpty then (s, [])
  else match NonceSync.decodeNonceReport data with
    | none => (s, [])
    | some report =>
      let s' := { s with manager := s.manager.acceptNonceReport nodeId report }
      let (s', sent) := drain ssl nodeId entropy s' (s.queues nodeId)
      -- The queue is erased whether or not it was drained.
      ({ s' with queues := Function.update s'.queues nodeId [] }, sent)

/-- The DongleInfo handlers of the orchestrators and of the SPAN store. -/
def dongleInfo (s : Transport) (homeId : Bytes) (controllerNodeId : NodeId)
    (restored : NodeMap InnerState) : Transport :=
  { s with
    homeId := copyHomeId homeId s.homeId
    controllerNodeId
    manager := SpanStore.importAll s.manager restored }

/-- One event. -/
def step (inboundFirst : Bool) (s : Transport) : TransportEvent → Transport × List Published
  | .applicationCommand nodeId data entropy =>
    if inboundFirst then
      let (s, sent) := s.inbound ssl nodeId data (entropy 0)
      let (s, more) := s.outbound ssl nodeId data entropy
      (s, sent ++ more)
    else
      let (s, sent) := s.outbound ssl nodeId data entropy
      let (s, more) := s.inbound ssl nodeId data (entropy 0)
      (s, sent ++ more)
  | .secureS2SendRequest nodeId payload callbackId entropy =>
    s.secureS2SendRequest ssl nodeId { payload, callbackId } entropy
  | .dongleInfo homeId controllerNodeId restored =>
    (s.dongleInfo homeId controllerNodeId restored, [])
  | .registryChanged registry => ({ s with registry }, [])
  | .setCurrent keys => ({ s with keys := some keys }, [])

/-- With the inbound side subscribed first, a frame goes to it and then to the outbound side. -/
theorem step_inboundFirst (s : Transport) (nodeId : NodeId) (data : Bytes)
    (entropy : ℕ → EntropyInput) :
    s.step ssl true (.applicationCommand nodeId data entropy) =
      (((s.inbound ssl nodeId data (entropy 0)).1.outbound ssl nodeId data entropy).1,
        (s.inbound ssl nodeId data (entropy 0)).2 ++
          ((s.inbound ssl nodeId data (entropy 0)).1.outbound ssl nodeId data entropy).2) := rfl

/-- With the outbound side subscribed first, a frame goes to it and then to the inbound side. -/
theorem step_outboundFirst (s : Transport) (nodeId : NodeId) (data : Bytes)
    (entropy : ℕ → EntropyInput) :
    s.step ssl false (.applicationCommand nodeId data entropy) =
      (((s.outbound ssl nodeId data entropy).1.inbound ssl nodeId data (entropy 0)).1,
        (s.outbound ssl nodeId data entropy).2 ++
          ((s.outbound ssl nodeId data entropy).1.inbound ssl nodeId data (entropy 0)).2) := rfl

/-! ## What is sent -/

variable {ssl} {nodeId : NodeId}

/-- What is sent is of the S2 class, and the registry is only read. -/
structure Sends (s : Transport) (result : Transport × List Published) : Prop where
  /-- The registry is as it was. -/
  registry : result.1.registry = s.registry
  /-- What is sent starts with the byte of the class. -/
  frames : ∀ nodeId payload callbackId, .sendData nodeId payload callbackId ∈ result.2 →
    payload.byte 0 = NonceSync.commandClass

/-- Doing nothing sends nothing and leaves the registry. -/
theorem Sends.nothing (s : Transport) : Sends s (s, []) :=
  ⟨rfl, fun _ _ _ h => nomatch h⟩

/-- If the one frame that is sent is of the S2 class, all that is sent is. -/
theorem frames_singleton {payload : Bytes} (hframe : payload.byte 0 = NonceSync.commandClass)
    {callbackId : UInt8} (other : NodeId) (payload' : Bytes) (callbackId' : UInt8)
    (h : Published.sendData other payload' callbackId' ∈
      [Published.sendData nodeId payload callbackId]) :
    payload'.byte 0 = NonceSync.commandClass := by
  cases List.mem_singleton.mp h
  exact hframe

/-- Configuring a peer leaves the registry. -/
theorem configurePeer_registry {s s' : Transport} {config : PeerConfig}
    (h : s.configurePeer ssl nodeId = some (config, s')) : s'.registry = s.registry := by
  unfold configurePeer at h
  obtain ⟨config', -, heq⟩ := Option.map_eq_some_iff.mp h
  obtain ⟨-, rfl⟩ := Prod.mk.inj heq
  rfl

/-- Asking for a resynchronisation sends a frame of the S2 class and leaves the registry. -/
theorem sends_requestResync (s : Transport) (nodeId : NodeId) (rei : EntropyInput) :
    Sends s (s.requestResync nodeId rei) := by
  have hframe : (s.manager.respondToNonceGet nodeId rei).1.byte 0 = NonceSync.commandClass := rfl
  exact ⟨rfl, frames_singleton hframe⟩

/-- The inbound side sends frames of the S2 class only and leaves the registry. -/
theorem sends_inbound (s : Transport) (nodeId : NodeId) (data : Bytes) (rei : EntropyInput) :
    Sends s (s.inbound ssl nodeId data rei) := by
  unfold inbound
  split
  · exact Sends.nothing s
  split
  · exact Sends.nothing s
  next config s' hconf =>
  have hregistry := configurePeer_registry hconf
  -- An answer from any later state is one from here.
  have hresync : ∀ manager, Sends s ({ s' with manager }.requestResync nodeId rei) :=
    fun manager => ⟨hregistry, (sends_requestResync { s' with manager } nodeId rei).frames⟩
  split
  · exact hresync s'.manager
  split
  · exact ⟨hregistry, fun _ _ _ h => nomatch h⟩
  split
  · exact hresync _
  dsimp only
  split
  · exact hresync _
  · refine ⟨hregistry, fun _ _ _ h => ?_⟩
    cases List.mem_singleton.mp h

/-- An encrypted frame is of the S2 class, and sending it leaves the registry. -/
theorem sendEncrypted_sends {s s' : Transport} {pending : Pending} {sei : EntropyInput}
    {sent : Published} (h : s.sendEncrypted ssl nodeId pending sei = some (s', sent)) :
    Sends s (s', [sent]) := by
  unfold sendEncrypted SpanManager.encrypt at h
  rcases hencrypt : (s.manager.peers nodeId).encrypt ssl pending.payload sei with ⟨_ | frame, p⟩
  · rw [hencrypt] at h
    cases h
  · rw [hencrypt] at h
    obtain ⟨rfl, rfl⟩ := Prod.mk.inj (Option.some.inj h)
    obtain ⟨context, nonce, extensions, rfl⟩ := Peer.encrypt_frame ssl hencrypt
    exact ⟨rfl, frames_singleton rfl⟩

/-- Sending the frames that waited for a nonce sends frames of the S2 class only, by induction on
the queue. -/
theorem sends_drain (nodeId : NodeId) (entropy : ℕ → EntropyInput) (queue : List Pending)
    (s : Transport) : Sends s (drain ssl nodeId entropy s queue) := by
  induction queue generalizing s with
  | nil => exact Sends.nothing s
  | cons pending queue ih =>
    unfold drain
    rcases hsend : s.sendEncrypted ssl nodeId pending (entropy queue.length) with _ | ⟨s', sent⟩
    · exact Sends.nothing s
    · have hsent := sendEncrypted_sends hsend
      have hrest := ih s'
      refine ⟨hrest.registry.trans hsent.registry, fun other payload callbackId h => ?_⟩
      rcases List.mem_cons.mp h with rfl | h
      · exact hsent.frames other payload callbackId List.mem_cons_self
      · exact hrest.frames other payload callbackId h

/-- The outbound side sends frames of the S2 class only and leaves the registry. -/
theorem sends_outbound (s : Transport) (nodeId : NodeId) (data : Bytes)
    (entropy : ℕ → EntropyInput) : Sends s (s.outbound ssl nodeId data entropy) := by
  unfold outbound
  split
  · exact Sends.nothing s
  split
  · exact Sends.nothing s
  split
  · exact Sends.nothing s
  · next report _ =>
    have hdrain := @sends_drain ssl nodeId entropy (s.queues nodeId)
      { s with manager := s.manager.acceptNonceReport nodeId report }
    exact ⟨hdrain.registry, hdrain.frames⟩

/-- A request to send is answered with a frame of the S2 class, the encrypted one or a nonce
request. -/
theorem sends_secureS2SendRequest (s : Transport) (nodeId : NodeId) (pending : Pending)
    (sei : EntropyInput) : Sends s (s.secureS2SendRequest ssl nodeId pending sei) := by
  unfold secureS2SendRequest
  split
  · exact Sends.nothing s
  next config s' hconf =>
  have hregistry := configurePeer_registry hconf
  rcases hsend : s'.sendEncrypted ssl nodeId pending sei with _ | ⟨s'', sent⟩
  · dsimp only
    have hframe : (s'.manager.nonceGet nodeId).1.byte 0 = NonceSync.commandClass := rfl
    split
    · exact ⟨hregistry, frames_singleton hframe⟩
    · exact ⟨hregistry, fun _ _ _ h => nomatch h⟩
  · have hsent := sendEncrypted_sends hsend
    exact ⟨hsent.registry.trans hregistry, hsent.frames⟩

variable (ssl) in
/-- A request leads to one frame at most, which is for the node. -/
theorem secureS2SendRequest_sent (s : Transport) (nodeId : NodeId) (pending : Pending)
    (sei : EntropyInput) :
    (s.secureS2SendRequest ssl nodeId pending sei).2 = [] ∨
      ∃ payload callbackId, (s.secureS2SendRequest ssl nodeId pending sei).2 =
        [.sendData nodeId payload callbackId] := by
  unfold secureS2SendRequest
  split
  · exact Or.inl rfl
  next config s' hconf =>
  rcases hsend : s'.sendEncrypted ssl nodeId pending sei with _ | ⟨s'', sent⟩
  · dsimp only
    split
    · exact Or.inr ⟨_, _, rfl⟩
    · exact Or.inl rfl
  · unfold sendEncrypted at hsend
    split at hsend
    · cases hsend
    · obtain ⟨-, rfl⟩ := Prod.mk.inj (Option.some.inj hsend)
      exact Or.inr ⟨_, _, rfl⟩

end Transport

end Zwaved.S2
