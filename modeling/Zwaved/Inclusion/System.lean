import Zwaved.CcTranslator.Encapsulation
import Zwaved.Interview
import Zwaved.NodeRegistry
import Zwaved.Reactive.Agenda
import Zwaved.S0.Bootstrap
import Zwaved.S2.Bootstrap

/-!
# The modules that take part in an inclusion

When a node has been included, two bootstraps, the unwrap layer, the nonce responder, the interview,
the wake-up orchestrator and the protocol thread work on it together. They share the node registry
and the table of issued nonces, and otherwise talk over `MessageBus`, which delivers a message to
its subscribers one after the other before `publish` returns.

`dispatcher` is the whole of it, as a machine with an agenda: an action is the delivery of a message
to a module, or the rest of a handler after what it published last. `System.order` is the order in
which the modules were subscribed; nothing that is proved depends on it. Of the modules outside,
those that publish in the middle of a delivery are the generated translator (reports and wake-ups)
and the S2 inbound orchestrator (the inner of an S2 frame), and `Nested` has what they publish, at
any time. The protocol thread writes to the registry without the bus (`Change`).

Messages that none of these modules subscribes to are left out. The S2 bootstrap's handlers erase a
session before what they publish is delivered, and the source after it; what is published there
leads to no ApplicationCommand, so nothing sees the difference.
-/

namespace Zwaved.Inclusion

open CcTranslator Reactive

/-- What the modules publish and subscribe to. -/
inductive Message
  /-- NodeIncluded. -/
  | nodeIncluded (nodeId : NodeId) (commandClasses : Bytes)
  /-- ApplicationCommand, with where it comes from. -/
  | applicationCommand (sourceNodeId : NodeId) (ccData : Bytes) (origin : Origin)
  /-- NodeSecurityStatus. -/
  | nodeSecurityStatus (nodeId : NodeId) (scheme : SecurityScheme)
  /-- ConfirmDsk. -/
  | confirmDsk (nodeId : NodeId) (pin : Bytes)
  /-- DongleInfo. -/
  | dongleInfo (homeId : Bytes) (controllerNodeId : NodeId)
  /-- S2NetworkKeysReady. -/
  | s2NetworkKeysReady (ready : Bool)
  /-- The Get command of an interview step. -/
  | get (nodeId : NodeId) (step : Interview.Step)
  /-- The report that answers an interview step. -/
  | report (sourceNodeId : NodeId) (step : Interview.Step)
  /-- WakeUpNotification. -/
  | wakeUpNotification (sourceNodeId : NodeId)
  /-- SendDataCommand. -/
  | sendData (nodeId : NodeId) (payload : Bytes)
  deriving DecidableEq

/-- The modules. -/
inductive Subscriber
  /-- The unwrap layer. -/
  | unwrap
  /-- The nonce responder. -/
  | nonceResponder
  /-- The S0 bootstrap. -/
  | s0Bootstrap
  /-- The S2 bootstrap. -/
  | s2Bootstrap
  /-- The interview. -/
  | interview
  /-- The wake-up orchestrator. -/
  | wakeUp
  /-- The protocol thread. -/
  | protocol
  deriving DecidableEq, Repr

/-- What is on the agenda. -/
inductive Action
  /-- A message is delivered to a module. -/
  | deliver (subscriber : Subscriber) (message : Message)
  /-- The S0 bootstrap erases a session. -/
  | eraseS0 (nodeId : NodeId)
  /-- The interview erases a session. -/
  | eraseInterview (nodeId : NodeId)
  deriving DecidableEq

/-- What becomes of a payload at the protocol thread. -/
inductive Output
  /-- SecureSendRequest: to the S0 orchestrator. -/
  | secureSend (nodeId : NodeId) (payload : Bytes)
  /-- SecureS2SendRequest: to the S2 orchestrator. -/
  | secureS2Send (nodeId : NodeId) (payload : Bytes)
  /-- A SendDataRequest is queued as it is. -/
  | queued (nodeId : NodeId) (payload : Bytes)
  deriving DecidableEq

/-- The state of the modules. -/
structure World where
  /-- The node registry. -/
  registry : NodeRegistry := {}
  /-- `issuedNonces()`. -/
  nonces : S0.NonceTable := {}
  /-- The unwrap layer. -/
  unwrap : Unwrap := {}
  /-- The S0 bootstrap. -/
  s0 : S0.Bootstrap := {}
  /-- The S2 bootstrap. -/
  s2 : S2.Bootstrap := {}
  /-- The interview's sessions. -/
  interview : NodeMap Interview.Session := fun _ => none
  /-- The pending queue. -/
  pending : PendingQueue := {}
  /-- The steady clock. -/
  now : S0.Time := 0

/-- What a handler may draw at random. -/
structure Draws where
  /-- An S0 nonce. -/
  nonce : S0.Nonce
  /-- A Curve25519 key pair. -/
  keyPair : S2.KeyPair
  /-- An S2 entropy input. -/
  entropy : S2.EntropyInput

/-- What the modules are built with. -/
structure System where
  /-- OpenSSL, for S0. -/
  s0Ssl : S0.OpenSsl
  /-- OpenSSL, for S2. -/
  s2Ssl : S2.OpenSsl
  /-- `S0::NetworkKey::current()`. -/
  networkKey : Option S0.Key
  /-- `S2::NetworkKeys::current()`. -/
  networkKeys : Option S2.NetworkKeys.KeySet
  /-- The order of subscription. -/
  order : List Subscriber

namespace System

variable (sys : System)

/-- `publish`: the message goes to every module, and those that did not subscribe ignore it. -/
def publish (message : Message) : List Action := sys.order.map fun module => .deliver module message

/-! ## The modules' handlers -/

/-- The unwrap layer. -/
def onUnwrap (w : World) : Message → World × List Action
  | .applicationCommand nodeId data _ =>
    let ((unwrap, nonces), republished) :=
      w.unwrap.onApplicationCommand sys.s0Ssl sys.networkKey w.nonces nodeId data w.now
    let w := { w with unwrap, nonces }
    match republished with
    | none => (w, [])
    | some (.s0 frame nonce, inner) =>
      (w, sys.publish (.nodeSecurityStatus nodeId .s0) ++
        sys.publish (.applicationCommand nodeId inner (.s0 frame nonce)))
    | some (origin, inner) => (w, sys.publish (.applicationCommand nodeId inner origin))
  | .dongleInfo _ controllerNodeId =>
    ({ w with unwrap := { w.unwrap with controllerNodeId } }, [])
  | _ => (w, [])

/-- The nonce responder, `NonceResponder.cpp`. -/
def onNonceResponder (w : World) (draws : Draws) : Message → World × List Action
  | .applicationCommand nodeId data _ =>
    if S0.Security.commandByte data = some S0.Security.nonceGet then
      ({ w with nonces := w.nonces.generate nodeId w.now draws.nonce },
        sys.publish (.sendData nodeId (S0.Security.encodeNonceReport draws.nonce)))
    else (w, [])
  | _ => (w, [])

/-- What the S0 bootstrap writes to the registry, before it publishes anything. -/
def s0Write (registry : NodeRegistry) : S0.BootstrapOutput → NodeRegistry
  | .setSecurityScheme nodeId => registry.setSecurityScheme nodeId .s0
  | _ => registry

/-- What the S0 bootstrap publishes, and does after that. -/
def s0Actions : S0.BootstrapOutput → List Action
  | .sendPlaintext nodeId payload => sys.publish (.sendData nodeId payload)
  | .setSecurityScheme _ => []
  | .nodeSecurityStatus nodeId => sys.publish (.nodeSecurityStatus nodeId .s0)
  | .eraseSession nodeId => [.eraseS0 nodeId]

/-- What the S0 bootstrap has left to do. -/
def performS0 (w : World) (outputs : List S0.BootstrapOutput) : World × List Action :=
  ({ w with registry := outputs.foldl s0Write w.registry }, outputs.flatMap sys.s0Actions)

/-- The S0 bootstrap's own part. -/
def s0Step (s0 : S0.Bootstrap) (draws : Draws) : Message → S0.Bootstrap × List S0.BootstrapOutput
  | .nodeIncluded nodeId commandClasses => s0.onNodeIncluded sys.networkKey nodeId commandClasses
  | .applicationCommand nodeId ccData _ =>
    s0.onApplicationCommand sys.s0Ssl sys.networkKey nodeId ccData draws.nonce
  | .dongleInfo _ controllerNodeId => ({ s0 with controllerNodeId }, [])
  | _ => (s0, [])

/-- The S0 bootstrap. -/
def onS0Bootstrap (w : World) (draws : Draws) (message : Message) : World × List Action :=
  let (s0, outputs) := sys.s0Step w.s0 draws message
  sys.performS0 { w with s0 } outputs

/-- What the S2 bootstrap writes to the registry, before it publishes anything. -/
def s2Write (registry : NodeRegistry) : S2.BootstrapOutput → NodeRegistry
  | .setSecurityScheme nodeId scheme => registry.setSecurityScheme nodeId scheme
  | _ => registry

/-- What the S2 bootstrap publishes. -/
def s2Actions : S2.BootstrapOutput → List Action
  | .sendPlaintext nodeId payload => sys.publish (.sendData nodeId payload)
  | .sendEncrypted nodeId _ frame => sys.publish (.sendData nodeId frame)
  | .nodeSecurityStatus nodeId scheme => sys.publish (.nodeSecurityStatus nodeId scheme)
  | .setSecurityScheme _ _ | .dskPendingConfirmation _ _ | .s2KeyAgreementComplete _ => []

/-- What the S2 bootstrap has left to do. -/
def performS2 (w : World) (outputs : List S2.BootstrapOutput) : World × List Action :=
  ({ w with registry := outputs.foldl s2Write w.registry }, outputs.flatMap sys.s2Actions)

/-- What the S2 bootstrap subscribes to. -/
def s2Event (draws : Draws) : Message → Option S2.BootstrapEvent
  | .nodeIncluded nodeId commandClasses =>
    some (.nodeIncluded nodeId commandClasses draws.keyPair)
  | .applicationCommand nodeId ccData _ => some (.applicationCommand nodeId ccData draws.entropy)
  | .confirmDsk nodeId pin => some (.confirmDsk nodeId pin)
  | .dongleInfo homeId controllerNodeId => some (.dongleInfo homeId controllerNodeId)
  | .s2NetworkKeysReady ready => some (.s2NetworkKeysReady ready)
  | _ => none

/-- The S2 bootstrap's own part. -/
def s2Step (s2 : S2.Bootstrap) (draws : Draws) (message : Message) :
    S2.Bootstrap × List S2.BootstrapOutput :=
  match s2Event draws message with
  | none => (s2, [])
  | some event => s2.step sys.s2Ssl sys.networkKeys event

/-- The S2 bootstrap. -/
def onS2Bootstrap (w : World) (draws : Draws) (message : Message) : World × List Action :=
  let (s2, outputs) := sys.s2Step w.s2 draws message
  sys.performS2 { w with s2 } outputs

/-- What the interview queues. -/
def interviewQueue (pending : PendingQueue) : Interview.Output → PendingQueue
  | .enqueue nodeId payload => pending.enqueue nodeId payload
  | _ => pending

/-- What the interview publishes, and does after that. -/
def interviewActions : Interview.Output → List Action
  | .enqueue _ _ => []
  | .get nodeId step => sys.publish (.get nodeId step)
  | .eraseSession nodeId => [.eraseInterview nodeId]

/-- What the interview has left to do. -/
def performInterview (w : World) (outputs : List Interview.Output) : World × List Action :=
  ({ w with pending := outputs.foldl interviewQueue w.pending },
    outputs.flatMap sys.interviewActions)

/-- The interview's own part. -/
def interviewStep (sessions : NodeMap Interview.Session) :
    Message → NodeMap Interview.Session × List Interview.Output
  | .nodeIncluded nodeId commandClasses => Interview.onNodeIncluded sessions nodeId commandClasses
  | .nodeSecurityStatus nodeId scheme =>
    if scheme = .none then (sessions, []) else Interview.onNodeSecurityStatus sessions nodeId
  | .report nodeId step => Interview.advance sessions nodeId step
  | _ => (sessions, [])

/-- The interview. -/
def onInterview (w : World) (message : Message) : World × List Action :=
  let (interview, outputs) := interviewStep w.interview message
  sys.performInterview { w with interview } outputs

/-- The wake-up orchestrator, `WakeUpOrchestrator.cpp`: what is queued for the node is sent. -/
def onWakeUp (w : World) : Message → World × List Action
  | .wakeUpNotification nodeId =>
    let (payloads, pending) := w.pending.drain nodeId
    ({ w with pending }, payloads.flatMap fun payload => sys.publish (.sendData nodeId payload))
  | _ => (w, [])

/-- `pushSendData`: a payload for a secure node is diverted, unless it belongs to the security layer
itself. -/
def pushSendData (registry : NodeRegistry) (nodeId : NodeId) (data : Bytes) : Output :=
  if data ≠ [] ∧ data.byte 0 ≠ 0x98 ∧ data.byte 0 ≠ 0x9F ∧ registry.isSecure nodeId then
    if (registry.securityScheme nodeId).IsS2 then .secureS2Send nodeId data
    else .secureSend nodeId data
  else .queued nodeId data

/-- The protocol thread. -/
def onProtocol (w : World) : Message → List Output
  | .get nodeId step => [pushSendData w.registry nodeId (Interview.payloadForStep step)]
  | .sendData nodeId payload => [pushSendData w.registry nodeId payload]
  | _ => []

/-! ## The machine -/

/-- An action is taken. -/
def work (w : World) (action : Action) (draws : Draws) : World × List Action × List Output :=
  match action with
  | .deliver .unwrap message => let (w, actions) := sys.onUnwrap w message; (w, actions, [])
  | .deliver .nonceResponder message =>
    let (w, actions) := sys.onNonceResponder w draws message
    (w, actions, [])
  | .deliver .s0Bootstrap message =>
    let (w, actions) := sys.onS0Bootstrap w draws message
    (w, actions, [])
  | .deliver .s2Bootstrap message =>
    let (w, actions) := sys.onS2Bootstrap w draws message
    (w, actions, [])
  | .deliver .interview message => let (w, actions) := sys.onInterview w message; (w, actions, [])
  | .deliver .wakeUp message => let (w, actions) := sys.onWakeUp w message; (w, actions, [])
  | .deliver .protocol message => (w, [], onProtocol w message)
  | .eraseS0 nodeId => ({ w with s0 := w.s0.eraseSession nodeId }, [], [])
  | .eraseInterview nodeId =>
    ({ w with interview := Function.update w.interview nodeId none }, [], [])

end System

/-- What is published from outside, with nothing else going on. -/
inductive External
  /-- The protocol thread, at the end of an inclusion. -/
  | nodeIncluded (nodeId : NodeId) (commandClasses : Bytes)
  /-- The protocol thread, for a frame from the radio. -/
  | applicationCommand (sourceNodeId : NodeId) (ccData : Bytes)
  /-- The operator. -/
  | confirmDsk (nodeId : NodeId) (pin : Bytes)
  /-- The protocol thread, when the dongle is up. -/
  | dongleInfo (homeId : Bytes) (controllerNodeId : NodeId)
  /-- The key service. -/
  | s2NetworkKeysReady (ready : Bool)

/-- The message of an external event. -/
def External.message : External → Message
  | nodeIncluded nodeId commandClasses => .nodeIncluded nodeId commandClasses
  | applicationCommand nodeId ccData => .applicationCommand nodeId ccData .radio
  | confirmDsk nodeId pin => .confirmDsk nodeId pin
  | dongleInfo homeId controllerNodeId => .dongleInfo homeId controllerNodeId
  | s2NetworkKeysReady ready => .s2NetworkKeysReady ready

/-- What other modules publish in the middle of a delivery. -/
inductive Nested
  /-- The S2 inbound orchestrator: the inner of a frame. -/
  | applicationCommand (sourceNodeId : NodeId) (ccData : Bytes)
  /-- The translator: a typed report. -/
  | report (sourceNodeId : NodeId) (step : Interview.Step)
  /-- The translator: a wake-up. -/
  | wakeUpNotification (sourceNodeId : NodeId)

/-- The message of a nested event. -/
def Nested.message : Nested → Message
  | applicationCommand nodeId ccData => .applicationCommand nodeId ccData .s2
  | report nodeId step => .report nodeId step
  | wakeUpNotification nodeId => .wakeUpNotification nodeId

/-- What happens without the bus. -/
inductive Change
  /-- `NodeRegistry::add`. -/
  | add (nodeId : NodeId)
  /-- `NodeRegistry::remove`. -/
  | remove (nodeId : NodeId)
  /-- `NodeRegistry::seed`. -/
  | seed (nodeId : NodeId)
  /-- `NodeRegistry::setHomeId` and `PendingQueue::setHomeId`, with the nodes that are loaded. -/
  | setHomeId (homeId : Bytes) (nodes : NodeMap SecurityScheme)
  /-- Time passes. -/
  | tick (duration : S0.Time)

/-- A change of the state. -/
def Change.apply (w : World) : Change → World
  | add nodeId => { w with registry := w.registry.add nodeId }
  | remove nodeId => { w with registry := w.registry.remove nodeId }
  | seed nodeId => { w with registry := w.registry.seed nodeId }
  | setHomeId homeId nodes =>
    { w with
      registry := w.registry.setHomeId homeId nodes
      pending := { w.pending with homeId := some homeId } }
  | tick duration => { w with now := w.now + duration }

/-- The machine. -/
def System.dispatcher (sys : System) : Dispatcher World Action Draws External Nested Change Output where
  work := sys.work
  enter event := sys.publish event.message
  nest message := sys.publish message.message
  alter := Change.apply

/-- A move of the machine, in a history. -/
abbrev Step := Taken (Config World Action) (Move Draws External Nested Change)

/-- Nothing has happened yet. -/
def initial : Config World Action where
  state := {}
  agenda := []

/-! ## Node 7

A system to run, with stand-ins for the cryptography, and how node 7 is included. -/

/-- The modules as they are linked. -/
def System.sample : System where
  s0Ssl := S0.OpenSsl.standIn
  s2Ssl := S2.OpenSsl.standIn
  networkKey := some (Vector.replicate 16 5)
  networkKeys := some fun _ => Vector.replicate 16 9
  order := [.protocol, .unwrap, .nonceResponder, .s0Bootstrap, .s2Bootstrap, .interview, .wakeUp]

/-- What is drawn. -/
def Draws.sample : Draws where
  nonce := Vector.replicate 8 6
  keyPair := { publicKey := Vector.replicate 32 1, privateKey := Vector.replicate 32 2 }
  entropy := Vector.replicate 16 4

/-- Actions are taken. -/
def works (count : ℕ) : List (Move Draws External Nested Change) :=
  List.replicate count (.work Draws.sample)

/-- An event, and all that it leads to. -/
def happens (event : External) : List (Move Draws External Nested Change) := .enter event :: works 50

/-- What is first on the agenda while an event is dealt with is taken. -/
theorem takesAt_happens {sys : System} {pre : List (Move Draws External Nested Change)}
    {event : External} {count : ℕ} (hcount : count < 50) {action : Action}
    (hhead : (exec sys.dispatcher.step initial (pre ++ .enter event :: works count)).agenda.head? =
      some action) :
    sys.dispatcher.TakesAt initial (pre ++ happens event) (pre ++ .enter event :: works count) action
      Draws.sample := by
  refine ⟨⟨works (49 - count), ?_⟩, List.head?_eq_some_iff.mp hhead⟩
  have hworks : works 50 = works count ++ .work Draws.sample :: works (49 - count) := by
    unfold works
    rw [← List.replicate_succ, ← List.replicate_add]
    congr 1
    omega
  unfold happens
  rw [hworks, List.append_assoc, List.cons_append]

/-- Node 7 is included, into a network of its own. -/
def includes (commandClasses : Bytes) : List (Move Draws External Nested Change) :=
  [.alter (.setHomeId [0, 0, 0, 1] fun _ => none), .alter (.add 7)] ++
    happens (.s2NetworkKeysReady true) ++ happens (.nodeIncluded 7 commandClasses)

/-- Node 7 tells its schemes and a nonce, is sent the S0 network key, and asks for a nonce. -/
def exchangesS0 : List (Move Draws External Nested Change) :=
  happens (.applicationCommand 7 [0x98, 0x05, 0x00]) ++
    happens (.applicationCommand 7 (S0.Security.encodeNonceReport (Vector.replicate 8 8))) ++
    happens (.applicationCommand 7 S0.Security.encodeNonceGet)

/-- The VERIFY of node 7, under the network key and the nonce that it was given. -/
def verifyFrame : Bytes :=
  S0.Encapsulation.encrypt S0.OpenSsl.standIn [0x98, 0x07] 7 0 (Vector.replicate 8 8)
    (Vector.replicate 8 6) (Vector.replicate 16 5)

end Zwaved.Inclusion
