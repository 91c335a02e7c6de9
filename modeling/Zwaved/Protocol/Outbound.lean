import Zwaved.Protocol.Commands
import Zwaved.S2.Transport

/-!
# No plaintext to a secure node

What `pushSendData` diverts comes back: `SecurityOutboundOrchestrator.cpp` and
`SecurityS2OutboundOrchestrator.cpp` encrypt it, at once or when the node has sent a nonce, and
publish the frame as a SendDataCommand, which goes through `pushSendData` again. The bus delivers
while `publish` runs, so this is a machine with an agenda, and `dispatcher` is that machine: the
protocol thread, the two orchestrators and the one that receives S2 frames, with the registry and
the keys that they read.

Commands and frames of the radio come in from outside, or are published in the middle of things by a
module that is not part of it; the registry and the keys change at any time. `noPlaintext` is about
every run of the machine, from any state. `settles_command` says that the loop ends: what the
orchestrators publish is of the security layer (`reenters_work`), so it is queued, whatever the
registry says.

The S2 orchestrator encrypts all that is queued for a node before the first frame of it is
delivered, and the source after each; what a frame leads to is a request on the queue, and nothing
sees the difference.
-/

namespace Zwaved.Protocol

open Reactive

/-- Who takes ApplicationCommands. -/
inductive Orchestrator
  /-- `SecurityOutboundOrchestrator`. -/
  | s0Outbound
  /-- `SecurityS2OutboundOrchestrator`. -/
  | s2Outbound
  /-- `SecurityS2InboundOrchestrator`. -/
  | s2Inbound
  deriving DecidableEq, Repr

/-- What is on the agenda. -/
inductive Action
  /-- A command is delivered to the protocol thread. -/
  | command (command : Command)
  /-- SecureSendRequest is delivered. -/
  | secureSend (nodeId : NodeId) (payload : Bytes) (callbackId : UInt8)
  /-- SecureS2SendRequest is delivered. -/
  | secureS2Send (nodeId : NodeId) (payload : Bytes) (callbackId : UInt8)
  /-- ApplicationCommand is delivered to one of its subscribers. -/
  | applicationCommand (orchestrator : Orchestrator) (sourceNodeId : NodeId) (ccData : Bytes)
  /-- The S0 orchestrator asks for a nonce for what is left in a queue. -/
  | nextNonce (nodeId : NodeId)
  /-- DongleInfo is delivered, with the SPANs that the store restores. -/
  | dongleInfo (homeId : Bytes) (controllerNodeId : NodeId) (restored : NodeMap S2.InnerState)

/-- What comes out. -/
inductive Output
  /-- A request is put on the queue of the protocol thread. -/
  | pushRequest (request : Request)
  /-- SendDataCallback is published. -/
  | sendDataCallback (callbackId txStatus : UInt8)
  deriving DecidableEq

/-- What a handler draws at random. -/
structure Draws where
  /-- `S0::randomNonce()`. -/
  nonce : S0.Nonce
  /-- S2 entropy inputs. -/
  entropy : ℕ → S2.EntropyInput

/-- What the handlers are built with. -/
structure Bus where
  /-- OpenSSL, for S0. -/
  s0Ssl : S0.OpenSsl
  /-- OpenSSL, for S2. -/
  s2Ssl : S2.OpenSsl
  /-- Who takes ApplicationCommands, in the order of subscription. -/
  order : List Orchestrator

/-- What the handlers read and write. -/
structure World where
  /-- The S2 orchestrators with the SPAN manager, the registry and the S2 keys. -/
  transport : S2.Transport := {}
  /-- The S0 orchestrator's `queues`; a node without one has the empty one. -/
  queues : NodeId → List S2.Pending := fun _ => []
  /-- The S0 orchestrator's `controllerNodeId`. -/
  controllerNodeId : NodeId := 0
  /-- `S0::NetworkKey::current()`. -/
  networkKey : Option S0.Key := none

/-- `NodeRegistry`. -/
def World.registry (w : World) : NodeRegistry := w.transport.registry

/-- What an effect puts on the agenda. -/
def Effect.actions : Effect → List Action
  | pushRequest _ | sendDataCallback _ _ => []
  | secureSend nodeId payload callbackId => [.secureSend nodeId payload callbackId]
  | secureS2Send nodeId payload callbackId => [.secureS2Send nodeId payload callbackId]

/-- What of an effect comes out. -/
def Effect.outputs : Effect → List Output
  | pushRequest request => [.pushRequest request]
  | sendDataCallback callbackId txStatus => [.sendDataCallback callbackId txStatus]
  | secureSend _ _ _ | secureS2Send _ _ _ => []

/-- A SendDataCommand is published. -/
def sendData (nodeId : NodeId) (payload : Bytes) (callbackId : UInt8) : Action :=
  .command (.sendData nodeId payload callbackId)

/-- `requestNonce` of the S0 orchestrator. -/
def requestNonce (nodeId : NodeId) : Action :=
  sendData nodeId S0.Security.encodeNonceGet S2.noCallback

namespace Bus

variable (bus : Bus)

/-- ApplicationCommand is published. -/
def publish (sourceNodeId : NodeId) (ccData : Bytes) : List Action :=
  bus.order.map fun orchestrator => .applicationCommand orchestrator sourceNodeId ccData

/-- What the S2 orchestrators publish. -/
def publishS2 : S2.Published → List Action
  | .sendData nodeId payload callbackId => [sendData nodeId payload callbackId]
  | .applicationCommand sourceNodeId ccData => bus.publish sourceNodeId ccData

/-- `onSecureSendRequest`. -/
def onSecureSendRequest (w : World) (nodeId : NodeId) (payload : Bytes) (callbackId : UInt8) :
    World × List Action :=
  let queue := w.queues nodeId
  ({ w with queues := Function.update w.queues nodeId (queue ++ [{ payload, callbackId }]) },
    if queue.isEmpty then [requestNonce nodeId] else [])

/-- `onApplicationCommand` of the S0 orchestrator: one payload for each nonce. -/
def onS0Outbound (w : World) (sourceNodeId : NodeId) (ccData : Bytes) (nonce : S0.Nonce) :
    World × List Action :=
  if S0.Security.commandByte ccData ≠ some S0.Security.nonceReport then (w, [])
  else match w.queues sourceNodeId with
    | [] => (w, [])
    | pending :: queue =>
      match S0.Security.decodeNonceReport ccData, w.networkKey with
      | some nodeNonce, some key =>
        let frame := S0.Encapsulation.encrypt bus.s0Ssl pending.payload w.controllerNodeId
          sourceNodeId nonce nodeNonce key
        ({ w with queues := Function.update w.queues sourceNodeId queue },
          [sendData sourceNodeId frame pending.callbackId, .nextNonce sourceNodeId])
      | _, _ => ({ w with queues := Function.update w.queues sourceNodeId [] }, [])

/-- ApplicationCommand, at one of its subscribers. -/
def onApplicationCommand (w : World) (sourceNodeId : NodeId) (ccData : Bytes) (draws : Draws) :
    Orchestrator → World × List Action
  | .s0Outbound => bus.onS0Outbound w sourceNodeId ccData draws.nonce
  | .s2Outbound =>
    let (transport, sent) :=
      w.transport.outbound bus.s2Ssl sourceNodeId ccData draws.entropy
    ({ w with transport }, sent.flatMap bus.publishS2)
  | .s2Inbound =>
    let (transport, sent) :=
      w.transport.inbound bus.s2Ssl sourceNodeId ccData (draws.entropy 0)
    ({ w with transport }, sent.flatMap bus.publishS2)

/-- An action is taken. -/
def work (w : World) (action : Action) (draws : Draws) : World × List Action × List Output :=
  match action with
  | .command command =>
    let effect := onCommand w.registry command
    (w, effect.actions, effect.outputs)
  | .secureSend nodeId payload callbackId =>
    let (w, actions) := onSecureSendRequest w nodeId payload callbackId
    (w, actions, [])
  | .secureS2Send nodeId payload callbackId =>
    let (transport, sent) :=
      w.transport.secureS2SendRequest bus.s2Ssl nodeId { payload, callbackId } (draws.entropy 0)
    ({ w with transport }, sent.flatMap bus.publishS2, [])
  | .applicationCommand orchestrator sourceNodeId ccData =>
    let (w, actions) := bus.onApplicationCommand w sourceNodeId ccData draws orchestrator
    (w, actions, [])
  | .nextNonce nodeId => (w, if (w.queues nodeId).isEmpty then [] else [requestNonce nodeId], [])
  | .dongleInfo homeId controllerNodeId restored =>
    ({ w with
        controllerNodeId
        transport := w.transport.dongleInfo homeId controllerNodeId restored }, [], [])

end Bus

/-- What is published from outside. -/
inductive Event
  /-- A command. -/
  | command (command : Command)
  /-- ApplicationCommand, of a frame from the radio or of one that was unwrapped. -/
  | applicationCommand (sourceNodeId : NodeId) (ccData : Bytes)
  /-- DongleInfo. -/
  | dongleInfo (homeId : Bytes) (controllerNodeId : NodeId) (restored : NodeMap S2.InnerState)

/-- What an event puts on the agenda. -/
def Bus.enter (bus : Bus) : Event → List Action
  | .command command => [.command command]
  | .applicationCommand sourceNodeId ccData => bus.publish sourceNodeId ccData
  | .dongleInfo homeId controllerNodeId restored =>
    [.dongleInfo homeId controllerNodeId restored]

/-- What happens without the bus. -/
inductive Change
  /-- The registry is written, in whatever way. -/
  | registry (registry : NodeRegistry)
  /-- The S2 keys are loaded. -/
  | s2Keys (keys : S2.NetworkKeys.KeySet)
  /-- The S0 key is loaded. -/
  | s0Key (key : S0.Key)

/-- A change of the state. -/
def Change.apply (w : World) : Change → World
  | registry written => { w with transport := { w.transport with registry := written } }
  | s2Keys keys => { w with transport := { w.transport with keys := some keys } }
  | s0Key key => { w with networkKey := some key }

/-- The machine. -/
def Bus.dispatcher (bus : Bus) : Dispatcher World Action Draws Event Event Change Output where
  work := bus.work
  enter := bus.enter
  nest := bus.enter
  alter := Change.apply

/-- A move of the machine, in a history. -/
abbrev Step := Taken (Config World Action) (Move Draws Event Event Change)

/-! ## The loop -/

/-- What the handlers put on the agenda: of the commands, only raw ones of the security layer. -/
def Reenters : Action → Prop
  | .command (.sendData _ payload _) => Encapsulated payload
  | .command _ => False
  | _ => True

/-- A command that comes back is queued, whatever the registry says. -/
theorem onCommand_of_reenters {command : Command} (h : Reenters (.command command))
    (registry : NodeRegistry) :
    ∃ request, onCommand registry command = .pushRequest (.sendData request) := by
  cases command with
  | sendData nodeId payload callbackId => exact ⟨_, pushSendData_queues (Or.inl h)⟩
  | network request => exact h.elim
  | node nodeId callbackId command => exact h.elim
  | sendDataMulticast nodeIds payload callbackId => exact h.elim

variable (bus : Bus) (w : World) (draws : Draws)

/-- A nonce request goes back to the thread. -/
theorem reenters_requestNonce (nodeId : NodeId) : Reenters (requestNonce nodeId) :=
  Or.inr (Or.inl rfl)

/-- What the S2 side publishes goes back to the thread. -/
theorem reenters_publishS2 {s : S2.Transport} {result : S2.Transport × List S2.Published}
    (h : s.Sends result) : ∀ action ∈ result.2.flatMap bus.publishS2, Reenters action := by
  intro action haction
  obtain ⟨published, hpublished, hmem⟩ := List.mem_flatMap.mp haction
  cases published with
  | sendData nodeId payload callbackId =>
    obtain rfl := List.mem_singleton.mp hmem
    exact Or.inr (Or.inr (h.frames nodeId payload callbackId hpublished))
  | applicationCommand sourceNodeId ccData =>
    obtain ⟨orchestrator, -, rfl⟩ := List.mem_map.mp hmem
    trivial

/-- What the S0 side publishes goes back to the thread. -/
theorem reenters_onS0Outbound (sourceNodeId : NodeId) (ccData : Bytes) (nonce : S0.Nonce) :
    ∀ action ∈ (bus.onS0Outbound w sourceNodeId ccData nonce).2, Reenters action := by
  have hnothing : ∀ action ∈ ([] : List Action), Reenters action := fun _ h => nomatch h
  unfold Bus.onS0Outbound
  split
  · exact hnothing
  split
  · exact hnothing
  split
  · -- The frame, and what comes after it.
    intro action haction
    rcases List.mem_cons.mp haction with rfl | haction
    · exact Or.inr (Or.inl rfl)
    · obtain rfl := List.mem_singleton.mp haction
      trivial
  · exact hnothing

/-- Whatever an action leads to, the commands in it are of the security layer. -/
theorem reenters_work (action : Action) : ∀ next ∈ (bus.work w action draws).2.1, Reenters next := by
  -- Each action puts on the agenda only what a handler publishes: requests for a secured send, or
  -- frames of the transport.
  cases action with
  | command command =>
    intro next hnext
    unfold Bus.work at hnext
    dsimp only at hnext
    cases heffect : onCommand w.registry command with
    | pushRequest request => rw [heffect] at hnext; cases hnext
    | sendDataCallback callbackId txStatus => rw [heffect] at hnext; cases hnext
    | secureSend nodeId payload callbackId =>
      rw [heffect] at hnext
      obtain rfl := List.mem_singleton.mp hnext
      trivial
    | secureS2Send nodeId payload callbackId =>
      rw [heffect] at hnext
      obtain rfl := List.mem_singleton.mp hnext
      trivial
  -- The S0 queue asks for a nonce when it was empty.
  | secureSend nodeId payload callbackId =>
    intro next hnext
    unfold Bus.work Bus.onSecureSendRequest at hnext
    dsimp only at hnext
    split at hnext
    · obtain rfl := List.mem_singleton.mp hnext
      exact reenters_requestNonce nodeId
    · cases hnext
  | secureS2Send nodeId payload callbackId =>
    exact reenters_publishS2 bus (S2.Transport.sends_secureS2SendRequest _ _ _ _)
  -- A frame may make an orchestrator send what has been waiting for it.
  | applicationCommand orchestrator sourceNodeId ccData =>
    cases orchestrator with
    | s0Outbound => exact reenters_onS0Outbound bus w sourceNodeId ccData draws.nonce
    | s2Outbound => exact reenters_publishS2 bus (S2.Transport.sends_outbound _ _ _ _)
    | s2Inbound => exact reenters_publishS2 bus (S2.Transport.sends_inbound _ _ _ _)
  | nextNonce nodeId =>
    intro next hnext
    unfold Bus.work at hnext
    dsimp only at hnext
    split at hnext
    · cases hnext
    · obtain rfl := List.mem_singleton.mp hnext
      exact reenters_requestNonce nodeId
  | dongleInfo homeId controllerNodeId restored => exact fun _ h => nomatch h

/-- The action is off the agenda, with all that it leads to, after `n` actions at most. -/
def Settles (n : ℕ) (action : Action) : Prop :=
  ∀ (c : Config World Action) (rest : List Action) (draws : List Draws),
    c.agenda = action :: rest → n ≤ draws.length →
    ∃ m ≤ n, (exec bus.dispatcher.step c ((draws.take m).map .work)).agenda = rest

variable {bus} in
/-- An action that leads to one other at most settles after it. -/
theorem settles_of_work {n : ℕ} {action : Action}
    (h : ∀ w draws, (bus.work w action draws).2.1 = [] ∨
      ∃ next, (bus.work w action draws).2.1 = [next] ∧ Settles bus n next) :
    Settles bus (n + 1) action := by
  intro c rest draws hagenda hlength
  cases draws with
  | nil => cases hlength
  | cons draws more =>
    have hstep : (bus.dispatcher.step c (.work draws)).1.agenda =
        (bus.work c.state action draws).2.1 ++ rest := by
      rw [Dispatcher.step_work _ hagenda]
      rfl
    rcases h c.state draws with hnil | ⟨next, hnext, hsettles⟩
    · refine ⟨1, Nat.succ_le_succ (Nat.zero_le n), ?_⟩
      rw [hnil, List.nil_append] at hstep
      exact hstep
    · rw [hnext, List.singleton_append] at hstep
      obtain ⟨m, hm, hrest⟩ := hsettles _ rest more hstep (Nat.le_of_succ_le_succ hlength)
      exact ⟨m + 1, Nat.succ_le_succ hm, hrest⟩

/-- What goes back to the thread is one step from rest: the thread's command leads to no more. -/
theorem settles_reenters {command : Command} (h : Reenters (.command command)) :
    Settles bus 1 (.command command) := by
  refine settles_of_work fun w draws => Or.inl ?_
  obtain ⟨request, hrequest⟩ := onCommand_of_reenters h w.registry
  simp only [Bus.work, hrequest, Effect.actions]

/-- An S0 request is two steps from rest: what it publishes goes back to the thread. -/
theorem settles_secureSend (nodeId : NodeId) (payload : Bytes) (callbackId : UInt8) :
    Settles bus 2 (.secureSend nodeId payload callbackId) := by
  refine settles_of_work fun w draws => ?_
  simp only [Bus.work, Bus.onSecureSendRequest]
  split
  · exact Or.inr ⟨_, rfl, settles_reenters bus (reenters_requestNonce nodeId)⟩
  · exact Or.inl rfl

/-- An S2 request is two steps from rest. -/
theorem settles_secureS2Send (nodeId : NodeId) (payload : Bytes) (callbackId : UInt8) :
    Settles bus 2 (.secureS2Send nodeId payload callbackId) := by
  refine settles_of_work fun w draws => ?_
  have hreenters := reenters_work bus w draws (.secureS2Send nodeId payload callbackId)
  have hone := S2.Transport.secureS2SendRequest_sent bus.s2Ssl w.transport nodeId
    { payload, callbackId } (draws.entropy 0)
  simp only [Bus.work] at hreenters ⊢
  rcases hone with hnil | ⟨sent, sentId, hsent⟩
  · rw [hnil]
    exact Or.inl rfl
  · rw [hsent] at hreenters ⊢
    have hframe : Reenters (sendData nodeId sent sentId) := hreenters _ List.mem_cons_self
    exact Or.inr ⟨_, rfl, settles_reenters bus hframe⟩

/-- Every command is dealt with after three actions: its own handler, the orchestrator's, and the
handler of the frame that comes back. -/
theorem settles_command (command : Command) : Settles bus 3 (.command command) := by
  refine settles_of_work fun w draws => ?_
  simp only [Bus.work]
  cases onCommand w.registry command with
  | pushRequest request => exact Or.inl rfl
  | sendDataCallback callbackId txStatus => exact Or.inl rfl
  | secureSend nodeId payload callbackId =>
    exact Or.inr ⟨_, rfl, settles_secureSend bus nodeId payload callbackId⟩
  | secureS2Send nodeId payload callbackId =>
    exact Or.inr ⟨_, rfl, settles_secureS2Send bus nodeId payload callbackId⟩

/-! ## One action -/

/-- The handlers only read the registry. -/
theorem registry_work (action : Action) : (bus.work w action draws).1.registry = w.registry := by
  cases action with
  | command command => rfl
  | secureSend nodeId payload callbackId => rfl
  | secureS2Send nodeId payload callbackId =>
    exact (S2.Transport.sends_secureS2SendRequest _ _ _ _).registry
  | applicationCommand orchestrator sourceNodeId ccData =>
    cases orchestrator with
    | s0Outbound =>
      unfold Bus.work Bus.onApplicationCommand Bus.onS0Outbound
      dsimp only
      split
      · rfl
      split
      · rfl
      split <;> rfl
    | s2Outbound => exact (S2.Transport.sends_outbound _ _ _ _).registry
    | s2Inbound => exact (S2.Transport.sends_inbound _ _ _ _).registry
  | nextNonce nodeId => rfl
  | dongleInfo homeId controllerNodeId restored => rfl

/-- Only a command puts a request on the queue. -/
theorem onCommand_of_pushRequest {action : Action} {request : Request}
    (h : .pushRequest request ∈ (bus.work w action draws).2.2) :
    ∃ command, action = .command command ∧ onCommand w.registry command = .pushRequest request := by
  -- Only a host's command pushes a request, and only if its node is not secure.
  cases action with
  | command command =>
    refine ⟨command, rfl, ?_⟩
    unfold Bus.work at h
    dsimp only at h
    cases heffect : onCommand w.registry command with
    | pushRequest request' =>
      rw [heffect] at h
      obtain heq := List.mem_singleton.mp h
      injection heq with heq
      rw [heq]
    | sendDataCallback callbackId txStatus =>
      rw [heffect] at h
      cases List.mem_singleton.mp h
    | secureSend nodeId payload callbackId => rw [heffect] at h; cases h
    | secureS2Send nodeId payload callbackId => rw [heffect] at h; cases h
  | secureSend nodeId payload callbackId => cases h
  | secureS2Send nodeId payload callbackId => cases h
  | applicationCommand orchestrator sourceNodeId ccData => cases h
  | nextNonce nodeId => cases h
  | dongleInfo homeId controllerNodeId restored => cases h

/-! ## Every run -/

/-- A move that leaks nothing. -/
structure NoPlaintext (taken : Step) : Prop where
  /-- What is queued for a node that the registry has as secure, before the move and after it, has
  no payload or one of the security layer. -/
  singlecast : ∀ request,
    .pushRequest (.sendData request) ∈ (bus.dispatcher.step taken.before taken.input).2 →
    (bus.dispatcher.step taken.before taken.input).1.state.registry = taken.before.state.registry ∧
      (taken.before.state.registry.isSecure request.nodeId → Encapsulated request.data)
  /-- A multicast to a secure node leads to the callback that it has failed and to nothing else. -/
  multicast : ∀ nodeIds payload callbackId draws,
    Dispatcher.Takes taken (.command (.sendDataMulticast nodeIds payload callbackId)) draws →
    (∃ nodeId ∈ nodeIds, taken.before.state.registry.isSecure nodeId) →
    (bus.dispatcher.step taken.before taken.input).2 =
        [.sendDataCallback callbackId transmitCompleteFail] ∧
      (bus.dispatcher.step taken.before taken.input).1.agenda = taken.before.agenda.tail

/-- No run of the machine sends plaintext to a secure node. -/
theorem noPlaintext (start : Config World Action) (moves : List (Move Draws Event Event Change)) :
    ∀ taken ∈ trace bus.dispatcher.step start moves, NoPlaintext bus taken := by
  rintro ⟨before, input⟩ -
  constructor
  -- The request was pushed by a command, whose node is not secure or has its frame encapsulated.
  · intro request hrequest
    dsimp only at hrequest ⊢
    have hmoved := bus.dispatcher.moved before input
    generalize bus.dispatcher.step before input = result at hrequest hmoved ⊢
    cases hmoved with
    | worked draws head =>
      obtain ⟨command, rfl, hcommand⟩ := onCommand_of_pushRequest bus before.state draws hrequest
      exact ⟨registry_work bus before.state draws _,
        fun hsecure => encapsulated_of_onCommand hcommand hsecure⟩
    -- An event from outside and a change of the settings push nothing.
    | entered event empty => cases hrequest
    | nested message => cases hrequest
    | altered change => cases hrequest
    | idle move => cases hrequest
  -- A multicast to a secure node is answered with a failed callback, and nothing else is done.
  · rintro nodeIds payload callbackId draws ⟨rfl, rest, hagenda⟩ hsecure
    dsimp only at hagenda hsecure ⊢
    have hrefused : onCommand before.state.registry
        (.sendDataMulticast nodeIds payload callbackId) =
          .sendDataCallback callbackId transmitCompleteFail := onSendDataMulticast_secure hsecure
    have hwork : bus.work before.state (.command (.sendDataMulticast nodeIds payload callbackId))
        draws = (before.state, [], [.sendDataCallback callbackId transmitCompleteFail]) := by
      simp only [Bus.work, hrefused]
      rfl
    rw [Dispatcher.step_work _ hagenda, hagenda]
    exact ⟨congrArg (·.2.2) hwork, congrArg (·.2.1 ++ rest) hwork⟩

/-! ## Node 5

A lock that is included with S0, and how it is sent a command. -/

/-- The handlers, with stand-ins for the cryptography. -/
def Bus.sample : Bus where
  s0Ssl := S0.OpenSsl.standIn
  s2Ssl := S2.OpenSsl.standIn
  order := [.s0Outbound, .s2Outbound, .s2Inbound]

/-- What is drawn. -/
def Draws.sample : Draws where
  nonce := Vector.replicate 8 6
  entropy _ := Vector.replicate 16 4

/-- Nothing has happened yet. -/
def idle : Config World Action where
  state := {}
  agenda := []

/-- An event, and all that it leads to. -/
def happens (event : Event) : List (Move Draws Event Event Change) :=
  .enter event :: List.replicate 6 (.work Draws.sample)

/-- The lock is closed, tells its nonce, and is then one of the nodes of a multicast. -/
def closesLock : List (Move Draws Event Event Change) :=
  [.alter (.registry { nodes := Function.update (fun _ => none) 5 (some .s0) }),
    .alter (.s0Key (Vector.replicate 16 5))] ++
    happens (.command (.node 5 8 (.setDoorLock 0xFF))) ++
    happens (.applicationCommand 5 (S0.Security.encodeNonceReport (Vector.replicate 8 7))) ++
    happens (.command (.sendDataMulticast [4, 5] [0x20, 0x01, 0xFF] 9))

/-- The nonce is asked for, the frame is sent with the callback id of the command, and the multicast
is refused. -/
theorem noPlaintext_closesLock :
    emitted Bus.sample.dispatcher.step idle closesLock =
      [.pushRequest (.sendData { nodeId := 5, data := [0x98, 0x40], txOptions := 0x25
                                 callbackId := 0 }),
        .pushRequest (.sendData { nodeId := 5
                                  data := S0.Encapsulation.encrypt S0.OpenSsl.standIn
                                    [0x62, 0x01, 0xFF] 0 5 (Vector.replicate 8 6)
                                    (Vector.replicate 8 7) (Vector.replicate 16 5)
                                  txOptions := 0x25
                                  callbackId := 8 }),
        .sendDataCallback 9 0x02] ∧
      ∀ taken ∈ trace Bus.sample.dispatcher.step idle closesLock, NoPlaintext Bus.sample taken :=
  ⟨by decide +kernel, noPlaintext Bus.sample idle closesLock⟩

end Zwaved.Protocol
