import Zwaved.Reactive.Purge
import Zwaved.S2.KeyVerified

/-!
# Handshakes of different nodes

Every node has a session and a temporary channel of its own, and a handler works on those of one
node. The channels under new keys are one table, which a NONCE_GET for a new key replaces as a whole:
whoever awaits a verify at that moment loses its channel. `Alike` says that two states hold the same
for a node, with the class channel only while a verify is awaited over it. The events of other nodes
keep it unless one of them `Collides`, and so a node's handshake runs as it would alone
(`run_alone`).
-/

namespace Zwaved.S2

open Reactive

/-- The event is about the node, or about none. -/
def BootstrapEvent.concerns (nodeId : NodeId) (event : BootstrapEvent) : Bool :=
  event.nodeId?.all (· == nodeId)

/-- The output is a frame to the node, or recorded or announced for it. The prompt is for the
operator. -/
def BootstrapOutput.isFor (nodeId : NodeId) : BootstrapOutput → Bool
  | .sendPlaintext target _ | .sendEncrypted target _ _ | .s2KeyAgreementComplete target
  | .setSecurityScheme target _ | .nodeSecurityStatus target _ => target == nodeId
  | .dskPendingConfirmation _ _ => false

namespace Bootstrap

/-- The node's handshake goes in a run as it goes when only its own events are delivered. -/
def RunsAlone (ssl : OpenSsl) (keys : Option NetworkKeys.KeySet) (nodeId : NodeId)
    (events : List BootstrapEvent) : Prop :=
  (exec (step ssl keys) {} events).sessions nodeId =
      (exec (step ssl keys) {} (events.filter (·.concerns nodeId))).sessions nodeId ∧
    (emitted (step ssl keys) {} events).filter (·.isFor nodeId) =
      (emitted (step ssl keys) {} (events.filter (·.concerns nodeId))).filter (·.isFor nodeId)

/-- Another node asks for the nonce of a new key's channel, while the verify of a new key is awaited
from the node. -/
def Collides (nodeId : NodeId) (taken : Taken Bootstrap BootstrapEvent) : Prop :=
  (∃ session ∈ taken.before.sessions nodeId, session.phase = .awaitKeyVerify) ∧
    match taken.input with
    | .applicationCommand other ccData _ => other ≠ nodeId ∧
      commandByte ccData = some NonceSync.nonceGetCommand ∧
      ∃ session ∈ taken.before.sessions other, session.phase = .awaitClassNonceGet
    | _ => False

instance (nodeId : NodeId) : DecidablePred (Collides nodeId)
  | ⟨s, .applicationCommand other _ _⟩ => inferInstanceAs
    (Decidable ((∃ session ∈ s.sessions nodeId, _) ∧ _ ∧ _ ∧ ∃ session ∈ s.sessions other, _))
  | ⟨s, .nodeIncluded _ _ _⟩ | ⟨s, .confirmDsk _ _⟩ | ⟨s, .dongleInfo _ _⟩
  | ⟨s, .s2NetworkKeysReady _⟩ =>
    inferInstanceAs (Decidable ((∃ session ∈ s.sessions nodeId, _) ∧ False))

/-- Two states hold the same for a node. -/
structure Alike (nodeId : NodeId) (s s' : Bootstrap) : Prop where
  /-- The session. -/
  session : s'.sessions nodeId = s.sessions nodeId
  /-- The temporary channel. -/
  channel : s'.spanManager.peers nodeId = s.spanManager.peers nodeId
  /-- The channel under a new key, while a verify is awaited over it. -/
  classChannel : ∀ session, s.sessions nodeId = some session → session.phase = .awaitKeyVerify →
    s'.classSpanManager.peers nodeId = s.classSpanManager.peers nodeId
  /-- The network. -/
  homeId : s'.homeId = s.homeId
  /-- The controller. -/
  controllerNodeId : s'.controllerNodeId = s.controllerNodeId
  /-- The network keys are ready. -/
  keysReady : s'.keysReady = s.keysReady

variable {nodeId other : NodeId} {s s' s'' : Bootstrap} {session : Session}

/-- A state holds the same as itself for every node. -/
theorem Alike.refl (nodeId : NodeId) (s : Bootstrap) : Alike nodeId s s :=
  ⟨rfl, rfl, fun _ _ _ => rfl, rfl, rfl, rfl⟩

/-- Holding the same for a node is symmetric. The class channel is awaited in the one state exactly
when it is in the other, as the sessions agree. -/
theorem Alike.symm (h : Alike nodeId s s') : Alike nodeId s' s where
  session := h.session.symm
  channel := h.channel.symm
  classChannel session hs hphase := by
    rw [h.session] at hs
    exact (h.classChannel session hs hphase).symm
  homeId := h.homeId.symm
  controllerNodeId := h.controllerNodeId.symm
  keysReady := h.keysReady.symm

/-- Holding the same for a node is transitive. -/
theorem Alike.trans (h : Alike nodeId s s') (h' : Alike nodeId s' s'') : Alike nodeId s s'' where
  session := h'.session.trans h.session
  channel := h'.channel.trans h.channel
  classChannel session hs hphase :=
    (h'.classChannel session (h.session.trans hs) hphase).trans (h.classChannel session hs hphase)
  homeId := h'.homeId.trans h.homeId
  controllerNodeId := h'.controllerNodeId.trans h.controllerNodeId
  keysReady := h'.keysReady.trans h.keysReady

/-! ## The events of other nodes -/

/-- Nothing has happened for the node: the states are alike for it, and no output is for it. -/
structure Unnoticed (nodeId : NodeId) (s : Bootstrap)
    (result : Bootstrap × List BootstrapOutput) : Prop where
  /-- The states. -/
  state : Alike nodeId s result.1
  /-- The outputs. -/
  outputs : ∀ out ∈ result.2, out.isFor nodeId = false

/-- A handler that sends nothing goes unnoticed by the node when the state it leaves holds the same
for it. -/
theorem Unnoticed.of_state (h : Alike nodeId s s') : Unnoticed nodeId s (s', []) :=
  ⟨h, fun _ hout => absurd hout List.not_mem_nil⟩

/-- A handler that does nothing goes unnoticed by every node. -/
theorem Unnoticed.refl (nodeId : NodeId) (s : Bootstrap) : Unnoticed nodeId s (s, []) :=
  .of_state (.refl nodeId s)

section Others

variable (ssl : OpenSsl) (keys : Option NetworkKeys.KeySet) (hne : nodeId ≠ other)

include hne

/-- Storing the session of another node leaves what is held for this one. -/
theorem alike_setSession_other (s : Bootstrap) (session : Session) :
    Alike nodeId s (s.setSession other session) :=
  ⟨Function.update_of_ne hne .., rfl, fun _ _ _ => rfl, rfl, rfl, rfl⟩

/-- Dropping the session of another node leaves what is held for this one. -/
theorem alike_eraseSession_other (s : Bootstrap) : Alike nodeId s (s.eraseSession other) :=
  ⟨Function.update_of_ne hne .., rfl, fun _ _ _ => rfl, rfl, rfl, rfl⟩

/-- Storing the temporary channel of another node leaves what is held for this one. -/
theorem alike_setPeer_other (s : Bootstrap) (peer : Peer) :
    Alike nodeId s { s with spanManager := s.spanManager.set other peer } :=
  ⟨rfl, SpanManager.peers_set_of_ne _ hne peer, fun _ _ _ => rfl, rfl, rfl, rfl⟩

/-- Storing the class channel of another node leaves what is held for this one: only a NONCE_GET
replaces the table as a whole. -/
theorem alike_setClassPeer_other (s : Bootstrap) (peer : Peer) :
    Alike nodeId s { s with classSpanManager := s.classSpanManager.set other peer } :=
  ⟨rfl, rfl, fun _ _ _ => SpanManager.peers_set_of_ne _ hne peer, rfl, rfl, rfl⟩

/-- A plaintext frame to another node goes unnoticed by this one. -/
theorem Alike.unnoticed_plaintext (h : Alike nodeId s s') (payload : Bytes) :
    Unnoticed nodeId s (s', [.sendPlaintext other payload]) := by
  refine ⟨h, fun out hout => ?_⟩
  obtain rfl := List.mem_singleton.mp hout
  exact beq_eq_false_iff_ne.mpr hne.symm

/-- An encrypted frame to another node goes unnoticed by this one: it moves the other's channel and
goes to it alone. -/
theorem unnoticed_sendEncrypted (s : Bootstrap) (inner : Bytes) (sei : EntropyInput) :
    Unnoticed nodeId s (s.sendEncrypted ssl other inner sei) := by
  unfold sendEncrypted SpanManager.encrypt
  rcases (s.spanManager.peers other).encrypt ssl inner sei with ⟨_ | frame, peer⟩
  · exact .of_state (alike_setPeer_other hne s peer)
  · refine ⟨alike_setPeer_other hne s peer, fun out hout => ?_⟩
    obtain rfl := List.mem_singleton.mp hout
    exact beq_eq_false_iff_ne.mpr hne.symm

/-- A last word over the temporary channel of the other node, and its session is replaced. -/
theorem Alike.unnoticed_sendSet (h : Alike nodeId s s') (inner : Bytes) (sei : EntropyInput)
    (session : Session) :
    Unnoticed nodeId s ((s'.sendEncrypted ssl other inner sei).1.setSession other session,
      (s'.sendEncrypted ssl other inner sei).2) := by
  have hsend := unnoticed_sendEncrypted ssl hne s' inner sei
  exact ⟨(h.trans hsend.state).trans (alike_setSession_other hne _ session), hsend.outputs⟩

/-- An encrypted frame to another node followed by dropping its session, as every failure branch
ends, goes unnoticed by this one. -/
theorem Alike.unnoticed_sendErase (h : Alike nodeId s s') (inner : Bytes) (sei : EntropyInput) :
    Unnoticed nodeId s ((s'.sendEncrypted ssl other inner sei).1.eraseSession other,
      (s'.sendEncrypted ssl other inner sei).2) := by
  have hsend := unnoticed_sendEncrypted ssl hne s' inner sei
  exact ⟨(h.trans hsend.state).trans (alike_eraseSession_other hne _), hsend.outputs⟩

/-- Opening a frame of another node, or failing to, moves only that node's temporary channel. -/
theorem alike_decryptInbound_other (s : Bootstrap) (session : Session) (frame : Bytes) :
    Alike nodeId s (s.decryptInbound ssl other session frame).2 := by
  unfold decryptInbound SpanManager.receiveNonce
  rcases (s.spanManager.peers other).receiveNonce ssl frame with ⟨_ | nonce, peer⟩
  · exact alike_setPeer_other hne s peer
  · exact alike_setPeer_other hne s peer

/-- The end of another node's key agreement goes unnoticed by this one, with a shared secret or
without. -/
theorem unnoticed_finishKeyAgreement (s : Bootstrap) (session : Session) :
    Unnoticed nodeId s (s.finishKeyAgreement ssl other session) := by
  unfold finishKeyAgreement
  split
  · exact (alike_eraseSession_other hne s).unnoticed_plaintext hne _
  · refine ⟨(alike_setSession_other hne s _).trans (alike_setPeer_other hne _ _),
      fun out hout => ?_⟩
    obtain rfl := List.mem_singleton.mp hout
    exact beq_eq_false_iff_ne.mpr hne.symm

/-- The inclusion of another node goes unnoticed by this one: it opens a session of its own, or is
passed over. -/
theorem unnoticed_onNodeIncluded (s : Bootstrap) (commandClasses : Bytes) (keyPair : KeyPair) :
    Unnoticed nodeId s (s.onNodeIncluded other commandClasses keyPair) := by
  unfold onNodeIncluded
  split
  · exact .refl nodeId s
  · split
    · exact .refl nodeId s
    · exact (alike_setSession_other hne s _).unnoticed_plaintext hne _

/-- A KEX_REPORT of another node goes unnoticed by this one, whether the proposal is accepted or
failed. -/
theorem unnoticed_onKexReport (s : Bootstrap) (session : Session) (ccData : Bytes) :
    Unnoticed nodeId s (s.onKexReport other session ccData) := by
  unfold onKexReport
  split
  · exact .refl nodeId s
  · dsimp only
    split
    · exact (alike_eraseSession_other hne s).unnoticed_plaintext hne _
    · exact (alike_setSession_other hne s _).unnoticed_plaintext hne _

/-- A public key report of another node goes unnoticed by this one. Where it asks the operator, the
prompt is for no node. -/
theorem unnoticed_onPublicKeyReport (s : Bootstrap) (session : Session) (ccData : Bytes) :
    Unnoticed nodeId s (s.onPublicKeyReport ssl other session ccData) := by
  have hanswer : ∀ payload, (BootstrapOutput.sendPlaintext other payload).isFor nodeId = false :=
    fun _ => beq_eq_false_iff_ne.mpr hne.symm
  unfold onPublicKeyReport
  split
  · exact .refl nodeId s
  · dsimp only
    split
    · refine ⟨alike_setSession_other hne s _, fun out hout => ?_⟩
      rcases List.mem_cons.mp hout with rfl | hout
      · exact hanswer _
      · -- The prompt is for nobody.
        obtain rfl := List.mem_singleton.mp hout
        rfl
    · have hfinish := unnoticed_finishKeyAgreement ssl hne s
      refine ⟨(hfinish _).state, fun out hout => ?_⟩
      rcases List.mem_cons.mp hout with rfl | hout
      · exact hanswer _
      · exact (hfinish _).outputs out hout

/-- A PIN confirmed for another node goes unnoticed by this one. -/
theorem unnoticed_onConfirmDsk (s : Bootstrap) (pin : Bytes) :
    Unnoticed nodeId s (s.onConfirmDsk ssl other pin) := by
  unfold onConfirmDsk
  split
  · exact .refl nodeId s
  · split
    · exact .refl nodeId s
    · split
      · exact .refl nodeId s
      · have hfinish := unnoticed_finishKeyAgreement ssl hne s
        refine ⟨(hfinish _).state, fun out hout => ?_⟩
        rcases List.mem_cons.mp hout with rfl | hout
        · rfl
        · exact (hfinish _).outputs out hout

/-- The echoed KEX_SET of another node goes unnoticed by this one. -/
theorem unnoticed_onKexSetEcho (s : Bootstrap) (session : Session) (frame : Bytes)
    (sei : EntropyInput) : Unnoticed nodeId s (s.onKexSetEcho ssl other session frame sei) := by
  have hdecrypt := alike_decryptInbound_other ssl hne s session frame
  unfold onKexSetEcho
  rcases heq : s.decryptInbound ssl other session frame with ⟨_ | inner, s₁⟩ <;>
    rw [heq] at hdecrypt
  · exact .of_state hdecrypt
  · dsimp only
    split
    · exact hdecrypt.unnoticed_sendSet ssl hne _ sei _
    · exact hdecrypt.unnoticed_sendErase ssl hne _ sei

/-- A key request of another node goes unnoticed by this one, also when opening the frame has
already moved that node's channel. -/
theorem Alike.unnoticed_onKeyGet (h : Alike nodeId s s') (session : Session) (bit : UInt8)
    (sei : EntropyInput) :
    Unnoticed nodeId s (s'.onKeyGet ssl keys other session bit sei) := by
  unfold Bootstrap.onKeyGet
  split
  · exact h.unnoticed_sendErase ssl hne _ sei
  · split
    · exact .of_state h
    · exact h.unnoticed_sendSet ssl hne _ sei _

/-- A frame on another node's temporary channel goes unnoticed by this one: a key request, the end
of the transfer or anything else. -/
theorem unnoticed_onTempChannelKeyExchange (s : Bootstrap) (session : Session) (frame : Bytes)
    (sei : EntropyInput) :
    Unnoticed nodeId s (s.onTempChannelKeyExchange ssl keys other session frame sei) := by
  have hdecrypt := alike_decryptInbound_other ssl hne s session frame
  unfold onTempChannelKeyExchange
  -- The frame is opened on the other node's own channel, which leaves this node's alone.
  rcases heq : s.decryptInbound ssl other session frame with ⟨_ | inner, s₁⟩ <;>
    rw [heq] at hdecrypt
  · exact .of_state hdecrypt
  · dsimp only
    split
    · split
      · exact .of_state hdecrypt
      · split
        -- A transfer end of the last key erases the session of the other node and reports its
        -- security.
        · refine ⟨hdecrypt.trans (alike_eraseSession_other hne s₁), fun out hout => ?_⟩
          rcases List.mem_cons.mp hout with rfl | hout
          · exact beq_eq_false_iff_ne.mpr hne.symm
          · obtain rfl := List.mem_singleton.mp hout
            exact beq_eq_false_iff_ne.mpr hne.symm
        · exact .of_state hdecrypt
    · split
      · split
        · exact .of_state hdecrypt
        -- A key that was asked for goes out on the other node's channel.
        · exact hdecrypt.unnoticed_onKeyGet ssl keys hne session _ sei
      · exact .of_state hdecrypt

/-- The verify of another node goes unnoticed by this one: it moves that node's class channel and
session only. -/
theorem unnoticed_onKeyVerify (s : Bootstrap) (session : Session) (frame : Bytes)
    (sei : EntropyInput) : Unnoticed nodeId s (s.onKeyVerify ssl other session frame sei) := by
  unfold onKeyVerify SpanManager.receiveNonce
  rcases (s.classSpanManager.peers other).receiveNonce ssl frame with ⟨_ | nonce, peer⟩
  · exact .of_state (alike_setClassPeer_other hne s peer)
  · have hpeer := alike_setClassPeer_other hne s peer
    dsimp only
    split
    · exact hpeer.unnoticed_sendErase ssl hne _ sei
    · exact hpeer.unnoticed_sendSet ssl hne _ sei _

/-- A NONCE_GET of another node on its temporary channel goes unnoticed by this one. -/
theorem unnoticed_onTempNonceGet (s : Bootstrap) (session : Session) (rei : EntropyInput) :
    Unnoticed nodeId s (s.onTempNonceGet other session rei) :=
  ((alike_setPeer_other hne s _).trans (alike_setSession_other hne _ _)).unnoticed_plaintext hne _

/-- The class channels are all replaced, which goes unnoticed where none is in use. -/
theorem unnoticed_onClassNonceGet (s : Bootstrap) (session : Session) (rei : EntropyInput)
    (hidle : ∀ session, s.sessions nodeId = some session → session.phase ≠ .awaitKeyVerify) :
    Unnoticed nodeId s (s.onClassNonceGet other session rei) := by
  have halike : Alike nodeId s (s.onClassNonceGet other session rei).1 :=
    ⟨Function.update_of_ne hne .., rfl, fun session hs hphase => absurd hphase (hidle session hs),
      rfl, rfl, rfl⟩
  exact halike.unnoticed_plaintext hne _

/-- A command of another node in any phase goes unnoticed by this one, unless it is a NONCE_GET for
a class channel while a verify of this node is awaited (`hidle`): that one replaces the table which
holds both channels. -/
theorem unnoticed_onSessionCommand (s : Bootstrap) (session : Session) (ccData : Bytes)
    (entropy : EntropyInput) (command : UInt8)
    (hidle : session.phase = .awaitClassNonceGet → command = NonceSync.nonceGetCommand →
      ∀ session, s.sessions nodeId = some session → session.phase ≠ .awaitKeyVerify) :
    Unnoticed nodeId s (s.onSessionCommand ssl keys other session ccData entropy command) := by
  unfold onSessionCommand
  -- The phases in the order of the source: each takes the one command that it waits for.
  cases hphase : session.phase with
  | awaitKexReport =>
    dsimp only
    split
    · exact unnoticed_onKexReport hne s session ccData
    · exact .refl nodeId s
  | awaitPublicKey =>
    dsimp only
    split
    · exact unnoticed_onPublicKeyReport ssl hne s session ccData
    · exact .refl nodeId s
  | awaitDsk => exact .refl nodeId s
  | awaitTempChannel =>
    dsimp only
    split
    · exact unnoticed_onTempNonceGet hne s session entropy
    · exact .refl nodeId s
  | awaitKexSetEcho =>
    dsimp only
    split
    · exact unnoticed_onKexSetEcho ssl hne s session ccData entropy
    · exact .refl nodeId s
  | awaitNetworkKeyGet =>
    dsimp only
    split
    · exact unnoticed_onTempChannelKeyExchange ssl keys hne s session ccData entropy
    · exact .refl nodeId s
  | awaitClassNonceGet =>
    dsimp only
    split
    -- The new channel goes to the place that is common to all nodes, which this node does not need
    -- unless its own verify is awaited.
    · next hcommand =>
      exact unnoticed_onClassNonceGet hne s session entropy (hidle hphase hcommand)
    · exact .refl nodeId s
  | awaitKeyVerify =>
    dsimp only
    split
    · exact unnoticed_onKeyVerify ssl hne s session ccData entropy
    · exact .refl nodeId s

end Others

/-- An event of another node goes unnoticed, unless it collides. -/
theorem unnoticed_step (ssl : OpenSsl) (keys : Option NetworkKeys.KeySet) {event : BootstrapEvent}
    (hevent : event.concerns nodeId = false) (hapart : ¬ Collides nodeId ⟨s, event⟩) :
    Unnoticed nodeId s (s.step ssl keys event) := by
  cases event with
  | nodeIncluded other commandClasses keyPair =>
    have hne : nodeId ≠ other := (beq_eq_false_iff_ne.mp hevent).symm
    exact unnoticed_onNodeIncluded hne s commandClasses keyPair
  -- A frame of another node, whose session, if there is one, takes it.
  | applicationCommand other ccData entropy =>
    have hne : nodeId ≠ other := (beq_eq_false_iff_ne.mp hevent).symm
    unfold step onApplicationCommand
    dsimp only
    cases hs : s.sessions other with
    | none => exact .refl nodeId s
    | some session =>
      dsimp only
      cases hcommand : commandByte ccData with
      | none => exact .refl nodeId s
      | some command =>
        refine unnoticed_onSessionCommand ssl keys hne s session ccData entropy command ?_
        rintro hphase rfl own hown hawaits
        -- If this node's verify were awaited, the two would collide.
        exact hapart ⟨⟨own, hown, hawaits⟩, hne.symm, hcommand, session, hs, hphase⟩
  | confirmDsk other pin =>
    have hne : nodeId ≠ other := (beq_eq_false_iff_ne.mp hevent).symm
    exact unnoticed_onConfirmDsk ssl hne s pin
  -- An event that concerns all nodes concerns this one.
  | dongleInfo | s2NetworkKeysReady => cases hevent

/-! ## The events of the node -/

/-- Two results are alike: the states, and the same outputs. -/
structure AlikeResults (nodeId : NodeId) (result result' : Bootstrap × List BootstrapOutput) :
    Prop where
  /-- The states. -/
  state : Alike nodeId result.1 result'.1
  /-- The outputs. -/
  outputs : result'.2 = result.2

section Own

variable (ssl : OpenSsl) (keys : Option NetworkKeys.KeySet) (h : Alike nodeId s s')

include h

/-- The node's own session may be stored in both states, if it does not await a verify. In that
phase the class channels would have to agree too. -/
theorem Alike.setSession (session : Session) (hphase : session.phase ≠ .awaitKeyVerify) :
    Alike nodeId (s.setSession nodeId session) (s'.setSession nodeId session) where
  session := by rw [sessions_setSession, sessions_setSession]
  channel := h.channel
  classChannel found hfound hawaits := by
    rw [sessions_setSession] at hfound
    rw [← Option.some.inj hfound] at hawaits
    exact absurd hawaits hphase
  homeId := h.homeId
  controllerNodeId := h.controllerNodeId
  keysReady := h.keysReady

/-- The node's own session may be dropped in both states. -/
theorem Alike.eraseSession : Alike nodeId (s.eraseSession nodeId) (s'.eraseSession nodeId) where
  session := by rw [sessions_eraseSession, sessions_eraseSession]
  channel := h.channel
  classChannel found hfound := by
    rw [sessions_eraseSession] at hfound
    cases hfound
  homeId := h.homeId
  controllerNodeId := h.controllerNodeId
  keysReady := h.keysReady

/-- The node's own temporary channel may be stored in both states. -/
theorem Alike.setPeer (peer : Peer) :
    Alike nodeId { s with spanManager := s.spanManager.set nodeId peer }
      { s' with spanManager := s'.spanManager.set nodeId peer } where
  session := h.session
  channel := by rw [SpanManager.peers_set, SpanManager.peers_set]
  classChannel := h.classChannel
  homeId := h.homeId
  controllerNodeId := h.controllerNodeId
  keysReady := h.keysReady

/-- The node's own class channel may be stored in both states. -/
theorem Alike.setClassPeer (peer : Peer) :
    Alike nodeId { s with classSpanManager := s.classSpanManager.set nodeId peer }
      { s' with classSpanManager := s'.classSpanManager.set nodeId peer } where
  session := h.session
  channel := h.channel
  classChannel _ _ _ := by rw [SpanManager.peers_set, SpanManager.peers_set]
  homeId := h.homeId
  controllerNodeId := h.controllerNodeId
  keysReady := h.keysReady

/-- An encrypted frame to the node is the same from both states and leaves both alike, as it is made
from the node's channel and the network alone. -/
theorem Alike.sendEncrypted (inner : Bytes) (sei : EntropyInput) :
    AlikeResults nodeId (s.sendEncrypted ssl nodeId inner sei)
      (s'.sendEncrypted ssl nodeId inner sei) := by
  unfold Bootstrap.sendEncrypted SpanManager.encrypt
  rw [h.channel]
  rcases (s.spanManager.peers nodeId).encrypt ssl inner sei with ⟨_ | frame, peer⟩
  · exact ⟨h.setPeer peer, rfl⟩
  · exact ⟨h.setPeer peer, rfl⟩

/-- The associated data of a frame from the node is the same in both states. -/
theorem Alike.inboundContext (frame : Bytes) :
    s'.inboundContext nodeId frame = s.inboundContext nodeId frame := by
  rw [Bootstrap.inboundContext, Bootstrap.inboundContext, h.homeId, h.controllerNodeId]

/-- A frame of the node opens to the same inner command in both states, or fails in both, and leaves
them alike. -/
theorem Alike.decryptInbound (session : Session) (frame : Bytes) :
    ∃ inner s₁ s₁', s.decryptInbound ssl nodeId session frame = (inner, s₁) ∧
      s'.decryptInbound ssl nodeId session frame = (inner, s₁') ∧ Alike nodeId s₁ s₁' := by
  unfold Bootstrap.decryptInbound SpanManager.receiveNonce
  rw [h.channel, h.inboundContext]
  rcases (s.spanManager.peers nodeId).receiveNonce ssl frame with ⟨_ | nonce, peer⟩
  · exact ⟨_, _, _, rfl, rfl, h.setPeer peer⟩
  · exact ⟨_, _, _, rfl, rfl, h.setPeer peer⟩

/-- The end of the key agreement has the same results in both states. -/
theorem Alike.finishKeyAgreement (session : Session) :
    AlikeResults nodeId (s.finishKeyAgreement ssl nodeId session)
      (s'.finishKeyAgreement ssl nodeId session) := by
  unfold Bootstrap.finishKeyAgreement SpanManager.configurePeer
  cases ssl.x25519 session.keyPair.privateKey session.nodePublicKey with
  | none => exact ⟨h.eraseSession, rfl⟩
  | some shared =>
    have hset (tempKeys : KeyDerivation.TempKeys) :=
      h.setSession { session with tempKeys, phase := .awaitTempChannel }
        (show Phase.awaitTempChannel ≠ .awaitKeyVerify by decide)
    refine ⟨⟨(hset _).session, ?_, (hset _).classChannel, h.homeId, h.controllerNodeId,
      h.keysReady⟩, rfl⟩
    dsimp only [Bootstrap.setSession]
    rw [SpanManager.peers_set, SpanManager.peers_set, h.channel, h.homeId, h.controllerNodeId]

/-- The node's inclusion has the same results in both states. -/
theorem Alike.onNodeIncluded (commandClasses : Bytes) (keyPair : KeyPair) :
    AlikeResults nodeId (s.onNodeIncluded nodeId commandClasses keyPair)
      (s'.onNodeIncluded nodeId commandClasses keyPair) := by
  unfold Bootstrap.onNodeIncluded
  rw [h.keysReady]
  split
  · exact ⟨h, rfl⟩
  · split
    · exact ⟨h, rfl⟩
    · exact ⟨h.setSession { keyPair } (show Phase.awaitKexReport ≠ .awaitKeyVerify by decide), rfl⟩

/-- A KEX_REPORT of the node has the same results in both states. -/
theorem Alike.onKexReport (session : Session) (ccData : Bytes) :
    AlikeResults nodeId (s.onKexReport nodeId session ccData)
      (s'.onKexReport nodeId session ccData) := by
  unfold Bootstrap.onKexReport
  cases Kex.decodeReport ccData with
  | none => exact ⟨h, rfl⟩
  | some report =>
    dsimp only
    split
    · exact ⟨h.eraseSession, rfl⟩
    · exact ⟨h.setSession _ (show Phase.awaitPublicKey ≠ .awaitKeyVerify by decide), rfl⟩

/-- A public key report of the node has the same results in both states. -/
theorem Alike.onPublicKeyReport (session : Session) (ccData : Bytes) :
    AlikeResults nodeId (s.onPublicKeyReport ssl nodeId session ccData)
      (s'.onPublicKeyReport ssl nodeId session ccData) := by
  unfold Bootstrap.onPublicKeyReport
  cases PublicKey.decode ccData with
  | none => exact ⟨h, rfl⟩
  | some report =>
    dsimp only
    split
    · exact ⟨h.setSession _ (show Phase.awaitDsk ≠ .awaitKeyVerify by decide), rfl⟩
    · have hfinish := h.finishKeyAgreement ssl { session with nodePublicKey := report.key }
      exact ⟨hfinish.state, congrArg (List.cons _) hfinish.outputs⟩

/-- A PIN confirmed for the node has the same results in both states. -/
theorem Alike.onConfirmDsk (pin : Bytes) :
    AlikeResults nodeId (s.onConfirmDsk ssl nodeId pin) (s'.onConfirmDsk ssl nodeId pin) := by
  unfold Bootstrap.onConfirmDsk
  rw [h.session]
  cases s.sessions nodeId with
  | none => exact ⟨h, rfl⟩
  | some session =>
    dsimp only
    split
    · exact ⟨h, rfl⟩
    · cases PublicKey.parsePin pin with
      | none => exact ⟨h, rfl⟩
      | some pin =>
        have hfinish := h.finishKeyAgreement ssl
          { session with nodePublicKey := PublicKey.applyPin session.nodePublicKey pin }
        exact ⟨hfinish.state, congrArg (List.cons _) hfinish.outputs⟩

/-- The node's echoed KEX_SET has the same results in both states. -/
theorem Alike.onKexSetEcho (session : Session) (frame : Bytes) (sei : EntropyInput) :
    AlikeResults nodeId (s.onKexSetEcho ssl nodeId session frame sei)
      (s'.onKexSetEcho ssl nodeId session frame sei) := by
  obtain ⟨inner, s₁, s₁', hs, hs', hstate⟩ := h.decryptInbound ssl session frame
  unfold Bootstrap.onKexSetEcho
  rw [hs, hs']
  cases inner with
  | none => exact ⟨hstate, rfl⟩
  | some inner =>
    dsimp only
    split
    · have hsend := hstate.sendEncrypted ssl
        (Kex.encodeReport { session.receivedKexReport with echo := true }) sei
      exact ⟨hsend.state.setSession _ (show Phase.awaitNetworkKeyGet ≠ .awaitKeyVerify by decide),
        hsend.outputs⟩
    · have hsend := hstate.sendEncrypted ssl (Kex.encodeFail Kex.failAuth) sei
      exact ⟨hsend.state.eraseSession, hsend.outputs⟩

/-- A key request of the node has the same results in both states. -/
theorem Alike.onKeyGet (session : Session) (bit : UInt8) (sei : EntropyInput) :
    AlikeResults nodeId (s.onKeyGet ssl keys nodeId session bit sei)
      (s'.onKeyGet ssl keys nodeId session bit sei) := by
  unfold Bootstrap.onKeyGet
  split
  · have hsend := h.sendEncrypted ssl (Kex.encodeFail Kex.failKeyGet) sei
    exact ⟨hsend.state.eraseSession, hsend.outputs⟩
  · cases classKeyForBit keys bit with
    | none => exact ⟨h, rfl⟩
    | some classKey =>
      have hsend := h.sendEncrypted ssl (KeyInstall.encodeKeyReport bit classKey) sei
      exact ⟨hsend.state.setSession _ (show Phase.awaitClassNonceGet ≠ .awaitKeyVerify by decide),
        hsend.outputs⟩

/-- A frame on the node's temporary channel has the same results in both states, whatever it opens
to. -/
theorem Alike.onTempChannelKeyExchange (session : Session) (frame : Bytes) (sei : EntropyInput) :
    AlikeResults nodeId (s.onTempChannelKeyExchange ssl keys nodeId session frame sei)
      (s'.onTempChannelKeyExchange ssl keys nodeId session frame sei) := by
  -- The session and the channel are those of this node, so the frame opens to the same in both
  -- states.
  obtain ⟨inner, s₁, s₁', hs, hs', hstate⟩ := h.decryptInbound ssl session frame
  unfold Bootstrap.onTempChannelKeyExchange
  rw [hs, hs']
  cases inner with
  | none => exact ⟨hstate, rfl⟩
  | some inner =>
    dsimp only
    split
    -- A transfer end ends the session in both.
    · cases KeyInstall.decodeTransferEnd inner with
      | none => exact ⟨hstate, rfl⟩
      | some transferEnd =>
        dsimp only
        split
        · exact ⟨hstate.eraseSession, rfl⟩
        · exact ⟨hstate, rfl⟩
    · split
      -- A key is asked for in both.
      · cases KeyInstall.decodeKeyGet inner with
        | none => exact ⟨hstate, rfl⟩
        | some bit => exact hstate.onKeyGet ssl keys session bit sei
      · exact ⟨hstate, rfl⟩

/-- A NONCE_GET on the node's temporary channel has the same results in both states. -/
theorem Alike.onTempNonceGet (session : Session) (rei : EntropyInput) :
    AlikeResults nodeId (s.onTempNonceGet nodeId session rei)
      (s'.onTempNonceGet nodeId session rei) := by
  unfold Bootstrap.onTempNonceGet SpanManager.respondToNonceGet
  rw [h.channel]
  exact ⟨(h.setPeer _).setSession _ (show Phase.awaitKexSetEcho ≠ .awaitKeyVerify by decide), rfl⟩

/-- The node's NONCE_GET for a class channel has the same results in both states: the table is
replaced by a fresh one, so that the class channels agree from then on. -/
theorem Alike.onClassNonceGet (session : Session) (rei : EntropyInput) :
    AlikeResults nodeId (s.onClassNonceGet nodeId session rei)
      (s'.onClassNonceGet nodeId session rei) := by
  unfold Bootstrap.onClassNonceGet
  rw [h.homeId, h.controllerNodeId]
  refine ⟨⟨?_, h.channel, fun _ _ _ => rfl, rfl, rfl, h.keysReady⟩, rfl⟩
  dsimp only
  rw [sessions_setSession, sessions_setSession]

/-- The node's verify has the same results in both states. This is the one handler that reads the
class channel, which agrees because the verify is awaited. -/
theorem Alike.onKeyVerify (hs : s.sessions nodeId = some session)
    (hphase : session.phase = .awaitKeyVerify) (frame : Bytes) (sei : EntropyInput) :
    AlikeResults nodeId (s.onKeyVerify ssl nodeId session frame sei)
      (s'.onKeyVerify ssl nodeId session frame sei) := by
  unfold Bootstrap.onKeyVerify SpanManager.receiveNonce
  rw [h.classChannel session hs hphase, h.inboundContext]
  rcases (s.classSpanManager.peers nodeId).receiveNonce ssl frame with ⟨_ | nonce, peer⟩
  · exact ⟨h.setClassPeer peer, rfl⟩
  · have hclass := h.setClassPeer peer
    dsimp only
    cases Encapsulation.decrypt ssl frame (s.inboundContext nodeId frame)
        session.installingClassKeys.keyCcm nonce with
    | none =>
      have hsend := hclass.sendEncrypted ssl (Kex.encodeFail Kex.failKeyVerify) sei
      exact ⟨hsend.state.eraseSession, hsend.outputs⟩
    | some inner =>
      have hsend := hclass.sendEncrypted ssl (KeyInstall.encodeTransferEnd true false) sei
      exact ⟨hsend.state.setSession _ (show Phase.awaitNetworkKeyGet ≠ .awaitKeyVerify by decide),
        hsend.outputs⟩

/-- A command of the node has the same results in both states, by the phase of its session. -/
theorem Alike.onSessionCommand (hs : s.sessions nodeId = some session) (ccData : Bytes)
    (entropy : EntropyInput) (command : UInt8) :
    AlikeResults nodeId (s.onSessionCommand ssl keys nodeId session ccData entropy command)
      (s'.onSessionCommand ssl keys nodeId session ccData entropy command) := by
  unfold Bootstrap.onSessionCommand
  -- The session is the same in both states, so it takes the same command.
  cases hphase : session.phase with
  | awaitKexReport =>
    dsimp only
    split
    · exact h.onKexReport session ccData
    · exact ⟨h, rfl⟩
  | awaitPublicKey =>
    dsimp only
    split
    · exact h.onPublicKeyReport ssl session ccData
    · exact ⟨h, rfl⟩
  | awaitDsk => exact ⟨h, rfl⟩
  | awaitTempChannel =>
    dsimp only
    split
    · exact h.onTempNonceGet session entropy
    · exact ⟨h, rfl⟩
  | awaitKexSetEcho =>
    dsimp only
    split
    · exact h.onKexSetEcho ssl session ccData entropy
    · exact ⟨h, rfl⟩
  | awaitNetworkKeyGet =>
    dsimp only
    split
    · exact h.onTempChannelKeyExchange ssl keys session ccData entropy
    · exact ⟨h, rfl⟩
  | awaitClassNonceGet =>
    dsimp only
    split
    · exact h.onClassNonceGet session entropy
    · exact ⟨h, rfl⟩
  | awaitKeyVerify =>
    dsimp only
    split
    · exact h.onKeyVerify ssl hs hphase ccData entropy
    · exact ⟨h, rfl⟩

/-- An application command of the node has the same results in both states: both hold the same
session for it, or none. -/
theorem Alike.onApplicationCommand (ccData : Bytes) (entropy : EntropyInput) :
    AlikeResults nodeId (s.onApplicationCommand ssl keys nodeId ccData entropy)
      (s'.onApplicationCommand ssl keys nodeId ccData entropy) := by
  unfold Bootstrap.onApplicationCommand
  rw [h.session]
  cases hs : s.sessions nodeId with
  | none => exact ⟨h, rfl⟩
  | some session =>
    dsimp only
    cases commandByte ccData with
    | none => exact ⟨h, rfl⟩
    | some command => exact h.onSessionCommand ssl keys hs ccData entropy command

/-- An event of the node, or of none, has the same effect in two states that are alike. -/
theorem Alike.step {event : BootstrapEvent} (hevent : event.concerns nodeId = true) :
    AlikeResults nodeId (s.step ssl keys event) (s'.step ssl keys event) := by
  cases event with
  | nodeIncluded target commandClasses keyPair =>
    obtain rfl : target = nodeId := beq_iff_eq.mp hevent
    exact h.onNodeIncluded commandClasses keyPair
  | applicationCommand target ccData entropy =>
    obtain rfl : target = nodeId := beq_iff_eq.mp hevent
    exact h.onApplicationCommand ssl keys ccData entropy
  | confirmDsk target pin =>
    obtain rfl : target = nodeId := beq_iff_eq.mp hevent
    exact h.onConfirmDsk ssl pin
  | dongleInfo homeId controllerNodeId =>
    refine ⟨⟨h.session, h.channel, h.classChannel, ?_, rfl, h.keysReady⟩, rfl⟩
    dsimp only [Bootstrap.step]
    rw [h.homeId]
  | s2NetworkKeysReady ready =>
    exact ⟨⟨h.session, h.channel, h.classChannel, h.homeId, h.controllerNodeId, rfl⟩, rfl⟩

end Own

/-- In a run in which no other node collides with a node, the node's handshake goes as it goes when
only its own events are delivered. -/
theorem run_alone (ssl : OpenSsl) (keys : Option NetworkKeys.KeySet) (nodeId : NodeId)
    (events : List BootstrapEvent)
    (hapart : ∀ taken ∈ trace (step ssl keys) {} events, ¬ Collides nodeId taken) :
    RunsAlone ssl keys nodeId events := by
  -- An event of another node can be left out: it changes nothing of this node and says nothing
  -- about it.
  have hdrop : ∀ taken ∈ trace (step ssl keys) {} events,
      BootstrapEvent.concerns nodeId taken.input = false →
      ∀ s', Alike nodeId taken.before s' →
        Alike nodeId (step ssl keys taken.before taken.input).1 s' ∧
          (step ssl keys taken.before taken.input).2.filter (BootstrapOutput.isFor nodeId) = [] := by
    intro taken htaken hevent s' halike
    have hstep := unnoticed_step ssl keys hevent (hapart taken htaken)
    refine ⟨hstep.state.symm.trans halike, List.filter_eq_nil_iff.mpr fun out hout => ?_⟩
    rw [hstep.outputs out hout]
    exact Bool.false_ne_true
  -- An event of this node does to both states what it does to one.
  have hkeep : ∀ s s' event, BootstrapEvent.concerns nodeId event = true → Alike nodeId s s' →
      Alike nodeId (step ssl keys s event).1 (step ssl keys s' event).1 ∧
        (step ssl keys s event).2.filter (BootstrapOutput.isFor nodeId) =
          (step ssl keys s' event).2.filter (BootstrapOutput.isFor nodeId) := by
    intro s s' event hevent halike
    have hstep := halike.step ssl keys hevent
    exact ⟨hstep.state, congrArg _ hstep.outputs.symm⟩
  obtain ⟨hstate, hseen⟩ := purge events (.refl nodeId {}) hdrop hkeep
  exact ⟨hstate.session.symm, hseen⟩

/-! ## Two nodes at once

Node 8 goes through the same handshake as node 7, with the same draws. -/

/-- Node 8's end of the temporary channel, with the REI that the controller has sent. -/
def otherPeer : Peer := { samplePeer with config := { samplePeer.config with ourNodeId := 8 } }

/-- Node 8's echo of the KEX_SET, and its end of the channel after it. -/
def otherEcho : Option Bytes × Peer :=
  otherPeer.encrypt OpenSsl.standIn (Kex.encodeSet (kexSetFor Kex.keyS2Unauthenticated))
    sampleEntropy

/-- Node 8 asks for its key, after its echo and one more frame. -/
def otherKeyGet : Bytes :=
  let span := otherEcho.2.span.map (Span.advance OpenSsl.standIn)
  ({ otherEcho.2 with span }.encrypt OpenSsl.standIn
    (KeyInstall.encodeKeyGet Kex.keyS2Unauthenticated) sampleEntropy).1.getD []

/-- The handshake of node 8, up to the NONCE_GET for its key's channel. -/
def otherHandshake : List BootstrapEvent :=
  [.nodeIncluded 8 [securityTwo] sampleKeyPair,
    .applicationCommand 8 (Kex.encodeReport sampleReport) sampleEntropy,
    .applicationCommand 8 (PublicKey.encode false sampleNodeKey PublicKey.obfuscateNone)
      sampleEntropy,
    .applicationCommand 8 (NonceSync.encodeNonceGet 0) sampleEntropy,
    .applicationCommand 8 (otherEcho.1.getD []) sampleEntropy,
    .applicationCommand 8 otherKeyGet sampleEntropy,
    .applicationCommand 8 (NonceSync.encodeNonceGet 0) sampleEntropy]

/-- The handshake of node 8 comes between node 7's NONCE_GET for its key's channel and its verify.
-/
def collidingRun : List BootstrapEvent :=
  sampleHandshake ++ sampleInstall.take 2 ++ otherHandshake ++ sampleInstall.drop 2

/-- Alone, node 7 has its key verified; with node 8 in between, its verify cannot be read. -/
theorem not_runsAlone_colliding :
    ¬ RunsAlone OpenSsl.standIn (some sampleKeys) 7 collidingRun := by
  rintro ⟨hsession, -⟩
  have hphases : ((exec (step OpenSsl.standIn (some sampleKeys)) {} collidingRun).sessions 7).map
        Session.phase ≠
      ((exec (step OpenSsl.standIn (some sampleKeys)) {}
        (collidingRun.filter (·.concerns 7))).sessions 7).map Session.phase := by
    decide +kernel
  exact hphases (congrArg _ hsession)

/-- Up to the echoes the two handshakes go side by side. -/
theorem runsAlone_apart :
    RunsAlone OpenSsl.standIn (some sampleKeys) 7
      (sampleHandshake.take 5 ++ otherHandshake.take 4 ++ sampleHandshake.drop 5) :=
  run_alone _ _ 7 _ (by decide +kernel)

end Bootstrap

end Zwaved.S2
