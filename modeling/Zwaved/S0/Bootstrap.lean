import Zwaved.S0.Encapsulation

/-!
# The S0 bootstrap

`SecurityBootstrapOrchestrator.cpp`: the handshake that gives a freshly included node the network
key. The controller asks for the node's schemes and then for a nonce, sends the key under an
all-zero temporary key, and waits for the node to say NETWORK_KEY_VERIFY, which it takes as the
proof that the node has the key.

A handler returns the state after it and what it has left to do, in order: whatever it publishes is
delivered before it goes on, so the session that NETWORK_KEY_VERIFY ends is still there while
NodeSecurityStatus is delivered.
-/

namespace Zwaved.S0

/-- `Phase`. -/
inductive Phase
  /-- SCHEME_GET is out. -/
  | awaitSchemeReport
  /-- NONCE_GET is out. -/
  | awaitNonceReport
  /-- NETWORK_KEY_SET is out. -/
  | awaitVerify
  deriving DecidableEq, Repr

/-- The orchestrator's `State`. -/
structure Bootstrap where
  /-- `sessions`. -/
  sessions : NodeMap Phase := fun _ => none
  /-- `controllerNodeId`. -/
  controllerNodeId : NodeId := 0

/-- What a handler has left to do. -/
inductive BootstrapOutput
  /-- SendDataCommand. -/
  | sendPlaintext (nodeId : NodeId) (payload : Bytes)
  /-- `NodeRegistry::setSecurityScheme` with `S0`. -/
  | setSecurityScheme (nodeId : NodeId)
  /-- NodeSecurityStatus with `S0`. -/
  | nodeSecurityStatus (nodeId : NodeId)
  /-- `sessions.erase`. -/
  | eraseSession (nodeId : NodeId)
  deriving DecidableEq

namespace Bootstrap

/-- The node's phase replaced. -/
def setPhase (s : Bootstrap) (nodeId : NodeId) (phase : Phase) : Bootstrap :=
  { s with sessions := Function.update s.sessions nodeId (some phase) }

/-- `sessions.erase(nodeId)`. -/
def eraseSession (s : Bootstrap) (nodeId : NodeId) : Bootstrap :=
  { s with sessions := Function.update s.sessions nodeId none }

/-- `onNodeIncluded`, where `networkKey` is `NetworkKey::current()`. -/
def onNodeIncluded (networkKey : Option Key) (s : Bootstrap) (nodeId : NodeId)
    (commandClasses : Bytes) : Bootstrap × List BootstrapOutput :=
  if Security.commandClass ∉ commandClasses then (s, [])
  else if networkKey = none then (s, [])
  else (s.setPhase nodeId .awaitSchemeReport,
    [.sendPlaintext nodeId [Security.commandClass, Security.schemeGet, 0x00]])

variable (ssl : OpenSsl) (networkKey : Option Key)

/-- `sendNetworkKeySet`, with the nonce that it draws. -/
def sendNetworkKeySet (s : Bootstrap) (nodeId : NodeId) (nodeNonce randomNonce : Nonce) :
    Bootstrap × List BootstrapOutput :=
  match networkKey with
  | none => (s.eraseSession nodeId, [])
  | some realKey =>
    let inner := [Security.commandClass, Security.networkKeySet] ++ realKey.toList
    let tempKey : Key := Vector.replicate 16 0
    (s, [.sendPlaintext nodeId
      (Encapsulation.encrypt ssl inner s.controllerNodeId nodeId randomNonce nodeNonce tempKey)])

/-- The bootstrap waits for the node's VERIFY, and the frame is one. -/
def Verifies (s : Bootstrap) (nodeId : NodeId) (ccData : Bytes) : Prop :=
  s.sessions nodeId = some .awaitVerify ∧
    Security.commandByte ccData = some Security.networkKeyVerify

instance (s : Bootstrap) (nodeId : NodeId) (ccData : Bytes) : Decidable (s.Verifies nodeId ccData) :=
  inferInstanceAs (Decidable (_ ∧ _))

/-- `onApplicationCommand`. -/
def onApplicationCommand (s : Bootstrap) (nodeId : NodeId) (ccData : Bytes) (randomNonce : Nonce) :
    Bootstrap × List BootstrapOutput :=
  match s.sessions nodeId, Security.commandByte ccData with
  | some .awaitSchemeReport, some command =>
    if command = Security.schemeReport then
      (s.setPhase nodeId .awaitNonceReport, [.sendPlaintext nodeId Security.encodeNonceGet])
    else (s, [])
  | some .awaitNonceReport, some command =>
    if command = Security.nonceReport then
      match Security.decodeNonceReport ccData with
      | none => (s, [])
      | some nodeNonce =>
        (s.setPhase nodeId .awaitVerify).sendNetworkKeySet ssl networkKey nodeId nodeNonce randomNonce
    else (s, [])
  | some .awaitVerify, some command =>
    if command = Security.networkKeyVerify then
      (s, [.setSecurityScheme nodeId, .nodeSecurityStatus nodeId, .eraseSession nodeId])
    else (s, [])
  | _, _ => (s, [])

/-- The scheme is recorded exactly when the awaited VERIFY is there. -/
theorem onApplicationCommand_of_verifies {s : Bootstrap} {nodeId : NodeId} {ccData : Bytes}
    (h : s.Verifies nodeId ccData) (randomNonce : Nonce) :
    s.onApplicationCommand ssl networkKey nodeId ccData randomNonce =
      (s, [.setSecurityScheme nodeId, .nodeSecurityStatus nodeId, .eraseSession nodeId]) := by
  unfold onApplicationCommand
  rw [h.1, h.2]
  rfl

/-- A frame that is no awaited VERIFY is answered with plaintext frames of the S0 class to its node
at most. -/
theorem onApplicationCommand_of_not_verifies {s : Bootstrap} {nodeId : NodeId} {ccData : Bytes}
    (h : ¬ s.Verifies nodeId ccData) (randomNonce : Nonce) :
    ∀ out ∈ (s.onApplicationCommand ssl networkKey nodeId ccData randomNonce).2,
      ∃ payload, out = .sendPlaintext nodeId payload ∧ payload.byte 0 = Security.commandClass := by
  intro out hout
  unfold onApplicationCommand at hout
  -- Each phase takes its one command and answers it with a frame at most.
  cases hphase : s.sessions nodeId with
  | none => rw [hphase] at hout; cases hout
  | some phase =>
    cases hcommand : Security.commandByte ccData with
    | none => rw [hphase, hcommand] at hout; cases phase <;> cases hout
    | some command =>
      rw [hphase, hcommand] at hout
      cases phase with
      | awaitSchemeReport =>
        dsimp only at hout
        split at hout
        · exact ⟨_, List.mem_singleton.mp hout, rfl⟩
        · cases hout
      | awaitNonceReport =>
        dsimp only at hout
        split at hout
        · cases hnonce : Security.decodeNonceReport ccData with
          | none => rw [hnonce] at hout; cases hout
          | some nodeNonce =>
            rw [hnonce] at hout
            unfold sendNetworkKeySet at hout
            -- Without a network key nothing is sent.
            cases networkKey with
            | none => cases hout
            | some realKey => exact ⟨_, List.mem_singleton.mp hout, rfl⟩
        · cases hout
      | awaitVerify =>
        dsimp only at hout
        split at hout
        -- The verify is the one that is ruled out.
        · next hverify => exact absurd ⟨hphase, by rw [hcommand, hverify]⟩ h
        · cases hout

end Bootstrap

end Zwaved.S0
