import Zwaved.NodeRegistry
import Zwaved.Reactive.Run
import Zwaved.S2.Kex
import Zwaved.S2.SpanManager

/-!
# The S2 bootstrap

`SecurityS2BootstrapOrchestrator.cpp`: the handshake that gives a freshly included node the network
keys of the classes it is granted. Each node under inclusion has a session, which moves through
eight phases: the classes are negotiated and the public keys swapped in plaintext, the operator
confirms the DSK where a class asks for it, both ends derive the temporary keys, and over the
channel under these the grant is echoed, and for each class the key is transferred and its install
verified over a channel under the new key.

The handlers are those of the source, with the state passed explicitly. What they draw at random
comes with the event: the controller's key pair with NodeIncluded, and with an ApplicationCommand
the one entropy input that its handler may use. `keys` is `NetworkKeys::current()`, which is set
once before the handlers run.
-/

namespace Zwaved.S2

/-- `CONTROLLER_SUPPORTED_KEYS`. -/
def controllerSupportedKeys : UInt8 :=
  Kex.keyS2Unauthenticated ||| Kex.keyS2Authenticated ||| Kex.keyS2AccessControl

/-- `DSK_REQUIRED_KEYS`. -/
def dskRequiredKeys : UInt8 := Kex.keyS2Authenticated ||| Kex.keyS2AccessControl

/-- `Phase`. -/
inductive Phase
  /-- KEX_GET is out. -/
  | awaitKexReport
  /-- KEX_SET is out. -/
  | awaitPublicKey
  /-- The grant needs a DSK PIN: parked until the operator confirms. -/
  | awaitDsk
  /-- The temporary keys are derived: awaiting the node's NONCE_GET. -/
  | awaitTempChannel
  /-- Awaiting the encrypted KEX_SET echo. -/
  | awaitKexSetEcho
  /-- The echoes are verified: awaiting NETWORK_KEY_GET or the final TRANSFER_END. -/
  | awaitNetworkKeyGet
  /-- A key is transferred: awaiting the node's NONCE_GET for its SPAN. -/
  | awaitClassNonceGet
  /-- Awaiting NETWORK_KEY_VERIFY under the new key. -/
  | awaitKeyVerify
  deriving DecidableEq, Repr

/-- `Session`. -/
structure Session where
  /-- `phase`. -/
  phase : Phase := .awaitKexReport
  /-- `keyPair`. -/
  keyPair : KeyPair
  /-- `grantedKeys`. -/
  grantedKeys : UInt8 := 0
  /-- `nodePublicKey`: the joining node's key, obfuscated until the PIN is applied. -/
  nodePublicKey : PublicKey := Vector.replicate 32 0
  /-- `tempKeys`. -/
  tempKeys : KeyDerivation.TempKeys :=
    { keyCcm := Vector.replicate 16 0, personalization := Vector.replicate 32 0 }
  /-- `sentKexSet`. -/
  sentKexSet : Kex.Set := {}
  /-- `receivedKexReport`. -/
  receivedKexReport : Kex.Report := {}
  /-- `installingKeyBit`. -/
  installingKeyBit : UInt8 := 0
  /-- `installingClassKeys`. -/
  installingClassKeys : KeyDerivation.NetworkKeys :=
    { keyCcm := Vector.replicate 16 0
      personalization := Vector.replicate 32 0
      keyMpan := Vector.replicate 16 0 }
  deriving DecidableEq

/-- The orchestrator's `State`. -/
structure Bootstrap where
  /-- `sessions`. -/
  sessions : NodeMap Session := fun _ => none
  /-- `spanManager`: the temporary channels. -/
  spanManager : SpanManager := {}
  /-- `classSpanManager`: the channel under the key that is being verified. -/
  classSpanManager : SpanManager := {}
  /-- `homeId`. -/
  homeId : HomeId := Vector.replicate 4 0
  /-- `controllerNodeId`. -/
  controllerNodeId : NodeId := 0
  /-- `keysReady`. -/
  keysReady : Bool := false

/-- What is delivered to the orchestrator. -/
inductive BootstrapEvent
  /-- NodeIncluded, with the key pair that the controller generates. -/
  | nodeIncluded (nodeId : NodeId) (commandClasses : Bytes) (keyPair : KeyPair)
  /-- ApplicationCommand. -/
  | applicationCommand (sourceNodeId : NodeId) (ccData : Bytes) (entropy : EntropyInput)
  /-- ConfirmDsk. -/
  | confirmDsk (nodeId : NodeId) (pin : Bytes)
  /-- DongleInfo. -/
  | dongleInfo (homeId : Bytes) (controllerNodeId : NodeId)
  /-- S2NetworkKeysReady. -/
  | s2NetworkKeysReady (ready : Bool)

/-- What the orchestrator does. `sendEncrypted` is a SendDataCommand like `sendPlaintext`; the model
keeps the inner command beside the frame. -/
inductive BootstrapOutput
  /-- SendDataCommand of a payload in the clear. -/
  | sendPlaintext (nodeId : NodeId) (payload : Bytes)
  /-- SendDataCommand of a frame that encapsulates `inner`. -/
  | sendEncrypted (nodeId : NodeId) (inner frame : Bytes)
  /-- DSKPendingConfirmation. -/
  | dskPendingConfirmation (nodeId : NodeId) (dsk : String)
  /-- S2KeyAgreementComplete. -/
  | s2KeyAgreementComplete (nodeId : NodeId)
  /-- `NodeRegistry::setSecurityScheme`. -/
  | setSecurityScheme (nodeId : NodeId) (scheme : SecurityScheme)
  /-- NodeSecurityStatus. -/
  | nodeSecurityStatus (nodeId : NodeId) (scheme : SecurityScheme)
  deriving DecidableEq

/-- `schemeFor`: the highest secure class of a grant. -/
def schemeFor (grantedKeys : UInt8) : SecurityScheme :=
  if grantedKeys &&& Kex.keyS2AccessControl ≠ 0 then .s2AccessControl
  else if grantedKeys &&& Kex.keyS2Authenticated ≠ 0 then .s2Authenticated
  else .s2Unauthenticated

/-- The scheme of a grant is an S2 one, whatever the bits. -/
theorem schemeFor_isS2 (grantedKeys : UInt8) : (schemeFor grantedKeys).IsS2 := by
  unfold schemeFor
  split
  · trivial
  split
  · trivial
  · trivial

/-- `classKeyForBit`. -/
def classKeyForBit (keys : Option NetworkKeys.KeySet) (keyBit : UInt8) : Option Key :=
  match KeyInstall.classForKeyBit keyBit, keys with
  | some cls, some keys => some (keys cls)
  | _, _ => none

namespace Bootstrap

/-- The node's session replaced. -/
def setSession (s : Bootstrap) (nodeId : NodeId) (session : Session) : Bootstrap :=
  { s with sessions := Function.update s.sessions nodeId (some session) }

/-- `sessions.erase(nodeId)`. -/
def eraseSession (s : Bootstrap) (nodeId : NodeId) : Bootstrap :=
  { s with sessions := Function.update s.sessions nodeId none }

/-- `onNodeIncluded`. -/
def onNodeIncluded (s : Bootstrap) (nodeId : NodeId) (commandClasses : Bytes) (keyPair : KeyPair) :
    Bootstrap × List BootstrapOutput :=
  if securityTwo ∉ commandClasses then (s, [])
  -- The bootstrap is skipped, and a session of an earlier inclusion stays.
  else if s.keysReady = false then (s, [])
  else (s.setSession nodeId { keyPair }, [.sendPlaintext nodeId Kex.encodeGet])

/-- The KEX_SET for a grant. -/
def kexSetFor (granted : UInt8) : Kex.Set where
  selectedScheme := Kex.kexScheme1
  selectedCurve := Kex.ecdhCurve25519
  grantedKeys := granted

/-- `onKexReport`. -/
def onKexReport (s : Bootstrap) (nodeId : NodeId) (session : Session) (ccData : Bytes) :
    Bootstrap × List BootstrapOutput :=
  match Kex.decodeReport ccData with
  | none => (s, [])
  | some report =>
    let granted := Kex.grantKeys report controllerSupportedKeys
    if granted = 0 then
      (s.eraseSession nodeId, [.sendPlaintext nodeId (Kex.encodeFail Kex.failKey)])
    else
      (s.setSession nodeId { session with
          grantedKeys := granted
          -- Kept as it came, to be echoed over the temporary channel.
          receivedKexReport := report
          sentKexSet := kexSetFor granted
          phase := .awaitPublicKey },
        [.sendPlaintext nodeId (Kex.encodeSet (kexSetFor granted))])

variable (ssl : OpenSsl)

/-- `finishKeyAgreement`: ECDH with the node's key, and the temporary keys. -/
def finishKeyAgreement (s : Bootstrap) (nodeId : NodeId) (session : Session) :
    Bootstrap × List BootstrapOutput :=
  match ssl.x25519 session.keyPair.privateKey session.nodePublicKey with
  | none => (s.eraseSession nodeId, [.sendPlaintext nodeId (Kex.encodeFail Kex.failDecrypt)])
  | some shared =>
    let tempKeys :=
      KeyDerivation.deriveTempKeys ssl shared session.keyPair.publicKey session.nodePublicKey
    let s := s.setSession nodeId { session with tempKeys, phase := .awaitTempChannel }
    ({ s with
        spanManager := s.spanManager.configurePeer nodeId
          { classKey := tempKeys.keyCcm
            personalization := tempKeys.personalization
            homeId := s.homeId
            ourNodeId := s.controllerNodeId
            peerNodeId := nodeId } },
      [.s2KeyAgreementComplete nodeId])

/-- `onPublicKeyReport`. -/
def onPublicKeyReport (s : Bootstrap) (nodeId : NodeId) (session : Session) (ccData : Bytes) :
    Bootstrap × List BootstrapOutput :=
  match PublicKey.decode ccData with
  | none => (s, [])
  | some report =>
    let session := { session with nodePublicKey := report.key }
    let answer := PublicKey.encode true session.keyPair.publicKey PublicKey.obfuscateNone
    -- The leading bytes of the node's key are the PIN, which only the operator can restore.
    if session.grantedKeys &&& dskRequiredKeys ≠ 0 then
      (s.setSession nodeId { session with phase := .awaitDsk },
        [.sendPlaintext nodeId answer,
          .dskPendingConfirmation nodeId (PublicKey.dskString report.key)])
    else
      let (s, outputs) := s.finishKeyAgreement ssl nodeId session
      (s, .sendPlaintext nodeId answer :: outputs)

/-- `onConfirmDsk`. -/
def onConfirmDsk (s : Bootstrap) (nodeId : NodeId) (pin : Bytes) :
    Bootstrap × List BootstrapOutput :=
  match s.sessions nodeId with
  | none => (s, [])
  | some session =>
    if session.phase ≠ .awaitDsk then (s, [])
    else match PublicKey.parsePin pin with
      -- The prompt stays up for another try.
      | none => (s, [])
      | some pin =>
        let session :=
          { session with nodePublicKey := PublicKey.applyPin session.nodePublicKey pin }
        let (s, outputs) := s.finishKeyAgreement ssl nodeId session
        -- `clearDskPrompt`: the empty prompt retracts the pending one.
        (s, .dskPendingConfirmation 0 "" :: outputs)

/-- `sendEncrypted`: over the temporary channel, or not at all. -/
def sendEncrypted (s : Bootstrap) (nodeId : NodeId) (inner : Bytes) (sei : EntropyInput) :
    Bootstrap × List BootstrapOutput :=
  match s.spanManager.encrypt ssl nodeId inner sei with
  | (none, spanManager) => ({ s with spanManager }, [])
  | (some frame, spanManager) => ({ s with spanManager }, [.sendEncrypted nodeId inner frame])

/-- What the associated data binds of an inbound frame. A frame too short for a sequence number is
read past its end; `decrypt` refuses it whatever is read there. -/
def inboundContext (s : Bootstrap) (nodeId : NodeId) (frame : Bytes) : Encapsulation.Context where
  senderNodeId := nodeId
  receiverNodeId := s.controllerNodeId
  homeId := s.homeId
  sequenceNumber := frame.byte 2

/-- `decryptInbound`: over the temporary channel. -/
def decryptInbound (s : Bootstrap) (nodeId : NodeId) (session : Session) (frame : Bytes) :
    Option Bytes × Bootstrap :=
  match s.spanManager.receiveNonce ssl nodeId frame with
  | (none, spanManager) => (none, { s with spanManager })
  | (some nonce, spanManager) =>
    (Encapsulation.decrypt ssl frame (s.inboundContext nodeId frame) session.tempKeys.keyCcm nonce,
      { s with spanManager })

/-- The echo agrees with the KEX_SET that was sent. -/
def EchoMatches (inner : Bytes) (sent : Kex.Set) : Prop :=
  ∃ echoed ∈ Kex.decodeSet inner, echoed.selectedScheme = sent.selectedScheme ∧
    echoed.selectedCurve = sent.selectedCurve ∧ echoed.grantedKeys = sent.grantedKeys

instance (inner : Bytes) (sent : Kex.Set) : Decidable (EchoMatches inner sent) :=
  inferInstanceAs (Decidable (∃ echoed ∈ Kex.decodeSet inner, _))

/-- `onKexSetEcho`. -/
def onKexSetEcho (s : Bootstrap) (nodeId : NodeId) (session : Session) (frame : Bytes)
    (sei : EntropyInput) : Bootstrap × List BootstrapOutput :=
  match s.decryptInbound ssl nodeId session frame with
  | (none, s) => (s, [])
  | (some inner, s) =>
    if EchoMatches inner session.sentKexSet then
      let (s, outputs) := s.sendEncrypted ssl nodeId
        (Kex.encodeReport { session.receivedKexReport with echo := true }) sei
      -- The phase moves on even if there was no SPAN to send the report under.
      (s.setSession nodeId { session with phase := .awaitNetworkKeyGet }, outputs)
    else
      let (s, outputs) := s.sendEncrypted ssl nodeId (Kex.encodeFail Kex.failAuth) sei
      (s.eraseSession nodeId, outputs)

/-- `completeBootstrap`. -/
def completeBootstrap (s : Bootstrap) (nodeId : NodeId) (session : Session) :
    Bootstrap × List BootstrapOutput :=
  let scheme := schemeFor session.grantedKeys
  (s.eraseSession nodeId, [.setSecurityScheme nodeId scheme, .nodeSecurityStatus nodeId scheme])

variable (keys : Option NetworkKeys.KeySet)

/-- The NETWORK_KEY_GET branch of `onTempChannelKeyExchange`. -/
def onKeyGet (s : Bootstrap) (nodeId : NodeId) (session : Session) (requestedBit : UInt8)
    (sei : EntropyInput) : Bootstrap × List BootstrapOutput :=
  if requestedBit &&& session.grantedKeys = 0 then
    let (s, outputs) := s.sendEncrypted ssl nodeId (Kex.encodeFail Kex.failKeyGet) sei
    (s.eraseSession nodeId, outputs)
  else match classKeyForBit keys requestedBit with
    | none => (s, [])
    | some classKey =>
      let (s, outputs) :=
        s.sendEncrypted ssl nodeId (KeyInstall.encodeKeyReport requestedBit classKey) sei
      (s.setSession nodeId { session with
          installingKeyBit := requestedBit
          installingClassKeys := KeyDerivation.networkKeyExpand ssl classKey
          phase := .awaitClassNonceGet }, outputs)

/-- `onTempChannelKeyExchange`. -/
def onTempChannelKeyExchange (s : Bootstrap) (nodeId : NodeId) (session : Session) (frame : Bytes)
    (sei : EntropyInput) : Bootstrap × List BootstrapOutput :=
  match s.decryptInbound ssl nodeId session frame with
  | (none, s) => (s, [])
  | (some inner, s) =>
    if commandByte inner = some KeyInstall.transferEnd then
      match KeyInstall.decodeTransferEnd inner with
      | none => (s, [])
      | some transferEnd =>
        -- Which of the granted keys were verified is not asked.
        if transferEnd.keyRequestComplete then s.completeBootstrap nodeId session else (s, [])
    else if commandByte inner = some KeyInstall.networkKeyGet then
      match KeyInstall.decodeKeyGet inner with
      | none => (s, [])
      | some requestedBit => s.onKeyGet ssl keys nodeId session requestedBit sei
    else (s, [])

/-- `onKeyVerify`: a clean decrypt is the proof, whatever is inside. -/
def onKeyVerify (s : Bootstrap) (nodeId : NodeId) (session : Session) (frame : Bytes)
    (sei : EntropyInput) : Bootstrap × List BootstrapOutput :=
  match s.classSpanManager.receiveNonce ssl nodeId frame with
  | (none, classSpanManager) => ({ s with classSpanManager }, [])
  | (some nonce, classSpanManager) =>
    let s' := { s with classSpanManager }
    match Encapsulation.decrypt ssl frame (s.inboundContext nodeId frame)
        session.installingClassKeys.keyCcm nonce with
    | none =>
      -- The answer goes over the temporary channel: the new key is not to be trusted.
      let (s', outputs) := s'.sendEncrypted ssl nodeId (Kex.encodeFail Kex.failKeyVerify) sei
      (s'.eraseSession nodeId, outputs)
    | some _ =>
      let (s', outputs) :=
        s'.sendEncrypted ssl nodeId (KeyInstall.encodeTransferEnd true false) sei
      (s'.setSession nodeId { session with phase := .awaitNetworkKeyGet }, outputs)

/-- The NONCE_GET of the temporary channel. -/
def onTempNonceGet (s : Bootstrap) (nodeId : NodeId) (session : Session) (rei : EntropyInput) :
    Bootstrap × List BootstrapOutput :=
  let (payload, spanManager) := s.spanManager.respondToNonceGet nodeId rei
  ({ s with spanManager }.setSession nodeId { session with phase := .awaitKexSetEcho },
    [.sendPlaintext nodeId payload])

/-- The NONCE_GET of the channel under a new key: the channel starts afresh. -/
def onClassNonceGet (s : Bootstrap) (nodeId : NodeId) (session : Session) (rei : EntropyInput) :
    Bootstrap × List BootstrapOutput :=
  let manager := ({} : SpanManager).configurePeer nodeId
    { classKey := session.installingClassKeys.keyCcm
      personalization := session.installingClassKeys.personalization
      homeId := s.homeId
      ourNodeId := s.controllerNodeId
      peerNodeId := nodeId }
  let (payload, classSpanManager) := manager.respondToNonceGet nodeId rei
  ({ s with classSpanManager }.setSession nodeId { session with phase := .awaitKeyVerify },
    [.sendPlaintext nodeId payload])

/-- The switch of `onApplicationCommand`, for a node with a session. -/
def onSessionCommand (s : Bootstrap) (nodeId : NodeId) (session : Session) (ccData : Bytes)
    (entropy : EntropyInput) (command : UInt8) : Bootstrap × List BootstrapOutput :=
  match session.phase with
  | .awaitKexReport =>
    if command = Kex.kexReport then s.onKexReport nodeId session ccData else (s, [])
  | .awaitPublicKey =>
    if command = PublicKey.publicKeyReport then s.onPublicKeyReport ssl nodeId session ccData
    else (s, [])
  -- Only the operator moves this phase on.
  | .awaitDsk => (s, [])
  | .awaitTempChannel =>
    if command = NonceSync.nonceGetCommand then s.onTempNonceGet nodeId session entropy
    else (s, [])
  | .awaitKexSetEcho =>
    if command = Encapsulation.messageEncapsulation then
      s.onKexSetEcho ssl nodeId session ccData entropy
    else (s, [])
  | .awaitNetworkKeyGet =>
    if command = Encapsulation.messageEncapsulation then
      s.onTempChannelKeyExchange ssl keys nodeId session ccData entropy
    else (s, [])
  | .awaitClassNonceGet =>
    if command = NonceSync.nonceGetCommand then s.onClassNonceGet nodeId session entropy
    else (s, [])
  | .awaitKeyVerify =>
    if command = Encapsulation.messageEncapsulation then
      s.onKeyVerify ssl nodeId session ccData entropy
    else (s, [])

/-- `onApplicationCommand`. -/
def onApplicationCommand (s : Bootstrap) (nodeId : NodeId) (ccData : Bytes)
    (entropy : EntropyInput) : Bootstrap × List BootstrapOutput :=
  match s.sessions nodeId with
  | none => (s, [])
  | some session =>
    match commandByte ccData with
    | none => (s, [])
    | some command => s.onSessionCommand ssl keys nodeId session ccData entropy command

/-- One event. -/
def step (s : Bootstrap) : BootstrapEvent → Bootstrap × List BootstrapOutput
  | .nodeIncluded nodeId commandClasses keyPair => s.onNodeIncluded nodeId commandClasses keyPair
  | .applicationCommand nodeId ccData entropy =>
    s.onApplicationCommand ssl keys nodeId ccData entropy
  | .confirmDsk nodeId pin => s.onConfirmDsk ssl nodeId pin
  | .dongleInfo homeId controllerNodeId =>
    ({ s with homeId := copyHomeId homeId s.homeId, controllerNodeId }, [])
  | .s2NetworkKeysReady ready => ({ s with keysReady := ready }, [])

end Bootstrap

end Zwaved.S2
