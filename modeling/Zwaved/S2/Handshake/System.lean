import Zwaved.S2.Interference
import Zwaved.S2.JoiningNode

/-!
# The handshake of the two ends

The bootstrap and a joining node, with the frames on their way between them. A frame is delivered
some time after it was sent, the operator confirms the DSK when he likes, the node asks for the
nonce of the temporary channel again while it awaits the report, and other nodes have sessions of
their own. A run is `Orderly` if what the operator types is the PIN of the label or no PIN at all,
since the PIN of another key gives the two ends different temporary keys for good, and if no other
node asks for the nonce of a new key's channel while the verify of this node is awaited, since there
is one such channel. `Position` tells how far the handshake is: which session the controller has,
what the node waits for and which frames are on their way.
-/

namespace Zwaved.S2

open Reactive

/-- The two ends of the handshake. -/
structure Handshake where
  /-- The controller. -/
  controller : Bootstrap
  /-- The joining node. -/
  node : JoiningNode
  /-- On their way to the node, the oldest first. -/
  toNode : List Bytes := []
  /-- On their way to the controller. -/
  toController : List Bytes := []

/-- What happens next, with the entropy that is drawn then. -/
inductive Happening
  /-- The oldest frame from the node is delivered. -/
  | toController (entropy : EntropyInput)
  /-- The oldest frame to the node is delivered. -/
  | toNode (sei : EntropyInput)
  /-- The operator confirms the DSK. -/
  | confirmDsk (pin : Bytes)
  /-- The node repeats the NONCE_GET of the temporary channel. -/
  | askAgain
  /-- Something that the node has no part in. -/
  | elsewhere (event : BootstrapEvent)

/-- The frame of an output to the node. -/
def BootstrapOutput.frameFor (nodeId : NodeId) : BootstrapOutput → Option Bytes
  | .sendPlaintext target payload => if target = nodeId then some payload else none
  | .sendEncrypted target _ frame => if target = nodeId then some frame else none
  | _ => none

/-- The output records the class of the node. -/
def BootstrapOutput.recordsFor (nodeId : NodeId) : BootstrapOutput → Bool
  | .setSecurityScheme target _ | .nodeSecurityStatus target _ => target == nodeId
  | _ => false

namespace Handshake

variable (ssl : OpenSsl) (keys : Option NetworkKeys.KeySet)

/-- An event at the controller. -/
def bootstrap (h : Handshake) (event : BootstrapEvent) : Handshake × List BootstrapOutput :=
  let (controller, outputs) := h.controller.step ssl keys event
  ({ h with
      controller
      toNode := h.toNode ++ outputs.filterMap (BootstrapOutput.frameFor h.node.nodeId) }, outputs)

/-- What the node sends. -/
def hear (h : Handshake) (reaction : JoiningNode × List Bytes) : Handshake :=
  { h with node := reaction.1, toController := h.toController ++ reaction.2 }

/-- One step of the two ends. -/
def step (h : Handshake) : Happening → Handshake × List BootstrapOutput
  | .toController entropy =>
    match h.toController with
    | [] => (h, [])
    | frame :: toController => { h with toController }.bootstrap ssl keys
        (.applicationCommand h.node.nodeId frame entropy)
  | .toNode sei =>
    match h.toNode with
    | [] => (h, [])
    | frame :: toNode => ({ h with toNode }.hear (h.node.onFrame ssl frame sei), [])
  | .confirmDsk pin => h.bootstrap ssl keys (.confirmDsk h.node.nodeId pin)
  | .askAgain => (h.hear h.node.askAgain, [])
  | .elsewhere event => h.bootstrap ssl keys event

/-- The inclusion of the node is announced. -/
def start (s : Bootstrap) (node : JoiningNode) (commandClasses : Bytes) (keyPair : KeyPair) :
    Handshake :=
  (({ controller := s, node } : Handshake).bootstrap ssl keys
    (.nodeIncluded node.nodeId commandClasses keyPair)).1

/-- The operator has the label of the device before him: what he types is its PIN, or no PIN at all.
Other nodes do not get in the way of the channel under a new key. -/
def Orderly (taken : Taken Handshake Happening) : Prop :=
  match taken.input with
  | .confirmDsk pin => PublicKey.parsePin pin = none ∨
    PublicKey.parsePin pin = some (PublicKey.groupValue taken.before.node.keyPair.publicKey 0)
  | .elsewhere event => event.concerns taken.before.node.nodeId = false ∧
    ¬ Bootstrap.Collides taken.before.node.nodeId ⟨taken.before.controller, event⟩
  | _ => True

instance : DecidablePred Orderly
  | ⟨_, .confirmDsk _⟩ => inferInstanceAs (Decidable (_ ∨ _))
  | ⟨_, .elsewhere _⟩ => inferInstanceAs (Decidable (_ ∧ ¬ _))
  | ⟨_, .toController _⟩ | ⟨_, .toNode _⟩ | ⟨_, .askAgain⟩ => inferInstanceAs (Decidable True)

/-- A frame is handed over. -/
def delivers (taken : Taken Handshake Happening) : Bool :=
  match taken.input with
  | .toController _ => !taken.before.toController.isEmpty
  | .toNode _ => !taken.before.toNode.isEmpty
  | _ => false

/-- The node asks again. -/
def asksAgain (taken : Taken Handshake Happening) : Bool :=
  match taken.input with
  | .askAgain => true
  | _ => false

/-- No frame is on its way. -/
def Quiet (h : Handshake) : Prop := h.toNode = [] ∧ h.toController = []

/-! ## How far the handshake is -/

/-- What the two ends bring with them: the node is about to join the controller's network, asks for
something that is granted and then for keys of the grant, and the two key pairs agree on a secret.
-/
structure Agrees (keySet : NetworkKeys.KeySet) (s : Bootstrap) (keyPair : KeyPair)
    (node : JoiningNode) (shared : SharedSecret) : Prop where
  /-- The node knows the controller. -/
  controllerNodeId : node.controllerNodeId = s.controllerNodeId
  /-- It is in its network. -/
  homeId : node.homeId = s.homeId
  /-- It has not begun. -/
  stage : node.stage = .awaitKexGet
  /-- It has no key yet. -/
  installed : node.installed = []
  /-- It is granted a class. -/
  granted : Kex.grantKeys node.report controllerSupportedKeys ≠ 0
  /-- It requests keys that it is granted. -/
  requests : ∀ bit ∈ node.requests,
    bit &&& Kex.grantKeys node.report controllerSupportedKeys ≠ 0 ∧
      KeyInstall.classForKeyBit bit ≠ none
  /-- The secret of the controller. -/
  ours : ssl.x25519 keyPair.privateKey node.keyPair.publicKey = some shared
  /-- The secret of the node. -/
  theirs : ssl.x25519 node.keyPair.privateKey keyPair.publicKey = some shared

section Position

variable (keySet : NetworkKeys.KeySet) (keyPair : KeyPair) (node : JoiningNode)
  (shared : SharedSecret)

/-- What the node is granted. -/
def granted : UInt8 := Kex.grantKeys node.report controllerSupportedKeys

/-- The temporary keys. -/
def tempKeys : KeyDerivation.TempKeys :=
  KeyDerivation.deriveTempKeys ssl shared keyPair.publicKey node.keyPair.publicKey

/-- The key for a bit, as it is reported and installed. -/
def keyFor (bit : UInt8) : KeyInstall.KeyReport where
  grantedKey := bit
  key := (classKeyForBit (some keySet) bit).getD (Vector.replicate 16 0)

/-- The controller's session once the classes are negotiated. -/
def negotiated : Session where
  keyPair
  grantedKeys := granted node
  receivedKexReport := node.report
  sentKexSet := Bootstrap.kexSetFor (granted node)
  phase := .awaitPublicKey

/-- The session that waits for the operator. -/
def parked : Session :=
  { negotiated keyPair node with
    nodePublicKey := PublicKey.blanked node.keyPair.publicKey PublicKey.obfuscateDsk
    phase := .awaitDsk }

/-- The session under the temporary keys. Of the key that was installed last something is left. -/
def secured (installing : UInt8 × KeyDerivation.NetworkKeys) (phase : Phase) : Session :=
  { negotiated keyPair node with
    nodePublicKey := node.keyPair.publicKey
    tempKeys := tempKeys ssl keyPair node shared
    installingKeyBit := installing.1
    installingClassKeys := installing.2
    phase }

/-- The controller's half of a channel under a key, and the node's is its mirror image. -/
def ourConfig (classKey : Key) (personalization : Personalization) : PeerConfig where
  classKey
  personalization
  homeId := node.homeId
  ourNodeId := node.controllerNodeId
  peerNodeId := node.nodeId

/-- The configuration of the temporary channel. -/
def tempConfig : PeerConfig :=
  ourConfig node (tempKeys ssl keyPair node shared).keyCcm
    (tempKeys ssl keyPair node shared).personalization

/-- The configuration of the channel under a key. -/
def classConfig (bit : UInt8) : PeerConfig :=
  ourConfig node (KeyDerivation.networkKeyExpand ssl (keyFor keySet bit).key).keyCcm
    (KeyDerivation.networkKeyExpand ssl (keyFor keySet bit).key).personalization

/-- The node that has got the KEX_SET. -/
def chosen (stage : JoiningNode.Stage) : JoiningNode :=
  { node with kexSet := Bootstrap.kexSetFor (granted node), stage }

/-- Its key as the node reports it. -/
def nodeKey : Bytes :=
  PublicKey.encode false node.keyPair.publicKey
    (if granted node &&& dskRequiredKeys ≠ 0 then PublicKey.obfuscateDsk
      else PublicKey.obfuscateNone)

/-- The controller's key as it is reported. -/
def controllerKey : Bytes := PublicKey.encode true keyPair.publicKey PublicKey.obfuscateNone

/-- The report that hands out an REI. -/
def nonceReport (sequenceNumber : UInt8) (rei : EntropyInput) : Bytes :=
  NonceSync.encodeNonceReport { sequenceNumber, sos := true, mos := false, rei := some rei }

/-- NONCE_GETs, and nothing else. -/
def NonceGets (frames : List Bytes) : Prop :=
  ∀ frame ∈ frames, ∃ sequenceNumber, frame = NonceSync.encodeNonceGet sequenceNumber

/-- The node's half of a channel before its first message. -/
structure Untouched (p : Peer) (config : PeerConfig) : Prop where
  /-- It is the mirror image of the controller's. -/
  config : Mirrored p.config config
  /-- There is no SPAN. -/
  span : p.span = none

/-- The node under the temporary keys: which keys it has and which it still has to request. -/
structure Requesting (n : JoiningNode) (stage : JoiningNode.Stage) (awaited : List UInt8) :
    Prop where
  /-- Its node id. -/
  nodeId : n.nodeId = node.nodeId
  /-- The controller. -/
  controllerNodeId : n.controllerNodeId = node.controllerNodeId
  /-- The network. -/
  homeId : n.homeId = node.homeId
  /-- Its key pair. -/
  keyPair : n.keyPair = node.keyPair
  /-- What it waits for. -/
  stage : n.stage = stage
  /-- Its keys are the controller's, in the order of its requests. -/
  requests : ∃ done, node.requests = done ++ (awaited ++ n.requests) ∧
    n.installed = done.map (keyFor keySet)

/-- How far the handshake is: the session of the node and the two channels to it, the node, and the
frames to the node and to the controller. -/
inductive Position : Option Session → Peer → Peer → JoiningNode → List Bytes → List Bytes → Prop
  /-- KEX_GET is out. -/
  | kexGet {channel classChannel} :
    Position (some { keyPair }) channel classChannel node [Kex.encodeGet] []
  /-- The node has answered. -/
  | kexReport {channel classChannel} :
    Position (some { keyPair }) channel classChannel { node with stage := .awaitKexSet } []
      [Kex.encodeReport node.report]
  /-- KEX_SET is out. -/
  | kexSet {channel classChannel} :
    Position (some (negotiated keyPair node)) channel classChannel
      { node with stage := .awaitKexSet } [Kex.encodeSet (Bootstrap.kexSetFor (granted node))] []
  /-- The node has sent its key. -/
  | publicKey {channel classChannel} :
    Position (some (negotiated keyPair node)) channel classChannel (chosen node .awaitPublicKey) []
      [nodeKey node]
  /-- The controller has sent its own, and waits for the operator. -/
  | parkedKey {channel classChannel} (hdsk : granted node &&& dskRequiredKeys ≠ 0) :
    Position (some (parked keyPair node)) channel classChannel (chosen node .awaitPublicKey)
      [controllerKey keyPair] []
  /-- The node asks for a nonce, in vain as long as the operator is awaited. -/
  | parkedGets {channel classChannel p gets} (hdsk : granted node &&& dskRequiredKeys ≠ 0)
    (hp : Untouched p (tempConfig ssl keyPair node shared)) (hgets : NonceGets gets) :
    Position (some (parked keyPair node)) channel classChannel
      { chosen node .awaitTempNonce with tempChannel := p } [] gets
  /-- The controller has the temporary keys before the node has its public key. -/
  | agreedKey {channel classChannel installing}
    (hconfig : channel.config = tempConfig ssl keyPair node shared) :
    Position (some (secured ssl keyPair node shared installing .awaitTempChannel)) channel
      classChannel (chosen node .awaitPublicKey) [controllerKey keyPair] []
  /-- Both have the temporary keys. -/
  | agreedGets {channel classChannel installing p gets}
    (hconfig : channel.config = tempConfig ssl keyPair node shared)
    (hp : Untouched p (tempConfig ssl keyPair node shared)) (hgets : NonceGets gets) :
    Position (some (secured ssl keyPair node shared installing .awaitTempChannel)) channel
      classChannel { chosen node .awaitTempNonce with tempChannel := p } [] gets
  /-- The controller has handed out its REI. -/
  | nonceReport {channel classChannel installing p gets rei sequenceNumber}
    (hconfig : channel.config = tempConfig ssl keyPair node shared)
    (hrei : channel.ourRei = some rei) (hp : Untouched p (tempConfig ssl keyPair node shared))
    (hgets : NonceGets gets) :
    Position (some (secured ssl keyPair node shared installing .awaitKexSetEcho)) channel
      classChannel { chosen node .awaitTempNonce with tempChannel := p }
      [nonceReport sequenceNumber rei] gets
  /-- The echo of the KEX_SET comes after NONCE_GETs that are no longer needed. -/
  | kexSetEcho {channel classChannel installing p gets frame}
    (hconfig : channel.config = tempConfig ssl keyPair node shared)
    (hframe : Conveys ssl p channel
      (Kex.encodeSet { Bootstrap.kexSetFor (granted node) with echo := true }) frame)
    (hgets : NonceGets gets) :
    Position (some (secured ssl keyPair node shared installing .awaitKexSetEcho)) channel
      classChannel { chosen node .awaitKexReportEcho with tempChannel := p } [] (gets ++ [frame])
  /-- The echo of the KEX_REPORT. -/
  | kexReportEcho {channel classChannel installing p frame}
    (hconfig : channel.config = tempConfig ssl keyPair node shared)
    (hframe : Conveys ssl channel p (Kex.encodeReport { node.report with echo := true }) frame) :
    Position (some (secured ssl keyPair node shared installing .awaitNetworkKeyGet)) channel
      classChannel { chosen node .awaitKexReportEcho with tempChannel := p } [frame] []
  /-- A key is requested. -/
  | keyGet {channel classChannel installing n bit frame}
    (hconfig : channel.config = tempConfig ssl keyPair node shared)
    (hn : Requesting keySet node n .awaitKey [bit])
    (hframe : Conveys ssl n.tempChannel channel (KeyInstall.encodeKeyGet bit) frame) :
    Position (some (secured ssl keyPair node shared installing .awaitNetworkKeyGet)) channel
      classChannel n [] [frame]
  /-- The key is transferred. -/
  | keyReport {channel classChannel n bit frame}
    (hconfig : channel.config = tempConfig ssl keyPair node shared)
    (hn : Requesting keySet node n .awaitKey [bit])
    (hframe : Conveys ssl channel n.tempChannel
      (KeyInstall.encodeKeyReport bit (keyFor keySet bit).key) frame) :
    Position (some (secured ssl keyPair node shared
        (bit, KeyDerivation.networkKeyExpand ssl (keyFor keySet bit).key) .awaitClassNonceGet))
      channel classChannel n [frame] []
  /-- The node asks for a nonce of the channel under it. -/
  | classNonceGet {channel classChannel n bit sequenceNumber}
    (hconfig : channel.config = tempConfig ssl keyPair node shared)
    (hn : Requesting keySet node n .awaitClassNonce [bit])
    (hjoined : Joined n.tempChannel channel) (hinstalling : n.installing = keyFor keySet bit)
    (hclass : Untouched n.classChannel (classConfig ssl keySet node bit)) :
    Position (some (secured ssl keyPair node shared
        (bit, KeyDerivation.networkKeyExpand ssl (keyFor keySet bit).key) .awaitClassNonceGet))
      channel classChannel n [] [NonceSync.encodeNonceGet sequenceNumber]
  /-- The controller has handed out its REI for it. -/
  | classNonceReport {channel classChannel n bit rei sequenceNumber}
    (hconfig : channel.config = tempConfig ssl keyPair node shared)
    (hn : Requesting keySet node n .awaitClassNonce [bit])
    (hjoined : Joined n.tempChannel channel) (hinstalling : n.installing = keyFor keySet bit)
    (hclass : Untouched n.classChannel (classConfig ssl keySet node bit))
    (hclassConfig : classChannel.config = classConfig ssl keySet node bit)
    (hrei : classChannel.ourRei = some rei) :
    Position (some (secured ssl keyPair node shared
        (bit, KeyDerivation.networkKeyExpand ssl (keyFor keySet bit).key) .awaitKeyVerify))
      channel classChannel n [nonceReport sequenceNumber rei] []
  /-- The verify is on its way. -/
  | keyVerify {channel classChannel n bit frame}
    (hconfig : channel.config = tempConfig ssl keyPair node shared)
    (hn : Requesting keySet node n .awaitTransferEnd [bit])
    (hjoined : Joined n.tempChannel channel) (hinstalling : n.installing = keyFor keySet bit)
    (hclassConfig : classChannel.config = classConfig ssl keySet node bit)
    (hframe : Conveys ssl n.classChannel classChannel KeyInstall.encodeKeyVerify frame) :
    Position (some (secured ssl keyPair node shared
        (bit, KeyDerivation.networkKeyExpand ssl (keyFor keySet bit).key) .awaitKeyVerify))
      channel classChannel n [] [frame]
  /-- The key is verified. -/
  | transferEnd {channel classChannel installing n bit frame}
    (hconfig : channel.config = tempConfig ssl keyPair node shared)
    (hn : Requesting keySet node n .awaitTransferEnd [bit])
    (hinstalling : n.installing = keyFor keySet bit)
    (hframe : Conveys ssl channel n.tempChannel (KeyInstall.encodeTransferEnd true false) frame) :
    Position (some (secured ssl keyPair node shared installing .awaitNetworkKeyGet)) channel
      classChannel n [frame] []
  /-- The node has all its keys. -/
  | requestComplete {channel classChannel installing n frame}
    (hconfig : channel.config = tempConfig ssl keyPair node shared)
    (hn : Requesting keySet node n .joined []) (hnone : n.requests = [])
    (hframe : Conveys ssl n.tempChannel channel (KeyInstall.encodeTransferEnd false true) frame) :
    Position (some (secured ssl keyPair node shared installing .awaitNetworkKeyGet)) channel
      classChannel n [] [frame]
  /-- The handshake is complete. -/
  | complete {channel classChannel n} (hn : Requesting keySet node n .joined [])
    (hnone : n.requests = []) : Position none channel classChannel n [] []

end Position

end Handshake

end Zwaved.S2
