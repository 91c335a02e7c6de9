import Zwaved.S2.DskPin
import Zwaved.S2.Lockstep

/-!
# The joining node

The other end of the bootstrap, as `s2_bootstrap_test.cpp` plays it: the node answers KEX_GET with
what it asks for, takes the KEX_SET, sends its public key (without the PIN, if a class of the grant
asks for the DSK), derives the temporary keys from the controller's, and over the channel under them
echoes the grant and requests its keys one after the other, each verified over a channel under the
new key. It reacts to one frame at a time, and to a frame that it does not expect with nothing.

`Joined` is the state of a channel between two messages, and `Conveys` that of a message on its way:
the receiver has yet to open it. A channel whose first message announces its SPAN gets there from
whatever the receiver had before (`conveys_first`), and from then on messages go either way
(`conveys_next`).
-/

namespace Zwaved.S2

/-! ## The frames of the handshake, read back -/

namespace Kex

/-- The two flags of the properties byte read back as they were set. -/
theorem props_flags (echo requestCsa : Bool) :
    (props echo requestCsa &&& propEcho ≠ 0 ↔ echo = true) ∧
      (props echo requestCsa &&& propRequestCsa ≠ 0 ↔ requestCsa = true) := by
  cases echo <;> cases requestCsa <;> decide

/-- A KEX_REPORT survives the wire. -/
theorem decodeReport_encodeReport (report : Report) :
    decodeReport (encodeReport report) = some report := by
  obtain ⟨hecho, hcsa⟩ := props_flags report.echo report.requestCsa
  unfold decodeReport
  rw [if_neg (by simp [encodeReport, Bytes.byte])]
  simp [encodeReport, Bytes.byte, hecho, hcsa]

/-- A KEX_SET survives the wire. -/
theorem decodeSet_encodeSet (set : Set) : decodeSet (encodeSet set) = some set := by
  obtain ⟨hecho, hcsa⟩ := props_flags set.echo set.requestCsa
  unfold decodeSet
  rw [if_neg (by simp [encodeSet, Bytes.byte])]
  simp [encodeSet, Bytes.byte, hecho, hcsa]

end Kex

namespace KeyInstall

/-- A NETWORK_KEY_GET decodes to the key that it was encoded for. -/
theorem decodeKeyGet_encodeKeyGet (bit : UInt8) : decodeKeyGet (encodeKeyGet bit) = some bit := by
  simp [decodeKeyGet, encodeKeyGet, Bytes.byte]

/-- A TRANSFER_END survives the wire. -/
theorem decodeTransferEnd_encodeTransferEnd (keyVerified keyRequestComplete : Bool) :
    decodeTransferEnd (encodeTransferEnd keyVerified keyRequestComplete) =
      some { keyVerified, keyRequestComplete } := by
  cases keyVerified <;> cases keyRequestComplete <;> decide

end KeyInstall

/-! ## A channel -/

/-- Two halves that share a SPAN. -/
structure Joined (p q : Peer) : Prop where
  /-- The configurations mirror each other. -/
  config : Mirrored p.config q.config
  /-- The SPANs are equal. -/
  span : p.span = q.span
  /-- There is one. -/
  up : p.span ≠ none

/-- Being joined does not depend on the side. -/
theorem Joined.symm {p q : Peer} (h : Joined p q) : Joined q p :=
  ⟨h.config.symm, h.span.symm, fun hnone => h.up (h.span.trans hnone)⟩

variable (ssl : OpenSsl)

/-- The frame is on its way from `p`, which has sent it, to `q`: opening it there gives `inner`, and
leaves the two halves with one SPAN. -/
structure Conveys (p q : Peer) (inner frame : Bytes) : Prop where
  /-- What is received. -/
  received : (q.receive ssl frame).1 = some inner
  /-- The halves after it. -/
  joined : Joined p (q.receive ssl frame).2

variable {ssl} {p p' q : Peer} {inner frame : Bytes} {sei rei : EntropyInput} {span : Span}

/-- A frame under the SPAN that the receiver settles on arrives. -/
theorem conveys_of_span (hccm : ssl.CcmInverse) (hconfig : Mirrored p.config q.config)
    {extensions : Bytes} (hsend : p.sendSpan ssl sei = some (span, extensions, p'))
    (hext : extensions ≠ [] → Encapsulation.WellFormed extensions)
    (hspan : ∀ context classKey nonce, (q.receiveSpan ssl
      (Encapsulation.encrypt ssl inner context classKey nonce extensions)).span = some span) :
    ∃ frame, (p.encrypt ssl inner sei).1 = some frame ∧
      Conveys ssl (p.encrypt ssl inner sei).2 q inner frame := by
  -- Sending changes the channel's SPAN, not its configuration.
  have hconfig' : p'.config = p.config := by
    have henc := Peer.encrypt_config ssl p inner sei
    unfold Peer.encrypt at henc
    rw [hsend] at henc
    exact henc
  unfold Peer.encrypt
  rw [hsend]
  dsimp only
  generalize hframe : Encapsulation.encrypt ssl inner p'.sendContext p'.config.classKey
    (span.truncatedNonce ssl).1 extensions = frame
  have hq := hspan p'.sendContext p'.config.classKey (span.truncatedNonce ssl).1
  rw [hframe] at hq
  -- What the receiver checks is what the sender authenticated, as their configurations mirror each
  -- other.
  have hcontext : (q.receiveSpan ssl frame).receiveContext frame =
      { p'.sendContext with sequenceNumber := frame.byte 2 } := by
    simp only [Peer.receiveContext, Peer.sendContext, Peer.receiveSpan_config, hconfig',
      hconfig.peerNodeId, hconfig.ourNodeId, hconfig.homeId]
  have hkey : (q.receiveSpan ssl frame).config.classKey = p'.config.classKey := by
    rw [Peer.receiveSpan_config, hconfig.classKey, hconfig']
  have hopen := Encapsulation.decrypt_encrypt hccm inner p'.sendContext p'.config.classKey
    (span.truncatedNonce ssl).1 hext (frame.byte 2)
  -- So the frame opens to what was sent.
  rw [hframe, ← hcontext, ← hkey] at hopen
  refine ⟨frame, rfl, ?_, ?_⟩
  · simp only [Peer.receive, Peer.receiveNonce, hq]
    exact hopen
  -- Both have the same SPAN afterwards, one nonce further.
  · simp only [Peer.receive, Peer.receiveNonce, hq]
    refine ⟨?_, rfl, Option.some_ne_none _⟩
    rw [hconfig', Peer.receiveSpan_config]
    exact hconfig

/-- Over a channel that is up, a message is sent and arrives. -/
theorem Joined.conveys_next (hccm : ssl.CcmInverse) (h : Joined p q) (inner : Bytes)
    (sei : EntropyInput) : ∃ frame, (p.encrypt ssl inner sei).1 = some frame ∧
      Conveys ssl (p.encrypt ssl inner sei).2 q inner frame := by
  obtain ⟨span, hspan⟩ := Option.ne_none_iff_exists'.mp h.up
  have hsend : p.sendSpan ssl sei = some (span, [], p) := by rw [Peer.sendSpan, hspan]
  refine conveys_of_span hccm h.config hsend
    (fun hnil => absurd rfl hnil) fun context classKey nonce => ?_
  -- A frame without extensions leaves the receiver's SPAN alone.
  have hquiet := announcesExtensions_encrypt ssl inner context classKey nonce []
  rw [Peer.receiveSpan, Peer.announcedSpan, if_neg (by rw [hquiet]; simp)]
  exact h.span.symm.trans hspan

/-- The first message of a sender with no SPAN that has the receiver's REI announces a new one,
whatever SPAN the receiver had. -/
theorem conveys_first (hccm : ssl.CcmInverse) (hconfig : Mirrored p.config q.config)
    (hfresh : p.span = none) (hpeer : p.peerRei = some rei) (hour : q.ourRei = some rei)
    (inner : Bytes) (sei : EntropyInput) : ∃ frame, (p.encrypt ssl inner sei).1 = some frame ∧
      Conveys ssl (p.encrypt ssl inner sei).2 q inner frame := by
  have hsend : p.sendSpan ssl sei = some (Span.instantiate ssl sei rei p.config.personalization,
      NonceSync.encodeSpanExtension sei,
      { p with
        span := some (Span.instantiate ssl sei rei p.config.personalization)
        peerRei := none }) := by
    simp [Peer.sendSpan, hfresh, hpeer]
  refine conveys_of_span hccm hconfig hsend
    (fun _ => Encapsulation.wellFormed_encodeSpanExtension sei) fun context classKey nonce => ?_
  rw [Peer.receiveSpan, announcedSpan_encrypt ssl hour, hconfig.personalization]

/-! ## The node -/

/-- What the node waits for. -/
inductive JoiningNode.Stage
  /-- KEX_GET. -/
  | awaitKexGet
  /-- KEX_SET. -/
  | awaitKexSet
  /-- The controller's PUBLIC_KEY_REPORT. -/
  | awaitPublicKey
  /-- The NONCE_REPORT of the temporary channel. -/
  | awaitTempNonce
  /-- The encrypted echo of its KEX_REPORT. -/
  | awaitKexReportEcho
  /-- The key it has requested. -/
  | awaitKey
  /-- The NONCE_REPORT of the channel under the new key. -/
  | awaitClassNonce
  /-- TRANSFER_END, that the new key is verified. -/
  | awaitTransferEnd
  /-- Nothing: it has its keys. -/
  | joined
  deriving DecidableEq, Repr

/-- The joining node. -/
structure JoiningNode where
  /-- Its node id. -/
  nodeId : NodeId
  /-- The controller that includes it. -/
  controllerNodeId : NodeId
  /-- The network. -/
  homeId : HomeId
  /-- Its key pair: the public key is on its label. -/
  keyPair : KeyPair
  /-- What it advertises. -/
  report : Kex.Report
  /-- The key bits that it still has to request. -/
  requests : List UInt8
  /-- What it waits for. -/
  stage : JoiningNode.Stage := .awaitKexGet
  /-- The KEX_SET that it got. -/
  kexSet : Kex.Set := {}
  /-- Its half of the temporary channel. -/
  tempChannel : Peer := {}
  /-- The key that it is about to verify. -/
  installing : KeyInstall.KeyReport := { grantedKey := 0, key := Vector.replicate 16 0 }
  /-- Its half of the channel under that key. -/
  classChannel : Peer := {}
  /-- The keys that it has installed. -/
  installed : List KeyInstall.KeyReport := []

namespace JoiningNode

/-- Its half of a channel to the controller. -/
def channel (n : JoiningNode) (classKey : Key) (personalization : Personalization) : Peer where
  config :=
    { classKey, personalization, homeId := n.homeId, ourNodeId := n.nodeId
      peerNodeId := n.controllerNodeId }

variable (ssl)

/-- A command over the temporary channel. -/
def sendEncrypted (n : JoiningNode) (inner : Bytes) (sei : EntropyInput) :
    JoiningNode × List Bytes :=
  match n.tempChannel.encrypt ssl inner sei with
  | (none, tempChannel) => ({ n with tempChannel }, [])
  | (some frame, tempChannel) => ({ n with tempChannel }, [frame])

/-- The next key is requested, or the transfer ended. -/
def requestNext (n : JoiningNode) (sei : EntropyInput) : JoiningNode × List Bytes :=
  match n.requests with
  | [] => { n with stage := .joined }.sendEncrypted ssl (KeyInstall.encodeTransferEnd false true) sei
  | bit :: requests =>
    { n with stage := .awaitKey, requests }.sendEncrypted ssl (KeyInstall.encodeKeyGet bit) sei

/-- A command of the controller over the temporary channel. -/
def receive (n : JoiningNode) (frame : Bytes) : Option Bytes × JoiningNode :=
  let (inner, tempChannel) := n.tempChannel.receive ssl frame
  (inner, { n with tempChannel })

/-- KEX_SET is answered with the public key, less the PIN if the grant asks for the DSK. -/
def onKexSet (n : JoiningNode) (kexSet : Kex.Set) : JoiningNode × List Bytes :=
  let obfuscate := if kexSet.grantedKeys &&& dskRequiredKeys ≠ 0 then PublicKey.obfuscateDsk
    else PublicKey.obfuscateNone
  ({ n with kexSet, stage := .awaitPublicKey },
    [PublicKey.encode false n.keyPair.publicKey obfuscate])

/-- The controller's public key: `nodeSideTempChannel`, and the NONCE_GET of the channel. -/
def onPublicKey (n : JoiningNode) (key : PublicKey) : JoiningNode × List Bytes :=
  match ssl.x25519 n.keyPair.privateKey key with
  | none => (n, [])
  | some shared =>
    let temp := KeyDerivation.deriveTempKeys ssl shared key n.keyPair.publicKey
    let (payload, tempChannel) := (n.channel temp.keyCcm temp.personalization).nonceGet
    ({ n with tempChannel, stage := .awaitTempNonce }, [payload])

/-- The NONCE_REPORT of the temporary channel: the KEX_SET is echoed. -/
def onTempNonce (n : JoiningNode) (report : NonceSync.Report) (sei : EntropyInput) :
    JoiningNode × List Bytes :=
  let tempChannel := n.tempChannel.acceptNonceReport report
  { n with tempChannel, stage := .awaitKexReportEcho }.sendEncrypted ssl
    (Kex.encodeSet { n.kexSet with echo := true }) sei

/-- A key came: the channel under it starts with a NONCE_GET. -/
def onKey (n : JoiningNode) (installing : KeyInstall.KeyReport) : JoiningNode × List Bytes :=
  let classKeys := KeyDerivation.networkKeyExpand ssl installing.key
  let (payload, classChannel) := (n.channel classKeys.keyCcm classKeys.personalization).nonceGet
  ({ n with installing, classChannel, stage := .awaitClassNonce }, [payload])

/-- The NONCE_REPORT of the new key's channel: NETWORK_KEY_VERIFY goes over it. -/
def onClassNonce (n : JoiningNode) (report : NonceSync.Report) (sei : EntropyInput) :
    JoiningNode × List Bytes :=
  match (n.classChannel.acceptNonceReport report).encrypt ssl KeyInstall.encodeKeyVerify sei with
  | (none, classChannel) => ({ n with classChannel }, [])
  | (some frame, classChannel) => ({ n with classChannel, stage := .awaitTransferEnd }, [frame])

/-- A frame from the controller. -/
def onFrame (n : JoiningNode) (frame : Bytes) (sei : EntropyInput) : JoiningNode × List Bytes :=
  match n.stage with
  | .awaitKexGet =>
    if frame = Kex.encodeGet then ({ n with stage := .awaitKexSet }, [Kex.encodeReport n.report])
    else (n, [])
  | .awaitKexSet =>
    match Kex.decodeSet frame with
    | none => (n, [])
    | some kexSet => n.onKexSet kexSet
  | .awaitPublicKey =>
    match PublicKey.decode frame with
    | none => (n, [])
    | some report => n.onPublicKey ssl report.key
  | .awaitTempNonce =>
    match NonceSync.decodeNonceReport frame with
    | none => (n, [])
    | some report => n.onTempNonce ssl report sei
  | .awaitKexReportEcho =>
    let (inner, n) := n.receive ssl frame
    if inner.bind Kex.decodeReport = some { n.report with echo := true } then n.requestNext ssl sei
    else (n, [])
  | .awaitKey =>
    let (inner, n) := n.receive ssl frame
    match inner.bind KeyInstall.decodeKeyReport with
    | none => (n, [])
    | some report => n.onKey ssl report
  | .awaitClassNonce =>
    match NonceSync.decodeNonceReport frame with
    | none => (n, [])
    | some report => n.onClassNonce ssl report sei
  | .awaitTransferEnd =>
    let (inner, n) := n.receive ssl frame
    match inner.bind KeyInstall.decodeTransferEnd with
    | none => (n, [])
    | some transferEnd =>
      if transferEnd.keyVerified then
        { n with installed := n.installed ++ [n.installing] }.requestNext ssl sei
      else (n, [])
  | .joined => (n, [])

/-- The NONCE_GET of the temporary channel once more, while the report is awaited. -/
def askAgain (n : JoiningNode) : JoiningNode × List Bytes :=
  if n.stage = .awaitTempNonce then
    let (payload, tempChannel) := n.tempChannel.nonceGet
    ({ n with tempChannel }, [payload])
  else (n, [])

end JoiningNode

end Zwaved.S2
