import Zwaved.S2.Handshake.System

/-!
# The controller in the handshake

What the bootstrap makes of each frame of a joining node that keeps to the handshake: `Shows` is
what it holds for the node, and there is one lemma for each frame, with what the controller answers
and shows then.
-/

namespace Zwaved.S2

namespace Handshake

variable (ssl : OpenSsl) (keys : Option NetworkKeys.KeySet)

/-- What the controller holds for the node: its session, the channel under the temporary key and the
one under a new key. -/
structure Shows (node : JoiningNode) (s : Bootstrap) (session : Option Session)
    (channel classChannel : Peer) : Prop where
  /-- The session. -/
  session : s.sessions node.nodeId = session
  /-- The temporary channel. -/
  channel : s.spanManager.peers node.nodeId = channel
  /-- The channel under a new key. -/
  classChannel : s.classSpanManager.peers node.nodeId = classChannel
  /-- The network is the node's. -/
  homeId : s.homeId = node.homeId
  /-- The controller is the node's. -/
  controllerNodeId : s.controllerNodeId = node.controllerNodeId

section Controller

variable {ssl keys} {keySet : NetworkKeys.KeySet} {keyPair : KeyPair} {node : JoiningNode}
  {shared : SharedSecret} {s : Bootstrap} {session : Session} {found : Option Session}
  {channel classChannel : Peer} {frame inner : Bytes} {command : UInt8} {entropy : EntropyInput}
  {p q : Peer} {installing : UInt8 × KeyDerivation.NetworkKeys}

section Shows

variable (h : Shows node s found channel classChannel)

include h

/-- A stored session is what the controller shows for the node. -/
theorem Shows.setSession (session : Session) :
    Shows node (s.setSession node.nodeId session) (some session) channel classChannel :=
  ⟨Bootstrap.sessions_setSession s _ session, h.channel, h.classChannel, h.homeId,
    h.controllerNodeId⟩

/-- With its session dropped, the controller shows none for the node. -/
theorem Shows.eraseSession :
    Shows node (s.eraseSession node.nodeId) none channel classChannel :=
  ⟨Bootstrap.sessions_eraseSession s _, h.channel, h.classChannel, h.homeId, h.controllerNodeId⟩

/-- A stored temporary channel is what the controller shows for the node. -/
theorem Shows.setChannel (p : Peer) :
    Shows node { s with spanManager := s.spanManager.set node.nodeId p } found p classChannel :=
  ⟨h.session, SpanManager.peers_set .., h.classChannel, h.homeId, h.controllerNodeId⟩

/-- A stored class channel is what the controller shows for the node, whatever else is in the
table. -/
theorem Shows.setClassChannel (m : SpanManager) (p : Peer) :
    Shows node { s with classSpanManager := m.set node.nodeId p } found channel p :=
  ⟨h.session, h.channel, SpanManager.peers_set .., h.homeId, h.controllerNodeId⟩

/-- The controller binds a frame from the node to the same context as the node's channel does. -/
theorem Shows.inboundContext (hq : q.config.peerNodeId = node.nodeId)
    (hour : q.config.ourNodeId = node.controllerNodeId) (hhome : q.config.homeId = node.homeId) :
    s.inboundContext node.nodeId frame = q.receiveContext frame := by
  unfold Bootstrap.inboundContext Peer.receiveContext
  rw [h.homeId, h.controllerNodeId, hq, hour, hhome]

/-- Over a configured channel the controller opens what the channel's half does. -/
theorem Shows.decryptInbound (installing : UInt8 × KeyDerivation.NetworkKeys) (phase : Phase)
    (hconfig : channel.config = tempConfig ssl keyPair node shared) :
    s.decryptInbound ssl node.nodeId (secured ssl keyPair node shared installing phase) frame =
      ((channel.receive ssl frame).1,
        { s with
          spanManager := s.spanManager.set node.nodeId (channel.receive ssl frame).2 }) := by
  have hkept : (channel.receiveNonce ssl frame).2.config = tempConfig ssl keyPair node shared := by
    rw [Peer.receiveNonce_eq, ← hconfig]
    exact Peer.receiveSpan_config ssl _ frame
  unfold Bootstrap.decryptInbound SpanManager.receiveNonce Peer.receive
  rw [h.channel]
  rcases hnonce : channel.receiveNonce ssl frame with ⟨_ | nonce, q⟩
  · rfl
  · rw [hnonce] at hkept
    dsimp only at hkept ⊢
    rw [h.inboundContext (q := q) (by rw [hkept]; rfl) (by rw [hkept]; rfl) (by rw [hkept]; rfl),
      hkept]
    rfl

/-- A frame from the node opens, and leaves the channel joined. -/
theorem Shows.opens (installing : UInt8 × KeyDerivation.NetworkKeys) (phase : Phase)
    (hconfig : channel.config = tempConfig ssl keyPair node shared)
    (hframe : Conveys ssl p channel inner frame) :
    ∃ s' channel', s.decryptInbound ssl node.nodeId
        (secured ssl keyPair node shared installing phase) frame = (some inner, s') ∧
      channel'.config = tempConfig ssl keyPair node shared ∧ Joined p channel' ∧
      Shows node s' found channel' classChannel := by
  refine ⟨_, (channel.receive ssl frame).2, ?_, ?_, hframe.joined, h.setChannel _⟩
  · rw [h.decryptInbound installing phase hconfig, hframe.received]
  · rw [Peer.receive_snd, Peer.receiveNonce_eq, ← hconfig]
    exact Peer.receiveSpan_config ssl channel frame

/-- Over a joined channel an answer is sent, and it arrives. -/
theorem Shows.answers (hccm : ssl.CcmInverse) (hjoined : Joined p channel) (inner : Bytes)
    (entropy : EntropyInput) :
    ∃ s' channel' frame, s.sendEncrypted ssl node.nodeId inner entropy =
        (s', [.sendEncrypted node.nodeId inner frame]) ∧
      channel'.config = channel.config ∧ Conveys ssl channel' p inner frame ∧
      Shows node s' found channel' classChannel := by
  obtain ⟨frame, hsend, hcarries⟩ := hjoined.symm.conveys_next hccm inner entropy
  refine ⟨_, _, frame, ?_, Peer.encrypt_config ssl channel inner entropy, hcarries,
    h.setChannel (channel.encrypt ssl inner entropy).2⟩
  unfold Bootstrap.sendEncrypted SpanManager.encrypt
  rw [h.channel]
  rcases hresult : channel.encrypt ssl inner entropy with ⟨_ | sent, p⟩
  · rw [hresult] at hsend
    cases hsend
  · rw [hresult] at hsend
    obtain rfl := Option.some.inj hsend
    rfl

end Shows

/-- A command from the node with a session goes to the handler of that session's phase. -/
theorem Shows.step_command (h : Shows node s (some session) channel classChannel)
    (hcommand : commandByte frame = some command) :
    s.step ssl keys (.applicationCommand node.nodeId frame entropy) =
      s.onSessionCommand ssl keys node.nodeId session frame entropy command := by
  unfold Bootstrap.step Bootstrap.onApplicationCommand
  dsimp only
  rw [h.session]
  dsimp only
  rw [hcommand]

/-- A frame that a channel opens is a MESSAGE_ENCAPSULATION. -/
theorem commandByte_of_receive (h : (q.receive ssl frame).1 = some inner) :
    commandByte frame = some Encapsulation.messageEncapsulation := by
  unfold Peer.receive at h
  rcases hnonce : q.receiveNonce ssl frame with ⟨_ | nonce, q'⟩
  · rw [hnonce] at h
    cases h
  · rw [hnonce] at h
    dsimp only at h
    rw [Encapsulation.decrypt_eq_authenticated] at h
    obtain ⟨⟨aad, cipher⟩, hcut, -⟩ := Option.bind_eq_some_iff.mp h
    obtain ⟨sequenceNumber, props, extensions, rfl, -⟩ :=
      Encapsulation.authenticated_eq_some_iff.mp hcut
    exact Bootstrap.commandByte_of_header (by simp) rfl

variable (keys entropy) in
/-- A KEX_REPORT that grants something is answered with the KEX_SET of the grant, and the controller
awaits the public key. -/
theorem Shows.kexReport (h : Shows node s (some { keyPair }) channel classChannel)
    (hgranted : granted node ≠ 0) :
    ∃ s', s.step ssl keys (.applicationCommand node.nodeId (Kex.encodeReport node.report) entropy) =
        (s', [.sendPlaintext node.nodeId
          (Kex.encodeSet (Bootstrap.kexSetFor (granted node)))]) ∧
      Shows node s' (some (negotiated keyPair node)) channel classChannel := by
  have hcommand : commandByte (Kex.encodeReport node.report) = some Kex.kexReport :=
    Bootstrap.commandByte_of_header (by simp [Kex.encodeReport]) rfl
  refine ⟨_, ?_, h.setSession _⟩
  rw [h.step_command hcommand]
  unfold Bootstrap.onSessionCommand
  dsimp only
  rw [if_pos rfl]
  unfold Bootstrap.onKexReport
  rw [Kex.decodeReport_encodeReport]
  exact if_neg hgranted

/-- Blanking nothing of a key leaves it. -/
theorem blanked_none (key : PublicKey) : PublicKey.blanked key PublicKey.obfuscateNone = key := by
  ext i hi
  simp [PublicKey.blanked, PublicKey.obfuscateNone]

/-- With the key of the device, the key agreement is reported complete, with a temporary channel
under the shared secret, and the controller awaits its NONCE_GET. -/
theorem Shows.finishKeyAgreement (h : Shows node s found channel classChannel)
    (hours : ssl.x25519 keyPair.privateKey node.keyPair.publicKey = some shared) (phase : Phase) :
    ∃ s' channel', s.finishKeyAgreement ssl node.nodeId
        { negotiated keyPair node with nodePublicKey := node.keyPair.publicKey, phase } =
          (s', [.s2KeyAgreementComplete node.nodeId]) ∧
      channel'.config = tempConfig ssl keyPair node shared ∧
      Shows node s' (some (secured ssl keyPair node shared
        ((negotiated keyPair node).installingKeyBit, (negotiated keyPair node).installingClassKeys)
        .awaitTempChannel)) channel' classChannel := by
  refine ⟨_, { channel with config := tempConfig ssl keyPair node shared }, ?_, rfl,
    (h.setSession _).setChannel _⟩
  unfold Bootstrap.finishKeyAgreement
  dsimp only [negotiated]
  rw [hours]
  dsimp only [Bootstrap.setSession, SpanManager.configurePeer]
  rw [h.channel, h.homeId, h.controllerNodeId]
  rfl

variable (keys entropy) in
/-- The node's key is answered with the controller's; where the grant asks for the DSK, the operator
is asked, and otherwise the temporary keys are there. -/
theorem Shows.publicKey (h : Shows node s (some (negotiated keyPair node)) channel classChannel)
    (hours : ssl.x25519 keyPair.privateKey node.keyPair.publicKey = some shared) :
    ∃ s' outputs channel' installing,
      s.step ssl keys (.applicationCommand node.nodeId (nodeKey node) entropy) =
        (s', .sendPlaintext node.nodeId (controllerKey keyPair) :: outputs) ∧
      (∀ out ∈ outputs, out.frameFor node.nodeId = none ∧ out.recordsFor node.nodeId = false) ∧
      ((granted node &&& dskRequiredKeys ≠ 0 ∧
          Shows node s' (some (parked keyPair node)) channel' classChannel) ∨
        (channel'.config = tempConfig ssl keyPair node shared ∧
          Shows node s' (some (secured ssl keyPair node shared installing .awaitTempChannel))
            channel' classChannel)) := by
  -- The report is the frame that the session's phase waits for.
  have hcommand : commandByte (nodeKey node) = some PublicKey.publicKeyReport :=
    Bootstrap.commandByte_of_header (by simp [nodeKey, PublicKey.encode]) rfl
  rw [h.step_command hcommand]
  unfold Bootstrap.onSessionCommand
  dsimp only [negotiated]
  rw [if_pos rfl]
  unfold Bootstrap.onPublicKeyReport nodeKey
  rw [PublicKey.decode_encode]
  dsimp only
  -- A class that has to be authenticated blanks the first two bytes, and the operator is asked.
  by_cases hdsk : granted node &&& dskRequiredKeys ≠ 0
  · rw [if_pos hdsk, if_pos hdsk]
    refine ⟨_, _, channel, (0, (negotiated keyPair node).installingClassKeys), rfl, ?_,
      Or.inl ⟨hdsk, h.setSession _⟩⟩
    intro out hout
    obtain rfl := List.mem_singleton.mp hout
    exact ⟨rfl, rfl⟩
  -- Otherwise the key is the whole one, and the agreement is finished at once.
  · obtain ⟨s', channel', hfinish, hconfig, hshows⟩ :=
      h.finishKeyAgreement hours (negotiated keyPair node).phase
    rw [if_neg hdsk, if_neg hdsk, blanked_none]
    dsimp only [negotiated] at hfinish
    rw [hfinish]
    refine ⟨_, _, channel', _, rfl, ?_, Or.inr ⟨hconfig, hshows⟩⟩
    intro out hout
    obtain rfl := List.mem_singleton.mp hout
    exact ⟨rfl, rfl⟩

variable (keys) in
/-- The PIN of the label restores the key of the device. -/
theorem Shows.confirmDsk (h : Shows node s (some (parked keyPair node)) channel classChannel)
    (hours : ssl.x25519 keyPair.privateKey node.keyPair.publicKey = some shared) {pin : Bytes}
    (hpin : PublicKey.parsePin pin = some (PublicKey.groupValue node.keyPair.publicKey 0)) :
    ∃ s' outputs channel' installing,
      s.step ssl keys (.confirmDsk node.nodeId pin) = (s', outputs) ∧
      (∀ out ∈ outputs, out.frameFor node.nodeId = none ∧ out.recordsFor node.nodeId = false) ∧
      channel'.config = tempConfig ssl keyPair node shared ∧
      Shows node s' (some (secured ssl keyPair node shared installing .awaitTempChannel))
        channel' classChannel := by
  -- The PIN puts the blanked bytes back, so that the key is the node's own.
  obtain ⟨s', channel', hfinish, hconfig, hshows⟩ := h.finishKeyAgreement hours .awaitDsk
  refine ⟨s', [.dskPendingConfirmation 0 "", .s2KeyAgreementComplete node.nodeId], channel', _,
    ?_, ?_, hconfig, hshows⟩
  · unfold Bootstrap.step Bootstrap.onConfirmDsk
    dsimp only
    rw [h.session]
    have hphase : (parked keyPair node).phase = .awaitDsk := rfl
    dsimp only
    -- The session is parked for this key, and the PIN is well formed.
    rw [if_neg (not_not.mpr hphase), hpin]
    dsimp only [parked]
    rw [PublicKey.applyPin_blanked]
    dsimp only [negotiated] at hfinish ⊢
    rw [hfinish]
  · intro out hout
    simp only [List.mem_cons, List.not_mem_nil, or_false] at hout
    rcases hout with rfl | rfl
    · exact ⟨rfl, rfl⟩
    · exact ⟨rfl, rfl⟩

/-- In any other phase, and with a text that is no PIN, nothing happens. -/
theorem Shows.confirmDsk_ignored (h : Shows node s found channel classChannel) {pin : Bytes}
    (hignored : PublicKey.parsePin pin = none ∨
      ∀ session, found = some session → session.phase ≠ .awaitDsk) :
    s.step ssl keys (.confirmDsk node.nodeId pin) = (s, []) := by
  unfold Bootstrap.step Bootstrap.onConfirmDsk
  dsimp only
  rw [h.session]
  cases found with
  | none => rfl
  | some session =>
    dsimp only
    by_cases hphase : session.phase = .awaitDsk
    · rw [if_neg (not_not.mpr hphase)]
      rcases hignored with hpin | hother
      · rw [hpin]
      · exact absurd hphase (hother session rfl)
    · rw [if_pos hphase]

/-- The command byte of a NONCE_GET is that of NONCE_GET. -/
theorem commandByte_nonceGet (sequenceNumber : UInt8) :
    commandByte (NonceSync.encodeNonceGet sequenceNumber) = some NonceSync.nonceGetCommand :=
  Bootstrap.commandByte_of_header (by simp [NonceSync.encodeNonceGet]) rfl

/-- While the operator or the echo is awaited, a NONCE_GET is passed over. -/
theorem Shows.nonceGet_ignored (h : Shows node s (some session) channel classChannel)
    (hphase : session.phase = .awaitDsk ∨ session.phase = .awaitKexSetEcho)
    (sequenceNumber : UInt8) :
    s.step ssl keys (.applicationCommand node.nodeId (NonceSync.encodeNonceGet sequenceNumber)
      entropy) = (s, []) := by
  rw [h.step_command (commandByte_nonceGet sequenceNumber)]
  unfold Bootstrap.onSessionCommand
  rcases hphase with hphase | hphase
  · rw [hphase]
  · rw [hphase]
    exact if_neg (by decide)

variable (keys entropy) in
/-- A NONCE_GET on the temporary channel is answered in plaintext with the controller's entropy, and
the controller awaits the echoed KEX_SET. -/
theorem Shows.tempNonceGet (h : Shows node s
      (some (secured ssl keyPair node shared installing .awaitTempChannel)) channel classChannel)
    (sequenceNumber : UInt8) :
    ∃ s', s.step ssl keys (.applicationCommand node.nodeId
        (NonceSync.encodeNonceGet sequenceNumber) entropy) =
        (s', [.sendPlaintext node.nodeId (nonceReport channel.txSequence entropy)]) ∧
      Shows node s' (some (secured ssl keyPair node shared installing .awaitKexSetEcho))
        (channel.respondToNonceGet entropy).2 classChannel := by
  refine ⟨_, ?_, (h.setChannel _).setSession _⟩
  rw [h.step_command (commandByte_nonceGet sequenceNumber)]
  unfold Bootstrap.onSessionCommand
  dsimp only [secured]
  rw [if_pos rfl]
  unfold Bootstrap.onTempNonceGet SpanManager.respondToNonceGet
  rw [h.channel]
  rfl

variable (keys entropy) in
/-- A NONCE_GET for the channel under a new key is answered in plaintext, and the controller awaits
the verify over a channel that starts from its answer. -/
theorem Shows.classNonceGet {bit : UInt8} (h : Shows node s
      (some (secured ssl keyPair node shared
        (bit, KeyDerivation.networkKeyExpand ssl (keyFor keySet bit).key) .awaitClassNonceGet))
      channel classChannel) (sequenceNumber : UInt8) :
    ∃ s' classChannel', s.step ssl keys (.applicationCommand node.nodeId
        (NonceSync.encodeNonceGet sequenceNumber) entropy) =
        (s', [.sendPlaintext node.nodeId (nonceReport 0 entropy)]) ∧
      classChannel'.config = classConfig ssl keySet node bit ∧
      classChannel'.ourRei = some entropy ∧
      Shows node s' (some (secured ssl keyPair node shared
          (bit, KeyDerivation.networkKeyExpand ssl (keyFor keySet bit).key) .awaitKeyVerify))
        channel classChannel' := by
  -- The channel is a new one, for this key only, and it answers with its REI.
  refine ⟨_, (({ config := classConfig ssl keySet node bit } : Peer).respondToNonceGet entropy).2,
    ?_, rfl, rfl, (h.setClassChannel
      (({} : SpanManager).configurePeer node.nodeId (classConfig ssl keySet node bit)) _).setSession
        _⟩
  rw [h.step_command (commandByte_nonceGet sequenceNumber)]
  unfold Bootstrap.onSessionCommand
  dsimp only [secured]
  rw [if_pos rfl]
  unfold Bootstrap.onClassNonceGet SpanManager.respondToNonceGet SpanManager.configurePeer
  dsimp only
  -- The channel has the addresses of the network that the node is included in.
  rw [SpanManager.peers_set, h.homeId, h.controllerNodeId]
  rfl

variable (keys entropy) in
/-- The echo of the KEX_SET is answered with that of the KEX_REPORT. -/
theorem Shows.kexSetEcho (hccm : ssl.CcmInverse) (h : Shows node s
      (some (secured ssl keyPair node shared installing .awaitKexSetEcho)) channel classChannel)
    (hconfig : channel.config = tempConfig ssl keyPair node shared)
    (hframe : Conveys ssl p channel
      (Kex.encodeSet { Bootstrap.kexSetFor (granted node) with echo := true }) frame) :
    ∃ s' reply channel', s.step ssl keys (.applicationCommand node.nodeId frame entropy) =
        (s', [.sendEncrypted node.nodeId
          (Kex.encodeReport { node.report with echo := true }) reply]) ∧
      channel'.config = tempConfig ssl keyPair node shared ∧
      Conveys ssl channel' p (Kex.encodeReport { node.report with echo := true }) reply ∧
      Shows node s' (some (secured ssl keyPair node shared installing .awaitNetworkKeyGet))
        channel' classChannel := by
  -- The echo opens on the temporary channel, and the report of the node is echoed back on it.
  obtain ⟨s₁, channel₁, hdecrypt, hconfig₁, hjoined, h₁⟩ :=
    h.opens installing .awaitKexSetEcho hconfig hframe
  obtain ⟨s₂, channel₂, reply, hsend, hconfig₂, hcarries, h₂⟩ := h₁.answers hccm hjoined
    (Kex.encodeReport { node.report with echo := true }) entropy
  refine ⟨_, reply, channel₂, ?_, hconfig₂.trans hconfig₁, hcarries, h₂.setSession _⟩
  rw [h.step_command (commandByte_of_receive hframe.received)]
  unfold Bootstrap.onSessionCommand
  dsimp only [secured] at hdecrypt ⊢
  rw [if_pos rfl]
  unfold Bootstrap.onKexSetEcho
  rw [hdecrypt]
  dsimp only
  -- The node has said again what was granted.
  rw [if_pos ⟨_, Kex.decodeSet_encodeSet _, rfl, rfl, rfl⟩]
  dsimp only [negotiated]
  rw [hsend]

variable (entropy) in
/-- A request for a granted key is answered with the key over the temporary channel, and the
controller awaits the NONCE_GET for the channel under it. -/
theorem Shows.keyGet (hccm : ssl.CcmInverse) {bit : UInt8} (h : Shows node s
      (some (secured ssl keyPair node shared installing .awaitNetworkKeyGet)) channel classChannel)
    (hconfig : channel.config = tempConfig ssl keyPair node shared)
    (hbit : bit &&& granted node ≠ 0) (hclass : KeyInstall.classForKeyBit bit ≠ none)
    (hframe : Conveys ssl p channel (KeyInstall.encodeKeyGet bit) frame) :
    ∃ s' reply channel',
      s.step ssl (some keySet) (.applicationCommand node.nodeId frame entropy) =
        (s', [.sendEncrypted node.nodeId
          (KeyInstall.encodeKeyReport bit (keyFor keySet bit).key) reply]) ∧
      channel'.config = tempConfig ssl keyPair node shared ∧
      Conveys ssl channel' p (KeyInstall.encodeKeyReport bit (keyFor keySet bit).key) reply ∧
      Shows node s' (some (secured ssl keyPair node shared
          (bit, KeyDerivation.networkKeyExpand ssl (keyFor keySet bit).key) .awaitClassNonceGet))
        channel' classChannel := by
  -- The node asks for a key of its grant on the temporary channel, and gets it there.
  obtain ⟨s₁, channel₁, hdecrypt, hconfig₁, hjoined, h₁⟩ :=
    h.opens installing .awaitNetworkKeyGet hconfig hframe
  obtain ⟨s₂, channel₂, reply, hsend, hconfig₂, hcarries, h₂⟩ := h₁.answers hccm hjoined
    (KeyInstall.encodeKeyReport bit (keyFor keySet bit).key) entropy
  -- The keys are loaded, and this class has one.
  have hkey : classKeyForBit (some keySet) bit = some (keyFor keySet bit).key := by
    obtain ⟨cls, hcls⟩ := Option.ne_none_iff_exists'.mp hclass
    unfold keyFor classKeyForBit
    rw [hcls]
    rfl
  have hinner : commandByte (KeyInstall.encodeKeyGet bit) = some KeyInstall.networkKeyGet :=
    Bootstrap.commandByte_of_decodeKeyGet (KeyInstall.decodeKeyGet_encodeKeyGet bit)
  refine ⟨_, reply, channel₂, ?_, hconfig₂.trans hconfig₁, hcarries, h₂.setSession _⟩
  rw [h.step_command (commandByte_of_receive hframe.received)]
  unfold Bootstrap.onSessionCommand
  dsimp only [secured] at hdecrypt ⊢
  rw [if_pos rfl]
  unfold Bootstrap.onTempChannelKeyExchange
  rw [hdecrypt]
  dsimp only
  rw [hinner, if_neg (by decide), if_pos rfl, KeyInstall.decodeKeyGet_encodeKeyGet]
  dsimp only
  unfold Bootstrap.onKeyGet
  -- The bit is one that was granted.
  refine (if_neg hbit).trans ?_
  rw [hkey]
  dsimp only
  rw [hsend]

variable (keys entropy) in
/-- A verify that opens is answered with TRANSFER_END over the temporary channel. -/
theorem Shows.keyVerify (hccm : ssl.CcmInverse) {bit : UInt8} {n : Peer} (h : Shows node s
      (some (secured ssl keyPair node shared
        (bit, KeyDerivation.networkKeyExpand ssl (keyFor keySet bit).key) .awaitKeyVerify))
      channel classChannel)
    (hconfig : channel.config = tempConfig ssl keyPair node shared) (hjoined : Joined n channel)
    (hclassConfig : classChannel.config = classConfig ssl keySet node bit)
    (hframe : Conveys ssl p classChannel KeyInstall.encodeKeyVerify frame) :
    ∃ s' reply channel' classChannel',
      s.step ssl keys (.applicationCommand node.nodeId frame entropy) =
        (s', [.sendEncrypted node.nodeId (KeyInstall.encodeTransferEnd true false) reply]) ∧
      channel'.config = tempConfig ssl keyPair node shared ∧
      Conveys ssl channel' n (KeyInstall.encodeTransferEnd true false) reply ∧
      Shows node s' (some (secured ssl keyPair node shared
          (bit, KeyDerivation.networkKeyExpand ssl (keyFor keySet bit).key) .awaitNetworkKeyGet))
        channel' classChannel' := by
  have h₁ := h.setClassChannel s.classSpanManager (classChannel.receiveNonce ssl frame).2
  obtain ⟨s₂, channel₂, reply, hsend, hconfig₂, hcarries, h₂⟩ := h₁.answers hccm hjoined
    (KeyInstall.encodeTransferEnd true false) entropy
  refine ⟨_, reply, channel₂, _, ?_, hconfig₂.trans hconfig, hcarries, h₂.setSession _⟩
  have hkept : (classChannel.receiveNonce ssl frame).2.config =
      classConfig ssl keySet node bit := by
    rw [Peer.receiveNonce_eq, ← hclassConfig]
    exact Peer.receiveSpan_config ssl _ frame
  have hreceived := hframe.received
  rw [h.step_command (commandByte_of_receive hreceived)]
  unfold Bootstrap.onSessionCommand
  dsimp only [secured]
  rw [if_pos rfl]
  unfold Bootstrap.onKeyVerify SpanManager.receiveNonce
  rw [h.classChannel]
  unfold Peer.receive at hreceived
  rcases hnonce : classChannel.receiveNonce ssl frame with ⟨_ | nonce, q⟩
  · rw [hnonce] at hreceived
    cases hreceived
  · rw [hnonce] at hreceived hkept hsend
    dsimp only at hreceived hkept hsend ⊢
    -- The context and the key are those of the channel's half.
    have hkey : (KeyDerivation.networkKeyExpand ssl (keyFor keySet bit).key).keyCcm =
        q.config.classKey := by
      rw [hkept]
      rfl
    rw [h.inboundContext (q := q) (by rw [hkept]; rfl) (by rw [hkept]; rfl) (by rw [hkept]; rfl),
      hkey, hreceived]
    dsimp only
    rw [hsend]

/-- What is recorded at the end. -/
def recorded (node : JoiningNode) : List BootstrapOutput :=
  [.setSecurityScheme node.nodeId (schemeFor (granted node)),
    .nodeSecurityStatus node.nodeId (schemeFor (granted node))]

variable (keys entropy) in
/-- The end of the requests records the granted class and ends the session. -/
theorem Shows.requestComplete (h : Shows node s
      (some (secured ssl keyPair node shared installing .awaitNetworkKeyGet)) channel classChannel)
    (hconfig : channel.config = tempConfig ssl keyPair node shared)
    (hframe : Conveys ssl p channel (KeyInstall.encodeTransferEnd false true) frame) :
    ∃ s' channel', s.step ssl keys (.applicationCommand node.nodeId frame entropy) =
        (s', recorded node) ∧ Shows node s' none channel' classChannel := by
  obtain ⟨s₁, channel₁, hdecrypt, -, -, h₁⟩ :=
    h.opens installing .awaitNetworkKeyGet hconfig hframe
  refine ⟨_, channel₁, ?_, h₁.eraseSession⟩
  rw [h.step_command (commandByte_of_receive hframe.received)]
  unfold Bootstrap.onSessionCommand
  dsimp only [secured] at hdecrypt ⊢
  rw [if_pos rfl]
  unfold Bootstrap.onTempChannelKeyExchange
  rw [hdecrypt]
  dsimp only
  have hinner : commandByte (KeyInstall.encodeTransferEnd false true) =
      some KeyInstall.transferEnd := by decide
  rw [if_pos hinner, KeyInstall.decodeTransferEnd_encodeTransferEnd]
  rfl

end Controller

end Handshake

end Zwaved.S2
