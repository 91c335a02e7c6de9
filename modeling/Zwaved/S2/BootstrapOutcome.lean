import Zwaved.S2.Bootstrap

/-!
# What one event does to a session

`Outcome` lists everything that one event can do to the session of the node it is about: what the
handler has checked, the session after it and what is put out. There is one lemma for each handler,
and `applicationCommand_outcome` and `onConfirmDsk_outcome` say that the list is complete. The
safety proofs go by cases on an outcome and never unfold a handler.
-/

namespace Zwaved.S2

/-- How far the handshake is in a phase. -/
def Phase.rank : Phase → ℕ
  | awaitKexReport => 0
  | awaitPublicKey => 1
  | awaitDsk => 2
  | awaitTempChannel => 3
  | awaitKexSetEcho => 4
  | awaitNetworkKeyGet => 5
  | awaitClassNonceGet => 6
  | awaitKeyVerify => 7

namespace Bootstrap

variable (ssl : OpenSsl) (keys : Option NetworkKeys.KeySet)

/-- An output that releases no key and records no scheme, and is an S2 frame if it is one. -/
def Harmless : BootstrapOutput → Prop
  | .sendPlaintext _ payload =>
    payload.byte 0 = securityTwo ∧ payload.byte 1 ≠ KeyInstall.networkKeyReport
  | .sendEncrypted _ inner frame =>
    frame.byte 0 = securityTwo ∧ inner.byte 1 ≠ KeyInstall.networkKeyReport
  | .dskPendingConfirmation _ _ => True
  | .s2KeyAgreementComplete _ => True
  | .setSecurityScheme _ _ => False
  | .nodeSecurityStatus _ _ => False

instance : DecidablePred Harmless
  | .sendPlaintext _ _ | .sendEncrypted _ _ _ => inferInstanceAs (Decidable (_ ∧ _))
  | .dskPendingConfirmation _ _ | .s2KeyAgreementComplete _ => inferInstanceAs (Decidable True)
  | .setSecurityScheme _ _ | .nodeSecurityStatus _ _ => inferInstanceAs (Decidable False)

/-- `inner` to the node, in a frame under the key of its temporary channel. -/
def Sealed (s : Bootstrap) (nodeId : NodeId) (inner : Bytes) (out : BootstrapOutput) : Prop :=
  ∃ context nonce extensions, out = .sendEncrypted nodeId inner
    (Encapsulation.encrypt ssl inner context (s.spanManager.peers nodeId).config.classKey nonce
      extensions)

/-- The temporary keys that the two ends of a session agree on. -/
def AgreedKeys (keyPair : KeyPair) (nodePublicKey : PublicKey)
    (tempKeys : KeyDerivation.TempKeys) : Prop :=
  ∃ shared, ssl.x25519 keyPair.privateKey nodePublicKey = some shared ∧
    tempKeys = KeyDerivation.deriveTempKeys ssl shared keyPair.publicKey nodePublicKey

/-- What an inbound frame opens to over the temporary channel, under `key`. -/
def opened (s : Bootstrap) (nodeId : NodeId) (key : Key) (frame : Bytes) : Option Bytes :=
  (s.spanManager.receiveNonce ssl nodeId frame).1.bind fun nonce =>
    Encapsulation.decrypt ssl frame (s.inboundContext nodeId frame) key nonce

/-- What an inbound frame opens to over the channel under the new class key. -/
def openedClass (s : Bootstrap) (nodeId : NodeId) (key : Key) (frame : Bytes) : Option Bytes :=
  (s.classSpanManager.receiveNonce ssl nodeId frame).1.bind fun nonce =>
    Encapsulation.decrypt ssl frame (s.inboundContext nodeId frame) key nonce

/-- What an event about `nodeId` does to its session: the session after, if any, and the outputs. -/
inductive Outcome (s : Bootstrap) (nodeId : NodeId) (session : Session) :
    BootstrapEvent → Option Session → List BootstrapOutput → Prop
  /-- Nothing. -/
  | stays (e : BootstrapEvent) : Outcome s nodeId session e (some session) []
  /-- The handshake fails. -/
  | fails (e : BootstrapEvent) {outputs : List BootstrapOutput}
    (harmless : ∀ out ∈ outputs, Harmless out) : Outcome s nodeId session e none outputs
  /-- KEX_REPORT: the classes are granted. -/
  | granted {ccData : Bytes} (entropy : EntropyInput) {report : Kex.Report}
    (phase : session.phase = .awaitKexReport) (decoded : Kex.decodeReport ccData = some report) :
    Outcome s nodeId session (.applicationCommand nodeId ccData entropy)
      (some { session with
        grantedKeys := Kex.grantKeys report controllerSupportedKeys
        receivedKexReport := report
        sentKexSet := kexSetFor (Kex.grantKeys report controllerSupportedKeys)
        phase := .awaitPublicKey })
      [.sendPlaintext nodeId
        (Kex.encodeSet (kexSetFor (Kex.grantKeys report controllerSupportedKeys)))]
  /-- PUBLIC_KEY_REPORT, for a grant that needs the DSK. -/
  | parked {ccData : Bytes} (entropy : EntropyInput) {report : PublicKey.Report}
    {outputs : List BootstrapOutput} (phase : session.phase = .awaitPublicKey)
    (decoded : PublicKey.decode ccData = some report)
    (harmless : ∀ out ∈ outputs, Harmless out) :
    Outcome s nodeId session (.applicationCommand nodeId ccData entropy)
      (some { session with nodePublicKey := report.key, phase := .awaitDsk }) outputs
  /-- PUBLIC_KEY_REPORT, for a grant that does not: the temporary keys are derived. -/
  | agreed {ccData : Bytes} (entropy : EntropyInput) {report : PublicKey.Report}
    {tempKeys : KeyDerivation.TempKeys} {outputs : List BootstrapOutput}
    (phase : session.phase = .awaitPublicKey)
    (open_ : session.grantedKeys &&& dskRequiredKeys = 0)
    (decoded : PublicKey.decode ccData = some report)
    (keys : AgreedKeys ssl session.keyPair report.key tempKeys)
    (harmless : ∀ out ∈ outputs, Harmless out) :
    Outcome s nodeId session (.applicationCommand nodeId ccData entropy)
      (some { session with nodePublicKey := report.key, tempKeys, phase := .awaitTempChannel })
      outputs
  /-- ConfirmDsk with a well-formed PIN: the temporary keys are derived. -/
  | confirmed {pin : Bytes} {value : ℕ} {tempKeys : KeyDerivation.TempKeys}
    {outputs : List BootstrapOutput} (phase : session.phase = .awaitDsk)
    (parsed : PublicKey.parsePin pin = some value)
    (keys : AgreedKeys ssl session.keyPair (PublicKey.applyPin session.nodePublicKey value) tempKeys)
    (harmless : ∀ out ∈ outputs, Harmless out) :
    Outcome s nodeId session (.confirmDsk nodeId pin)
      (some { session with
        nodePublicKey := PublicKey.applyPin session.nodePublicKey value
        tempKeys
        phase := .awaitTempChannel }) outputs
  /-- NONCE_GET for the temporary channel. -/
  | tempNonce (ccData : Bytes) (entropy : EntropyInput) {outputs : List BootstrapOutput}
    (phase : session.phase = .awaitTempChannel) (harmless : ∀ out ∈ outputs, Harmless out) :
    Outcome s nodeId session (.applicationCommand nodeId ccData entropy)
      (some { session with phase := .awaitKexSetEcho }) outputs
  /-- The echo of KEX_SET. -/
  | echoed {ccData inner : Bytes} (entropy : EntropyInput) {outputs : List BootstrapOutput}
    (phase : session.phase = .awaitKexSetEcho)
    (opens : s.opened ssl nodeId session.tempKeys.keyCcm ccData = some inner)
    (matches_ : EchoMatches inner session.sentKexSet)
    (harmless : ∀ out ∈ outputs, Harmless out) :
    Outcome s nodeId session (.applicationCommand nodeId ccData entropy)
      (some { session with phase := .awaitNetworkKeyGet }) outputs
  /-- NETWORK_KEY_GET: a key is transferred. -/
  | transferred {ccData inner : Bytes} (entropy : EntropyInput) {bit : UInt8} {key : Key}
    {out : BootstrapOutput} (phase : session.phase = .awaitNetworkKeyGet)
    (opens : s.opened ssl nodeId session.tempKeys.keyCcm ccData = some inner)
    (decoded : KeyInstall.decodeKeyGet inner = some bit)
    (grantedBit : bit &&& session.grantedKeys ≠ 0) (classKey : classKeyForBit keys bit = some key)
    (sent : Sealed ssl s nodeId (KeyInstall.encodeKeyReport bit key) out) :
    Outcome s nodeId session (.applicationCommand nodeId ccData entropy)
      (some { session with
        installingKeyBit := bit
        installingClassKeys := KeyDerivation.networkKeyExpand ssl key
        phase := .awaitClassNonceGet }) [out]
  /-- NONCE_GET for the channel under the new key. -/
  | classNonce (ccData : Bytes) (entropy : EntropyInput) {outputs : List BootstrapOutput}
    (phase : session.phase = .awaitClassNonceGet) (harmless : ∀ out ∈ outputs, Harmless out) :
    Outcome s nodeId session (.applicationCommand nodeId ccData entropy)
      (some { session with phase := .awaitKeyVerify }) outputs
  /-- A frame opens under the new key. -/
  | verified {ccData inner : Bytes} (entropy : EntropyInput) {outputs : List BootstrapOutput}
    (phase : session.phase = .awaitKeyVerify)
    (opens : s.openedClass ssl nodeId session.installingClassKeys.keyCcm ccData = some inner)
    (harmless : ∀ out ∈ outputs, Harmless out) :
    Outcome s nodeId session (.applicationCommand nodeId ccData entropy)
      (some { session with phase := .awaitNetworkKeyGet }) outputs
  /-- The final TRANSFER_END: the node is recorded. -/
  | completed {ccData inner : Bytes} (entropy : EntropyInput) {transferEnd : KeyInstall.TransferEnd}
    (phase : session.phase = .awaitNetworkKeyGet)
    (opens : s.opened ssl nodeId session.tempKeys.keyCcm ccData = some inner)
    (decoded : KeyInstall.decodeTransferEnd inner = some transferEnd)
    (complete : transferEnd.keyRequestComplete = true) :
    Outcome s nodeId session (.applicationCommand nodeId ccData entropy) none
      [.setSecurityScheme nodeId (schemeFor session.grantedKeys),
        .nodeSecurityStatus nodeId (schemeFor session.grantedKeys)]

/-! ## The channel operations -/

/-- Two states with the same sessions and the same configurations of the temporary channels. -/
structure SameSessions (s s' : Bootstrap) : Prop where
  /-- The sessions are the same. -/
  sessions : s'.sessions = s.sessions
  /-- The configurations are the same. -/
  config : ∀ node, (s'.spanManager.peers node).config = (s.spanManager.peers node).config

/-- Keeping the sessions and the configurations is transitive. -/
theorem SameSessions.trans {s₁ s₂ s₃ : Bootstrap} (h : SameSessions s₁ s₂)
    (h' : SameSessions s₂ s₃) : SameSessions s₁ s₃ :=
  ⟨h'.sessions.trans h.sessions, fun node => (h'.config node).trans (h.config node)⟩

/-- `sendEncrypted` touches the channel only, and what it sends is under its key. -/
theorem sendEncrypted_spec (s : Bootstrap) (nodeId : NodeId) (inner : Bytes) (sei : EntropyInput) :
    SameSessions s (s.sendEncrypted ssl nodeId inner sei).1 ∧
      ∀ out ∈ (s.sendEncrypted ssl nodeId inner sei).2, Sealed ssl s nodeId inner out := by
  have hconfig := Peer.encrypt_config ssl (s.spanManager.peers nodeId) inner sei
  unfold sendEncrypted SpanManager.encrypt
  -- Without a SPAN nothing is sent.
  rcases hsend : (s.spanManager.peers nodeId).encrypt ssl inner sei with ⟨_ | frame, p⟩
  · rw [hsend] at hconfig
    refine ⟨⟨rfl, SpanManager.peers_set_config _ hconfig⟩, fun out hout => ?_⟩
    cases hout
  · rw [hsend] at hconfig
    obtain ⟨context, nonce, extensions, hframe⟩ := Peer.encrypt_frame ssl hsend
    refine ⟨⟨rfl, SpanManager.peers_set_config _ hconfig⟩, fun out hout => ?_⟩
    exact ⟨context, nonce, extensions, by rw [List.mem_singleton.mp hout, hframe]⟩

/-- With a SPAN, `sendEncrypted` does send. -/
theorem sendEncrypted_of_span {s : Bootstrap} {nodeId : NodeId}
    (hspan : (s.spanManager.peers nodeId).span ≠ none) (inner : Bytes) (sei : EntropyInput) :
    ∃ out, (s.sendEncrypted ssl nodeId inner sei).2 = [out] := by
  obtain ⟨span, hspan⟩ := Option.ne_none_iff_exists'.mp hspan
  unfold sendEncrypted SpanManager.encrypt Peer.encrypt Peer.sendSpan
  rw [hspan]
  exact ⟨_, rfl⟩

/-- `receiveNonce` keeps every configuration. -/
theorem receiveNonce_config (m : SpanManager) (nodeId : NodeId) (frame : Bytes) (other : NodeId) :
    ((m.receiveNonce ssl nodeId frame).2.peers other).config = (m.peers other).config := by
  have hpeer : ((m.peers nodeId).receiveNonce ssl frame).2.config = (m.peers nodeId).config := by
    rw [Peer.receiveNonce_eq]
    exact Peer.receiveSpan_config ssl _ frame
  exact SpanManager.peers_set_config m hpeer other

/-- `decryptInbound` opens the frame under the session's key and touches the channel only. A frame
that opens leaves a SPAN behind. -/
theorem decryptInbound_spec (s : Bootstrap) (nodeId : NodeId) (session : Session) (frame : Bytes) :
    (s.decryptInbound ssl nodeId session frame).1 =
        s.opened ssl nodeId session.tempKeys.keyCcm frame ∧
      SameSessions s (s.decryptInbound ssl nodeId session frame).2 ∧
      ((s.decryptInbound ssl nodeId session frame).1 ≠ none →
        ((s.decryptInbound ssl nodeId session frame).2.spanManager.peers nodeId).span ≠ none) := by
  have hconfig := receiveNonce_config ssl s.spanManager nodeId frame
  have hspan := Peer.span_of_receiveNonce ssl (s.spanManager.peers nodeId) frame
  unfold decryptInbound opened
  unfold SpanManager.receiveNonce at hconfig ⊢
  rcases hnonce : (s.spanManager.peers nodeId).receiveNonce ssl frame with ⟨_ | nonce, p⟩
  · rw [hnonce] at hconfig
    exact ⟨rfl, ⟨rfl, hconfig⟩, fun h => absurd rfl h⟩
  · rw [hnonce] at hconfig hspan
    -- The nonce was drawn from a SPAN, and that is still there.
    refine ⟨rfl, ⟨rfl, hconfig⟩, fun _ => ?_⟩
    dsimp only
    rw [SpanManager.peers_set]
    exact hspan (Option.some_ne_none nonce)

variable {ssl} in
/-- What is sent encrypted is harmless unless it is a key report. -/
theorem Sealed.harmless {s : Bootstrap} {nodeId : NodeId} {inner : Bytes}
    {outputs : List BootstrapOutput} (h : ∀ out ∈ outputs, Sealed ssl s nodeId inner out)
    (hinner : inner.byte 1 ≠ KeyInstall.networkKeyReport) : ∀ out ∈ outputs, Harmless out := by
  intro out hout
  obtain ⟨context, nonce, extensions, rfl⟩ := h out hout
  exact ⟨rfl, hinner⟩

variable {ssl} in
/-- The key of a channel does not depend on more than its configuration. -/
theorem Sealed.of_same {s s' : Bootstrap} (hsame : SameSessions s s') {nodeId : NodeId}
    {inner : Bytes} {out : BootstrapOutput} (h : Sealed ssl s' nodeId inner out) :
    Sealed ssl s nodeId inner out := by
  unfold Sealed at h ⊢
  rwa [hsame.config nodeId] at h

/-- A session that is stored is the node's session. -/
@[simp] theorem sessions_setSession (s : Bootstrap) (nodeId : NodeId) (session : Session) :
    (s.setSession nodeId session).sessions nodeId = some session := Function.update_self ..

/-- A node whose session is dropped has none. -/
@[simp] theorem sessions_eraseSession (s : Bootstrap) (nodeId : NodeId) :
    (s.eraseSession nodeId).sessions nodeId = none := Function.update_self ..

/-! ## One lemma for each handler -/

section Handlers

variable {ssl keys} {s : Bootstrap} {nodeId : NodeId} {session : Session} {ccData : Bytes}
  {entropy : EntropyInput}

/-- A handler that leaves the session and puts nothing out has the outcome of a session that
stays. -/
theorem Outcome.of_stays (hs : s.sessions nodeId = some session) (e : BootstrapEvent) :
    Outcome ssl keys s nodeId session e (s.sessions nodeId) [] := by
  rw [hs]
  exact .stays e

/-- A single plaintext of a command that is not a key report. -/
theorem harmless_plaintext (nodeId : NodeId) {payload : Bytes} (command : UInt8)
    (hclass : payload.byte 0 = securityTwo) (hcommand : payload.byte 1 = command)
    (hne : command ≠ KeyInstall.networkKeyReport) :
    ∀ out ∈ [BootstrapOutput.sendPlaintext nodeId payload], Harmless out := by
  intro out hout
  rw [List.mem_singleton.mp hout]
  exact ⟨hclass, hcommand.trans_ne hne⟩

/-- A KEX_REPORT has one of the outcomes of `Outcome`: it is passed over, fails the handshake or is
granted. -/
theorem onKexReport_outcome (hs : s.sessions nodeId = some session)
    (hphase : session.phase = .awaitKexReport) :
    Outcome ssl keys s nodeId session (.applicationCommand nodeId ccData entropy)
      ((s.onKexReport nodeId session ccData).1.sessions nodeId)
      (s.onKexReport nodeId session ccData).2 := by
  unfold onKexReport
  cases hdecode : Kex.decodeReport ccData with
  | none => exact .of_stays hs _
  | some report =>
    dsimp only
    -- KEX_FAIL if nothing can be granted, and KEX_SET otherwise.
    split
    · rw [sessions_eraseSession]
      exact .fails _ (harmless_plaintext nodeId Kex.kexFail rfl rfl (by decide))
    · rw [sessions_setSession]
      exact .granted entropy hphase hdecode

/-- `finishKeyAgreement` fails, or derives the temporary keys. -/
theorem finishKeyAgreement_cases (ssl : OpenSsl) (s : Bootstrap) (nodeId : NodeId)
    (session : Session) :
    ((s.finishKeyAgreement ssl nodeId session).1.sessions nodeId = none ∨
      ∃ tempKeys, AgreedKeys ssl session.keyPair session.nodePublicKey tempKeys ∧
        (s.finishKeyAgreement ssl nodeId session).1.sessions nodeId =
          some { session with tempKeys, phase := .awaitTempChannel }) ∧
      ∀ out ∈ (s.finishKeyAgreement ssl nodeId session).2, Harmless out := by
  unfold finishKeyAgreement
  cases hshared : ssl.x25519 session.keyPair.privateKey session.nodePublicKey with
  | none =>
    exact ⟨Or.inl (sessions_eraseSession s nodeId),
      harmless_plaintext nodeId Kex.kexFail rfl rfl (by decide)⟩
  | some shared =>
    refine ⟨Or.inr ⟨_, ⟨shared, hshared, rfl⟩, sessions_setSession s nodeId _⟩, fun out hout => ?_⟩
    rw [List.mem_singleton.mp hout]
    trivial

/-- A public key report has one of the outcomes of `Outcome`: it is passed over, fails the
handshake, waits for the operator or finishes the key agreement. -/
theorem onPublicKeyReport_outcome (hs : s.sessions nodeId = some session)
    (hphase : session.phase = .awaitPublicKey) :
    Outcome ssl keys s nodeId session (.applicationCommand nodeId ccData entropy)
      ((s.onPublicKeyReport ssl nodeId session ccData).1.sessions nodeId)
      (s.onPublicKeyReport ssl nodeId session ccData).2 := by
  unfold onPublicKeyReport
  cases hdecode : PublicKey.decode ccData with
  | none => exact .of_stays hs _
  | some report =>
    have hanswer : ∀ out ∈ [BootstrapOutput.sendPlaintext nodeId
        (PublicKey.encode true session.keyPair.publicKey PublicKey.obfuscateNone)], Harmless out :=
      harmless_plaintext nodeId PublicKey.publicKeyReport rfl rfl (by decide)
    dsimp only
    -- A grant that needs the DSK waits for the operator.
    split
    · rw [sessions_setSession]
      refine .parked entropy hphase hdecode fun out hout => ?_
      rcases List.mem_cons.mp hout with rfl | hout
      · exact hanswer _ List.mem_cons_self
      · rw [List.mem_singleton.mp hout]
        trivial
    · next hopen =>
      obtain ⟨hsession, hharmless⟩ := finishKeyAgreement_cases ssl s nodeId
        { session with nodePublicKey := report.key }
      -- The controller's own key goes out before the agreement, whether that works out or not.
      have hall : ∀ out ∈ BootstrapOutput.sendPlaintext nodeId
          (PublicKey.encode true session.keyPair.publicKey PublicKey.obfuscateNone) ::
            (s.finishKeyAgreement ssl nodeId { session with nodePublicKey := report.key }).2,
          Harmless out := by
        intro out hout
        rcases List.mem_cons.mp hout with rfl | hout
        · exact hanswer _ List.mem_cons_self
        · exact hharmless out hout
      rcases hsession with hnone | ⟨tempKeys, hkeys, hsome⟩
      · rw [hnone]
        exact .fails _ hall
      · rw [hsome]
        exact .agreed entropy hphase (by simpa using hopen) hdecode hkeys hall

/-- An answered NONCE_GET on the temporary channel is an outcome of `Outcome`. -/
theorem onTempNonceGet_outcome (hphase : session.phase = .awaitTempChannel) :
    Outcome ssl keys s nodeId session (.applicationCommand nodeId ccData entropy)
      ((s.onTempNonceGet nodeId session entropy).1.sessions nodeId)
      (s.onTempNonceGet nodeId session entropy).2 := by
  unfold onTempNonceGet
  dsimp only
  rw [sessions_setSession]
  exact .tempNonce ccData entropy hphase
    (harmless_plaintext nodeId NonceSync.nonceReportCommand rfl rfl (by decide))

/-- An answered NONCE_GET on a class channel is an outcome of `Outcome`. -/
theorem onClassNonceGet_outcome (hphase : session.phase = .awaitClassNonceGet) :
    Outcome ssl keys s nodeId session (.applicationCommand nodeId ccData entropy)
      ((s.onClassNonceGet nodeId session entropy).1.sessions nodeId)
      (s.onClassNonceGet nodeId session entropy).2 := by
  unfold onClassNonceGet
  dsimp only
  rw [sessions_setSession]
  exact .classNonce ccData entropy hphase
    (harmless_plaintext nodeId NonceSync.nonceReportCommand rfl rfl (by decide))

/-- A confirmed PIN has one of the outcomes of `Outcome`, also in a session that does not wait for
it. -/
theorem onConfirmDsk_outcome (hs : s.sessions nodeId = some session) (pin : Bytes) :
    Outcome ssl keys s nodeId session (.confirmDsk nodeId pin)
      ((s.onConfirmDsk ssl nodeId pin).1.sessions nodeId) (s.onConfirmDsk ssl nodeId pin).2 := by
  unfold onConfirmDsk
  rw [hs]
  dsimp only
  split
  · exact .of_stays hs _
  · next hphase =>
    cases hpin : PublicKey.parsePin pin with
    | none => exact .of_stays hs _
    | some value =>
      obtain ⟨hsession, hharmless⟩ := finishKeyAgreement_cases ssl s nodeId
        { session with nodePublicKey := PublicKey.applyPin session.nodePublicKey value }
      -- The prompt is cleared first.
      have hall : ∀ out ∈ BootstrapOutput.dskPendingConfirmation 0 "" ::
          (s.finishKeyAgreement ssl nodeId
            { session with nodePublicKey := PublicKey.applyPin session.nodePublicKey value }).2,
          Harmless out := by
        intro out hout
        rcases List.mem_cons.mp hout with rfl | hout
        · trivial
        · exact hharmless out hout
      dsimp only
      rcases hsession with hnone | ⟨tempKeys, hkeys, hsome⟩
      · rw [hnone]
        exact .fails _ hall
      · rw [hsome]
        exact .confirmed (not_not.mp hphase) hpin hkeys hall

/-- An echoed KEX_SET has one of the outcomes of `Outcome`: it does not open, is not the one that
was sent, or is confirmed. -/
theorem onKexSetEcho_outcome (hs : s.sessions nodeId = some session)
    (hphase : session.phase = .awaitKexSetEcho) :
    Outcome ssl keys s nodeId session (.applicationCommand nodeId ccData entropy)
      ((s.onKexSetEcho ssl nodeId session ccData entropy).1.sessions nodeId)
      (s.onKexSetEcho ssl nodeId session ccData entropy).2 := by
  obtain ⟨hopened, hsame, -⟩ := decryptInbound_spec ssl s nodeId session ccData
  unfold onKexSetEcho
  rcases hdecrypt : s.decryptInbound ssl nodeId session ccData with ⟨_ | inner, s'⟩
  · rw [hdecrypt] at hsame
    have hs' : s'.sessions nodeId = some session := by rw [hsame.sessions, hs]
    dsimp only
    rw [hs']
    exact .stays _
  · rw [hdecrypt] at hopened
    dsimp only
    split
    · next hmatches =>
      have hsent := (sendEncrypted_spec ssl s' nodeId
        (Kex.encodeReport { session.receivedKexReport with echo := true }) entropy).2
      have hcommand : Kex.kexReport ≠ KeyInstall.networkKeyReport := by decide
      rw [sessions_setSession]
      exact .echoed entropy hphase hopened.symm hmatches (Sealed.harmless hsent hcommand)
    · have hsent := (sendEncrypted_spec ssl s' nodeId (Kex.encodeFail Kex.failAuth) entropy).2
      rw [sessions_eraseSession]
      exact .fails _ (Sealed.harmless hsent (by decide))

/-- A command other than the final TRANSFER_END that opens on the temporary channel. -/
theorem onKeyGet_outcome {s' : Bootstrap} {inner : Bytes} {bit : UInt8}
    (hs : s'.sessions nodeId = some session) (hsame : SameSessions s s')
    (hspan : (s'.spanManager.peers nodeId).span ≠ none)
    (hphase : session.phase = .awaitNetworkKeyGet)
    (hopened : s.opened ssl nodeId session.tempKeys.keyCcm ccData = some inner)
    (hget : KeyInstall.decodeKeyGet inner = some bit) :
    Outcome ssl keys s nodeId session (.applicationCommand nodeId ccData entropy)
      ((s'.onKeyGet ssl keys nodeId session bit entropy).1.sessions nodeId)
      (s'.onKeyGet ssl keys nodeId session bit entropy).2 := by
  unfold onKeyGet
  split
  · have hsent := (sendEncrypted_spec ssl s' nodeId (Kex.encodeFail Kex.failKeyGet) entropy).2
    dsimp only
    rw [sessions_eraseSession]
    exact .fails _ (Sealed.harmless hsent (by decide))
  · next hgranted =>
    cases hkey : classKeyForBit keys bit with
    | none =>
      dsimp only
      rw [hs]
      exact .stays _
    | some key =>
      have hsent := (sendEncrypted_spec ssl s' nodeId
        (KeyInstall.encodeKeyReport bit key) entropy).2
      -- The frame that asked for the key has left a SPAN, so the report does go out.
      obtain ⟨out, hout⟩ := sendEncrypted_of_span ssl hspan
        (KeyInstall.encodeKeyReport bit key) entropy
      rw [hout] at hsent
      dsimp only
      rw [sessions_setSession, hout]
      exact .transferred entropy hphase hopened hget hgranted hkey
        ((hsent out List.mem_cons_self).of_same hsame)

/-- A frame on the temporary channel has one of the outcomes of `Outcome`: it does not open, asks
for a key, ends the transfer or is none of these. -/
theorem onTempChannelKeyExchange_outcome (hs : s.sessions nodeId = some session)
    (hphase : session.phase = .awaitNetworkKeyGet) :
    Outcome ssl keys s nodeId session (.applicationCommand nodeId ccData entropy)
      ((s.onTempChannelKeyExchange ssl keys nodeId session ccData entropy).1.sessions nodeId)
      (s.onTempChannelKeyExchange ssl keys nodeId session ccData entropy).2 := by
  obtain ⟨hopened, hsame, hspan⟩ := decryptInbound_spec ssl s nodeId session ccData
  unfold onTempChannelKeyExchange
  rcases hdecrypt : s.decryptInbound ssl nodeId session ccData with ⟨inner, s'⟩
  rw [hdecrypt] at hopened hsame hspan
  have hs' : s'.sessions nodeId = some session := by rw [hsame.sessions, hs]
  -- Every branch that ignores the frame leaves the session as `s'` has it.
  have hstays : Outcome ssl keys s nodeId session (.applicationCommand nodeId ccData entropy)
      (s'.sessions nodeId) [] := by
    rw [hs']
    exact .stays _
  cases inner with
  | none => exact hstays
  | some inner =>
    dsimp only
    split
    · cases hend : KeyInstall.decodeTransferEnd inner with
      | none => exact hstays
      | some transferEnd =>
        dsimp only
        split
        · next hcomplete =>
          unfold completeBootstrap
          dsimp only
          rw [sessions_eraseSession]
          exact .completed entropy hphase hopened.symm hend hcomplete
        · exact hstays
    · split
      · cases hget : KeyInstall.decodeKeyGet inner with
        | none => exact hstays
        | some bit =>
          have hchannel := hspan (Option.some_ne_none inner)
          exact onKeyGet_outcome hs' hsame hchannel hphase hopened.symm hget
      · exact hstays

/-- A frame in place of the verify has one of the outcomes of `Outcome`: it opens under the class
key or it does not. -/
theorem onKeyVerify_outcome (hs : s.sessions nodeId = some session)
    (hphase : session.phase = .awaitKeyVerify) :
    Outcome ssl keys s nodeId session (.applicationCommand nodeId ccData entropy)
      ((s.onKeyVerify ssl nodeId session ccData entropy).1.sessions nodeId)
      (s.onKeyVerify ssl nodeId session ccData entropy).2 := by
  unfold onKeyVerify
  rcases hnonce : s.classSpanManager.receiveNonce ssl nodeId ccData with ⟨_ | nonce, manager⟩
  · dsimp only
    rw [hs]
    exact .stays _
  · dsimp only
    -- A frame that opens under the new key is the verification, whatever it carries.
    cases hinner : Encapsulation.decrypt ssl ccData (s.inboundContext nodeId ccData)
        session.installingClassKeys.keyCcm nonce with
    | none =>
      have hsent := (sendEncrypted_spec ssl { s with classSpanManager := manager } nodeId
        (Kex.encodeFail Kex.failKeyVerify) entropy).2
      dsimp only
      rw [sessions_eraseSession]
      exact .fails _ (Sealed.harmless hsent (by decide))
    | some inner =>
      have hsent := (sendEncrypted_spec ssl { s with classSpanManager := manager } nodeId
        (KeyInstall.encodeTransferEnd true false) entropy).2
      have hopened : s.openedClass ssl nodeId session.installingClassKeys.keyCcm ccData =
          some inner := by
        unfold openedClass
        rw [hnonce]
        exact hinner
      dsimp only
      rw [sessions_setSession]
      exact .verified entropy hphase hopened (Sealed.harmless hsent (by decide))

end Handlers

/-! ## One event -/

variable {ssl keys} {s : Bootstrap} {nodeId : NodeId} {session : Session}

/-- What an ApplicationCommand does to the session of its source. -/
theorem applicationCommand_outcome (hs : s.sessions nodeId = some session) (ccData : Bytes)
    (entropy : EntropyInput) :
    Outcome ssl keys s nodeId session (.applicationCommand nodeId ccData entropy)
      ((s.onApplicationCommand ssl keys nodeId ccData entropy).1.sessions nodeId)
      (s.onApplicationCommand ssl keys nodeId ccData entropy).2 := by
  unfold onApplicationCommand
  rw [hs]
  dsimp only
  cases commandByte ccData with
  | none => exact .of_stays hs _
  | some command =>
    dsimp only
    unfold onSessionCommand
    -- Each phase looks at one command and ignores every other.
    cases hphase : session.phase with
    | awaitKexReport =>
      dsimp only
      split
      · exact onKexReport_outcome hs hphase
      · exact .of_stays hs _
    | awaitPublicKey =>
      dsimp only
      split
      · exact onPublicKeyReport_outcome hs hphase
      · exact .of_stays hs _
    | awaitDsk => exact .of_stays hs _
    | awaitTempChannel =>
      dsimp only
      split
      · exact onTempNonceGet_outcome hphase
      · exact .of_stays hs _
    | awaitKexSetEcho =>
      dsimp only
      split
      · exact onKexSetEcho_outcome hs hphase
      · exact .of_stays hs _
    | awaitNetworkKeyGet =>
      dsimp only
      split
      · exact onTempChannelKeyExchange_outcome hs hphase
      · exact .of_stays hs _
    | awaitClassNonceGet =>
      dsimp only
      split
      · exact onClassNonceGet_outcome hphase
      · exact .of_stays hs _
    | awaitKeyVerify =>
      dsimp only
      split
      · exact onKeyVerify_outcome hs hphase
      · exact .of_stays hs _

/-- Only two outcomes put out more than what is harmless: a key is transferred, or the node is
recorded. -/
theorem Outcome.outputs_cases {event : BootstrapEvent} {after : Option Session}
    {outputs : List BootstrapOutput} (h : Outcome ssl keys s nodeId session event after outputs) :
    (∀ out ∈ outputs, Harmless out) ∨
    (∃ bit key out, session.phase = .awaitNetworkKeyGet ∧ bit &&& session.grantedKeys ≠ 0 ∧
      classKeyForBit keys bit = some key ∧ outputs = [out] ∧
      Sealed ssl s nodeId (KeyInstall.encodeKeyReport bit key) out) ∨
    (∃ ccData entropy inner transferEnd, event = .applicationCommand nodeId ccData entropy ∧
      session.phase = .awaitNetworkKeyGet ∧
      s.opened ssl nodeId session.tempKeys.keyCcm ccData = some inner ∧
      KeyInstall.decodeTransferEnd inner = some transferEnd ∧
      transferEnd.keyRequestComplete = true ∧
      outputs = [.setSecurityScheme nodeId (schemeFor session.grantedKeys),
        .nodeSecurityStatus nodeId (schemeFor session.grantedKeys)]) := by
  cases h with
  | stays => exact Or.inl nofun
  | granted => exact Or.inl (harmless_plaintext nodeId Kex.kexSet rfl rfl (by decide))
  | fails _ hharmless => exact Or.inl hharmless
  | parked _ _ _ hharmless => exact Or.inl hharmless
  | agreed _ _ _ _ _ hharmless => exact Or.inl hharmless
  | confirmed _ _ _ hharmless => exact Or.inl hharmless
  | tempNonce _ _ _ hharmless => exact Or.inl hharmless
  | echoed _ _ _ _ hharmless => exact Or.inl hharmless
  | classNonce _ _ _ hharmless => exact Or.inl hharmless
  | verified _ _ _ hharmless => exact Or.inl hharmless
  -- The two that matter.
  | transferred _ hphase _ _ hgranted hkey hsent =>
    exact Or.inr (Or.inl ⟨_, _, _, hphase, hgranted, hkey, rfl, hsent⟩)
  | completed _ hphase hopens hdecoded hcomplete =>
    exact Or.inr (Or.inr ⟨_, _, _, _, rfl, hphase, hopens, hdecoded, hcomplete, rfl⟩)

end Bootstrap

end Zwaved.S2
