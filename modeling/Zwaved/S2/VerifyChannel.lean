import Zwaved.S2.BootstrapOutcome

/-!
# The verify channel of the bootstrap

A new key is verified over a channel of its own. The channel starts afresh with the NONCE_GET that
asks for it, and the first frame that makes a SPAN on it is also the last that is awaited: it moves
the session on or ends it. So there is no SPAN on the channel of a node while a verify is awaited
from it, which is `Unverified`. The channels are written by two handlers only; for all others
`KeepsVerify` says that they leave the channels alone and bring no session to await a verify.
-/

namespace Zwaved.S2.Bootstrap

/-- The verify channel of a node has no SPAN while a verify is awaited from it. -/
def Unverified (s : Bootstrap) : Prop :=
  ∀ nodeId session, s.sessions nodeId = some session → session.phase = .awaitKeyVerify →
    s.classSpanManager.hasSpan nodeId = false

/-- The verify channels are as they were, and no session has come to await a verify. -/
structure KeepsVerify (s s' : Bootstrap) : Prop where
  /-- The channels are the same. -/
  channel : s'.classSpanManager = s.classSpanManager
  /-- A session that awaits a verify awaited it before. -/
  sessions : ∀ nodeId session, s'.sessions nodeId = some session →
    session.phase = .awaitKeyVerify → s.sessions nodeId = some session

variable {s s' s'' : Bootstrap} {nodeId : NodeId} {session : Session}

/-- A state keeps its own channels under new keys. -/
theorem KeepsVerify.refl (s : Bootstrap) : KeepsVerify s s := ⟨rfl, fun _ _ h _ => h⟩

/-- Keeping the channels under new keys is transitive. -/
theorem KeepsVerify.trans (h : KeepsVerify s s') (h' : KeepsVerify s' s'') : KeepsVerify s s'' :=
  ⟨h'.channel.trans h.channel,
    fun nodeId session hs hphase => h.sessions _ _ (h'.sessions nodeId session hs hphase) hphase⟩

/-- While no session awaits a verify that is not proved, none does after a step that keeps the
channels. -/
theorem KeepsVerify.unverified (h : KeepsVerify s s') (hs : s.Unverified) : s'.Unverified := by
  intro nodeId session hsession hphase
  rw [h.channel]
  exact hs nodeId session (h.sessions nodeId session hsession hphase) hphase

/-- Storing a session in any phase but the one that awaits a verify keeps the channels. -/
theorem keepsVerify_setSession (s : Bootstrap) (nodeId : NodeId)
    (hphase : session.phase ≠ .awaitKeyVerify) : KeepsVerify s (s.setSession nodeId session) := by
  refine ⟨rfl, fun other found hfound hawaits => ?_⟩
  by_cases hother : other = nodeId
  · rw [hother, sessions_setSession] at hfound
    rw [← Option.some.inj hfound] at hawaits
    exact absurd hawaits hphase
  · exact (Function.update_of_ne hother ..).symm.trans hfound

/-- Dropping a session keeps the channels: a session that awaits a verify was there before. -/
theorem keepsVerify_eraseSession (s : Bootstrap) (nodeId : NodeId) :
    KeepsVerify s (s.eraseSession nodeId) := by
  refine ⟨rfl, fun other found hfound _ => ?_⟩
  by_cases hother : other = nodeId
  · rw [hother, sessions_eraseSession] at hfound
    cases hfound
  · exact (Function.update_of_ne hother ..).symm.trans hfound

variable (ssl : OpenSsl)

/-- An encrypted frame goes over the temporary channel and keeps those under new keys. -/
theorem keepsVerify_sendEncrypted (s : Bootstrap) (nodeId : NodeId) (inner : Bytes)
    (sei : EntropyInput) : KeepsVerify s (s.sendEncrypted ssl nodeId inner sei).1 := by
  unfold sendEncrypted
  rcases s.spanManager.encrypt ssl nodeId inner sei with ⟨_ | frame, spanManager⟩
  · exact ⟨rfl, fun _ _ h _ => h⟩
  · exact ⟨rfl, fun _ _ h _ => h⟩

/-- Opening a frame on a temporary channel keeps the channels under new keys. -/
theorem keepsVerify_decryptInbound (s : Bootstrap) (nodeId : NodeId) (session : Session)
    (frame : Bytes) : KeepsVerify s (s.decryptInbound ssl nodeId session frame).2 := by
  unfold decryptInbound
  rcases s.spanManager.receiveNonce ssl nodeId frame with ⟨_ | nonce, spanManager⟩
  · exact ⟨rfl, fun _ _ h _ => h⟩
  · exact ⟨rfl, fun _ _ h _ => h⟩

/-- The end of the key agreement keeps the channels under new keys. -/
theorem keepsVerify_finishKeyAgreement (s : Bootstrap) (nodeId : NodeId) (session : Session) :
    KeepsVerify s (s.finishKeyAgreement ssl nodeId session).1 := by
  unfold finishKeyAgreement
  split
  · exact keepsVerify_eraseSession s nodeId
  · have hset (tempKeys : KeyDerivation.TempKeys) :
        KeepsVerify s (s.setSession nodeId { session with tempKeys, phase := .awaitTempChannel }) :=
      keepsVerify_setSession s nodeId (show Phase.awaitTempChannel ≠ .awaitKeyVerify by decide)
    exact ⟨rfl, (hset _).sessions⟩

/-- An inclusion keeps the channels under new keys. -/
theorem keepsVerify_onNodeIncluded (s : Bootstrap) (nodeId : NodeId) (commandClasses : Bytes)
    (keyPair : KeyPair) : KeepsVerify s (s.onNodeIncluded nodeId commandClasses keyPair).1 := by
  unfold onNodeIncluded
  split
  · exact .refl s
  split
  · exact .refl s
  · exact keepsVerify_setSession s nodeId (show Phase.awaitKexReport ≠ .awaitKeyVerify by decide)

/-- A KEX_REPORT keeps the channels under new keys. -/
theorem keepsVerify_onKexReport (s : Bootstrap) (nodeId : NodeId) (session : Session)
    (ccData : Bytes) : KeepsVerify s (s.onKexReport nodeId session ccData).1 := by
  unfold onKexReport
  split
  · exact .refl s
  dsimp only
  split
  · exact keepsVerify_eraseSession s nodeId
  · exact keepsVerify_setSession s nodeId (show Phase.awaitPublicKey ≠ .awaitKeyVerify by decide)

/-- A public key report keeps the channels under new keys. -/
theorem keepsVerify_onPublicKeyReport (s : Bootstrap) (nodeId : NodeId) (session : Session)
    (ccData : Bytes) : KeepsVerify s (s.onPublicKeyReport ssl nodeId session ccData).1 := by
  unfold onPublicKeyReport
  split
  · exact .refl s
  dsimp only
  split
  · exact keepsVerify_setSession s nodeId (show Phase.awaitDsk ≠ .awaitKeyVerify by decide)
  · exact keepsVerify_finishKeyAgreement ssl s nodeId _

/-- A confirmed PIN keeps the channels under new keys. -/
theorem keepsVerify_onConfirmDsk (s : Bootstrap) (nodeId : NodeId) (pin : Bytes) :
    KeepsVerify s (s.onConfirmDsk ssl nodeId pin).1 := by
  unfold onConfirmDsk
  split
  · exact .refl s
  split
  · exact .refl s
  split
  · exact .refl s
  · exact keepsVerify_finishKeyAgreement ssl s nodeId _

/-- A NONCE_GET on the temporary channel keeps the channels under new keys. -/
theorem keepsVerify_onTempNonceGet (s : Bootstrap) (nodeId : NodeId) (session : Session)
    (rei : EntropyInput) : KeepsVerify s (s.onTempNonceGet nodeId session rei).1 := by
  have hset : KeepsVerify s (s.setSession nodeId { session with phase := .awaitKexSetEcho }) :=
    keepsVerify_setSession s nodeId (show Phase.awaitKexSetEcho ≠ .awaitKeyVerify by decide)
  exact ⟨rfl, hset.sessions⟩

/-- An echoed KEX_SET keeps the channels under new keys. -/
theorem keepsVerify_onKexSetEcho (s : Bootstrap) (nodeId : NodeId) (session : Session)
    (frame : Bytes) (sei : EntropyInput) :
    KeepsVerify s (s.onKexSetEcho ssl nodeId session frame sei).1 := by
  have hopened := keepsVerify_decryptInbound ssl s nodeId session frame
  unfold onKexSetEcho
  generalize s.decryptInbound ssl nodeId session frame = opened at hopened ⊢
  obtain ⟨_ | inner, s'⟩ := opened
  · exact hopened
  · dsimp only
    split
    · exact (hopened.trans (keepsVerify_sendEncrypted ssl s' nodeId _ sei)).trans
        (keepsVerify_setSession _ nodeId (show Phase.awaitNetworkKeyGet ≠ .awaitKeyVerify by decide))
    · exact (hopened.trans (keepsVerify_sendEncrypted ssl s' nodeId _ sei)).trans
        (keepsVerify_eraseSession _ nodeId)

variable (keys : Option NetworkKeys.KeySet)

/-- A key request keeps the channels under new keys: the one it installs opens only with the
NONCE_GET that follows. -/
theorem keepsVerify_onKeyGet (s : Bootstrap) (nodeId : NodeId) (session : Session)
    (requestedBit : UInt8) (sei : EntropyInput) :
    KeepsVerify s (s.onKeyGet ssl keys nodeId session requestedBit sei).1 := by
  unfold onKeyGet
  split
  · exact (keepsVerify_sendEncrypted ssl s nodeId _ sei).trans (keepsVerify_eraseSession _ nodeId)
  split
  · exact .refl s
  · exact (keepsVerify_sendEncrypted ssl s nodeId _ sei).trans
      (keepsVerify_setSession _ nodeId (show Phase.awaitClassNonceGet ≠ .awaitKeyVerify by decide))

/-- A frame on a temporary channel keeps the channels under new keys. -/
theorem keepsVerify_onTempChannelKeyExchange (s : Bootstrap) (nodeId : NodeId) (session : Session)
    (frame : Bytes) (sei : EntropyInput) :
    KeepsVerify s (s.onTempChannelKeyExchange ssl keys nodeId session frame sei).1 := by
  have hopened := keepsVerify_decryptInbound ssl s nodeId session frame
  unfold onTempChannelKeyExchange
  generalize s.decryptInbound ssl nodeId session frame = opened at hopened ⊢
  obtain ⟨_ | inner, s'⟩ := opened
  · exact hopened
  dsimp only
  split
  · split
    · exact hopened
    split
    · exact hopened.trans (keepsVerify_eraseSession s' nodeId)
    · exact hopened
  split
  · split
    · exact hopened
    · exact hopened.trans (keepsVerify_onKeyGet ssl keys s' nodeId session _ sei)
  · exact hopened

/-- A NONCE_GET for a new key starts every verify channel afresh. -/
theorem unverified_onClassNonceGet (s : Bootstrap) (nodeId : NodeId) (session : Session)
    (rei : EntropyInput) : (s.onClassNonceGet nodeId session rei).1.Unverified := by
  have hfresh (config : PeerConfig) (other : NodeId) :
      ((({} : SpanManager).configurePeer nodeId config).respondToNonceGet nodeId rei).2.hasSpan
        other = false := by
    by_cases hother : other = nodeId
    · simp [hother, SpanManager.hasSpan, SpanManager.respondToNonceGet, SpanManager.configurePeer,
        Peer.respondToNonceGet]
    · simp [SpanManager.hasSpan, SpanManager.respondToNonceGet, SpanManager.configurePeer,
        SpanManager.peers_set_of_ne _ hother]
  intro other _ _ _
  exact hfresh _ other

/-- A verify either brings no SPAN, or it is the last one that is awaited. -/
theorem unverified_onKeyVerify (h : s.Unverified) (nodeId : NodeId) (session : Session)
    (frame : Bytes) (sei : EntropyInput) :
    (s.onKeyVerify ssl nodeId session frame sei).1.Unverified := by
  -- A frame of this node leaves the channels of the others alone.
  have hothers (other : NodeId) (hother : other ≠ nodeId) :
      (s.classSpanManager.receiveNonce ssl nodeId frame).2.hasSpan other =
        s.classSpanManager.hasSpan other := by
    simp only [SpanManager.hasSpan, SpanManager.receiveNonce, SpanManager.peers_set_of_ne _ hother]
  -- Without a nonce for it the node's own channel has no SPAN either.
  have hnode : (s.classSpanManager.receiveNonce ssl nodeId frame).1 = none →
      (s.classSpanManager.receiveNonce ssl nodeId frame).2.hasSpan nodeId = false := by
    simp only [SpanManager.hasSpan, SpanManager.receiveNonce, SpanManager.peers_set,
      Peer.receiveNonce_eq, Option.map_eq_none_iff]
    intro hnone
    rw [hnone]
    rfl
  unfold onKeyVerify
  generalize s.classSpanManager.receiveNonce ssl nodeId frame = received at hothers hnode ⊢
  -- The frame does not open, and nobody's phase has changed.
  obtain ⟨_ | nonce, classSpanManager⟩ := received
  · intro other found hfound hphase
    by_cases hother : other = nodeId
    · rw [hother]
      exact hnode rfl
    · exact (hothers other hother).trans (h other found hfound hphase)
  -- The frame opens and gives the channel a SPAN, but the node leaves the phase with it.
  · have hsettled (s' : Bootstrap)
        (hkeeps : KeepsVerify { s with classSpanManager } s') (hmoved : ∀ found,
          s'.sessions nodeId = some found → found.phase ≠ .awaitKeyVerify) : s'.Unverified := by
      intro other found hfound hphase
      have hother : other ≠ nodeId := by
        rintro rfl
        exact hmoved found hfound hphase
      rw [hkeeps.channel]
      exact (hothers other hother).trans
        (h other found (hkeeps.sessions other found hfound hphase) hphase)
    dsimp only
    -- The last key ends the session, and any other goes on to the next key.
    split
    · refine hsettled _ ((keepsVerify_sendEncrypted ssl _ nodeId _ sei).trans
        (keepsVerify_eraseSession _ nodeId)) fun found hfound => ?_
      rw [sessions_eraseSession] at hfound
      cases hfound
    · refine hsettled _ ((keepsVerify_sendEncrypted ssl _ nodeId _ sei).trans
        (keepsVerify_setSession _ nodeId
          (show Phase.awaitNetworkKeyGet ≠ .awaitKeyVerify by decide))) fun found hfound => ?_
      rw [sessions_setSession] at hfound
      rw [← Option.some.inj hfound]
      exact (by decide : Phase.awaitNetworkKeyGet ≠ .awaitKeyVerify)

/-- Every event leaves the verify channels without a SPAN while a verify is awaited. -/
theorem unverified_step (h : s.Unverified) (event : BootstrapEvent) :
    (s.step ssl keys event).1.Unverified := by
  -- The class channel is touched only by the NONCE_GET that sets it up and by the verify itself.
  cases event with
  | nodeIncluded nodeId commandClasses keyPair =>
    exact (keepsVerify_onNodeIncluded s nodeId commandClasses keyPair).unverified h
  | confirmDsk nodeId pin => exact (keepsVerify_onConfirmDsk ssl s nodeId pin).unverified h
  | dongleInfo homeId controllerNodeId => exact h
  | s2NetworkKeysReady ready => exact h
  | applicationCommand nodeId ccData entropy =>
    unfold step onApplicationCommand
    dsimp only
    split
    · exact h
    next session hs =>
    split
    · exact h
    next command hcommand =>
    unfold onSessionCommand
    -- The phases in the order of the source.
    cases session.phase with
    | awaitKexReport =>
      dsimp only
      split
      · exact (keepsVerify_onKexReport s nodeId session ccData).unverified h
      · exact h
    | awaitPublicKey =>
      dsimp only
      split
      · exact (keepsVerify_onPublicKeyReport ssl s nodeId session ccData).unverified h
      · exact h
    | awaitDsk => exact h
    | awaitTempChannel =>
      dsimp only
      split
      · exact (keepsVerify_onTempNonceGet s nodeId session entropy).unverified h
      · exact h
    | awaitKexSetEcho =>
      dsimp only
      split
      · exact (keepsVerify_onKexSetEcho ssl s nodeId session ccData entropy).unverified h
      · exact h
    | awaitNetworkKeyGet =>
      dsimp only
      split
      · exact (keepsVerify_onTempChannelKeyExchange ssl keys s nodeId session ccData
          entropy).unverified h
      · exact h
    | awaitClassNonceGet =>
      dsimp only
      split
      · exact unverified_onClassNonceGet s nodeId session entropy
      · exact h
    | awaitKeyVerify =>
      dsimp only
      split
      · exact unverified_onKeyVerify ssl h nodeId session ccData entropy
      · exact h

end Zwaved.S2.Bootstrap
