import Zwaved.S2.BootstrapOutcome

/-!
# One step of the bootstrap

What an event leaves alone. The keys of the temporary channel are kept twice, in the session and in
the SPAN manager's entry for the node, and a handler works on one node only: `Frame` says both of
two states, and `step_frame` that it holds of the states before and after an event. From it follow
the two facts that the safety proofs start from: `step_session`, all that an event can do to the
session of any node, and `step_keyed`, that the channel of a node stays under the key of its
session.
-/

namespace Zwaved.S2

/-- The node that an event is about, if there is one. -/
def BootstrapEvent.nodeId? : BootstrapEvent → Option NodeId
  | nodeIncluded nodeId _ _ => some nodeId
  | applicationCommand nodeId _ _ => some nodeId
  | confirmDsk nodeId _ => some nodeId
  | dongleInfo _ _ => none
  | s2NetworkKeysReady _ => none

namespace Bootstrap

open Reactive

variable {ssl : OpenSsl} {keys : Option NetworkKeys.KeySet} {s : Bootstrap} {nodeId : NodeId}
  {session : Session}

/-- The step opens a session for the node: its NodeIncluded, with S2 among the command classes and
the network keys ready. -/
def Opens (nodeId : NodeId) (taken : Taken Bootstrap BootstrapEvent) : Prop :=
  ∃ commandClasses keyPair, taken.input = .nodeIncluded nodeId commandClasses keyPair ∧
    securityTwo ∈ commandClasses ∧ taken.before.keysReady = true

/-- An event that is not the node's NodeIncluded opens no session for it. -/
theorem not_opens {nodeId : NodeId} {s : Bootstrap} {event : BootstrapEvent}
    (h : ∀ commandClasses keyPair, event ≠ .nodeIncluded nodeId commandClasses keyPair) :
    ¬ Opens nodeId ⟨s, event⟩ := by
  rintro ⟨commandClasses, keyPair, hevent, -⟩
  exact h commandClasses keyPair hevent

/-- The channel of the node is under the temporary key of its session, once it has one. -/
def Keyed (s : Bootstrap) (nodeId : NodeId) : Prop :=
  ∀ session, s.sessions nodeId = some session → 3 ≤ session.phase.rank →
    (s.spanManager.peers nodeId).config.classKey = session.tempKeys.keyCcm

/-- The second state differs from the first in one node at most, and a channel under the key of the
session stays one. -/
structure Frame (nodeId : NodeId) (s s' : Bootstrap) : Prop where
  /-- The other sessions are the same. -/
  sessions : ∀ other ≠ nodeId, s'.sessions other = s.sessions other
  /-- The other configurations are the same. -/
  config : ∀ other ≠ nodeId,
    (s'.spanManager.peers other).config = (s.spanManager.peers other).config
  /-- The channel keeps its key. -/
  channel : s.Keyed nodeId → s'.Keyed nodeId

/-- A handler that does nothing leaves what belongs to other nodes. -/
theorem Frame.refl (nodeId : NodeId) (s : Bootstrap) : Frame nodeId s s :=
  ⟨fun _ _ => rfl, fun _ _ => rfl, id⟩

/-- Leaving what belongs to other nodes is transitive. -/
theorem Frame.trans {s₁ s₂ s₃ : Bootstrap} (h : Frame nodeId s₁ s₂) (h' : Frame nodeId s₂ s₃) :
    Frame nodeId s₁ s₃ :=
  ⟨fun other hne => (h'.sessions other hne).trans (h.sessions other hne),
    fun other hne => (h'.config other hne).trans (h.config other hne),
    fun hkeyed => h'.channel (h.channel hkeyed)⟩

/-- A step that keeps the sessions and the configurations leaves what belongs to other nodes. -/
theorem SameSessions.frame {s s' : Bootstrap} (h : SameSessions s s') (nodeId : NodeId) :
    Frame nodeId s s' := by
  refine ⟨fun other _ => congrFun h.sessions other, fun other _ => h.config other, ?_⟩
  intro hkeyed session hsession hrank
  rw [h.sessions] at hsession
  rw [h.config nodeId]
  exact hkeyed session hsession hrank

/-- Ending a session leaves what belongs to other nodes. -/
theorem frame_eraseSession (s : Bootstrap) (nodeId : NodeId) :
    Frame nodeId s (s.eraseSession nodeId) := by
  refine ⟨fun other hne => Function.update_of_ne hne .., fun _ _ => rfl, ?_⟩
  intro _ session hsession
  rw [sessions_eraseSession] at hsession
  cases hsession

/-- Storing a session in a phase before the key agreement leaves what belongs to other nodes, and no
channel is keyed by it yet. -/
theorem frame_setEarly (s : Bootstrap) (nodeId : NodeId) {session : Session}
    (hrank : session.phase.rank < 3) : Frame nodeId s (s.setSession nodeId session) := by
  refine ⟨fun other hne => Function.update_of_ne hne .., fun _ _ => rfl, ?_⟩
  intro _ found hfound hkeyed
  rw [sessions_setSession] at hfound
  obtain rfl := Option.some.inj hfound
  exact absurd hkeyed (Nat.not_le.mpr hrank)

/-- The session moves on with the temporary keys that it has. -/
theorem frame_setSession {s₁ s₂ : Bootstrap} (hsame : SameSessions s₁ s₂)
    (hs : s₁.sessions nodeId = some session) (hrank : 3 ≤ session.phase.rank) {session' : Session}
    (htemp : session'.tempKeys = session.tempKeys) :
    Frame nodeId s₁ (s₂.setSession nodeId session') := by
  refine (hsame.frame nodeId).trans
    ⟨fun other hne => Function.update_of_ne hne .., fun _ _ => rfl, ?_⟩
  intro hkeyed found hfound _
  rw [sessions_setSession] at hfound
  obtain rfl := Option.some.inj hfound
  -- The session before it had the same temporary keys, and the channel was under them.
  have hs₂ : s₂.sessions nodeId = some session := by rw [hsame.sessions, hs]
  rw [htemp]
  exact hkeyed session hs₂ hrank

/-- `finishKeyAgreement` configures the channel with the keys that it derives. -/
theorem frame_finishKeyAgreement (ssl : OpenSsl) (s : Bootstrap) (nodeId : NodeId)
    (session : Session) : Frame nodeId s (s.finishKeyAgreement ssl nodeId session).1 := by
  unfold finishKeyAgreement
  cases ssl.x25519 session.keyPair.privateKey session.nodePublicKey with
  | none => exact frame_eraseSession s nodeId
  | some shared =>
    -- The session and the channel are given the keys in one go.
    refine ⟨fun other hne => Function.update_of_ne hne .., fun other hne => ?_, ?_⟩
    · dsimp only [SpanManager.configurePeer, setSession]
      rw [SpanManager.peers_set_of_ne _ hne]
    · intro _ found hfound _
      obtain rfl := Option.some.inj ((sessions_setSession s nodeId _).symm.trans hfound)
      dsimp only [SpanManager.configurePeer]
      rw [SpanManager.peers_set]

/-- A last word over the channel, and the session is gone. -/
theorem frame_sendErase (ssl : OpenSsl) (s : Bootstrap) (nodeId : NodeId) (inner : Bytes)
    (sei : EntropyInput) :
    Frame nodeId s ((s.sendEncrypted ssl nodeId inner sei).1.eraseSession nodeId) :=
  ((sendEncrypted_spec ssl s nodeId inner sei).1.frame nodeId).trans (frame_eraseSession _ nodeId)

/-- A KEX_REPORT leaves what belongs to other nodes. -/
theorem frame_onKexReport (s : Bootstrap) (nodeId : NodeId) (session : Session) (ccData : Bytes) :
    Frame nodeId s (s.onKexReport nodeId session ccData).1 := by
  unfold onKexReport
  cases Kex.decodeReport ccData with
  | none => exact .refl nodeId s
  | some report =>
    dsimp only
    split
    · exact frame_eraseSession s nodeId
    · exact frame_setEarly s nodeId (show Phase.rank .awaitPublicKey < 3 by decide)

/-- A public key report leaves what belongs to other nodes. -/
theorem frame_onPublicKeyReport (ssl : OpenSsl) (s : Bootstrap) (nodeId : NodeId)
    (session : Session) (ccData : Bytes) :
    Frame nodeId s (s.onPublicKeyReport ssl nodeId session ccData).1 := by
  unfold onPublicKeyReport
  cases PublicKey.decode ccData with
  | none => exact .refl nodeId s
  | some report =>
    dsimp only
    split
    · exact frame_setEarly s nodeId (show Phase.rank .awaitDsk < 3 by decide)
    · exact frame_finishKeyAgreement ssl s nodeId _

/-- A confirmed PIN leaves what belongs to other nodes. -/
theorem frame_onConfirmDsk (ssl : OpenSsl) (s : Bootstrap) (nodeId : NodeId) (pin : Bytes) :
    Frame nodeId s (s.onConfirmDsk ssl nodeId pin).1 := by
  unfold onConfirmDsk
  cases s.sessions nodeId with
  | none => exact .refl nodeId s
  | some session =>
    dsimp only
    split
    · exact .refl nodeId s
    · cases PublicKey.parsePin pin with
      | none => exact .refl nodeId s
      | some value => exact frame_finishKeyAgreement ssl s nodeId _

/-- A NONCE_GET on the temporary channel leaves what belongs to other nodes. -/
theorem frame_onTempNonceGet (hs : s.sessions nodeId = some session)
    (hphase : session.phase = .awaitTempChannel) (rei : EntropyInput) :
    Frame nodeId s (s.onTempNonceGet nodeId session rei).1 := by
  have hsame : SameSessions s
      { s with spanManager := (s.spanManager.respondToNonceGet nodeId rei).2 } :=
    ⟨rfl, SpanManager.peers_set_config s.spanManager rfl⟩
  exact frame_setSession hsame hs (by rw [hphase]; decide) rfl

/-- An echoed KEX_SET leaves what belongs to other nodes. -/
theorem frame_onKexSetEcho (ssl : OpenSsl) (hs : s.sessions nodeId = some session)
    (hphase : session.phase = .awaitKexSetEcho) (frame : Bytes) (sei : EntropyInput) :
    Frame nodeId s (s.onKexSetEcho ssl nodeId session frame sei).1 := by
  obtain ⟨-, hsame, -⟩ := decryptInbound_spec ssl s nodeId session frame
  unfold onKexSetEcho
  rcases hdecrypt : s.decryptInbound ssl nodeId session frame with ⟨_ | inner, s'⟩
  · rw [hdecrypt] at hsame
    exact hsame.frame nodeId
  · rw [hdecrypt] at hsame
    dsimp only
    -- The echo matches and is answered, or it does not and the session ends in a KEX_FAIL.
    split
    · have hsent := hsame.trans (sendEncrypted_spec ssl s' nodeId
        (Kex.encodeReport { session.receivedKexReport with echo := true }) sei).1
      exact frame_setSession hsent hs (by rw [hphase]; decide) rfl
    · exact (hsame.frame nodeId).trans (frame_sendErase ssl s' nodeId _ sei)

/-- A key request leaves what belongs to other nodes. -/
theorem frame_onKeyGet (ssl : OpenSsl) (keys : Option NetworkKeys.KeySet)
    (hs : s.sessions nodeId = some session) (hphase : session.phase = .awaitNetworkKeyGet)
    (bit : UInt8) (sei : EntropyInput) :
    Frame nodeId s (s.onKeyGet ssl keys nodeId session bit sei).1 := by
  unfold onKeyGet
  split
  · exact frame_sendErase ssl s nodeId _ sei
  · cases classKeyForBit keys bit with
    | none => exact .refl nodeId s
    | some key =>
      have hsent := (sendEncrypted_spec ssl s nodeId (KeyInstall.encodeKeyReport bit key) sei).1
      exact frame_setSession hsent hs (by rw [hphase]; decide) rfl

/-- A frame on the temporary channel leaves what belongs to other nodes. -/
theorem frame_onTempChannelKeyExchange (ssl : OpenSsl) (keys : Option NetworkKeys.KeySet)
    (hs : s.sessions nodeId = some session) (hphase : session.phase = .awaitNetworkKeyGet)
    (frame : Bytes) (sei : EntropyInput) :
    Frame nodeId s (s.onTempChannelKeyExchange ssl keys nodeId session frame sei).1 := by
  obtain ⟨-, hsame, -⟩ := decryptInbound_spec ssl s nodeId session frame
  unfold onTempChannelKeyExchange
  rcases hdecrypt : s.decryptInbound ssl nodeId session frame with ⟨_ | inner, s'⟩
  · rw [hdecrypt] at hsame
    exact hsame.frame nodeId
  · rw [hdecrypt] at hsame
    have hs' : s'.sessions nodeId = some session := by rw [hsame.sessions, hs]
    dsimp only
    -- The inner command is TRANSFER_END, NETWORK_KEY_GET, or none of the two.
    split
    · cases KeyInstall.decodeTransferEnd inner with
      | none => exact hsame.frame nodeId
      | some transferEnd =>
        dsimp only
        split
        · exact (hsame.frame nodeId).trans (frame_eraseSession s' nodeId)
        · exact hsame.frame nodeId
    · split
      · cases KeyInstall.decodeKeyGet inner with
        | none => exact hsame.frame nodeId
        | some bit =>
          exact (hsame.frame nodeId).trans (frame_onKeyGet ssl keys hs' hphase bit sei)
      · exact hsame.frame nodeId

/-- Replacing the class channels keeps the sessions and the configurations of the temporary
channels. -/
theorem sameSessions_classSpanManager (s : Bootstrap) (classSpanManager : SpanManager) :
    SameSessions s { s with classSpanManager } := ⟨rfl, fun _ => rfl⟩

/-- A NONCE_GET for a new key leaves the sessions and the temporary channels of other nodes. -/
theorem frame_onClassNonceGet (hs : s.sessions nodeId = some session)
    (hphase : session.phase = .awaitClassNonceGet) (rei : EntropyInput) :
    Frame nodeId s (s.onClassNonceGet nodeId session rei).1 := by
  exact frame_setSession (sameSessions_classSpanManager s _) hs (by rw [hphase]; decide) rfl

/-- A verify leaves what belongs to other nodes. -/
theorem frame_onKeyVerify (ssl : OpenSsl) (hs : s.sessions nodeId = some session)
    (hphase : session.phase = .awaitKeyVerify) (frame : Bytes) (sei : EntropyInput) :
    Frame nodeId s (s.onKeyVerify ssl nodeId session frame sei).1 := by
  unfold onKeyVerify
  rcases s.classSpanManager.receiveNonce ssl nodeId frame with ⟨_ | nonce, manager⟩
  · exact (sameSessions_classSpanManager s manager).frame nodeId
  · have hsame := sameSessions_classSpanManager s manager
    dsimp only
    cases Encapsulation.decrypt ssl frame (s.inboundContext nodeId frame)
        session.installingClassKeys.keyCcm nonce with
    | none =>
      exact (hsame.frame nodeId).trans (frame_sendErase ssl _ nodeId _ sei)
    | some inner =>
      have hsent := hsame.trans (sendEncrypted_spec ssl { s with classSpanManager := manager }
        nodeId (KeyInstall.encodeTransferEnd true false) sei).1
      exact frame_setSession hsent hs (by rw [hphase]; decide) rfl

/-- `onApplicationCommand` touches the source of the command only. -/
theorem frame_onApplicationCommand (ssl : OpenSsl) (keys : Option NetworkKeys.KeySet)
    (s : Bootstrap) (nodeId : NodeId) (ccData : Bytes) (entropy : EntropyInput) :
    Frame nodeId s (s.onApplicationCommand ssl keys nodeId ccData entropy).1 := by
  unfold onApplicationCommand
  -- A frame of a node without a session is passed over, and so is one without a command.
  cases hs : s.sessions nodeId with
  | none => exact .refl nodeId s
  | some session =>
    dsimp only
    cases commandByte ccData with
    | none => exact .refl nodeId s
    | some command =>
      dsimp only
      unfold onSessionCommand
      -- The phases in the order of the source. Each of the handlers touches the node's own session
      -- and what its phase owns.
      cases hphase : session.phase with
      | awaitKexReport =>
        dsimp only
        split
        · exact frame_onKexReport s nodeId session ccData
        · exact .refl nodeId s
      | awaitPublicKey =>
        dsimp only
        split
        · exact frame_onPublicKeyReport ssl s nodeId session ccData
        · exact .refl nodeId s
      | awaitDsk => exact .refl nodeId s
      | awaitTempChannel =>
        dsimp only
        split
        · exact frame_onTempNonceGet hs hphase entropy
        · exact .refl nodeId s
      | awaitKexSetEcho =>
        dsimp only
        split
        · exact frame_onKexSetEcho ssl hs hphase ccData entropy
        · exact .refl nodeId s
      | awaitNetworkKeyGet =>
        dsimp only
        split
        · exact frame_onTempChannelKeyExchange ssl keys hs hphase ccData entropy
        · exact .refl nodeId s
      | awaitClassNonceGet =>
        dsimp only
        split
        · exact frame_onClassNonceGet hs hphase entropy
        · exact .refl nodeId s
      | awaitKeyVerify =>
        dsimp only
        split
        · exact frame_onKeyVerify ssl hs hphase ccData entropy
        · exact .refl nodeId s

/-- An event leaves the nodes alone that it is not about. -/
theorem step_frame (ssl : OpenSsl) (keys : Option NetworkKeys.KeySet) (s : Bootstrap)
    (event : BootstrapEvent) (nodeId : NodeId) (hnode : ∀ other ∈ event.nodeId?, other = nodeId) :
    Frame nodeId s (s.step ssl keys event).1 := by
  cases event with
  | nodeIncluded other commandClasses keyPair =>
    -- The event is one of this node.
    obtain rfl := hnode other rfl
    unfold step onNodeIncluded
    dsimp only
    split
    · exact .refl other s
    · split
      · exact .refl other s
      -- The session starts over in its first phase, where it has no channel yet.
      · exact frame_setEarly s other (show Phase.rank .awaitKexReport < 3 by decide)
  | applicationCommand other ccData entropy =>
    obtain rfl := hnode other rfl
    exact frame_onApplicationCommand ssl keys s other ccData entropy
  | confirmDsk other pin =>
    obtain rfl := hnode other rfl
    exact frame_onConfirmDsk ssl s other pin
  | dongleInfo homeId controllerNodeId =>
    -- What concerns all nodes touches no session.
    have hsame : SameSessions s (s.step ssl keys (.dongleInfo homeId controllerNodeId)).1 :=
      ⟨rfl, fun _ => rfl⟩
    exact hsame.frame nodeId
  | s2NetworkKeysReady ready =>
    have hsame : SameSessions s (s.step ssl keys (.s2NetworkKeysReady ready)).1 :=
      ⟨rfl, fun _ => rfl⟩
    exact hsame.frame nodeId

/-- Every channel stays under the key of its session. -/
theorem step_keyed (ssl : OpenSsl) (keys : Option NetworkKeys.KeySet) {s : Bootstrap}
    (hkeyed : ∀ nodeId, s.Keyed nodeId) (event : BootstrapEvent) (nodeId : NodeId) :
    (s.step ssl keys event).1.Keyed nodeId := by
  by_cases hnode : ∀ other ∈ event.nodeId?, other = nodeId
  · exact (step_frame ssl keys s event nodeId hnode).channel (hkeyed nodeId)
  · -- The event is about another node, and the channel and the session of this one stay.
    obtain ⟨other, hother, hne⟩ : ∃ other, event.nodeId? = some other ∧ other ≠ nodeId := by
      simpa using hnode
    have hframe := step_frame ssl keys s event other fun found hfound =>
      Option.some.inj (hfound.symm.trans hother)
    intro session hsession hrank
    rw [hframe.sessions nodeId hne.symm] at hsession
    rw [hframe.config nodeId hne.symm]
    exact hkeyed nodeId session hsession hrank

/-- An ApplicationCommand of a node without a session is ignored. -/
theorem step_applicationCommand_of_no_session (ssl : OpenSsl) (keys : Option NetworkKeys.KeySet)
    (hs : s.sessions nodeId = none) (ccData : Bytes) (entropy : EntropyInput) :
    s.step ssl keys (.applicationCommand nodeId ccData entropy) = (s, []) := by
  unfold step onApplicationCommand
  dsimp only
  rw [hs]

/-- A PIN for a node without a session is ignored. -/
theorem step_confirmDsk_of_no_session (ssl : OpenSsl) (keys : Option NetworkKeys.KeySet)
    (hs : s.sessions nodeId = none) (pin : Bytes) :
    s.step ssl keys (.confirmDsk nodeId pin) = (s, []) := by
  unfold step onConfirmDsk
  dsimp only
  rw [hs]

/-- A NodeIncluded that opens a session leaves a fresh one. -/
theorem step_session_of_opens (ssl : OpenSsl) (keys : Option NetworkKeys.KeySet)
    {event : BootstrapEvent} (hopens : Opens nodeId ⟨s, event⟩) :
    ∃ commandClasses keyPair, event = .nodeIncluded nodeId commandClasses keyPair ∧
      (s.step ssl keys event).1.sessions nodeId = some { keyPair } := by
  obtain ⟨commandClasses, keyPair, hevent, hclass, hready⟩ := hopens
  dsimp only at hevent hready
  subst hevent
  refine ⟨commandClasses, keyPair, rfl, ?_⟩
  unfold step onNodeIncluded
  dsimp only
  rw [if_neg (not_not.mpr hclass), if_neg (by simp [hready])]
  exact sessions_setSession s nodeId _

/-- A NodeIncluded that opens no session of the node leaves the node's session. -/
theorem step_nodeIncluded_of_not_opens (ssl : OpenSsl) (keys : Option NetworkKeys.KeySet)
    {other : NodeId} {commandClasses : Bytes} {keyPair : KeyPair}
    (hopens : ¬ Opens nodeId ⟨s, .nodeIncluded other commandClasses keyPair⟩) :
    (s.step ssl keys (.nodeIncluded other commandClasses keyPair)).1.sessions nodeId =
      s.sessions nodeId := by
  unfold step onNodeIncluded
  dsimp only
  split
  · rfl
  split
  · rfl
  · next hclass hready =>
    -- A session was opened, so it was opened for another node.
    have hne : nodeId ≠ other := by
      rintro rfl
      exact hopens ⟨_, _, rfl, not_not.mp hclass, by simpa using hready⟩
    exact Function.update_of_ne hne ..

/-- One event opens the session of a node afresh, leaves it alone, or does to it what `Outcome`
lists. -/
theorem step_session (ssl : OpenSsl) (keys : Option NetworkKeys.KeySet) (s : Bootstrap)
    (event : BootstrapEvent) (nodeId : NodeId) :
    (Opens nodeId ⟨s, event⟩ ∧ ∃ commandClasses keyPair,
      event = .nodeIncluded nodeId commandClasses keyPair ∧
        (s.step ssl keys event).1.sessions nodeId = some { keyPair }) ∨
    (¬ Opens nodeId ⟨s, event⟩ ∧
      ((s.step ssl keys event).1.sessions nodeId = s.sessions nodeId ∨
        ∃ session, s.sessions nodeId = some session ∧
          Outcome ssl keys s nodeId session event ((s.step ssl keys event).1.sessions nodeId)
            (s.step ssl keys event).2)) := by
  by_cases hopens : Opens nodeId ⟨s, event⟩
  · exact Or.inl ⟨hopens, step_session_of_opens ssl keys hopens⟩
  refine Or.inr ⟨hopens, ?_⟩
  -- An event that does not open the session leaves it as it was, or takes it on from what it was.
  cases event with
  | nodeIncluded other commandClasses keyPair =>
    exact Or.inl (step_nodeIncluded_of_not_opens ssl keys hopens)
  | applicationCommand other ccData entropy =>
    by_cases hne : nodeId = other
    · subst hne
      cases hs : s.sessions nodeId with
      | none =>
        rw [step_applicationCommand_of_no_session ssl keys hs]
        exact Or.inl hs
      | some session =>
        exact Or.inr ⟨session, rfl, applicationCommand_outcome hs ccData entropy⟩
    -- A frame of another node is for another session.
    · exact Or.inl ((frame_onApplicationCommand ssl keys s other ccData entropy).sessions nodeId hne)
  | confirmDsk other pin =>
    by_cases hne : nodeId = other
    · subst hne
      cases hs : s.sessions nodeId with
      | none =>
        rw [step_confirmDsk_of_no_session ssl keys hs]
        exact Or.inl hs
      | some session => exact Or.inr ⟨session, rfl, onConfirmDsk_outcome hs pin⟩
    · exact Or.inl ((frame_onConfirmDsk ssl s other pin).sessions nodeId hne)
  -- These events are of no node.
  | dongleInfo | s2NetworkKeysReady => exact Or.inl rfl

/-- Whatever an event puts out that is not harmless comes from a session of some node. -/
theorem step_output (ssl : OpenSsl) (keys : Option NetworkKeys.KeySet) (s : Bootstrap)
    (event : BootstrapEvent) {out : BootstrapOutput} (hout : out ∈ (s.step ssl keys event).2) :
    Harmless out ∨ ∃ nodeId session, s.sessions nodeId = some session ∧
      Outcome ssl keys s nodeId session event ((s.step ssl keys event).1.sessions nodeId)
        (s.step ssl keys event).2 := by
  cases event with
  | nodeIncluded other commandClasses keyPair =>
    -- KEX_GET is all that NodeIncluded sends.
    unfold step onNodeIncluded at hout
    dsimp only at hout
    split at hout
    · cases hout
    split at hout
    · cases hout
    · exact Or.inl (harmless_plaintext other Kex.kexGet rfl rfl (by decide) out hout)
  | applicationCommand other ccData entropy =>
    cases hs : s.sessions other with
    | none =>
      rw [step_applicationCommand_of_no_session ssl keys hs] at hout
      cases hout
    | some session =>
      exact Or.inr ⟨other, session, hs, applicationCommand_outcome hs ccData entropy⟩
  | confirmDsk other pin =>
    cases hs : s.sessions other with
    | none =>
      rw [step_confirmDsk_of_no_session ssl keys hs] at hout
      cases hout
    | some session => exact Or.inr ⟨other, session, hs, onConfirmDsk_outcome hs pin⟩
  | dongleInfo homeId controllerNodeId => cases hout
  | s2NetworkKeysReady ready => cases hout

/-- The output says nothing of a scheme. -/
def Silent (out : BootstrapOutput) : Prop :=
  ∀ nodeId scheme, out ≠ .setSecurityScheme nodeId scheme ∧ out ≠ .nodeSecurityStatus nodeId scheme

/-- A harmless output says nothing of a scheme. -/
theorem Harmless.silent {out : BootstrapOutput} (h : Harmless out) : Silent out := by
  intro nodeId scheme
  constructor
  · rintro rfl
    exact h
  · rintro rfl
    exact h

/-- An event says nothing of a scheme, or it records the class of a grant and says so. -/
theorem step_silent_or_records (ssl : OpenSsl) (keys : Option NetworkKeys.KeySet) (s : Bootstrap)
    (event : BootstrapEvent) :
    (∀ out ∈ (s.step ssl keys event).2, Silent out) ∨
      ∃ nodeId ccData entropy granted, event = .applicationCommand nodeId ccData entropy ∧
        (s.step ssl keys event).2 = [.setSecurityScheme nodeId (schemeFor granted),
          .nodeSecurityStatus nodeId (schemeFor granted)] := by
  by_cases hsilent : ∀ out ∈ (s.step ssl keys event).2, Silent out
  · exact Or.inl hsilent
  simp only [not_forall] at hsilent
  obtain ⟨out, hout, hloud⟩ := hsilent
  rcases step_output ssl keys s event hout with hharmless | ⟨nodeId, session, -, houtcome⟩
  · exact absurd hharmless.silent hloud
  -- What comes from a session is harmless, a key report, or the two outputs of the end.
  rcases houtcome.outputs_cases with hharmless | ⟨bit, key, sent, -, -, -, heq, hsealed⟩ |
    ⟨ccData, entropy, _, _, hevent, _, _, _, _, heq⟩
  · exact absurd (hharmless out hout).silent hloud
  · rw [heq] at hout
    obtain rfl := List.mem_singleton.mp hout
    obtain ⟨context, nonce, extensions, rfl⟩ := hsealed
    exact absurd (fun nodeId scheme => by simp) hloud
  · exact Or.inr ⟨nodeId, ccData, entropy, session.grantedKeys, hevent, heq⟩

/-- The output sends an S2 frame, if it sends anything. -/
def SendsS2 : BootstrapOutput → Prop
  | .sendPlaintext _ payload => payload.byte 0 = securityTwo
  | .sendEncrypted _ _ frame => frame.byte 0 = securityTwo
  | _ => True

/-- A harmless output that sends anything sends an S2 frame. -/
theorem Harmless.sendsS2 {out : BootstrapOutput} (h : Harmless out) : SendsS2 out := by
  cases out with
  | sendPlaintext => exact h.1
  | sendEncrypted => exact h.1
  | dskPendingConfirmation | s2KeyAgreementComplete => trivial
  | setSecurityScheme | nodeSecurityStatus => trivial

/-- Whatever the bootstrap sends is an S2 frame. -/
theorem step_sendsS2 (ssl : OpenSsl) (keys : Option NetworkKeys.KeySet) (s : Bootstrap)
    (event : BootstrapEvent) : ∀ out ∈ (s.step ssl keys event).2, SendsS2 out := by
  intro out hout
  rcases step_output ssl keys s event hout with hharmless | ⟨nodeId, session, -, houtcome⟩
  · exact hharmless.sendsS2
  rcases houtcome.outputs_cases with hharmless | ⟨bit, key, sent, -, -, -, heq, hsealed⟩ |
    ⟨_, _, _, _, _, _, _, _, _, heq⟩
  · exact (hharmless out hout).sendsS2
  · rw [heq] at hout
    obtain rfl := List.mem_singleton.mp hout
    obtain ⟨context, nonce, extensions, rfl⟩ := hsealed
    exact rfl
  · rw [heq] at hout
    rcases List.mem_cons.mp hout with rfl | hout
    · trivial
    · rw [List.mem_singleton.mp hout]
      trivial

end Bootstrap

end Zwaved.S2
