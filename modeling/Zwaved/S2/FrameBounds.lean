import Zwaved.S2.CheckedReads
import Zwaved.S2.KeyRelease
import Zwaved.S2.Transport
import Zwaved.S2.VerifyChannel

/-!
# The reads of the S2 frame handlers

The handlers of the inbound and of the bootstrap orchestrator, with reads that fail past the end of
a frame. A handler asks for two bytes, the class and the command, and the codecs below it check the
length of a frame for themselves; but between the two the sequence number is read from the third
byte, to bind it in the associated data, once `receiveNonce` has given a nonce. A node with a SPAN
has a nonce whatever the frame is, so the frame `[0x9F, 0x03]` is read past its end.

`CutShort` is that case, and each handler is shown to fail in it and to do what the other model does
in every other. `onKeyVerify` is safe, because its channel has no SPAN yet while a verify is awaited
(`Bootstrap.Unverified`). `readsWithin_iff` puts the handlers together: a run reads no frame past
its end exactly when no such frame reaches the transport or a temporary channel with a SPAN.
-/

namespace Zwaved.S2

/-- The frame is an encapsulation that ends after the command byte, and the node has a SPAN. -/
def CutShort (m : SpanManager) (nodeId : NodeId) (frame : Bytes) : Prop :=
  frame = [NonceSync.commandClass, Encapsulation.messageEncapsulation] ∧ m.hasSpan nodeId

instance (m : SpanManager) (nodeId : NodeId) (frame : Bytes) :
    Decidable (CutShort m nodeId frame) :=
  inferInstanceAs (Decidable (_ ∧ _))

namespace Checked

variable (ssl : OpenSsl)

/-- The two ways to a nonce, and the read of the sequence number after them: a frame that is cut
short brings no SPAN of its own, and a longer one has a third byte. -/
theorem sequenceNumber_cases (m : SpanManager) (nodeId : NodeId) {frame : Bytes}
    (hlength : 2 ≤ frame.length) (hclass : frame.byte 0 = NonceSync.commandClass)
    (hcommand : frame.byte 1 = Encapsulation.messageEncapsulation) :
    ((m.receiveNonce ssl nodeId frame).1 = none ∧ ¬ CutShort m nodeId frame) ∨
    (∃ nonce, (m.receiveNonce ssl nodeId frame).1 = some nonce ∧ CutShort m nodeId frame ∧
      frame.readAt 2 = .error ⟨2, 2⟩) ∨
    ∃ nonce, (m.receiveNonce ssl nodeId frame).1 = some nonce ∧ ¬ CutShort m nodeId frame ∧
      frame.readAt 2 = .ok (frame.byte 2) := by
  -- A nonce is drawn from the SPAN that the frame announces, or else from the one that is live.
  have hnonce : (m.receiveNonce ssl nodeId frame).1 =
      (((m.peers nodeId).announcedSpan ssl frame).or (m.peers nodeId).span).map
        fun span => (span.truncatedNonce ssl).1 := by
    rw [SpanManager.receiveNonce, Peer.receiveNonce_eq, Peer.receiveSpan_span]
  -- A frame of just two bytes announces no SPAN, as it is too short for an extension.
  by_cases hshort : frame.length = 2
  · obtain ⟨a, b, rfl⟩ := List.length_eq_two.mp hshort
    obtain rfl : a = NonceSync.commandClass := hclass
    obtain rfl : b = Encapsulation.messageEncapsulation := hcommand
    have hannounced : (m.peers nodeId).announcedSpan ssl
        [NonceSync.commandClass, Encapsulation.messageEncapsulation] = none :=
      if_neg fun h => absurd h.1 (by decide)
    rw [hannounced, Option.none_or] at hnonce
    cases hspan : (m.peers nodeId).span with
    | none =>
      rw [hspan] at hnonce
      refine Or.inl ⟨hnonce, fun h => ?_⟩
      have hsome := h.2
      simp [SpanManager.hasSpan, hspan] at hsome
    | some span =>
      rw [hspan] at hnonce
      exact Or.inr (Or.inl ⟨_, hnonce, ⟨rfl, by simp [SpanManager.hasSpan, hspan]⟩, rfl⟩)
  -- A longer frame has a sequence number.
  · have hcut : ¬ CutShort m nodeId frame := fun h => hshort (congrArg List.length h.1)
    cases hfst : (m.receiveNonce ssl nodeId frame).1 with
    | none => exact Or.inl ⟨rfl, hcut⟩
    | some nonce =>
      exact Or.inr (Or.inr ⟨nonce, rfl, hcut, Bytes.readAt_of_lt (by omega)⟩)

/-! ## The inbound orchestrator -/

/-- `onApplicationCommand` of the inbound orchestrator. -/
def inbound (s : Transport) (nodeId : NodeId) (data : Bytes) (rei : EntropyInput) :
    Read (Transport × List Published) :=
  if data.length < 2 then return (s, [])
  else do
    if (← data.readAt 0) ≠ NonceSync.commandClass then return (s, [])
    else match s.configurePeer ssl nodeId with
      | none => return (s, [])
      | some (config, s) => do
        if (← data.readAt 1) = NonceSync.nonceGetCommand then return s.requestResync nodeId rei
        else do
          if (← data.readAt 1) ≠ Encapsulation.messageEncapsulation then return (s, [])
          else match ← receiveNonce ssl s.manager nodeId data with
            | (none, manager) => return { s with manager }.requestResync nodeId rei
            | (some nonce, manager) => do
              let context : Encapsulation.Context :=
                { senderNodeId := nodeId
                  receiverNodeId := s.controllerNodeId
                  homeId := s.homeId
                  sequenceNumber := ← data.readAt 2 }
              match ← decrypt ssl data context config.classKey nonce with
              | none => return { s with manager }.requestResync nodeId rei
              | some inner => return ({ s with manager }, [.applicationCommand nodeId inner])

/-- A frame that is cut short, from a node that the inbound orchestrator has the keys of. -/
def OverreadsInbound (s : Transport) (nodeId : NodeId) (data : Bytes) : Prop :=
  (s.peerConfig ssl nodeId).isSome ∧ CutShort s.manager nodeId data

instance (s : Transport) (nodeId : NodeId) (data : Bytes) :
    Decidable (OverreadsInbound ssl s nodeId data) :=
  inferInstanceAs (Decidable (_ ∧ _))

/-- Configuring a peer establishes no SPAN and drops none. -/
theorem hasSpan_configurePeer (m : SpanManager) (nodeId : NodeId) (config : PeerConfig) :
    (m.configurePeer nodeId config).hasSpan nodeId = m.hasSpan nodeId := by
  simp only [SpanManager.hasSpan, SpanManager.configurePeer, SpanManager.peers_set]

/-- The inbound orchestrator reads past the end of a frame that is cut short, and of no other. -/
theorem inbound_eq (s : Transport) (nodeId : NodeId) (data : Bytes) (rei : EntropyInput) :
    inbound ssl s nodeId data rei =
      if OverreadsInbound ssl s nodeId data then .error ⟨2, 2⟩
      else .ok (s.inbound ssl nodeId data rei) := by
  unfold inbound Transport.inbound
  by_cases hshort : data.length < 2
  · have hnot : ¬ OverreadsInbound ssl s nodeId data := fun h => by simp [h.2.1] at hshort
    rw [if_pos hshort, if_neg hnot, if_pos (Or.inl hshort)]
    rfl
  -- The two bytes that are always read are there, and from here on the branches are compared one by
  -- one.
  rw [if_neg hshort, Bytes.readAt_of_lt (by omega), Bytes.readAt_of_lt (by omega)]
  simp only [Read.ok_bind, Read.pure_eq_ok]
  by_cases hclass : data.byte 0 ≠ NonceSync.commandClass
  · have hnot : ¬ OverreadsInbound ssl s nodeId data := fun h => by simp [h.2.1, Bytes.byte] at hclass
    rw [if_pos hclass, if_neg hnot, if_pos (Or.inr hclass)]
  rw [if_neg hclass, if_neg (show ¬ (data.length < 2 ∨ data.byte 0 ≠ NonceSync.commandClass) from
    not_or.mpr ⟨hshort, hclass⟩)]
  unfold Transport.configurePeer
  -- Without keys for the node the frame is passed over unread.
  cases hconfig : s.peerConfig ssl nodeId with
  | none =>
    have hnot : ¬ OverreadsInbound ssl s nodeId data := fun h => by
      have hsome := h.1
      simp [hconfig] at hsome
    rw [if_neg hnot]
    rfl
  | some config =>
    dsimp only [Option.map_some]
    -- The peer has been configured by then, which gives it no SPAN that it has not had.
    have hover : OverreadsInbound ssl s nodeId data ↔
        CutShort (s.manager.configurePeer nodeId config) nodeId data := by
      simp [OverreadsInbound, CutShort, hconfig, hasSpan_configurePeer]
    by_cases hget : data.byte 1 = NonceSync.nonceGetCommand
    · have hnot : ¬ OverreadsInbound ssl s nodeId data := fun h => by
        rw [h.2.1] at hget
        exact absurd hget (by decide)
      rw [if_pos hget, if_neg hnot, if_pos hget]
    rw [if_neg hget, if_neg hget]
    by_cases hcommand : data.byte 1 ≠ Encapsulation.messageEncapsulation
    · have hnot : ¬ OverreadsInbound ssl s nodeId data := fun h => by
        rw [h.2.1] at hcommand
        exact hcommand rfl
      rw [if_pos hcommand, if_neg hnot, if_pos hcommand]
    -- The frame is an encapsulation: what is read next depends on whether there is a nonce.
    rw [if_neg hcommand, if_neg hcommand, receiveNonce_eq]
    simp only [Read.ok_bind]
    have hcases := sequenceNumber_cases ssl (s.manager.configurePeer nodeId config) nodeId
      (by omega) (not_not.mp hclass) (not_not.mp hcommand)
    generalize (s.manager.configurePeer nodeId config).receiveNonce ssl nodeId data = received
      at hcases ⊢
    obtain ⟨nonce, manager⟩ := received
    dsimp only at hcases
    -- There is none; there is one, and no byte to read; there is one, and the byte is read.
    rcases hcases with ⟨rfl, hcut⟩ | ⟨nonce, rfl, hcut, hread⟩ | ⟨nonce, rfl, hcut, hread⟩
    · rw [if_neg (hover.not.mpr hcut)]
    · rw [if_pos (hover.mpr hcut), hread]
      rfl
    · rw [if_neg (hover.not.mpr hcut), hread]
      simp only [Read.ok_bind, decrypt_eq]
      cases Encapsulation.decrypt ssl data _ config.classKey nonce <;> rfl

/-! ## The bootstrap orchestrator

What a handler reads comes before what it does: `onKexReport` and the like are done by the other
model, once the bytes that they look at are read. -/

/-- `decryptInbound`. -/
def decryptInbound (s : Bootstrap) (nodeId : NodeId) (session : Session) (frame : Bytes) :
    Read (Option Bytes × Bootstrap) := do
  match ← receiveNonce ssl s.spanManager nodeId frame with
  | (none, spanManager) => return (none, { s with spanManager })
  | (some nonce, spanManager) => do
    let context : Encapsulation.Context :=
      { senderNodeId := nodeId
        receiverNodeId := s.controllerNodeId
        homeId := s.homeId
        sequenceNumber := ← frame.readAt 2 }
    return (← decrypt ssl frame context session.tempKeys.keyCcm nonce, { s with spanManager })

/-- With checked reads, opening an encapsulated frame reads past the end exactly for those that
`CutShort` names, and otherwise does the same. -/
theorem decryptInbound_eq (s : Bootstrap) (nodeId : NodeId) (session : Session) {frame : Bytes}
    (hlength : 2 ≤ frame.length) (hclass : frame.byte 0 = NonceSync.commandClass)
    (hcommand : frame.byte 1 = Encapsulation.messageEncapsulation) :
    decryptInbound ssl s nodeId session frame =
      if CutShort s.spanManager nodeId frame then .error ⟨2, 2⟩
      else .ok (s.decryptInbound ssl nodeId session frame) := by
  unfold decryptInbound Bootstrap.decryptInbound
  rw [receiveNonce_eq]
  simp only [Read.ok_bind, Read.pure_eq_ok]
  have hcases := sequenceNumber_cases ssl s.spanManager nodeId hlength hclass hcommand
  generalize s.spanManager.receiveNonce ssl nodeId frame = received at hcases ⊢
  obtain ⟨nonce, spanManager⟩ := received
  dsimp only at hcases
  rcases hcases with ⟨rfl, hcut⟩ | ⟨nonce, rfl, hcut, hread⟩ | ⟨nonce, rfl, hcut, hread⟩
  · rw [if_neg hcut]
  · rw [if_pos hcut, hread]
    rfl
  · rw [if_neg hcut, hread]
    simp only [Read.ok_bind, decrypt_eq]
    rfl

/-- `onKexReport`. -/
def onKexReport (s : Bootstrap) (nodeId : NodeId) (session : Session) (ccData : Bytes) :
    Read (Bootstrap × List BootstrapOutput) := do
  let _ ← decodeReport ccData
  return s.onKexReport nodeId session ccData

/-- `onPublicKeyReport`. -/
def onPublicKeyReport (s : Bootstrap) (nodeId : NodeId) (session : Session) (ccData : Bytes) :
    Read (Bootstrap × List BootstrapOutput) := do
  let _ ← decodePublicKey ccData
  return s.onPublicKeyReport ssl nodeId session ccData

/-- `onKexSetEcho`. -/
def onKexSetEcho (s : Bootstrap) (nodeId : NodeId) (session : Session) (frame : Bytes)
    (sei : EntropyInput) : Read (Bootstrap × List BootstrapOutput) := do
  match (← decryptInbound ssl s nodeId session frame).1 with
  | none => return s.onKexSetEcho ssl nodeId session frame sei
  | some inner =>
    let _ ← decodeSet inner
    return s.onKexSetEcho ssl nodeId session frame sei

variable (keys : Option NetworkKeys.KeySet)

/-- `onTempChannelKeyExchange`. -/
def onTempChannelKeyExchange (s : Bootstrap) (nodeId : NodeId) (session : Session) (frame : Bytes)
    (sei : EntropyInput) : Read (Bootstrap × List BootstrapOutput) := do
  match (← decryptInbound ssl s nodeId session frame).1 with
  | none => return s.onTempChannelKeyExchange ssl keys nodeId session frame sei
  | some inner =>
    let command ← commandByte inner
    if command = some KeyInstall.transferEnd then
      let _ ← decodeTransferEnd inner
      return s.onTempChannelKeyExchange ssl keys nodeId session frame sei
    else if command = some KeyInstall.networkKeyGet then
      let _ ← decodeKeyGet inner
      return s.onTempChannelKeyExchange ssl keys nodeId session frame sei
    else return s.onTempChannelKeyExchange ssl keys nodeId session frame sei

/-- `onKeyVerify`. -/
def onKeyVerify (s : Bootstrap) (nodeId : NodeId) (session : Session) (frame : Bytes)
    (sei : EntropyInput) : Read (Bootstrap × List BootstrapOutput) := do
  match ← receiveNonce ssl s.classSpanManager nodeId frame with
  | (none, _) => return s.onKeyVerify ssl nodeId session frame sei
  | (some nonce, _) => do
    let context : Encapsulation.Context :=
      { senderNodeId := nodeId
        receiverNodeId := s.controllerNodeId
        homeId := s.homeId
        sequenceNumber := ← frame.readAt 2 }
    let _ ← decrypt ssl frame context session.installingClassKeys.keyCcm nonce
    return s.onKeyVerify ssl nodeId session frame sei

section Handlers

variable (s : Bootstrap) (nodeId : NodeId) (session : Session) {frame : Bytes} (sei : EntropyInput)
  (hlength : 2 ≤ frame.length) (hclass : frame.byte 0 = NonceSync.commandClass)
  (hcommand : frame.byte 1 = Encapsulation.messageEncapsulation)

include hlength hclass hcommand

/-- With checked reads, the echoed KEX_SET's handler reads past the end exactly for frames that are
cut short. -/
theorem onKexSetEcho_eq :
    onKexSetEcho ssl s nodeId session frame sei =
      if CutShort s.spanManager nodeId frame then .error ⟨2, 2⟩
      else .ok (s.onKexSetEcho ssl nodeId session frame sei) := by
  unfold onKexSetEcho
  rw [decryptInbound_eq ssl s nodeId session hlength hclass hcommand]
  split
  · rfl
  · simp only [Read.ok_bind, Read.pure_eq_ok, decodeSet_eq]
    cases (s.decryptInbound ssl nodeId session frame).1 <;> rfl

/-- With checked reads, the handler of the temporary channel reads past the end exactly for frames
that are cut short. -/
theorem onTempChannelKeyExchange_eq :
    onTempChannelKeyExchange ssl keys s nodeId session frame sei =
      if CutShort s.spanManager nodeId frame then .error ⟨2, 2⟩
      else .ok (s.onTempChannelKeyExchange ssl keys nodeId session frame sei) := by
  unfold onTempChannelKeyExchange
  rw [decryptInbound_eq ssl s nodeId session hlength hclass hcommand]
  split
  · rfl
  · simp only [Read.ok_bind, Read.pure_eq_ok, commandByte_eq, decodeTransferEnd_eq, decodeKeyGet_eq]
    cases (s.decryptInbound ssl nodeId session frame).1 with
    | none => rfl
    | some inner => simp only [ite_self]

/-- With checked reads, the verify's handler reads past the end exactly for frames that are cut
short on the class channel. -/
theorem onKeyVerify_eq :
    onKeyVerify ssl s nodeId session frame sei =
      if CutShort s.classSpanManager nodeId frame then .error ⟨2, 2⟩
      else .ok (s.onKeyVerify ssl nodeId session frame sei) := by
  unfold onKeyVerify
  rw [receiveNonce_eq]
  simp only [Read.ok_bind, Read.pure_eq_ok]
  have hcases := sequenceNumber_cases ssl s.classSpanManager nodeId hlength hclass hcommand
  generalize s.classSpanManager.receiveNonce ssl nodeId frame = received at hcases ⊢
  obtain ⟨nonce, classSpanManager⟩ := received
  dsimp only at hcases
  rcases hcases with ⟨rfl, hcut⟩ | ⟨nonce, rfl, hcut, hread⟩ | ⟨nonce, rfl, hcut, hread⟩
  · rw [if_neg hcut]
  · rw [if_pos hcut, hread]
    rfl
  · rw [if_neg hcut, hread]
    simp only [Read.ok_bind, decrypt_eq]

end Handlers

/-- The switch of `onApplicationCommand`. -/
def onSessionCommand (s : Bootstrap) (nodeId : NodeId) (session : Session) (ccData : Bytes)
    (entropy : EntropyInput) (command : UInt8) : Read (Bootstrap × List BootstrapOutput) :=
  match session.phase with
  | .awaitKexReport =>
    if command = Kex.kexReport then onKexReport s nodeId session ccData else return (s, [])
  | .awaitPublicKey =>
    if command = PublicKey.publicKeyReport then onPublicKeyReport ssl s nodeId session ccData
    else return (s, [])
  | .awaitDsk => return (s, [])
  | .awaitTempChannel =>
    if command = NonceSync.nonceGetCommand then return s.onTempNonceGet nodeId session entropy
    else return (s, [])
  | .awaitKexSetEcho =>
    if command = Encapsulation.messageEncapsulation then
      onKexSetEcho ssl s nodeId session ccData entropy
    else return (s, [])
  | .awaitNetworkKeyGet =>
    if command = Encapsulation.messageEncapsulation then
      onTempChannelKeyExchange ssl keys s nodeId session ccData entropy
    else return (s, [])
  | .awaitClassNonceGet =>
    if command = NonceSync.nonceGetCommand then return s.onClassNonceGet nodeId session entropy
    else return (s, [])
  | .awaitKeyVerify =>
    if command = Encapsulation.messageEncapsulation then
      onKeyVerify ssl s nodeId session ccData entropy
    else return (s, [])

/-- `onApplicationCommand` of the bootstrap orchestrator. -/
def onApplicationCommand (s : Bootstrap) (nodeId : NodeId) (ccData : Bytes)
    (entropy : EntropyInput) : Read (Bootstrap × List BootstrapOutput) :=
  match s.sessions nodeId with
  | none => return (s, [])
  | some session => do
    match ← commandByte ccData with
    | none => return (s, [])
    | some command => onSessionCommand ssl keys s nodeId session ccData entropy command

/-- A frame that is cut short, from a node whose session is on the temporary channel. -/
def OverreadsBootstrap (s : Bootstrap) (nodeId : NodeId) (ccData : Bytes) : Prop :=
  ∃ session ∈ s.sessions nodeId,
    (session.phase = .awaitKexSetEcho ∨ session.phase = .awaitNetworkKeyGet) ∧
      CutShort s.spanManager nodeId ccData

instance (s : Bootstrap) (nodeId : NodeId) (ccData : Bytes) :
    Decidable (OverreadsBootstrap s nodeId ccData) :=
  inferInstanceAs (Decidable (∃ session ∈ s.sessions nodeId, _))

/-- A frame that has a command byte is at least two bytes long, is of the S2 class and has that
command. -/
theorem of_commandByte {payload : Bytes} {command : UInt8}
    (h : S2.commandByte payload = some command) :
    2 ≤ payload.length ∧ payload.byte 0 = NonceSync.commandClass ∧ payload.byte 1 = command := by
  unfold S2.commandByte NonceSync.commandByte at h
  split at h
  · cases h
  · next haccepted =>
    simp only [not_or, Nat.not_lt, not_not] at haccepted
    exact ⟨haccepted.1, haccepted.2, Option.some.inj h⟩

/-- While no verify is awaited on a channel with a SPAN, the bootstrap orchestrator reads past the
end of a frame that is cut short, and of no other. -/
theorem onApplicationCommand_eq {s : Bootstrap} (hverify : s.Unverified) (nodeId : NodeId)
    (ccData : Bytes) (entropy : EntropyInput) :
    onApplicationCommand ssl keys s nodeId ccData entropy =
      if OverreadsBootstrap s nodeId ccData then .error ⟨2, 2⟩
      else .ok (s.onApplicationCommand ssl keys nodeId ccData entropy) := by
  unfold onApplicationCommand Bootstrap.onApplicationCommand
  cases hs : s.sessions nodeId with
  | none =>
    have hnot : ¬ OverreadsBootstrap s nodeId ccData := by simp [OverreadsBootstrap, hs]
    rw [if_neg hnot]
    rfl
  | some session =>
    dsimp only
    have hover : OverreadsBootstrap s nodeId ccData ↔
        (session.phase = .awaitKexSetEcho ∨ session.phase = .awaitNetworkKeyGet) ∧
          CutShort s.spanManager nodeId ccData := by
      simp [OverreadsBootstrap, hs]
    have hquiet (hecho : session.phase ≠ .awaitKexSetEcho)
        (hget : session.phase ≠ .awaitNetworkKeyGet) : ¬ OverreadsBootstrap s nodeId ccData :=
      fun h => (hover.mp h).1.elim hecho hget
    rw [commandByte_eq]
    simp only [Read.ok_bind]
    cases hbyte : S2.commandByte ccData with
    | none =>
      have hnot : ¬ OverreadsBootstrap s nodeId ccData := by
        rintro ⟨_, _, _, rfl, _⟩
        cases hbyte
      rw [if_neg hnot]
      rfl
    | some command =>
      obtain ⟨hlength, hclass, hcommand⟩ := of_commandByte hbyte
      -- A frame that is cut short has the command of an encapsulation.
      have hencap : ∀ m, CutShort m nodeId ccData → command = Encapsulation.messageEncapsulation := by
        rintro m ⟨rfl, -⟩
        exact hcommand.symm
      dsimp only
      unfold onSessionCommand Bootstrap.onSessionCommand
      cases hphase : session.phase with
      | awaitKexReport =>
        rw [if_neg (hquiet (by simp [hphase]) (by simp [hphase]))]
        dsimp only
        split
        · rw [onKexReport, decodeReport_eq]
          rfl
        · rfl
      | awaitPublicKey =>
        rw [if_neg (hquiet (by simp [hphase]) (by simp [hphase]))]
        dsimp only
        split
        · rw [onPublicKeyReport, decodePublicKey_eq]
          rfl
        · rfl
      | awaitDsk =>
        rw [if_neg (hquiet (by simp [hphase]) (by simp [hphase]))]
        rfl
      | awaitTempChannel =>
        rw [if_neg (hquiet (by simp [hphase]) (by simp [hphase]))]
        dsimp only
        split <;> rfl
      | awaitKexSetEcho =>
        simp only [hover, hphase, true_or, true_and]
        split
        · next heq =>
          exact onKexSetEcho_eq ssl s nodeId session entropy hlength hclass (hcommand.trans heq)
        · next hne => rw [if_neg fun h => hne (hencap _ h)]; rfl
      | awaitNetworkKeyGet =>
        simp only [hover, hphase, or_true, true_and]
        split
        · next heq =>
          exact onTempChannelKeyExchange_eq ssl keys s nodeId session entropy hlength hclass
            (hcommand.trans heq)
        · next hne => rw [if_neg fun h => hne (hencap _ h)]; rfl
      | awaitClassNonceGet =>
        rw [if_neg (hquiet (by simp [hphase]) (by simp [hphase]))]
        dsimp only
        split <;> rfl
      | awaitKeyVerify =>
        rw [if_neg (hquiet (by simp [hphase]) (by simp [hphase]))]
        dsimp only
        split
        · next heq =>
          rw [onKeyVerify_eq ssl s nodeId session entropy hlength hclass (hcommand.trans heq)]
          -- The verify channel has no SPAN yet.
          have hspan := hverify nodeId session hs hphase
          have hcut : ¬ CutShort s.classSpanManager nodeId ccData :=
            fun h => Bool.false_ne_true (hspan.symm.trans h.2)
          rw [if_neg hcut]
        · rfl

end Checked

/-! ## Runs -/

open Reactive

/-- The two orchestrators that take S2 frames apart. -/
structure FrameHandlers where
  /-- The transport, with the inbound orchestrator. -/
  transport : Transport := {}
  /-- The bootstrap orchestrator. -/
  bootstrap : Bootstrap := {}

/-- An event of either. What is delivered to both is two events. -/
inductive HandlerEvent
  /-- An event of the transport. -/
  | transport (event : TransportEvent)
  /-- An event of the bootstrap. -/
  | bootstrap (event : BootstrapEvent)

variable (ssl : OpenSsl) (keys : Option NetworkKeys.KeySet) (inboundFirst : Bool)

/-- One event. -/
def FrameHandlers.step (h : FrameHandlers) :
    HandlerEvent → FrameHandlers × List (Published ⊕ BootstrapOutput)
  | .transport event =>
    let (transport, published) := h.transport.step ssl inboundFirst event
    ({ h with transport }, published.map .inl)
  | .bootstrap event =>
    let (bootstrap, outputs) := h.bootstrap.step ssl keys event
    ({ h with bootstrap }, outputs.map .inr)

namespace Checked

/-- One event of the transport. -/
def transportStep (s : Transport) : TransportEvent → Read (Transport × List Published)
  | .applicationCommand nodeId data entropy =>
    if inboundFirst then do
      let (s, sent) ← inbound ssl s nodeId data (entropy 0)
      let (s, more) := s.outbound ssl nodeId data entropy
      return (s, sent ++ more)
    else do
      let (s, sent) := s.outbound ssl nodeId data entropy
      let (s, more) ← inbound ssl s nodeId data (entropy 0)
      return (s, sent ++ more)
  | event => return s.step ssl inboundFirst event

/-- One event of the bootstrap. -/
def bootstrapStep (s : Bootstrap) : BootstrapEvent → Read (Bootstrap × List BootstrapOutput)
  | .applicationCommand nodeId ccData entropy =>
    onApplicationCommand ssl keys s nodeId ccData entropy
  | event => return s.step ssl keys event

/-- One event. -/
def step (h : FrameHandlers) :
    HandlerEvent → Read (FrameHandlers × List (Published ⊕ BootstrapOutput))
  | .transport event => do
    let (transport, published) ← transportStep ssl inboundFirst h.transport event
    return ({ h with transport }, published.map .inl)
  | .bootstrap event => do
    let (bootstrap, outputs) ← bootstrapStep ssl keys h.bootstrap event
    return ({ h with bootstrap }, outputs.map .inr)

/-- The event is a frame that is cut short, for a node with a SPAN. -/
def Overreads (h : FrameHandlers) : HandlerEvent → Prop
  | .transport (.applicationCommand nodeId data _) => OverreadsInbound ssl h.transport nodeId data
  | .bootstrap (.applicationCommand nodeId ccData _) =>
    OverreadsBootstrap h.bootstrap nodeId ccData
  | _ => False

/-- The outbound orchestrator leaves a frame that is cut short alone. -/
theorem outbound_of_overreads {s : Transport} {nodeId : NodeId} {data : Bytes}
    (hdata : data = [NonceSync.commandClass, Encapsulation.messageEncapsulation])
    (entropy : ℕ → EntropyInput) : s.outbound ssl nodeId data entropy = (s, []) := by
  subst hdata
  exact if_pos (by decide)

/-- An event of the transport fails where the frame is cut short, and is else that of the model. -/
theorem transportStep_eq (s : Transport) (nodeId : NodeId) (data : Bytes)
    (entropy : ℕ → EntropyInput) :
    transportStep ssl inboundFirst s (.applicationCommand nodeId data entropy) =
      if OverreadsInbound ssl s nodeId data then .error ⟨2, 2⟩
      else .ok (s.step ssl inboundFirst (.applicationCommand nodeId data entropy)) := by
  cases inboundFirst with
  | true =>
    rw [Transport.step_inboundFirst]
    simp only [transportStep, if_true, inbound_eq]
    split <;> rfl
  | false =>
    rw [Transport.step_outboundFirst]
    have hsame : OverreadsInbound ssl (s.outbound ssl nodeId data entropy).1 nodeId data ↔
        OverreadsInbound ssl s nodeId data := by
      by_cases hdata : data = [NonceSync.commandClass, Encapsulation.messageEncapsulation]
      · rw [outbound_of_overreads ssl hdata]
      · exact iff_of_false (fun h => hdata h.2.1) fun h => hdata h.2.1
    simp only [transportStep, Bool.false_eq_true, if_false, inbound_eq, hsame]
    split <;> rfl

/-- One event, at a state where no verify is awaited on a channel with a SPAN. -/
theorem step_cases {h : FrameHandlers} (hverify : h.bootstrap.Unverified) (event : HandlerEvent) :
    (Overreads ssl h event ∧ ∃ e, step ssl keys inboundFirst h event = .error e) ∨
      (¬ Overreads ssl h event ∧
        step ssl keys inboundFirst h event = .ok (h.step ssl keys inboundFirst event)) := by
  -- Of the events only frames are read, by the transport or by the bootstrap.
  cases event with
  | transport event =>
    cases event with
    | applicationCommand nodeId data entropy =>
      by_cases hover : OverreadsInbound ssl h.transport nodeId data
      · refine Or.inl ⟨hover, ⟨2, 2⟩, ?_⟩
        rw [step, transportStep_eq, if_pos hover]
        rfl
      · refine Or.inr ⟨hover, ?_⟩
        rw [step, transportStep_eq, if_neg hover]
        rfl
    | secureS2SendRequest | dongleInfo | registryChanged | setCurrent => exact Or.inr ⟨id, rfl⟩
  -- A frame for the bootstrap is read the same way, by the handler of its phase.
  | bootstrap event =>
    cases event with
    | applicationCommand nodeId ccData entropy =>
      have heq := onApplicationCommand_eq ssl keys hverify nodeId ccData entropy
      by_cases hover : OverreadsBootstrap h.bootstrap nodeId ccData
      · refine Or.inl ⟨hover, ⟨2, 2⟩, ?_⟩
        rw [step, bootstrapStep, heq, if_pos hover]
        rfl
      · refine Or.inr ⟨hover, ?_⟩
        rw [step, bootstrapStep, heq, if_neg hover]
        rfl
    | nodeIncluded | confirmDsk | dongleInfo | s2NetworkKeysReady => exact Or.inr ⟨id, rfl⟩

/-- No verify is awaited on a channel with a SPAN, in any state of a run. -/
theorem unverified_of_mem_trace {events : List HandlerEvent} {taken : Taken FrameHandlers HandlerEvent}
    (htaken : taken ∈ trace (FrameHandlers.step ssl keys inboundFirst) {} events) :
    taken.before.bootstrap.Unverified := by
  obtain ⟨seen, rest, -, hbefore⟩ := (mem_trace_iff ..).mp htaken
  rw [hbefore]
  refine trace_induction (FrameHandlers.step ssl keys inboundFirst) {}
    (I := fun _ h => h.bootstrap.Unverified) (fun _ _ h => nomatch h) ?_ seen
  intro _ h event hverify
  cases event with
  | transport => exact hverify
  | bootstrap event => exact Bootstrap.unverified_step ssl keys hverify event

/-- Every byte that the handlers access in a run is one of the frame. -/
def ReadsWithin (events : List HandlerEvent) : Prop :=
  ∃ h, execChecked (step ssl keys inboundFirst) {} events = .ok h

/-- The handlers read no frame past its end in a run exactly when no frame that is cut short reaches
them for a node that has a SPAN. -/
theorem readsWithin_iff (events : List HandlerEvent) :
    ReadsWithin ssl keys inboundFirst events ↔
      ∀ taken ∈ trace (FrameHandlers.step ssl keys inboundFirst) {} events,
        ¬ Overreads ssl taken.before taken.input :=
  execChecked_ok_iff (FrameHandlers.step ssl keys inboundFirst) {} events fun _ htaken =>
    step_cases ssl keys inboundFirst (unverified_of_mem_trace ssl keys inboundFirst htaken) _

/-- Node 7 sets up a SPAN with a secure frame, and then sends the first two bytes of one. -/
def cutShortFrame : List HandlerEvent :=
  [.transport (.registryChanged
      { nodes := Function.update (fun _ => none) 7 (some .s2Unauthenticated) }),
    .transport (.setCurrent Bootstrap.sampleKeys),
    .transport (.applicationCommand 7 (NonceSync.encodeNonceGet 0) fun _ => Bootstrap.sampleEntropy),
    .transport (.applicationCommand 7 ([0x9F, 0x03, 0x00, 0x01] ++
      NonceSync.encodeSpanExtension Bootstrap.sampleEntropy ++ List.replicate 8 0)
      fun _ => Bootstrap.sampleEntropy),
    .transport (.applicationCommand 7 [0x9F, 0x03] fun _ => Bootstrap.sampleEntropy)]

/-- Node 7 does the same on the temporary channel of its bootstrap. -/
def cutShortHandshake : List HandlerEvent :=
  Bootstrap.sampleHandshake.map .bootstrap ++
    [.bootstrap (.applicationCommand 7 [0x9F, 0x03] Bootstrap.sampleEntropy)]

/-- A frame that is cut short makes the transport read past its end, and another one the
bootstrap. -/
theorem not_readsWithin_cutShort :
    ¬ ReadsWithin OpenSsl.standIn (some Bootstrap.sampleKeys) true cutShortFrame ∧
      ¬ ReadsWithin OpenSsl.standIn (some Bootstrap.sampleKeys) true cutShortHandshake := by
  have hfails : (execChecked (step OpenSsl.standIn (some Bootstrap.sampleKeys) true) {}
        cutShortFrame).isOk = false ∧
      (execChecked (step OpenSsl.standIn (some Bootstrap.sampleKeys) true) {}
        cutShortHandshake).isOk = false := by
    decide +kernel
  constructor
  · rintro ⟨h, hrun⟩
    simp [hrun, Except.isOk, Except.toBool] at hfails
  · rintro ⟨h, hrun⟩
    simp [hrun, Except.isOk, Except.toBool] at hfails

end Checked

end Zwaved.S2
