import Zwaved.S2.Lockstep
import Zwaved.S2.Transport

/-!
# Resynchronisation

A peer that has lost its half of a SPAN says so with a NONCE_REPORT whose SOS flag is set, and hands
over a fresh REI. Two results about this.

`sosHonoured_iff`: the report takes effect on the next frame exactly when there was no SPAN for the
peer and payloads were queued. With an empty queue the outbound orchestrator drops the report, and
with a SPAN `encrypt` goes on with that SPAN. Half of this rests on an invariant of the transport,
`Settled`: an REI of a peer is never left waiting without a SPAN.

`failed_frame_resyncs`: a frame that does not open moves the SPAN on and is answered with a report
of a fresh REI, and a frame that the peer builds from that REI opens again.
-/

namespace Zwaved.S2

open Reactive

variable (ssl : OpenSsl)

/-! ## No REI waits without a SPAN -/

/-- An REI of the peer's is there only along with a SPAN. -/
def Settled (p : Peer) : Prop := p.span = none → p.peerRei = none

/-- Every peer is settled. -/
def AllSettled (m : SpanManager) : Prop := ∀ peer, Settled (m.peers peer)

/-- `encrypt` settles the peer, whatever it was: with no SPAN it uses the REI up. -/
theorem settled_encrypt (p : Peer) (inner : Bytes) (sei : EntropyInput) :
    Settled (p.encrypt ssl inner sei).2 := by
  unfold Settled Peer.encrypt
  cases hspan : p.span with
  | some span =>
    have hsend : p.sendSpan ssl sei = some (span, [], p) := by unfold Peer.sendSpan; rw [hspan]
    rw [hsend]
    intro hnone
    cases hnone
  | none =>
    cases hrei : p.peerRei with
    | some rei =>
      simp only [Peer.sendSpan, hspan, hrei]
      intro hnone
      cases hnone
    | none =>
      have hsend : p.sendSpan ssl sei = none := by unfold Peer.sendSpan; rw [hspan, hrei]
      rw [hsend]
      exact fun _ => hrei

/-- `receiveNonce` keeps a peer settled: it leaves the peer's REI alone. -/
theorem Settled.receiveNonce {p : Peer} (h : Settled p) (frame : Bytes) :
    Settled (p.receiveNonce ssl frame).2 := by
  intro hnone
  have hspan := Peer.span_eq_none_of_receiveNonce ssl frame hnone
  have hrei : (p.receiveNonce ssl frame).2.peerRei = p.peerRei := by
    rw [Peer.receiveNonce_eq, Peer.receiveSpan_peerRei]
  rw [hrei, h hspan]

/-- All peers are settled if one is replaced by a settled one and the others were. -/
theorem allSettled_set {m : SpanManager} {peer : NodeId} {p : Peer}
    (h : ∀ other, other ≠ peer → Settled (m.peers other)) (hp : Settled p) :
    AllSettled (m.set peer p) := by
  intro other
  by_cases heq : other = peer
  · rw [heq, SpanManager.peers_set]
    exact hp
  · rw [SpanManager.peers_set_of_ne m heq]
    exact h other heq

namespace Transport

section Settled

variable {ssl}

/-- Configuring a peer keeps every peer settled. -/
theorem configurePeer_settled {s s' : Transport} {nodeId : NodeId} {config : PeerConfig}
    (h : AllSettled s.manager) (hconf : s.configurePeer ssl nodeId = some (config, s')) :
    AllSettled s'.manager := by
  unfold configurePeer at hconf
  obtain ⟨c, -, heq⟩ := Option.map_eq_some_iff.mp hconf
  rw [← (Prod.mk.inj heq).2]
  exact allSettled_set (fun other _ => h other) (h nodeId)

/-- `respondToNonceGet` leaves the SPAN and the peer's REI alone. -/
theorem requestResync_settled {s : Transport} (nodeId : NodeId) (rei : EntropyInput)
    (h : AllSettled s.manager) : AllSettled (s.requestResync nodeId rei).1.manager :=
  allSettled_set (fun other _ => h other) (h nodeId)

/-- The inbound orchestrator keeps every peer settled. -/
theorem inbound_settled {s : Transport} (nodeId : NodeId) (data : Bytes) (rei : EntropyInput)
    (h : AllSettled s.manager) : AllSettled (s.inbound ssl nodeId data rei).1.manager := by
  unfold inbound
  split
  · exact h
  split
  · exact h
  · next config s' hconf =>
    have hs' := configurePeer_settled h hconf
    have hreceive : AllSettled (s'.manager.receiveNonce ssl nodeId data).2 :=
      allSettled_set (fun other _ => hs' other) ((hs' nodeId).receiveNonce ssl data)
    split
    -- The branches of the source in order: NONCE_GET, a command that is not ours, a frame with no
    -- SPAN for it, and one that does or does not open.
    · exact requestResync_settled nodeId rei hs'
    split
    · exact hs'
    split
    · next manager hnonce =>
      rw [hnonce] at hreceive
      exact requestResync_settled nodeId rei hreceive
    · next nonce manager hnonce =>
      rw [hnonce] at hreceive
      dsimp only
      split
      · exact requestResync_settled nodeId rei hreceive
      · exact hreceive

variable (ssl) in
/-- A send settles the peer. -/
theorem sendEncrypted_settled {s : Transport} {nodeId : NodeId} (pending : Pending)
    (sei : EntropyInput) (h : ∀ other, other ≠ nodeId → Settled (s.manager.peers other)) :
    (s.sendEncrypted ssl nodeId pending sei = none → AllSettled s.manager) ∧
      ∀ s' sent, s.sendEncrypted ssl nodeId pending sei = some (s', sent) →
        AllSettled s'.manager := by
  have hpeer := settled_encrypt ssl (s.manager.peers nodeId) pending.payload sei
  unfold sendEncrypted SpanManager.encrypt
  rcases hsend : (s.manager.peers nodeId).encrypt ssl pending.payload sei with ⟨_ | frame, p⟩
  · rw [hsend, Peer.encrypt_eq_none ssl hsend] at hpeer
    refine ⟨fun _ other => ?_, fun _ _ hsome => (nomatch hsome)⟩
    by_cases heq : other = nodeId
    · rw [heq]
      exact hpeer
    · exact h other heq
  · rw [hsend] at hpeer
    refine ⟨fun hnone => (nomatch hnone), fun s' sent hsome => ?_⟩
    rw [← (Prod.mk.inj (Option.some.inj hsome)).1]
    exact allSettled_set h hpeer

/-- Draining a queue that is not empty settles the peer. -/
theorem drain_settled (nodeId : NodeId) (entropy : ℕ → EntropyInput) (queue : List Pending)
    {s : Transport} (h : ∀ other, other ≠ nodeId → Settled (s.manager.peers other))
    (hqueue : queue ≠ [] ∨ Settled (s.manager.peers nodeId)) :
    AllSettled (drain ssl nodeId entropy s queue).1.manager := by
  induction queue generalizing s with
  | nil =>
    have hnode := hqueue.resolve_left fun hne => hne rfl
    intro other
    by_cases heq : other = nodeId
    · rw [heq]
      exact hnode
    · exact h other heq
  | cons pending queue ih =>
    -- The report may have left the node unsettled, but the first send settles it.
    obtain ⟨hstop, hgo⟩ := sendEncrypted_settled ssl pending (entropy queue.length) h
    unfold drain
    rcases hsend : s.sendEncrypted ssl nodeId pending (entropy queue.length) with _ | ⟨s', sent⟩
    · exact hstop hsend
    · have hs' := hgo s' sent hsend
      exact ih (fun other _ => hs' other) (Or.inr (hs' nodeId))

/-- The outbound orchestrator keeps every peer settled: it accepts a report only when it has
something to send. -/
theorem outbound_settled {s : Transport} (nodeId : NodeId) (data : Bytes)
    (entropy : ℕ → EntropyInput) (h : AllSettled s.manager) :
    AllSettled (s.outbound ssl nodeId data entropy).1.manager := by
  unfold outbound
  split
  · exact h
  split
  · exact h
  next hqueue =>
  split
  · exact h
  · next report _ =>
    refine drain_settled nodeId entropy (s.queues nodeId) (fun other hne => ?_) (Or.inl ?_)
    -- The REI that is taken in may well be there without a SPAN: that is the one entry that
    -- `drain_settled` asks nothing of, as there is a payload to use the REI up.
    · show Settled ((s.manager.acceptNonceReport nodeId report).peers other)
      unfold SpanManager.acceptNonceReport
      rw [SpanManager.peers_set_of_ne _ hne]
      exact h other
    · simpa using hqueue

/-- A request to send keeps every peer settled. -/
theorem secureS2SendRequest_settled {s : Transport} (nodeId : NodeId) (pending : Pending)
    (sei : EntropyInput) (h : AllSettled s.manager) :
    AllSettled (s.secureS2SendRequest ssl nodeId pending sei).1.manager := by
  unfold secureS2SendRequest
  split
  · exact h
  next config s' hconf =>
  have hs' := configurePeer_settled h hconf
  obtain ⟨hstop, hgo⟩ := sendEncrypted_settled ssl pending sei fun other _ => hs' other
  rcases hsend : s'.sendEncrypted ssl nodeId pending sei with _ | ⟨s'', sent⟩
  · dsimp only
    split
    · exact allSettled_set (fun other _ => hs' other) (hs' nodeId)
    · exact hs'
  · exact hgo s'' sent hsend

/-- One event keeps every peer settled. -/
theorem step_settled {s : Transport} (inboundFirst : Bool) (h : AllSettled s.manager)
    (event : TransportEvent) : AllSettled (s.step ssl inboundFirst event).1.manager := by
  cases event with
  | applicationCommand nodeId data entropy =>
    cases inboundFirst with
    | true => exact outbound_settled nodeId data entropy (inbound_settled nodeId data (entropy 0) h)
    | false => exact inbound_settled nodeId data (entropy 0) (outbound_settled nodeId data entropy h)
  | secureS2SendRequest nodeId payload callbackId entropy =>
    exact secureS2SendRequest_settled nodeId { payload, callbackId } entropy h
  | dongleInfo homeId controllerNodeId restored =>
    intro peer
    cases hrestored : restored peer with
    | none =>
      simp only [step, dongleInfo, SpanStore.importAll, hrestored]
      exact h peer
    | some inner =>
      -- A restored row is a SPAN.
      simp only [step, dongleInfo, SpanStore.importAll, hrestored, SpanManager.importSpan,
        SpanManager.peers_set]
      intro hnone
      cases hnone
  | registryChanged registry => exact h
  | setCurrent keys => exact h

/-- Every peer is settled in every state that a run reaches. -/
theorem exec_settled (inboundFirst : Bool) (events : List TransportEvent) :
    AllSettled (exec (step ssl inboundFirst) {} events).manager := by
  induction events using List.reverseRecOn with
  | nil => exact fun _ _ => rfl
  | append_singleton events event ih =>
    rw [exec_concat]
    exact step_settled inboundFirst ih event

end Settled

end Transport

/-! ## A report that takes effect -/

/-- A frame that is encrypted under a SPAN instantiated from `rei` and carries the SPAN extension
for it. -/
def FromRei (config : PeerConfig) (rei : EntropyInput) (frame : Bytes) : Prop :=
  ∃ inner sei sequenceNumber, frame =
    Encapsulation.encrypt ssl inner
      { senderNodeId := config.ourNodeId
        receiverNodeId := config.peerNodeId
        homeId := config.homeId
        sequenceNumber }
      config.classKey ((Span.instantiate ssl sei rei config.personalization).truncatedNonce ssl).1
      (NonceSync.encodeSpanExtension sei)

/-- A frame that was made from an entropy input announces that it carries an extension. -/
theorem FromRei.announcesExtensions {config : PeerConfig} {rei : EntropyInput} {frame : Bytes}
    (h : FromRei ssl config rei frame) : Peer.AnnouncesExtensions frame := by
  obtain ⟨inner, sei, sequenceNumber, rfl⟩ := h
  rw [announcesExtensions_encrypt]
  simp [NonceSync.encodeSpanExtension]

/-- With no SPAN, an REI of the peer's makes the next frame. -/
theorem encrypt_of_rei {p : Peer} (hspan : p.span = none) {rei : EntropyInput}
    (hrei : p.peerRei = some rei) (inner : Bytes) (sei : EntropyInput) :
    ∃ frame, (p.encrypt ssl inner sei).1 = some frame ∧ FromRei ssl p.config rei frame := by
  simp only [Peer.encrypt, Peer.sendSpan, hspan, hrei]
  exact ⟨_, rfl, inner, sei, p.txSequence, rfl⟩

/-- With a SPAN, the next frame is made under it and announces nothing. -/
theorem encrypt_of_span {p : Peer} {span : Span} (hspan : p.span = some span) (inner : Bytes)
    (sei : EntropyInput) :
    ∃ frame, (p.encrypt ssl inner sei).1 = some frame ∧ ¬ Peer.AnnouncesExtensions frame := by
  simp only [Peer.encrypt, Peer.sendSpan, hspan]
  refine ⟨_, rfl, ?_⟩
  rw [announcesExtensions_encrypt]
  simp

namespace Transport

/-- The next frame that `encrypt` produces for the node from a command on: the first one that the
command itself lets out of the queue, or else the one for the next payload. -/
def nextFrame (inboundFirst : Bool) (s : Transport) (nodeId : NodeId) (data : Bytes)
    (entropy : ℕ → EntropyInput) (inner : Bytes) (sei : EntropyInput) : Option Bytes :=
  match s.step ssl inboundFirst (.applicationCommand nodeId data entropy) with
  | (_, .sendData _ frame _ :: _) => some frame
  | (s', _) => (s'.manager.encrypt ssl nodeId inner sei).1

/-- A report of `rei` takes effect: the next frame for the node is made from `rei`, under the node's
configuration or the one that the command refreshes it to. -/
def SosHonoured (inboundFirst : Bool) (s : Transport) (nodeId : NodeId) (data : Bytes)
    (entropy : ℕ → EntropyInput) (rei : EntropyInput) : Prop :=
  ∀ inner sei, ∃ frame, s.nextFrame ssl inboundFirst nodeId data entropy inner sei = some frame ∧
    ∃ config, (config = (s.manager.peers nodeId).config ∨ s.peerConfig ssl nodeId = some config) ∧
      FromRei ssl config rei frame

variable {data : Bytes} {report : NonceSync.Report} {rei : EntropyInput}

/-- A frame that decodes as a nonce report has the bytes that the orchestrator checks. -/
theorem report_bytes (h : NonceSync.decodeNonceReport data = some report) :
    ¬ (data.length < 2 ∨ data.byte 0 ≠ NonceSync.commandClass) ∧
      data.byte 1 = NonceSync.nonceReportCommand := by
  unfold NonceSync.decodeNonceReport at h
  split at h
  · cases h
  · next hguard =>
    simp only [not_or, not_not, Nat.not_lt] at hguard ⊢
    exact ⟨⟨by omega, hguard.2.1⟩, hguard.2.2⟩

/-- The inbound orchestrator only refreshes the configuration on a report. -/
theorem inbound_report (s : Transport) (nodeId : NodeId)
    (h : NonceSync.decodeNonceReport data = some report) (entropy : EntropyInput) :
    (s.inbound ssl nodeId data entropy).2 = [] ∧
      (s.inbound ssl nodeId data entropy).1.queues = s.queues ∧
      ∃ config, (config = (s.manager.peers nodeId).config ∨ s.peerConfig ssl nodeId = some config) ∧
        (s.inbound ssl nodeId data entropy).1.manager.peers nodeId =
          { s.manager.peers nodeId with config } := by
  obtain ⟨hguard, hcommand⟩ := report_bytes h
  have hget : NonceSync.nonceReportCommand ≠ NonceSync.nonceGetCommand := by decide
  have hencap : NonceSync.nonceReportCommand ≠ Encapsulation.messageEncapsulation := by decide
  unfold inbound
  rw [if_neg hguard, hcommand]
  unfold configurePeer
  cases hconf : s.peerConfig ssl nodeId with
  | none => exact ⟨rfl, rfl, _, Or.inl rfl, rfl⟩
  | some config =>
    simp only [Option.map_some, if_neg hget, if_pos hencap]
    refine ⟨trivial, trivial, config, Or.inr rfl, ?_⟩
    unfold SpanManager.configurePeer
    rw [SpanManager.peers_set]

/-- The outbound orchestrator ignores a report when the queue is empty. -/
theorem outbound_idle {s : Transport} {nodeId : NodeId} (hqueue : s.queues nodeId = [])
    (data : Bytes) (entropy : ℕ → EntropyInput) :
    s.outbound ssl nodeId data entropy = (s, []) := by
  unfold outbound
  split
  · rfl
  · rw [hqueue]
    rfl

/-- With something queued, the first frame out is the first payload's, encrypted with the REI of
the report at hand. -/
theorem outbound_report (s : Transport) (nodeId : NodeId)
    (h : NonceSync.decodeNonceReport data = some report) (hsos : report.sos = true)
    (hrei : report.rei = some rei) {pending : Pending} {queue : List Pending}
    (hqueue : s.queues nodeId = pending :: queue) (entropy : ℕ → EntropyInput)
    {frame : Bytes}
    (hsend : (({ s.manager.peers nodeId with peerRei := some rei } : Peer).encrypt ssl
      pending.payload (entropy queue.length)).1 = some frame) :
    ∃ rest, (s.outbound ssl nodeId data entropy).2 =
      .sendData nodeId frame pending.callbackId :: rest := by
  obtain ⟨hguard, hcommand⟩ := report_bytes h
  have hbyte : NonceSync.commandByte data = some NonceSync.nonceReportCommand := by
    rw [NonceSync.commandByte, if_neg hguard, hcommand]
  have haccept : (s.manager.peers nodeId).acceptNonceReport report =
      { s.manager.peers nodeId with peerRei := some rei } := by
    unfold Peer.acceptNonceReport
    rw [if_pos (by simp [hsos, hrei]), hrei]
  unfold outbound
  rw [if_neg (not_not.mpr hbyte), hqueue, if_neg (by simp), h]
  simp only [drain, sendEncrypted, SpanManager.encrypt, SpanManager.acceptNonceReport,
    SpanManager.peers_set, haccept, hsend]
  exact ⟨_, rfl⟩

/-- Whichever orchestrator is first, what a report sends is what the outbound one sends from a state
with the same queues and SPANs. -/
theorem step_report (s : Transport) (nodeId : NodeId)
    (h : NonceSync.decodeNonceReport data = some report) (inboundFirst : Bool)
    (entropy : ℕ → EntropyInput) :
    ∃ s₁ : Transport, (s.step ssl inboundFirst (.applicationCommand nodeId data entropy)).2 =
        (s₁.outbound ssl nodeId data entropy).2 ∧ s₁.queues = s.queues ∧
      ∃ config, (config = (s.manager.peers nodeId).config ∨ s.peerConfig ssl nodeId = some config) ∧
        s₁.manager.peers nodeId = { s.manager.peers nodeId with config } := by
  cases inboundFirst with
  | true =>
    obtain ⟨hsent, hqueues, hpeer⟩ := inbound_report ssl s nodeId h (entropy 0)
    refine ⟨(s.inbound ssl nodeId data (entropy 0)).1, ?_, hqueues, hpeer⟩
    rw [step_inboundFirst, hsent, List.nil_append]
  | false =>
    obtain ⟨hsent, -, -⟩ :=
      inbound_report ssl (s.outbound ssl nodeId data entropy).1 nodeId h (entropy 0)
    refine ⟨s, ?_, rfl, _, Or.inl rfl, rfl⟩
    rw [step_outboundFirst, hsent, List.append_nil]

/-- With an empty queue a report sends nothing and leaves the SPAN and the REIs alone. -/
theorem step_report_idle {s : Transport} {nodeId : NodeId}
    (h : NonceSync.decodeNonceReport data = some report) (hqueue : s.queues nodeId = [])
    (inboundFirst : Bool) (entropy : ℕ → EntropyInput) :
    (s.step ssl inboundFirst (.applicationCommand nodeId data entropy)).2 = [] ∧
      ∃ config, (s.step ssl inboundFirst (.applicationCommand nodeId data entropy)).1.manager.peers
        nodeId = { s.manager.peers nodeId with config } := by
  obtain ⟨hsent, hqueues, config, -, hpeer⟩ := inbound_report ssl s nodeId h (entropy 0)
  cases inboundFirst with
  | true =>
    have hidle : (s.inbound ssl nodeId data (entropy 0)).1.outbound ssl nodeId data entropy = _ :=
      outbound_idle ssl (by rw [hqueues, hqueue]) data entropy
    rw [step_inboundFirst, hidle, hsent]
    exact ⟨rfl, config, hpeer⟩
  | false =>
    rw [step_outboundFirst, outbound_idle ssl hqueue, hsent]
    exact ⟨rfl, config, hpeer⟩

/-- The first frame that a command lets out is the next frame. -/
theorem nextFrame_of_sent {s : Transport} {nodeId : NodeId} {inboundFirst : Bool}
    {entropy : ℕ → EntropyInput} {other : NodeId} {frame : Bytes} {callbackId : UInt8}
    {rest : List Published}
    (h : (s.step ssl inboundFirst (.applicationCommand nodeId data entropy)).2 =
      .sendData other frame callbackId :: rest) (inner : Bytes) (sei : EntropyInput) :
    s.nextFrame ssl inboundFirst nodeId data entropy inner sei = some frame := by
  unfold nextFrame
  rcases hstep : s.step ssl inboundFirst (.applicationCommand nodeId data entropy) with ⟨s', sent⟩
  rw [hstep] at h
  rw [show sent = _ from h]

/-- When a command lets nothing out, the next frame is the next payload's. -/
theorem nextFrame_of_idle {s : Transport} {nodeId : NodeId} {inboundFirst : Bool}
    {entropy : ℕ → EntropyInput}
    (h : (s.step ssl inboundFirst (.applicationCommand nodeId data entropy)).2 = []) (inner : Bytes)
    (sei : EntropyInput) :
    s.nextFrame ssl inboundFirst nodeId data entropy inner sei =
      (((s.step ssl inboundFirst (.applicationCommand nodeId data entropy)).1.manager.peers
        nodeId).encrypt ssl inner sei).1 := by
  unfold nextFrame
  rcases hstep : s.step ssl inboundFirst (.applicationCommand nodeId data entropy) with ⟨s', sent⟩
  rw [hstep] at h
  rw [show sent = [] from h]
  rfl

/-- A report that finds no SPAN and something queued takes effect. -/
theorem sosHonoured_of_queued {s : Transport} {nodeId : NodeId}
    (h : NonceSync.decodeNonceReport data = some report) (hsos : report.sos = true)
    (hrei : report.rei = some rei) (inboundFirst : Bool) (entropy : ℕ → EntropyInput)
    (hspan : (s.manager.peers nodeId).span = none) (hqueue : s.queues nodeId ≠ []) :
    s.SosHonoured ssl inboundFirst nodeId data entropy rei := by
  obtain ⟨pending, queue, hcons⟩ := List.exists_cons_of_ne_nil hqueue
  obtain ⟨s₁, hsent, hqueues, config, hconfig, hpeer⟩ :=
    step_report ssl s nodeId h inboundFirst entropy
  obtain ⟨frame, hframe, hfrom⟩ := encrypt_of_rei ssl
    (p := { s.manager.peers nodeId with config, peerRei := some rei }) hspan rfl pending.payload
    (entropy queue.length)
  obtain ⟨rest, hfirst⟩ := outbound_report ssl s₁ nodeId h hsos hrei (by rw [hqueues, hcons])
    entropy (by rw [hpeer]; exact hframe)
  rw [hfirst] at hsent
  exact fun inner sei => ⟨frame, nextFrame_of_sent ssl hsent inner sei, config, hconfig, hfrom⟩

/-- A report for a node with a SPAN does not take effect: the next frame is made under that SPAN. -/
theorem not_sosHonoured_of_span {s : Transport} {nodeId : NodeId} {span : Span}
    (h : NonceSync.decodeNonceReport data = some report) (hsos : report.sos = true)
    (hrei : report.rei = some rei) (inboundFirst : Bool) (entropy : ℕ → EntropyInput)
    (hspan : (s.manager.peers nodeId).span = some span) :
    ¬ s.SosHonoured ssl inboundFirst nodeId data entropy rei := by
  intro hhonoured
  obtain ⟨frame, hnext, config, -, hfrom⟩ := hhonoured [] (Vector.replicate 16 0)
  have hannounces := hfrom.announcesExtensions
  -- With the queue empty the report is dropped, and otherwise its REI is taken in and not used. Either
  -- way the frame is made under the SPAN, and such a frame announces nothing.
  cases hqueue : s.queues nodeId with
  | nil =>
    obtain ⟨hsent, config, hpeer⟩ := step_report_idle ssl h hqueue inboundFirst entropy
    obtain ⟨frame', hframe', hquiet⟩ := encrypt_of_span ssl
      (p := { s.manager.peers nodeId with config }) hspan [] (Vector.replicate 16 0)
    rw [nextFrame_of_idle ssl hsent, hpeer, hframe'] at hnext
    exact hquiet (Option.some.inj hnext ▸ hannounces)
  | cons pending queue =>
    obtain ⟨s₁, hsent, hqueues, config, -, hpeer⟩ :=
      step_report ssl s nodeId h inboundFirst entropy
    obtain ⟨frame', hframe', hquiet⟩ := encrypt_of_span ssl
      (p := { s.manager.peers nodeId with config, peerRei := some rei }) hspan pending.payload
      (entropy queue.length)
    obtain ⟨rest, hfirst⟩ := outbound_report ssl s₁ nodeId h hsos hrei (by rw [hqueues, hqueue])
      entropy (by rw [hpeer]; exact hframe')
    rw [hfirst] at hsent
    rw [nextFrame_of_sent ssl hsent] at hnext
    exact hquiet (Option.some.inj hnext ▸ hannounces)

/-- In every state that a run reaches, a report of an REI takes effect exactly when there is no SPAN
for the node and something is queued for it. -/
theorem sosHonoured_iff (inboundFirst : Bool) (events : List TransportEvent) (nodeId : NodeId)
    (entropy : ℕ → EntropyInput) (h : NonceSync.decodeNonceReport data = some report)
    (hsos : report.sos = true) (hrei : report.rei = some rei) :
    (exec (step ssl inboundFirst) {} events).SosHonoured ssl inboundFirst nodeId data entropy rei ↔
      ((exec (step ssl inboundFirst) {} events).manager.peers nodeId).span = none ∧
        (exec (step ssl inboundFirst) {} events).queues nodeId ≠ [] := by
  have hsettled : Settled ((exec (step ssl inboundFirst) {} events).manager.peers nodeId) :=
    exec_settled inboundFirst events nodeId
  generalize exec (step ssl inboundFirst) {} events = s at hsettled ⊢
  constructor
  · intro hhonoured
    cases hspan : (s.manager.peers nodeId).span with
    | some span =>
      exact absurd hhonoured (not_sosHonoured_of_span ssl h hsos hrei inboundFirst entropy hspan)
    | none =>
      refine ⟨rfl, fun hqueue => ?_⟩
      -- The report is dropped, and with no REI at hand the next payload has nothing to go under.
      obtain ⟨frame, hnext, -⟩ := hhonoured [] (Vector.replicate 16 0)
      obtain ⟨hsent, config, hpeer⟩ := step_report_idle ssl h hqueue inboundFirst entropy
      rw [nextFrame_of_idle ssl hsent, hpeer] at hnext
      simp only [Peer.encrypt, Peer.sendSpan, hspan, hsettled hspan] at hnext
      cases hnext
  · rintro ⟨hspan, hqueue⟩
    exact sosHonoured_of_queued ssl h hsos hrei inboundFirst entropy hspan hqueue

/-- The keys are loaded, node 2 is S2-secure, the stick comes up, and a payload for node 2 waits for
a SPAN. -/
def waiting : List TransportEvent :=
  [.setCurrent fun _ => Vector.replicate 16 7,
    .registryChanged
      { homeId := some [0, 0, 0, 1]
        nodes := fun nodeId => if nodeId = 2 then some .s2Authenticated else none },
    .dongleInfo [0xC0, 0xFF, 0xEE, 0x01] 1 fun _ => none,
    .secureS2SendRequest 2 [0x25, 0x02] 0 (Vector.replicate 16 3)]

/-- A NONCE_REPORT with the SOS flag and an REI. -/
def sosReport (byte : UInt8) : NonceSync.Report where
  sequenceNumber := 1
  sos := true
  mos := false
  rei := some (Vector.replicate 16 byte)

/-- The resynchronisation that `waiting` asks for is honoured by the report that answers it. -/
theorem sosHonoured_waiting :
    (exec (step OpenSsl.standIn true) {} waiting).SosHonoured OpenSsl.standIn true 2
      (NonceSync.encodeNonceReport (sosReport 9)) (fun _ => Vector.replicate 16 4)
      (Vector.replicate 16 9) :=
  (sosHonoured_iff OpenSsl.standIn true waiting 2 _
    (NonceSync.decodeNonceReport_encodeNonceReport 1 _) rfl rfl).mpr
    ⟨rfl, List.cons_ne_nil _ _⟩

/-- Once the SPAN is up, node 2 loses its half and asks to resynchronise: the report does not take
effect. -/
theorem sos_ignored :
    ((exec (step OpenSsl.standIn true) {} (waiting ++ [.applicationCommand 2
        (NonceSync.encodeNonceReport (sosReport 9)) fun _ => Vector.replicate 16 4])).peerConfig
      OpenSsl.standIn 2).isSome = true ∧
    ¬ (exec (step OpenSsl.standIn true) {} (waiting ++ [.applicationCommand 2
        (NonceSync.encodeNonceReport (sosReport 9)) fun _ => Vector.replicate 16 4])).SosHonoured
      OpenSsl.standIn true 2 (NonceSync.encodeNonceReport (sosReport 8))
      (fun _ => Vector.replicate 16 5) (Vector.replicate 16 8) :=
  ⟨rfl, not_sosHonoured_of_span OpenSsl.standIn
    (NonceSync.decodeNonceReport_encodeNonceReport 1 _) rfl rfl true _ rfl⟩

/-! ## A frame that does not open -/

/-- An encapsulated S2 frame. -/
def IsEncapsulated (data : Bytes) : Prop :=
  2 ≤ data.length ∧ data.byte 0 = NonceSync.commandClass ∧
    data.byte 1 = Encapsulation.messageEncapsulation

/-- The node's state with its configuration refreshed, as the inbound orchestrator has it before it
receives a frame. -/
def configured (s : Transport) (nodeId : NodeId) (config : PeerConfig) : Peer :=
  { s.manager.peers nodeId with config }

/-- The outbound orchestrator ignores an encapsulated frame, whichever is first. -/
theorem step_encapsulated (s : Transport) (nodeId : NodeId) (h : IsEncapsulated data)
    (inboundFirst : Bool) (entropy : ℕ → EntropyInput) :
    s.step ssl inboundFirst (.applicationCommand nodeId data entropy) =
      s.inbound ssl nodeId data (entropy 0) := by
  have hbyte : NonceSync.commandByte data = some Encapsulation.messageEncapsulation := by
    rw [NonceSync.commandByte, if_neg, h.2.2]
    simp only [h.2.1, ne_eq, not_true_eq_false, or_false]
    exact Nat.not_lt.mpr h.1
  have hignore : ∀ s' : Transport, s'.outbound ssl nodeId data entropy = (s', []) := by
    intro s'
    unfold outbound
    rw [hbyte, if_pos (by decide)]
  cases inboundFirst with
  | true => rw [step_inboundFirst, hignore, List.append_nil]
  | false => rw [step_outboundFirst, hignore, List.nil_append]

/-- The identities in a configuration are the transport's own. -/
theorem peerConfig_ids {s : Transport} {nodeId : NodeId} {config : PeerConfig}
    (h : s.peerConfig ssl nodeId = some config) :
    config.peerNodeId = nodeId ∧ config.ourNodeId = s.controllerNodeId ∧
      config.homeId = s.homeId := by
  unfold peerConfig at h
  split at h
  · obtain ⟨derived, -, rfl⟩ := Option.map_eq_some_iff.mp h
    exact ⟨rfl, rfl, rfl⟩
  · cases h

/-- What the inbound orchestrator does with an encapsulated frame of an S2-secure node. -/
theorem inbound_encapsulated {s : Transport} {nodeId : NodeId} {config : PeerConfig}
    (hconfig : s.peerConfig ssl nodeId = some config) (h : IsEncapsulated data)
    (rei : EntropyInput) :
    s.inbound ssl nodeId data rei =
      match (s.configured nodeId config).receive ssl data with
      | (none, p) =>
        { s with manager := (s.manager.configurePeer nodeId config).set nodeId p }.requestResync
          nodeId rei
      | (some inner, p) =>
        ({ s with manager := (s.manager.configurePeer nodeId config).set nodeId p },
          [.applicationCommand nodeId inner]) := by
  obtain ⟨hlen, hclass, hcommand⟩ := h
  obtain ⟨hpeer, hours, hhome⟩ := peerConfig_ids ssl hconfig
  -- The frame is an encapsulation, so none of the guards before takes it.
  have hguard : ¬ (data.length < 2 ∨ data.byte 0 ≠ NonceSync.commandClass) := by
    simp only [hclass, ne_eq, not_true_eq_false, or_false]
    omega
  have hget : Encapsulation.messageEncapsulation ≠ NonceSync.nonceGetCommand := by decide
  have hconf : s.configurePeer ssl nodeId =
      some (config, { s with manager := s.manager.configurePeer nodeId config }) := by
    unfold configurePeer
    rw [hconfig]
    rfl
  -- The peer has been configured by the time that the frame is received.
  have hentry : (s.manager.configurePeer nodeId config).peers nodeId = s.configured nodeId config :=
    SpanManager.peers_set ..
  unfold inbound
  rw [if_neg hguard, hconf]
  simp only [hcommand, if_neg hget, ne_eq, not_true_eq_false, if_false, SpanManager.receiveNonce,
    hentry, Peer.receive]
  -- Without a nonce the frame is not opened.
  rcases hnonce : (s.configured nodeId config).receiveNonce ssl data with ⟨_ | nonce, p⟩
  · rfl
  · -- The context is the one of the node's refreshed configuration.
    have hp : p.config = config := by
      rw [Peer.receiveNonce_eq] at hnonce
      rw [← (Prod.mk.inj hnonce).2]
      simp [configured]
    have hcontext : p.receiveContext data =
        { senderNodeId := nodeId
          receiverNodeId := s.controllerNodeId
          homeId := s.homeId
          sequenceNumber := data.byte 2 } := by
      unfold Peer.receiveContext
      rw [hp, hpeer, hours, hhome]
    simp only [hcontext, hp]
    cases Encapsulation.decrypt ssl data _ config.classKey nonce <;> rfl

/-- The frame that the other end of a link builds around `inner`, under the SPAN made of its own
`sei` and the REI that it was given. -/
def answerFrame (config : PeerConfig) (rei sei : EntropyInput) (sequenceNumber : UInt8)
    (inner : Bytes) : Bytes :=
  Encapsulation.encrypt ssl inner
    { senderNodeId := config.peerNodeId
      receiverNodeId := config.ourNodeId
      homeId := config.homeId
      sequenceNumber }
    config.classKey ((Span.instantiate ssl sei rei config.personalization).truncatedNonce ssl).1
    (NonceSync.encodeSpanExtension sei)

/-- The answer to a resynchronisation is an encapsulated frame. -/
theorem isEncapsulated_answerFrame (config : PeerConfig) (rei sei : EntropyInput)
    (sequenceNumber : UInt8) (inner : Bytes) :
    IsEncapsulated (answerFrame ssl config rei sei sequenceNumber inner) := by
  unfold answerFrame
  obtain ⟨cipher, heq⟩ := Encapsulation.encrypt_eq ssl inner
    { senderNodeId := config.peerNodeId
      receiverNodeId := config.ourNodeId
      homeId := config.homeId
      sequenceNumber } config.classKey
    ((Span.instantiate ssl sei rei config.personalization).truncatedNonce ssl).1
    (NonceSync.encodeSpanExtension sei)
  rw [heq]
  exact ⟨by simp, rfl, rfl⟩

/-- A frame of the other end that answers the REI we issued opens. -/
theorem receive_answerFrame {ssl : OpenSsl} (hccm : ssl.CcmInverse) {q : Peer} {rei : EntropyInput}
    (h : q.ourRei = some rei) (sei : EntropyInput) (sequenceNumber : UInt8) (inner : Bytes) :
    (q.receive ssl (answerFrame ssl q.config rei sei sequenceNumber inner)).1 = some inner := by
  have hspan := announcedSpan_encrypt ssl h inner
    { senderNodeId := q.config.peerNodeId
      receiverNodeId := q.config.ourNodeId
      homeId := q.config.homeId
      sequenceNumber } q.config.classKey
    ((Span.instantiate ssl sei rei q.config.personalization).truncatedNonce ssl).1 sei
  have hopen := fun seq => Encapsulation.decrypt_encrypt hccm inner
    { senderNodeId := q.config.peerNodeId
      receiverNodeId := q.config.ourNodeId
      homeId := q.config.homeId
      sequenceNumber } q.config.classKey
    ((Span.instantiate ssl sei rei q.config.personalization).truncatedNonce ssl).1
    (fun _ => Encapsulation.wellFormed_encodeSpanExtension sei) seq
  unfold answerFrame
  generalize Encapsulation.encrypt ssl inner _ q.config.classKey _ _ = frame at hspan hopen ⊢
  unfold Peer.receive
  rw [Peer.receiveNonce_eq, Peer.receiveSpan, hspan]
  exact hopen (frame.byte 2)

/-- The outcome of a frame of `nodeId` that does not open, with the configuration `config` and the
fresh `rei` at hand. -/
structure Resynced (inboundFirst : Bool) (s s' : Transport) (sent : List Published)
    (nodeId : NodeId) (data : Bytes) (config : PeerConfig) (rei : EntropyInput) : Prop where
  /-- Nothing is republished: one report goes out, with the SOS flag and the fresh REI. -/
  report : sent = [.sendData nodeId
    (NonceSync.encodeNonceReport ((s.manager.peers nodeId).nonceReport rei)) noCallback]
  /-- The SPAN, or the one that the frame announces in answer to an REI of ours, moves on by one
  nonce; where there is none there is none after. -/
  span : (s'.manager.peers nodeId).span =
    (((s.configured nodeId config).announcedSpan ssl data).or (s.manager.peers nodeId).span).map
      (Span.advance ssl)
  /-- Every other peer is left alone. -/
  others : ∀ other, other ≠ nodeId → s'.manager.peers other = s.manager.peers other
  /-- So is everything else. -/
  frame : s' = { s with manager := s'.manager }
  /-- A frame that the node sends next, from its own entropy and the REI of the report, opens. -/
  recovers : ∀ sei sequenceNumber inner entropy,
    (s'.step ssl inboundFirst (.applicationCommand nodeId
      (answerFrame ssl config rei sei sequenceNumber inner) entropy)).2 =
        [.applicationCommand nodeId inner]

/-- An encapsulated frame of an S2-secure node that does not open is answered with a report of a
fresh REI, and the node recovers with its next frame from that REI. A frame may consist of its two
header bytes: the source then reads one byte past the end, and uses it for nothing, since such a
frame does not open whatever that byte is. `readsWithin_iff` is about what is read there. -/
theorem failed_frame_resyncs {ssl : OpenSsl} (hccm : ssl.CcmInverse) (inboundFirst : Bool)
    (s : Transport) {nodeId : NodeId} {config : PeerConfig}
    (hconfig : s.peerConfig ssl nodeId = some config) (hdata : IsEncapsulated data)
    (hfail : ((s.configured nodeId config).receive ssl data).1 = none)
    (entropy : ℕ → EntropyInput) :
    Resynced ssl inboundFirst s
      (s.step ssl inboundFirst (.applicationCommand nodeId data entropy)).1
      (s.step ssl inboundFirst (.applicationCommand nodeId data entropy)).2 nodeId data config
      (entropy 0) := by
  -- The node's entry once the frame has been received: the nonce is drawn before the frame is opened,
  -- so this is the same whether or not it does.
  obtain ⟨p, hp⟩ : ∃ p, p = ((s.configured nodeId config).receiveNonce ssl data).2 := ⟨_, rfl⟩
  have hreceive : (s.configured nodeId config).receive ssl data = (none, p) :=
    Prod.ext hfail ((Peer.receive_snd ssl _ data).trans hp.symm)
  rw [Peer.receiveNonce_eq] at hp
  have hpconfig : p.config = config := by rw [hp]; simp [configured]
  have hpseq : p.txSequence = (s.manager.peers nodeId).txSequence := by rw [hp]; simp [configured]
  have hpspan : p.span = (((s.configured nodeId config).announcedSpan ssl data).or
      (s.manager.peers nodeId).span).map (Span.advance ssl) := by
    rw [hp, Peer.receiveSpan_span]
    rfl
  -- The state after the frame: the node's entry is `p`, with the fresh REI issued.
  obtain ⟨q, hq⟩ : ∃ q, q = (p.respondToNonceGet (entropy 0)).2 := ⟨_, rfl⟩
  obtain ⟨s', hs'⟩ : ∃ s' : Transport, s' = { s with
      manager := ((s.manager.configurePeer nodeId config).set nodeId p).set nodeId q } := ⟨_, rfl⟩
  have hstep : s.step ssl inboundFirst (.applicationCommand nodeId data entropy) =
      (s', [.sendData nodeId (NonceSync.encodeNonceReport (p.nonceReport (entropy 0)))
        noCallback]) := by
    rw [step_encapsulated ssl s nodeId hdata, inbound_encapsulated ssl hconfig hdata, hreceive, hs',
      hq]
    simp only [requestResync, SpanManager.respondToNonceGet, SpanManager.peers_set,
      Peer.respondToNonceGet]
  have hentry : s'.manager.peers nodeId = q := by rw [hs']; exact SpanManager.peers_set ..
  rw [hstep]
  refine ⟨?_, ?_, fun other hne => ?_, ?_, fun sei sequenceNumber inner entropy' => ?_⟩
  · unfold Peer.nonceReport
    rw [hpseq]
  · rw [hentry, hq]
    exact hpspan
  · rw [hs']
    simp only [SpanManager.configurePeer, SpanManager.peers_set_of_ne _ hne]
  · rw [hs']
  · -- The configuration is the same as before, and the REI in the node's entry is the reported one.
    have hconfig' : s'.peerConfig ssl nodeId = some config := by rw [hs']; exact hconfig
    have hqconfig : q.config = config := by rw [hq]; exact hpconfig
    have hqrei : q.ourRei = some (entropy 0) := by rw [hq]; rfl
    have hconfigured : s'.configured nodeId config = q := by
      unfold configured
      rw [hentry, ← hqconfig]
    have hopen := receive_answerFrame hccm hqrei sei sequenceNumber inner
    have hframe := isEncapsulated_answerFrame ssl config (entropy 0) sei sequenceNumber inner
    rw [step_encapsulated ssl s' nodeId hframe, inbound_encapsulated ssl hconfig' hframe,
      hconfigured]
    rw [hqconfig] at hopen
    rcases hreceived : q.receive ssl (answerFrame ssl config (entropy 0) sei sequenceNumber inner)
      with ⟨r, p'⟩
    rw [hreceived] at hopen
    rw [show r = some inner from hopen]

/-- A state that a run reaches, with a SPAN for node 2. -/
def talking : Transport :=
  exec (step OpenSsl.standIn true) {} (waiting ++ [.applicationCommand 2
    (NonceSync.encodeNonceReport (sosReport 9)) fun _ => Vector.replicate 16 4])

/-- The configuration of node 2 in `talking`. -/
def talkingConfig : PeerConfig := (talking.manager.peers 2).config

/-- The SPAN of node 2 in `talking`: one nonce was drawn from it. -/
def talkingSpan : Span :=
  Span.advance OpenSsl.standIn (Span.instantiate OpenSsl.standIn (Vector.replicate 16 4)
    (Vector.replicate 16 9) (KeyDerivation.networkKeyExpand OpenSsl.standIn
      (Vector.replicate 16 7)).personalization)

/-- The four bytes of a header are no frame: the node is asked to resynchronise, and recovers. -/
theorem failed_header_resyncs :
    (talking.configured 2 talkingConfig).receive OpenSsl.standIn [0x9F, 0x03, 0x00, 0x00] =
        (none, ((talking.configured 2 talkingConfig).receiveNonce OpenSsl.standIn
          [0x9F, 0x03, 0x00, 0x00]).2) ∧
      Resynced OpenSsl.standIn true talking
        (talking.step OpenSsl.standIn true (.applicationCommand 2 [0x9F, 0x03, 0x00, 0x00]
          fun _ => Vector.replicate 16 6)).1
        (talking.step OpenSsl.standIn true (.applicationCommand 2 [0x9F, 0x03, 0x00, 0x00]
          fun _ => Vector.replicate 16 6)).2 2 [0x9F, 0x03, 0x00, 0x00] talkingConfig
        (Vector.replicate 16 6) :=
  ⟨rfl, failed_frame_resyncs OpenSsl.standIn_ccmInverse true talking rfl
    ⟨by decide, rfl, rfl⟩ rfl _⟩

/-- The SPAN of node 2 after those four bytes is not the one before. -/
theorem failed_header_moves_span :
    talking.peerConfig OpenSsl.standIn 2 = some talkingConfig ∧
      ((talking.configured 2 talkingConfig).receive OpenSsl.standIn [0x9F, 0x03, 0x00, 0x00]).1 =
        none ∧
      ((talking.step OpenSsl.standIn true (.applicationCommand 2 [0x9F, 0x03, 0x00, 0x00]
          fun _ => Vector.replicate 16 6)).1.manager.peers 2).span ≠
        (talking.manager.peers 2).span := by
  have hbefore : (talking.manager.peers 2).span = some talkingSpan := rfl
  have hafter : ((talking.step OpenSsl.standIn true (.applicationCommand 2 [0x9F, 0x03, 0x00, 0x00]
      fun _ => Vector.replicate 16 6)).1.manager.peers 2).span =
        some (talkingSpan.advance OpenSsl.standIn) := rfl
  refine ⟨rfl, rfl, ?_⟩
  rw [hbefore, hafter]
  decide +kernel

end Transport

end Zwaved.S2
