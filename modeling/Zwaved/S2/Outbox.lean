import Zwaved.S2.Transport

/-!
# What the S2 outbound side does with a payload

A payload for an S2-secure node is encrypted at once when there is something to send under
(`Peer.CanSend`): a SPAN, or an REI of the node to make one with. Otherwise it waits in the queue of
the node for a NONCE_REPORT, and one report settles the whole queue: if it leaves something to send
under, every payload is encrypted in order, and if not, every payload is dropped. The lemmas say
this of `secureS2SendRequest` (`RequestOutcome`) and of `outbound` (`ReportOutcome`).
-/

namespace Zwaved.S2

variable (ssl : OpenSsl)

/-- There is a SPAN, or an REI to make one with. -/
def Peer.CanSend (p : Peer) : Prop := p.span ≠ none ∨ p.peerRei ≠ none

instance (p : Peer) : Decidable p.CanSend := inferInstanceAs (Decidable (_ ∨ _))

/-- With something to send under there is a frame, and a SPAN after it. -/
theorem Peer.encrypt_of_canSend {p : Peer} (h : p.CanSend) (inner : Bytes) (sei : EntropyInput) :
    ∃ context nonce extensions p', p.encrypt ssl inner sei =
        (some (Encapsulation.encrypt ssl inner context p.config.classKey nonce extensions), p') ∧
      p'.CanSend := by
  unfold encrypt sendSpan
  cases hspan : p.span with
  | some span => exact ⟨_, _, _, _, rfl, Or.inl (Option.some_ne_none _)⟩
  | none =>
    cases hrei : p.peerRei with
    | none => exact absurd h (by simp [CanSend, hspan, hrei])
    | some rei => exact ⟨_, _, _, _, rfl, Or.inl (Option.some_ne_none _)⟩

/-- A peer that has nothing to send under encrypts nothing and stays as it is. -/
theorem Peer.encrypt_of_not_canSend {p : Peer} (h : ¬ p.CanSend) (inner : Bytes)
    (sei : EntropyInput) : p.encrypt ssl inner sei = (none, p) := by
  rw [CanSend, not_or, not_not, not_not] at h
  simp only [encrypt, sendSpan, h.1, h.2]

/-- What is published is a frame for the node that carries this payload, with its callback id. -/
def Carries (nodeId : NodeId) (sent : Published) (pending : Pending) : Prop :=
  ∃ context classKey nonce extensions, sent = .sendData nodeId
    (Encapsulation.encrypt ssl pending.payload context classKey nonce extensions) pending.callbackId

namespace Transport

variable {ssl} {nodeId : NodeId}

/-- With something to send under, a payload is sent in a frame that carries it, and there still is
something to send under. -/
theorem sendEncrypted_of_canSend {s : Transport} (h : (s.manager.peers nodeId).CanSend)
    (pending : Pending) (sei : EntropyInput) :
    ∃ manager sent, s.sendEncrypted ssl nodeId pending sei = some ({ s with manager }, sent) ∧
      Carries ssl nodeId sent pending ∧ (manager.peers nodeId).CanSend := by
  obtain ⟨context, nonce, extensions, p', hencrypt, hcan⟩ :=
    Peer.encrypt_of_canSend ssl h pending.payload sei
  refine ⟨s.manager.set nodeId p', _, ?_,
    ⟨context, (s.manager.peers nodeId).config.classKey, nonce, extensions, rfl⟩, ?_⟩
  · simp only [sendEncrypted, SpanManager.encrypt, hencrypt]
  · rwa [SpanManager.peers_set]

/-- Without a SPAN and without an entropy input to start one, no frame is sent encrypted. -/
theorem sendEncrypted_of_not_canSend {s : Transport} (h : ¬ (s.manager.peers nodeId).CanSend)
    (pending : Pending) (sei : EntropyInput) : s.sendEncrypted ssl nodeId pending sei = none := by
  simp only [sendEncrypted, SpanManager.encrypt, Peer.encrypt_of_not_canSend ssl h]

/-- With something to send under, the loop encrypts the whole queue, in order. -/
theorem drain_of_canSend {s : Transport} (h : (s.manager.peers nodeId).CanSend)
    (entropy : ℕ → EntropyInput) (queue : List Pending) :
    ∃ manager sent, drain ssl nodeId entropy s queue = ({ s with manager }, sent) ∧
      List.Forall₂ (Carries ssl nodeId) sent queue := by
  induction queue generalizing s with
  | nil => exact ⟨s.manager, [], rfl, .nil⟩
  | cons pending queue ih =>
    obtain ⟨manager, sent, hsend, hcarries, hcan⟩ :=
      sendEncrypted_of_canSend h pending (entropy queue.length)
    obtain ⟨manager', rest, hdrain, hrest⟩ := @ih { s with manager } hcan
    exact ⟨manager', sent :: rest, by simp only [drain, hsend, hdrain], .cons hcarries hrest⟩

/-- The loop over the waiting payloads stops at once if there is nothing to send under. -/
theorem drain_of_not_canSend {s : Transport} (h : ¬ (s.manager.peers nodeId).CanSend)
    (entropy : ℕ → EntropyInput) (queue : List Pending) :
    drain ssl nodeId entropy s queue = (s, []) := by
  cases queue with
  | nil => rfl
  | cons pending queue => simp only [drain, sendEncrypted_of_not_canSend h]

variable (ssl) in
/-- What a request comes to. -/
inductive RequestOutcome (s : Transport) (nodeId : NodeId) (pending : Pending) :
    Transport × List Published → Prop
  /-- It is refused: the node is not S2-secure, or there are no keys. -/
  | refused (config : s.peerConfig ssl nodeId = none) : RequestOutcome s nodeId pending (s, [])
  /-- It is encrypted at once. -/
  | sent (config : s.peerConfig ssl nodeId ≠ none) (can : (s.manager.peers nodeId).CanSend)
    (manager : SpanManager) {frame : Published} (carries : Carries ssl nodeId frame pending) :
    RequestOutcome s nodeId pending ({ s with manager }, [frame])
  /-- It waits. The first to wait asks for a nonce. -/
  | queued (config : s.peerConfig ssl nodeId ≠ none) (cannot : ¬ (s.manager.peers nodeId).CanSend)
    (manager : SpanManager) (sequence : UInt8) :
    RequestOutcome s nodeId pending
      ({ s with
          manager
          queues := Function.update s.queues nodeId (s.queues nodeId ++ [pending]) },
        if (s.queues nodeId).isEmpty then
          [.sendData nodeId (NonceSync.encodeNonceGet sequence) noCallback]
        else [])

variable (ssl) in

/-- A request to send has one of the outcomes of `RequestOutcome`. -/
theorem secureS2SendRequest_outcome (s : Transport) (nodeId : NodeId) (pending : Pending)
    (sei : EntropyInput) :
    RequestOutcome ssl s nodeId pending (s.secureS2SendRequest ssl nodeId pending sei) := by
  unfold secureS2SendRequest configurePeer
  cases hconfig : s.peerConfig ssl nodeId with
  | none => exact .refused hconfig
  | some config =>
    have hsome : s.peerConfig ssl nodeId ≠ none := by simp [hconfig]
    -- The configuration has nothing to do with what there is to send under.
    have hpeer : ((s.manager.configurePeer nodeId config).peers nodeId).CanSend ↔
        (s.manager.peers nodeId).CanSend := by
      simp [SpanManager.configurePeer, Peer.CanSend]
    by_cases hcan : (s.manager.peers nodeId).CanSend
    · obtain ⟨manager, sent, hsend, hcarries, -⟩ := @sendEncrypted_of_canSend ssl nodeId
        { s with manager := s.manager.configurePeer nodeId config } (hpeer.mpr hcan) pending sei
      simp only [Option.map_some, hsend]
      exact .sent hsome hcan manager hcarries
    · have hsend := @sendEncrypted_of_not_canSend ssl nodeId
        { s with manager := s.manager.configurePeer nodeId config } (mt hpeer.mp hcan) pending sei
      simp only [Option.map_some, hsend]
      have hqueued := fun manager sequence =>
        @RequestOutcome.queued ssl s nodeId pending hsome hcan manager sequence
      cases hempty : (s.queues nodeId).isEmpty with
      | true =>
        simp only [hempty, if_true] at hqueued ⊢
        exact hqueued _ _
      | false =>
        simp only [hempty, Bool.false_eq_true, if_false] at hqueued ⊢
        exact hqueued _ 0

variable (ssl) in
/-- What an ApplicationCommand comes to at the outbound side. -/
inductive ReportOutcome (s : Transport) (nodeId : NodeId) (data : Bytes) :
    Transport × List Published → Prop
  /-- It is no report that anything waits for. -/
  | ignored (other : NonceSync.commandByte data ≠ some NonceSync.nonceReportCommand ∨
      s.queues nodeId = [] ∨ NonceSync.decodeNonceReport data = none) :
    ReportOutcome s nodeId data (s, [])
  /-- The queue is encrypted. -/
  | drained {report : NonceSync.Report}
    (command : NonceSync.commandByte data = some NonceSync.nonceReportCommand)
    (decoded : NonceSync.decodeNonceReport data = some report)
    (can : ((s.manager.peers nodeId).acceptNonceReport report).CanSend)
    (manager : SpanManager) {sent : List Published}
    (carries : List.Forall₂ (Carries ssl nodeId) sent (s.queues nodeId)) :
    ReportOutcome s nodeId data
      ({ s with manager, queues := Function.update s.queues nodeId [] }, sent)
  /-- The queue is dropped. -/
  | dropped {report : NonceSync.Report}
    (command : NonceSync.commandByte data = some NonceSync.nonceReportCommand)
    (decoded : NonceSync.decodeNonceReport data = some report)
    (cannot : ¬ ((s.manager.peers nodeId).acceptNonceReport report).CanSend)
    (manager : SpanManager) :
    ReportOutcome s nodeId data
      ({ s with manager, queues := Function.update s.queues nodeId [] }, [])

variable (ssl) in

/-- A nonce report has one of the outcomes of `ReportOutcome`. -/
theorem outbound_outcome (s : Transport) (nodeId : NodeId) (data : Bytes)
    (entropy : ℕ → EntropyInput) :
    ReportOutcome ssl s nodeId data (s.outbound ssl nodeId data entropy) := by
  unfold outbound
  -- A frame that is no nonce report, or that no one waits for, is passed over.
  split
  · next hcommand => exact .ignored (Or.inl hcommand)
  next hcommand =>
  rw [not_not] at hcommand
  split
  · next hempty => exact .ignored (Or.inr (Or.inl (List.isEmpty_iff.mp hempty)))
  split
  · next hdecode => exact .ignored (Or.inr (Or.inr hdecode))
  next report hdecode =>
  have hpeer : (s.manager.acceptNonceReport nodeId report).peers nodeId =
      (s.manager.peers nodeId).acceptNonceReport report := SpanManager.peers_set ..
  -- With a SPAN or a REI of the node everything on the queue is sent, and otherwise nothing can be.
  by_cases hcan : ((s.manager.peers nodeId).acceptNonceReport report).CanSend
  · rw [← hpeer] at hcan
    obtain ⟨manager, sent, hdrain, hcarries⟩ := @drain_of_canSend ssl nodeId
      { s with manager := s.manager.acceptNonceReport nodeId report } hcan entropy (s.queues nodeId)
    simp only [hdrain]
    rw [hpeer] at hcan
    exact .drained hcommand hdecode hcan manager hcarries
  · rw [← hpeer] at hcan
    have hdrain := @drain_of_not_canSend ssl nodeId
      { s with manager := s.manager.acceptNonceReport nodeId report } hcan entropy (s.queues nodeId)
    simp only [hdrain]
    rw [hpeer] at hcan
    exact .dropped hcommand hdecode hcan _

variable (ssl) in
/-- The inbound side leaves the queues alone. -/
theorem inbound_queues (s : Transport) (nodeId : NodeId) (data : Bytes) (rei : EntropyInput) :
    (s.inbound ssl nodeId data rei).1.queues = s.queues := by
  unfold inbound configurePeer
  split
  · rfl
  cases s.peerConfig ssl nodeId with
  | none => rfl
  | some config =>
    simp only [Option.map_some]
    split
    · rfl
    split
    · rfl
    split
    · rfl
    split <;> rfl

end Transport

end Zwaved.S2
