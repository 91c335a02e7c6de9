import Zwaved.S2.SpanService
import Zwaved.S2.Transport

/-!
# The traffic of the transport

The orchestrators of `Transport` work the SPAN table by its operations only, and those are what the
service has for traffic. `Traffic m m'` says that some operations bring one table to the other, and
each handler is shown to be of that kind. So every run of the transport is also one of the service,
with the same live table, as long as the SPANs that a DongleInfo restores are rows of the store
(`exec_transport`): what holds of the SPANs in every run of the service holds in it.
-/

namespace Zwaved.S2

open Reactive

variable (ssl : OpenSsl)

/-- Operations of S2 traffic bring the first table to the second. -/
def Traffic (m m' : SpanManager) : Prop :=
  ∃ ops : List TransportOp, ops.foldl (fun m op => (op.run ssl m).1) m = m'

variable {m m' m'' : SpanManager}

/-- No traffic leaves the table. -/
theorem Traffic.refl (m : SpanManager) : Traffic ssl m m := ⟨[], rfl⟩

/-- One operation is traffic. -/
theorem Traffic.op (m : SpanManager) (op : TransportOp) : Traffic ssl m (op.run ssl m).1 :=
  ⟨[op], rfl⟩

variable {ssl}

/-- Traffic followed by traffic is traffic. -/
theorem Traffic.trans (h : Traffic ssl m m') (h' : Traffic ssl m' m'') : Traffic ssl m m'' := by
  obtain ⟨ops, rfl⟩ := h
  obtain ⟨ops', rfl⟩ := h'
  exact ⟨ops ++ ops', List.foldl_append⟩

/-- The service makes the same traffic, and touches nothing but the live table. -/
theorem Traffic.exec_service {service : SpanService} (h : Traffic ssl service.manager m') :
    ∃ ops, exec (serviceStep ssl) service ops = { service with manager := m' } := by
  obtain ⟨ops, rfl⟩ := h
  refine ⟨ops.map .transport, ?_⟩
  induction ops generalizing service with
  | nil => rfl
  | cons op ops ih => exact @ih { service with manager := (op.run ssl service.manager).1 }

/-! ## The handlers -/

namespace Transport

variable {s s' : Transport} {nodeId : NodeId}

/-- Configuring a peer of the transport is traffic, or leaves the table. -/
theorem traffic_configurePeer {config : PeerConfig}
    (h : s.configurePeer ssl nodeId = some (config, s')) : Traffic ssl s.manager s'.manager := by
  obtain ⟨config', -, heq⟩ := Option.map_eq_some_iff.mp h
  obtain ⟨-, rfl⟩ := Prod.mk.inj heq
  exact Traffic.op ssl s.manager (.configurePeer nodeId config')

variable (s nodeId)

/-- Asking for a resynchronisation is traffic. -/
theorem traffic_requestResync (rei : EntropyInput) :
    Traffic ssl s.manager (s.requestResync nodeId rei).1.manager :=
  Traffic.op ssl s.manager (.respondToNonceGet nodeId rei)

/-- What the inbound side does with a frame is traffic: it answers a nonce request, opens the frame
or asks for a resynchronisation. -/
theorem traffic_inbound (data : Bytes) (rei : EntropyInput) :
    Traffic ssl s.manager (s.inbound ssl nodeId data rei).1.manager := by
  unfold inbound
  split
  · exact .refl ssl _
  -- A frame for a node without keys does not reach the manager.
  cases hconfig : s.configurePeer ssl nodeId with
  | none => exact .refl ssl _
  | some configured =>
    obtain ⟨config, s'⟩ := configured
    have hconfigured := traffic_configurePeer hconfig
    have hreceived := Traffic.op ssl s'.manager (.receiveNonce nodeId data)
    simp only [TransportOp.run] at hreceived
    dsimp only
    -- A request for our nonce is answered with a REI.
    split
    · exact hconfigured.trans (traffic_requestResync s' nodeId rei)
    split
    · exact hconfigured
    generalize s'.manager.receiveNonce ssl nodeId data = received at hreceived ⊢
    -- The frame does not open, by its nonce or by its tag, and the node is asked to start over.
    obtain ⟨_ | nonce, manager⟩ := received
    · exact (hconfigured.trans hreceived).trans
        (traffic_requestResync { s' with manager } nodeId rei)
    · dsimp only
      split
      · exact (hconfigured.trans hreceived).trans
          (traffic_requestResync { s' with manager } nodeId rei)
      · exact hconfigured.trans hreceived

variable {s nodeId}

/-- Sending an encrypted frame is traffic. -/
theorem traffic_sendEncrypted {pending : Pending} {sei : EntropyInput} {sent : Published}
    (h : s.sendEncrypted ssl nodeId pending sei = some (s', sent)) :
    Traffic ssl s.manager s'.manager := by
  have hop := Traffic.op ssl s.manager (.encrypt nodeId pending.payload sei)
  simp only [TransportOp.run] at hop
  unfold sendEncrypted at h
  generalize s.manager.encrypt ssl nodeId pending.payload sei = encrypted at h hop
  obtain ⟨_ | frame, manager⟩ := encrypted
  · cases h
  · obtain ⟨rfl, -⟩ := Prod.mk.inj (Option.some.inj h)
    exact hop

/-- Sending the frames that waited for a nonce is traffic, by induction on the queue. -/
theorem traffic_drain (entropy : ℕ → EntropyInput) (queue : List Pending) :
    Traffic ssl s.manager (drain ssl nodeId entropy s queue).1.manager := by
  induction queue generalizing s with
  | nil => exact .refl ssl _
  | cons pending queue ih =>
    unfold drain
    cases hsent : s.sendEncrypted ssl nodeId pending (entropy queue.length) with
    | none => exact .refl ssl _
    | some result =>
      obtain ⟨s', sent⟩ := result
      exact (traffic_sendEncrypted hsent).trans ih

variable (s nodeId)

/-- A request to send is traffic, whether it is encrypted now or waits for a nonce. -/
theorem traffic_secureS2SendRequest (pending : Pending) (sei : EntropyInput) :
    Traffic ssl s.manager (s.secureS2SendRequest ssl nodeId pending sei).1.manager := by
  unfold secureS2SendRequest
  cases hconfig : s.configurePeer ssl nodeId with
  | none => exact .refl ssl _
  | some configured =>
    obtain ⟨config, s'⟩ := configured
    have hconfigured := traffic_configurePeer hconfig
    dsimp only
    cases hsent : s'.sendEncrypted ssl nodeId pending sei with
    | some result =>
      obtain ⟨s'', sent⟩ := result
      exact hconfigured.trans (traffic_sendEncrypted hsent)
    | none =>
      dsimp only
      split
      · exact hconfigured.trans (Traffic.op ssl s'.manager (.nonceGet nodeId))
      · exact hconfigured

/-- What the outbound side does with a nonce report is traffic. -/
theorem traffic_outbound (data : Bytes) (entropy : ℕ → EntropyInput) :
    Traffic ssl s.manager (s.outbound ssl nodeId data entropy).1.manager := by
  unfold outbound
  split
  · exact .refl ssl _
  split
  · exact .refl ssl _
  split
  · exact .refl ssl _
  · next report _ =>
    refine (Traffic.op ssl s.manager (.acceptNonceReport nodeId report)).trans ?_
    exact traffic_drain (s := { s with manager := s.manager.acceptNonceReport nodeId report })
      entropy (s.queues nodeId)

/-! ## Runs -/

/-- What a DongleInfo restores are rows of the table at its home. -/
def Restores (table : String → NodeMap InnerState) : TransportEvent → Prop
  | .dongleInfo homeId _ restored => ∃ read : NodeId → Bool,
      restored = fun peer => if read peer then table (SpanStore.toHex homeId) peer else none
  | _ => True

variable {s nodeId} {service : SpanService}

/-- One event of the transport is a few operations of the service. -/
theorem step_service (hmanager : service.manager = s.manager) (inboundFirst : Bool)
    {event : TransportEvent} (hrestores : Restores service.store.table event) :
    ∃ ops, (exec (serviceStep ssl) service ops).manager =
        (s.step ssl inboundFirst event).1.manager ∧
      (exec (serviceStep ssl) service ops).store.table = service.store.table := by
  -- Traffic is traffic of the service.
  have htraffic {m : SpanManager} (h : Traffic ssl s.manager m) :
      ∃ ops, (exec (serviceStep ssl) service ops).manager = m ∧
        (exec (serviceStep ssl) service ops).store.table = service.store.table := by
    rw [← hmanager] at h
    obtain ⟨ops, hops⟩ := h.exec_service
    exact ⟨ops, by rw [hops], by rw [hops]⟩
  cases event with
  | applicationCommand nodeId data entropy =>
    cases inboundFirst with
    | true =>
      exact htraffic ((traffic_inbound s nodeId data (entropy 0)).trans
        (traffic_outbound _ nodeId data entropy))
    | false =>
      exact htraffic ((traffic_outbound s nodeId data entropy).trans
        (traffic_inbound _ nodeId data (entropy 0)))
  | secureS2SendRequest nodeId payload callbackId entropy =>
    exact htraffic (traffic_secureS2SendRequest s nodeId { payload, callbackId } entropy)
  | dongleInfo homeId controllerNodeId restored =>
    obtain ⟨read, rfl⟩ := hrestores
    refine ⟨[.dongleInfo homeId read], ?_, rfl⟩
    show SpanStore.importAll service.manager _ = SpanStore.importAll s.manager _
    rw [hmanager]
    rfl
  | registryChanged registry => exact htraffic (.refl ssl _)
  | setCurrent keys => exact htraffic (.refl ssl _)

/-- Every run of the transport whose DongleInfos restore rows of the store has the live table of a
run of the service. -/
theorem exec_transport (hmanager : service.manager = s.manager) (inboundFirst : Bool)
    (events : List TransportEvent)
    (hrestores : ∀ event ∈ events, Restores service.store.table event) :
    ∃ ops, (exec (serviceStep ssl) service ops).manager =
        (exec (step ssl inboundFirst) s events).manager ∧
      (exec (serviceStep ssl) service ops).store.table = service.store.table := by
  induction events generalizing s service with
  | nil => exact ⟨[], hmanager, rfl⟩
  | cons event events ih =>
    obtain ⟨ops, hnext, htable⟩ :=
      step_service hmanager inboundFirst (hrestores event (List.mem_cons_self ..))
    obtain ⟨more, hrest, htables⟩ := ih hnext fun other hother => by
      rw [htable]
      exact hrestores other (List.mem_cons_of_mem _ hother)
    refine ⟨ops ++ more, ?_, ?_⟩
    · rw [exec_append, hrest]
      rfl
    · rw [exec_append, htables, htable]

end Transport

end Zwaved.S2
