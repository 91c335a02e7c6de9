import Zwaved.S2.SpanService

/-!
# Where a SPAN comes from

Neither a live SPAN nor a row of `span_state` says when it was established. `Origins` says it for
them: a SPAN that is instantiated gets a stamp, and the stamp goes with the SPAN through
`checkpoint` into its row, and through `bindAndRestore` out of it. The service does not see it
(`exec_service`).

With the bound home as the stamp this asks whether the networks that the daemon has seen stay apart:
the rows of a home should come from SPANs that were established in it, and no SPAN should be used in
another home than its own. `importSpan` replaces a live SPAN when the new home has a row for the
node, but a live SPAN without one stays, and takes part in the new home. `isolatesHomes_of` says
that nothing else goes wrong.
-/

namespace Zwaved.S2

open Reactive

variable (ssl : OpenSsl)

/-- The stamps of the live SPANs and of the rows. -/
structure Origins (τ : Type) where
  /-- By peer: the stamp of the live SPAN. -/
  live : NodeMap τ := fun _ => none
  /-- By home and peer: the stamp of the row. -/
  row : String → NodeMap τ := fun _ _ => none

/-- How the stamps follow one operation of the service. A SPAN of `peer` that is established in it
gets `stamp peer`. -/
def Origins.track {τ : Type} (stamp : NodeMap τ) (s : SpanService) (g : Origins τ) :
    ServiceOp → Origins τ
  | .transport op =>
    { g with live := fun peer =>
        if bornFor peer (op.run ssl s.manager).2 = [] then g.live peer else stamp peer }
  | .checkpointDue saved =>
    match s.homeBound, s.store.homeId with
    | true, some home =>
      { g with row := Function.update g.row home fun peer =>
          if saved peer ∧ (s.due peer).isSome then g.live peer else g.row home peer }
    | _, _ => g
  | .dongleInfo homeId read =>
    { g with live := fun peer =>
        if ((s.store.setHomeId homeId).loadAll read peer).isSome then
          g.row (SpanStore.toHex homeId) peer
        else g.live peer }
  | .restart => { g with live := fun _ => none }

/-! ## What traffic does to the SPAN of a peer -/

variable {ssl} in
/-- After `encrypt` there is a SPAN if there was one, if one was instantiated or if one was drawn
from, and in no other case. -/
theorem Peer.sendMarks_spec (p : Peer) (peer : NodeId) (inner : Bytes) (sei : EntropyInput) :
    (bornFor peer (p.sendMarks ssl peer sei) = [] →
      (p.encrypt ssl inner sei).2.span.isSome → p.span.isSome) ∧
    (drawnFor peer (p.sendMarks ssl peer sei) ≠ [] → (p.encrypt ssl inner sei).2.span.isSome) := by
  cases hspan : p.span with
  | some span => simp [Peer.encrypt, Peer.sendSpan, hspan]
  | none =>
    cases hrei : p.peerRei with
    | none => simp [Peer.sendMarks, Peer.encrypt, Peer.sendSpan, hspan, hrei, drawnFor]
    | some rei => simp [Peer.sendMarks, Peer.encrypt, Peer.sendSpan, hspan, hrei, bornFor]

variable {ssl} in
/-- `receiveNonce` marks a birth wherever it starts a SPAN, and a draw only where there is one. -/
theorem Peer.receiveMarks_spec (p : Peer) (peer : NodeId) (frame : Bytes) :
    (bornFor peer (p.receiveMarks ssl peer frame) = [] →
      (p.receiveNonce ssl frame).2.span.isSome → p.span.isSome) ∧
    (drawnFor peer (p.receiveMarks ssl peer frame) ≠ [] →
      (p.receiveNonce ssl frame).2.span.isSome) := by
  rw [Peer.receiveNonce_eq, Peer.receiveMarks, Peer.receiveSpan_span]
  cases hannounced : p.announcedSpan ssl frame with
  | some span => simp [bornFor]
  | none => cases hspan : p.span <;> simp [bornFor, drawnFor]

/-- A SPAN is there after S2 traffic only when it was there before or was established in it; and one
that is drawn from is there. -/
theorem TransportOp.run_spec (m : SpanManager) (op : TransportOp) (peer : NodeId) :
    (bornFor peer (op.run ssl m).2 = [] →
      (op.run ssl m).1.hasSpan peer → m.hasSpan peer) ∧
    (drawnFor peer (op.run ssl m).2 ≠ [] → (op.run ssl m).1.hasSpan peer) := by
  unfold SpanManager.hasSpan
  cases op with
  -- These four change a peer's configuration or its nonces, never a SPAN.
  | configurePeer other config =>
    have hspan : ((m.configurePeer other config).peers peer).span = (m.peers peer).span :=
      peers_set_span m rfl
    simp [run, hspan, drawnFor]
  | nonceGet other =>
    have hspan : ((m.nonceGet other).2.peers peer).span = (m.peers peer).span :=
      peers_set_span m rfl
    simp [run, hspan, drawnFor]
  | respondToNonceGet other rei =>
    have hspan : ((m.respondToNonceGet other rei).2.peers peer).span = (m.peers peer).span :=
      peers_set_span m rfl
    simp [run, hspan, drawnFor]
  | acceptNonceReport other report =>
    have hspan : ((m.acceptNonceReport other report).peers peer).span = (m.peers peer).span := by
      refine peers_set_span m ?_
      unfold Peer.acceptNonceReport
      split <;> rfl
    simp [run, hspan, drawnFor]
  -- A SPAN is established or drawn from only in the sending and receiving of the peer's own frames.
  | encrypt other inner sei =>
    simp only [run, SpanManager.encrypt]
    by_cases heq : other = peer
    · subst heq
      rw [SpanManager.peers_set]
      exact (m.peers other).sendMarks_spec other inner sei
    · rw [SpanManager.peers_set_of_ne m (Ne.symm heq),
        (sendMarks_other ssl (m.peers other) heq sei).2]
      exact ⟨fun _ h => h, fun h => absurd rfl h⟩
  | receiveNonce other frame =>
    simp only [run, SpanManager.receiveNonce]
    by_cases heq : other = peer
    · subst heq
      rw [SpanManager.peers_set]
      exact (m.peers other).receiveMarks_spec other frame
    · rw [SpanManager.peers_set_of_ne m (Ne.symm heq),
        (receiveMarks_other ssl (m.peers other) heq frame).2]
      exact ⟨fun _ h => h, fun h => absurd rfl h⟩

/-- A state that a nonce was drawn from is one of the draws of its peer. -/
theorem drawnFor_ne_nil {marks : List Mark} {peer : NodeId} {span : Span}
    (h : .drawn peer span ∈ marks) : drawnFor peer marks ≠ [] :=
  List.ne_nil_of_mem (a := span) (List.mem_filterMap.mpr ⟨_, h, by simp⟩)

/-! ## What a DongleInfo does to the SPAN of a peer -/

/-- After a DongleInfo a peer has a SPAN when it has a row at the new home, or had a SPAN before. -/
theorem hasSpan_bindAndRestore (s : SpanService) (homeId : Bytes) (read : NodeId → Bool)
    (peer : NodeId) :
    (s.bindAndRestore homeId read).manager.hasSpan peer =
      (((s.store.setHomeId homeId).loadAll read peer).isSome || s.manager.hasSpan peer) := by
  simp only [SpanManager.hasSpan, SpanService.bindAndRestore, SpanStore.importAll]
  cases (s.store.setHomeId homeId).loadAll read peer with
  | none => simp
  | some inner => simp [SpanManager.importSpan]

/-- A peer that a checkpoint writes has a live SPAN. -/
theorem SpanService.hasSpan_of_due {s : SpanService} {peer : NodeId} (h : (s.due peer).isSome) :
    s.manager.hasSpan peer := by
  cases hspan : (s.manager.peers peer).span with
  | some span => simp [SpanManager.hasSpan, hspan]
  | none => simp [SpanService.due, SpanManager.exportAll, SpanManager.exportSpan, hspan] at h

/-! ## What holds of every stamp -/

/-- `P` holds of the stamp of every live SPAN and of every row. -/
structure Origins.All {τ : Type} (P : NodeId → τ → Prop) (s : SpanService) (g : Origins τ) :
    Prop where
  /-- The live SPANs. -/
  live : ∀ peer stamp, s.manager.hasSpan peer → g.live peer = some stamp → P peer stamp
  /-- The rows. -/
  row : ∀ home peer stamp, s.store.table home peer ≠ none → g.row home peer = some stamp →
    P peer stamp

/-- What holds of every stamp goes on to do so, when it holds of those that are given out. -/
theorem Origins.All.track {τ : Type} {P : NodeId → τ → Prop} {s : SpanService} {g : Origins τ}
    (h : g.All P s) {stamp : NodeMap τ} (hstamp : ∀ peer given, stamp peer = some given → P peer given)
    (op : ServiceOp) : (g.track ssl stamp s op).All P (serviceStep ssl s op).1 := by
  cases op with
  | transport op =>
    refine ⟨fun peer given hspan hlive => ?_, h.row⟩
    simp only [Origins.track] at hlive
    split at hlive
    -- The live SPAN is not a new one, and was there before the operation.
    · next hborn =>
      exact h.live peer given ((op.run_spec ssl s.manager peer).1 hborn hspan) hlive
    · exact hstamp peer given hlive
  | checkpointDue saved =>
    -- Without a home nothing is written, and the stamps of the rows stay.
    cases hbound : s.homeBound with
    | false =>
      simp only [serviceStep, SpanService.checkpoint, Origins.track, hbound, Bool.false_eq_true,
        if_false]
      exact h
    | true =>
      cases hhome : s.store.homeId with
      | none =>
        simp only [serviceStep, SpanService.checkpoint, Origins.track, hbound, hhome,
          SpanStore.Store.saveAll, if_true]
        exact ⟨h.live, h.row⟩
      | some home =>
        simp only [serviceStep, SpanService.checkpoint, Origins.track, hbound, hhome,
          SpanStore.Store.saveAll, if_true]
        refine ⟨h.live, fun other peer given htable hrow => ?_⟩
        dsimp only at htable hrow
        -- Only the rows of the bound home are written, with the stamps of the SPANs they hold.
        by_cases hother : other = home
        · subst hother
          rw [Function.update_self] at htable hrow
          -- A row that is not written keeps its stamp.
          split at hrow
          · next hwritten =>
            exact h.live peer given (SpanService.hasSpan_of_due hwritten.2) hrow
          · next hkept =>
            refine h.row other peer given (fun hnone => htable ?_) hrow
            cases hdue : s.due peer <;> simp_all
        · rw [Function.update_of_ne hother] at htable hrow
          exact h.row other peer given htable hrow
  | dongleInfo homeId read =>
    refine ⟨fun peer given hspan hlive => ?_, h.row⟩
    have hspan : (s.bindAndRestore homeId read).manager.hasSpan peer := hspan
    rw [hasSpan_bindAndRestore, Bool.or_eq_true] at hspan
    simp only [Origins.track] at hlive
    -- The row of the new home replaces the SPAN and hands on its stamp.
    split at hlive
    · next hloaded =>
      refine h.row (SpanStore.toHex homeId) peer given (fun hnone => ?_) hlive
      simp [SpanStore.Store.loadAll, SpanStore.Store.setHomeId, hnone] at hloaded
    · next hloaded => exact h.live peer given (hspan.resolve_left hloaded) hlive
  | restart =>
    refine ⟨fun peer given hspan => ?_, h.row⟩
    cases hspan

/-! ## Homes -/

/-- The service, with the home ids that its SPANs and rows come from. -/
structure TrackedService where
  /-- The service. -/
  service : SpanService := {}
  /-- The home id of the last DongleInfo of the process. -/
  home : Option Bytes := none
  /-- The home id that was bound when a SPAN was established. -/
  origins : Origins Bytes := {}

/-- The home that is bound after an operation. -/
def nextHome (home : Option Bytes) : ServiceOp → Option Bytes
  | .dongleInfo homeId _ => some homeId
  | .restart => none
  | _ => home

/-- One operation. -/
def trackedStep (t : TrackedService) (op : ServiceOp) : TrackedService × List Mark :=
  ({ service := (serviceStep ssl t.service op).1
     home := nextHome t.home op
     origins := t.origins.track ssl (fun _ => t.home) t.service op },
    (serviceStep ssl t.service op).2)

/-- The stamps are only counted along: the service does what it would without them. -/
theorem exec_service (t : TrackedService) (ops : List ServiceOp) :
    (exec (trackedStep ssl) t ops).service = exec (serviceStep ssl) t.service ops := by
  induction ops generalizing t with
  | nil => rfl
  | cons op ops ih => exact ih (trackedStep ssl t op).1

/-- Each row is of its home: the SPAN that it holds was established while the home was bound. -/
def RowsOfHome (t : TrackedService) : Prop :=
  ∀ homeId peer, t.service.store.table (SpanStore.toHex homeId) peer ≠ none →
    t.origins.row (SpanStore.toHex homeId) peer = some homeId

/-- No operation uses a SPAN that was established under another home than the one that is bound. -/
def UsesOfHome (t : TrackedService) (op : ServiceOp) : Prop :=
  ∀ homeId, t.home = some homeId → ∀ peer span, .drawn peer span ∈ (trackedStep ssl t op).2 →
    ∀ other, (trackedStep ssl t op).1.origins.live peer = some other → other = homeId

/-- SPAN persistence is isolated per network, in this run from an empty table. -/
structure IsolatesHomes (ops : List ServiceOp) : Prop where
  /-- At every moment each row is of its home. -/
  rows : ∀ seen, seen <+: ops → RowsOfHome (exec (trackedStep ssl) {} seen)
  /-- Every SPAN that is used is of the bound home. -/
  uses : ∀ t ∈ trace (trackedStep ssl) {} ops, UsesOfHome ssl t.before t.input

/-- A DongleInfo is for the home that is bound already, or every live SPAN has a row at the new home
that replaces it. -/
def ReplacesLive (s : SpanService) : ServiceOp → Prop
  | .dongleInfo homeId read => s.store.homeId = some (SpanStore.toHex homeId) ∨
      ∀ peer, s.manager.hasSpan peer →
        (s.store.table (SpanStore.toHex homeId) peer).isSome ∧ read peer
  | _ => True

/-- The homes are apart: what is live is of the bound home, and every row of its own. -/
structure Apart (t : TrackedService) : Prop where
  /-- The store scopes to the bound home. -/
  homeId : t.service.store.homeId = t.home.map SpanStore.toHex
  /-- Every live SPAN was established while this home was bound. -/
  live : ∀ peer, t.service.manager.hasSpan peer → t.origins.live peer = t.home
  /-- Every row is of its home. -/
  rows : RowsOfHome t

variable {ssl} {t : TrackedService}

/-- A checkpoint writes SPANs of the bound home to rows of the bound home. -/
theorem Apart.checkpoint (h : Apart t) (saved : NodeId → Bool) :
    Apart (trackedStep ssl t (.checkpointDue saved)).1 := by
  cases hbound : t.service.homeBound with
  | false =>
    simp only [trackedStep, serviceStep, SpanService.checkpoint, Origins.track, hbound, nextHome]
    exact h
  | true =>
    cases hhome : t.home with
    | none =>
      -- The store has no home id either, and ignores the call.
      have hnone : t.service.store.homeId = none := by rw [h.homeId, hhome]; rfl
      simp only [trackedStep, serviceStep, SpanService.checkpoint, Origins.track, hbound, nextHome,
        hnone, SpanStore.Store.saveAll, if_true]
      exact ⟨by rw [hhome]; exact hnone, h.live, h.rows⟩
    | some homeId =>
      have hsome : t.service.store.homeId = some (SpanStore.toHex homeId) := by
        rw [h.homeId, hhome]; rfl
      simp only [trackedStep, serviceStep, SpanService.checkpoint, Origins.track, hbound, nextHome,
        hsome, SpanStore.Store.saveAll, if_true]
      refine ⟨by rw [hhome]; rfl, h.live, fun other peer hrow => ?_⟩
      simp only at hrow ⊢
      by_cases hother : other = homeId
      · subst hother
        rw [Function.update_self] at hrow ⊢
        split
        · -- The row is written, from a SPAN that is of the home.
          rename_i hwritten
          rw [h.live peer (SpanService.hasSpan_of_due hwritten.2), hhome]
        · rename_i hkept
          refine h.rows other peer fun hnone => hrow ?_
          cases hdue : t.service.due peer <;> simp_all
      · have hne : SpanStore.toHex other ≠ SpanStore.toHex homeId :=
          fun heq => hother (SpanStore.toHex_injective heq)
        rw [Function.update_of_ne hne] at hrow ⊢
        exact h.rows other peer hrow

/-- A DongleInfo that replaces every live SPAN keeps the homes apart. -/
theorem Apart.dongleInfo (h : Apart t) {homeId : Bytes} {read : NodeId → Bool}
    (hlive : ReplacesLive t.service (.dongleInfo homeId read)) :
    Apart (trackedStep ssl t (.dongleInfo homeId read)).1 := by
  refine ⟨rfl, fun peer hspan => ?_, h.rows⟩
  have hspan : (t.service.bindAndRestore homeId read).manager.hasSpan peer := hspan
  rw [hasSpan_bindAndRestore, Bool.or_eq_true] at hspan
  simp only [trackedStep, Origins.track, nextHome]
  by_cases hrow : ((t.service.store.setHomeId homeId).loadAll read peer).isSome
  · -- The row that replaces the live SPAN is of the new home.
    rw [if_pos hrow]
    refine h.rows homeId peer fun hnone => ?_
    simp [SpanStore.Store.loadAll, SpanStore.Store.setHomeId, hnone] at hrow
  -- No row replaces the live SPAN, so it had better be of that home.
  · rw [if_neg hrow]
    have hbefore : t.service.manager.hasSpan peer := hspan.resolve_left hrow
    rcases hlive with hsame | hall
    · -- The home is bound already, and the live SPAN was established under it.
      rw [h.live peer hbefore]
      rw [h.homeId] at hsame
      obtain ⟨bound, hbound, heq⟩ := Option.map_eq_some_iff.mp hsame
      rw [hbound, SpanStore.toHex_injective heq]
    -- Every live SPAN has a row that is read, against the case.
    · obtain ⟨hpresent, hread⟩ := hall peer hbefore
      simp [SpanStore.Store.loadAll, SpanStore.Store.setHomeId, hread, hpresent] at hrow

/-- An operation keeps the homes apart, if it replaces every live SPAN where it is a DongleInfo. -/
theorem Apart.step (h : Apart t) {op : ServiceOp} (hop : ReplacesLive t.service op) :
    Apart (trackedStep ssl t op).1 := by
  cases op with
  | transport op =>
    refine ⟨h.homeId, fun peer hspan => ?_, h.rows⟩
    have hspan : (op.run ssl t.service.manager).1.hasSpan peer := hspan
    simp only [trackedStep, Origins.track, nextHome]
    split
    · rename_i hborn
      exact h.live peer ((op.run_spec ssl t.service.manager peer).1 hborn hspan)
    · rfl
  | checkpointDue saved => exact h.checkpoint saved
  | dongleInfo homeId read => exact h.dongleInfo hop
  | restart => exact ⟨rfl, fun peer hspan => (nomatch hspan), h.rows⟩

/-- While the homes are apart, what is used is of the bound home. -/
theorem Apart.uses (h : Apart t) (op : ServiceOp) : UsesOfHome ssl t op := by
  intro homeId hhome peer span hdrawn other hother
  cases op with
  | transport op =>
    have hspan := (op.run_spec ssl t.service.manager peer).2 (drawnFor_ne_nil hdrawn)
    have hstep : Apart (trackedStep ssl t (.transport op)).1 := h.step trivial
    rw [hstep.live peer hspan] at hother
    exact Option.some.inj (hother.symm.trans hhome)
  | checkpointDue | dongleInfo | restart => cases hdrawn

variable (ssl)

/-- In a run in which every DongleInfo is for the bound home, or finds a row for every live SPAN,
SPAN persistence is isolated per network. -/
theorem isolatesHomes_of (ops : List ServiceOp)
    (hops : ∀ t ∈ trace (trackedStep ssl) {} ops, ReplacesLive t.before.service t.input) :
    IsolatesHomes ssl ops := by
  have hstart : Apart {} := ⟨rfl, fun peer hspan => (nomatch hspan), fun _ _ hrow => absurd rfl hrow⟩
  have happart : ∀ seen, seen <+: ops → Apart (exec (trackedStep ssl) {} seen) := by
    intro seen hseen
    induction seen using List.reverseRecOn with
    | nil => exact hstart
    | append_singleton seen op ih =>
      rw [exec_concat]
      refine (ih ((List.prefix_append _ _).trans hseen)).step ?_
      obtain ⟨rest, rfl⟩ := hseen
      refine hops ⟨exec (trackedStep ssl) {} seen, op⟩ ((mem_trace_iff ..).mpr ?_)
      exact ⟨seen, rest, by simp, rfl⟩
  refine ⟨fun seen hseen => (happart seen hseen).rows, fun taken htaken => ?_⟩
  obtain ⟨seen, rest, hsplit, hbefore⟩ := (mem_trace_iff ..).mp htaken
  rw [hbefore]
  exact (happart seen ⟨taken.input :: rest, hsplit.symm⟩).uses taken.input

/-- The stick of one network is unplugged with a live SPAN, and that of another is plugged in: the
checkpoint writes the SPAN of the first network under the second, and the send draws from it. -/
def swappedSticks : List ServiceOp :=
  [.dongleInfo [0xE2, 0xA1, 0xB0, 0x7C] fun _ => true] ++ sessionAtHome ++
    [.dongleInfo [0xC0, 0xFF, 0xEE, 0x01] fun _ => true, .checkpointDue fun _ => true,
      .transport (.encrypt 2 [0x25, 0x02] (Vector.replicate 16 5))]

/-- Two sticks swapped with live SPANs: rows of one home are written under the other, and SPANs are
used there. -/
theorem not_isolatesHomes_swappedSticks :
    ¬ (∀ seen, seen <+: swappedSticks →
        RowsOfHome (exec (trackedStep OpenSsl.standIn) {} seen)) ∧
      ¬ (∀ t ∈ trace (trackedStep OpenSsl.standIn) {} swappedSticks,
        UsesOfHome OpenSsl.standIn t.before t.input) ∧
      ¬ IsolatesHomes OpenSsl.standIn swappedSticks := by
  -- After the second stick's DongleInfo the row that is written under its home holds the first
  -- one's SPAN.
  have hrows : ¬ ∀ seen, seen <+: swappedSticks →
      RowsOfHome (exec (trackedStep OpenSsl.standIn) {} seen) := by
    intro hall
    have hrow := hall (swappedSticks.take 8) (List.take_prefix ..) [0xC0, 0xFF, 0xEE, 0x01] 2
      (by decide +kernel)
    exact absurd hrow (by decide +kernel)
  -- The frame that follows is drawn from that SPAN.
  have huses : ¬ ∀ t ∈ trace (trackedStep OpenSsl.standIn) {} swappedSticks,
      UsesOfHome OpenSsl.standIn t.before t.input := by
    intro hall
    have huse := hall ⟨exec (trackedStep OpenSsl.standIn) {} (swappedSticks.take 8),
      .transport (.encrypt 2 [0x25, 0x02] (Vector.replicate 16 5))⟩
      ((mem_trace_iff ..).mpr ⟨swappedSticks.take 8, [], rfl, rfl⟩)
    have hother := huse [0xC0, 0xFF, 0xEE, 0x01] rfl 2
      ((firstSpan.advance OpenSsl.standIn).advance OpenSsl.standIn) List.mem_cons_self
      [0xE2, 0xA1, 0xB0, 0x7C] rfl
    exact absurd hother (by decide)
  exact ⟨hrows, huses, fun h => hrows h.rows⟩

/-- The stick of the first network comes back while its SPAN is live, and that of the second comes
after a restart. -/
def sticksApart : List ServiceOp :=
  [.dongleInfo [0xE2, 0xA1, 0xB0, 0x7C] fun _ => true] ++ sessionAtHome ++
    [.dongleInfo [0xE2, 0xA1, 0xB0, 0x7C] fun _ => true,
      .transport (.encrypt 2 [0x25, 0x02] (Vector.replicate 16 5)), .checkpointDue fun _ => true,
      .restart, .dongleInfo [0xC0, 0xFF, 0xEE, 0x01] fun _ => true]

/-- A run with two sticks in which the homes stay apart. -/
theorem isolatesHomes_sticksApart : IsolatesHomes OpenSsl.standIn sticksApart := by
  refine isolatesHomes_of OpenSsl.standIn sticksApart fun t ht => ?_
  simp only [sticksApart, sessionAtHome, trace, List.cons_append, List.nil_append, List.mem_cons,
    List.not_mem_nil, or_false] at ht
  rcases ht with rfl | rfl | rfl | rfl | rfl | rfl | rfl | rfl | rfl | rfl | rfl
  · exact .inr fun peer hspan => by cases hspan
  · trivial
  · trivial
  · trivial
  · trivial
  · trivial
  · exact .inl rfl
  · trivial
  · trivial
  · trivial
  · exact .inr fun peer hspan => by cases hspan

end Zwaved.S2
