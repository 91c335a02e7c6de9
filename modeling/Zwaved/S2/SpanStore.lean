import Zwaved.Reactive.Orbit
import Zwaved.Reactive.Run
import Zwaved.S2.SpanManager

/-!
# The SPAN store, and draws along a run

`SpanStoreService.cpp` checkpoints the live SPANs into a table and, on every DongleInfo, restores
the table into the live SPANs. The machine of this module takes the operations of the S2 transport
and of the service, and marks every SPAN that is instantiated and every one that a nonce is drawn
from (`Mark`). The question is whether a SPAN state is ever drawn from twice for a peer.

What is assumed of the DRBG is `Orbit.Fresh`: within the length of the run, the orbit of a SPAN
under `Span.advance` does not return, and no two orbits meet. (The state space is finite, so a bound
is needed; the number of operations is enough.) Under it, `draws_nodup` says that no state is drawn
from twice as long as no DongleInfo restores a row over a SPAN that has moved on from it, and
`replugLater_redraws` is a run with such a DongleInfo, in which a state is drawn from twice.
-/

namespace Zwaved.S2

open Reactive

variable (ssl : OpenSsl)

/-- The live SPAN table with the store and the service's `State`, for one home id. -/
structure SpanStore where
  /-- `S2::Transport::manager()`. -/
  manager : SpanManager := {}
  /-- The rows of `span_state` for the home id. -/
  rows : NodeMap InnerState
  /-- `homeBound`. -/
  homeBound : Bool := false
  /-- `lastWritten`. -/
  lastWritten : NodeMap InnerState := fun _ => none

namespace SpanStore

/-- `checkpoint`: write every SPAN that has moved since the last write. `saved` says for which
peers the UPSERT goes through; the service counts a row as written either way. -/
def checkpoint (s : SpanStore) (saved : NodeId → Bool) : SpanStore :=
  if s.homeBound then
    { s with
      rows := fun peer => match s.manager.exportSpan peer with
        | some inner =>
          if s.lastWritten peer = some inner then s.rows peer
          else if saved peer then some inner else s.rows peer
        | none => s.rows peer
      lastWritten := fun peer => (s.manager.exportSpan peer).or (s.lastWritten peer) }
  else s

/-- `loadAll`: the rows that the SELECT returns before it ends. -/
def loadAll (s : SpanStore) (read : NodeId → Bool) : NodeMap InnerState :=
  fun peer => if read peer then s.rows peer else none

/-- `importSpan` of every row. -/
def importAll (m : SpanManager) (persisted : NodeMap InnerState) : SpanManager where
  peers peer := match persisted peer with
    | some inner => (m.importSpan peer inner).peers peer
    | none => m.peers peer

/-- `bindAndRestore`. -/
def bindAndRestore (s : SpanStore) (read : NodeId → Bool) : SpanStore :=
  { s with
    manager := importAll s.manager (s.loadAll read)
    homeBound := true
    lastWritten := s.loadAll read }

end SpanStore

/-- An operation of the transport or of the service. -/
inductive SpanOp
  /-- `SpanManager::configurePeer`. -/
  | configurePeer (peer : NodeId) (config : PeerConfig)
  /-- `SpanManager::nonceGet`. -/
  | nonceGet (peer : NodeId)
  /-- `SpanManager::respondToNonceGet`. -/
  | respondToNonceGet (peer : NodeId) (rei : EntropyInput)
  /-- `SpanManager::acceptNonceReport`. -/
  | acceptNonceReport (peer : NodeId) (report : NonceSync.Report)
  /-- `SpanManager::encrypt`. -/
  | encrypt (peer : NodeId) (inner : Bytes) (sei : EntropyInput)
  /-- `SpanManager::receiveNonce`. -/
  | receiveNonce (peer : NodeId) (frame : Bytes)
  /-- S2SpanCheckpointDue. -/
  | checkpointDue (saved : NodeId → Bool)
  /-- DongleInfo, with the home id of the run. -/
  | dongleInfo (read : NodeId → Bool)

/-- What happens to a SPAN. -/
inductive Mark
  /-- A SPAN is instantiated for `peer`. -/
  | born (peer : NodeId) (span : Span)
  /-- `truncatedNonce` draws from a SPAN of `peer` in this state. -/
  | drawn (peer : NodeId) (span : Span)
  deriving DecidableEq, Repr

/-- What `encrypt` does to the SPAN. -/
def Peer.sendMarks (p : Peer) (peer : NodeId) (sei : EntropyInput) : List Mark :=
  match p.sendSpan ssl sei with
  | none => []
  | some (span, _, _) => (if p.span.isNone then [.born peer span] else []) ++ [.drawn peer span]

/-- What `receiveNonce` does to the SPAN. -/
def Peer.receiveMarks (p : Peer) (peer : NodeId) (frame : Bytes) : List Mark :=
  ((p.announcedSpan ssl frame).map (Mark.born peer)).toList ++
    ((p.receiveSpan ssl frame).span.map (Mark.drawn peer)).toList

/-- One operation. -/
def spanStep (s : SpanStore) : SpanOp → SpanStore × List Mark
  | .configurePeer peer config =>
    ({ s with manager := s.manager.configurePeer peer config }, [])
  | .nonceGet peer => ({ s with manager := (s.manager.nonceGet peer).2 }, [])
  | .respondToNonceGet peer rei =>
    ({ s with manager := (s.manager.respondToNonceGet peer rei).2 }, [])
  | .acceptNonceReport peer report =>
    ({ s with manager := s.manager.acceptNonceReport peer report }, [])
  | .encrypt peer inner sei =>
    ({ s with manager := (s.manager.encrypt ssl peer inner sei).2 },
      (s.manager.peers peer).sendMarks ssl peer sei)
  | .receiveNonce peer frame =>
    ({ s with manager := (s.manager.receiveNonce ssl peer frame).2 },
      (s.manager.peers peer).receiveMarks ssl peer frame)
  | .checkpointDue saved => (s.checkpoint saved, [])
  | .dongleInfo read => (s.bindAndRestore read, [])

/-- The SPANs instantiated for `peer`. -/
def bornFor (peer : NodeId) (marks : List Mark) : List Span :=
  marks.filterMap fun
    | .born other span => if other = peer then some span else none
    | .drawn _ _ => none

/-- The states of `peer`'s SPANs that a nonce was drawn from. -/
def drawnFor (peer : NodeId) (marks : List Mark) : List Span :=
  marks.filterMap fun
    | .drawn other span => if other = peer then some span else none
    | .born _ _ => none

/-- The SPAN of `peer` that a former run left in the table. -/
def storedFor (peer : NodeId) (rows : NodeMap InnerState) : List Span :=
  ((rows peer).map Span.deserialize).toList

/-- The SPANs that a run over `rows` starts from for `peer`: the stored one, and those instantiated
in the run. -/
def births (rows : NodeMap InnerState) (peer : NodeId) (ops : List SpanOp) : List Span :=
  storedFor peer rows ++ bornFor peer (emitted (spanStep ssl) { rows } ops)

/-- The SPAN states that a run over `rows` draws from for `peer`. -/
def draws (rows : NodeMap InnerState) (peer : NodeId) (ops : List SpanOp) : List Span :=
  drawnFor peer (emitted (spanStep ssl) { rows } ops)

/-- A DongleInfo does not restore a row of `peer` over a live SPAN that differs from it. -/
def KeepsLive (peer : NodeId) (s : SpanStore) : SpanOp → Prop
  | .dongleInfo read => ∀ inner ∈ s.loadAll read peer, ∀ span ∈ (s.manager.peers peer).span,
      span = Span.deserialize inner
  | _ => True

/-! ## The account of one peer -/

/-- The SPANs born for a peer in two stretches of marks are those of the first and then those of the
second. -/
@[simp] theorem bornFor_append (peer : NodeId) (marks more : List Mark) :
    bornFor peer (marks ++ more) = bornFor peer marks ++ bornFor peer more :=
  List.filterMap_append

/-- The nonces drawn for a peer in two stretches of marks are those of the first and then those of
the second. -/
@[simp] theorem drawnFor_append (peer : NodeId) (marks more : List Mark) :
    drawnFor peer (marks ++ more) = drawnFor peer marks ++ drawnFor peer more :=
  List.filterMap_append

/-- `encrypt` keeps the account of draws: it starts a SPAN or draws from one. -/
theorem ledger_send {n N : ℕ} {stored born draws : List Span} {p : Peer} (peer : NodeId)
    (inner : Bytes) (sei : EntropyInput)
    (h : Orbit.Ledger (Span.advance ssl) n stored born draws p.span)
    (hfresh : Orbit.Fresh (Span.advance ssl) N
      (stored ++ (born ++ bornFor peer (p.sendMarks ssl peer sei)))) (hn : n ≤ N) :
    Orbit.Ledger (Span.advance ssl) (n + 1) stored
      (born ++ bornFor peer (p.sendMarks ssl peer sei))
      (draws ++ drawnFor peer (p.sendMarks ssl peer sei)) (p.encrypt ssl inner sei).2.span := by
  cases hspan : p.span with
  | some span =>
    -- The SPAN in use is drawn from.
    rw [hspan] at h
    simp [Peer.sendMarks, Peer.encrypt, Peer.sendSpan, hspan, bornFor, drawnFor] at hfresh ⊢
    exact h.draw hfresh hn
  | none =>
    rw [hspan] at h
    cases hrei : p.peerRei with
    | none =>
      simp [Peer.sendMarks, Peer.encrypt, Peer.sendSpan, hspan, hrei, bornFor, drawnFor]
      exact h.mono (Nat.le_succ n)
    | some rei =>
      -- A SPAN is born from the peer's REI and drawn from at once.
      simp [Peer.sendMarks, Peer.encrypt, Peer.sendSpan, hspan, hrei, bornFor, drawnFor]
        at hfresh ⊢
      exact (h.birth _).draw hfresh hn

/-- `receiveNonce` keeps the account of draws: it starts a SPAN, draws from one or leaves it. -/
theorem ledger_receive {n N : ℕ} {stored born draws : List Span} {p : Peer} (peer : NodeId)
    (frame : Bytes) (h : Orbit.Ledger (Span.advance ssl) n stored born draws p.span)
    (hfresh : Orbit.Fresh (Span.advance ssl) N
      (stored ++ (born ++ bornFor peer (p.receiveMarks ssl peer frame)))) (hn : n ≤ N) :
    Orbit.Ledger (Span.advance ssl) (n + 1) stored
      (born ++ bornFor peer (p.receiveMarks ssl peer frame))
      (draws ++ drawnFor peer (p.receiveMarks ssl peer frame))
      (p.receiveNonce ssl frame).2.span := by
  cases hannounced : p.announcedSpan ssl frame with
  | some span =>
    -- The frame announces a SPAN, which takes over whether there was one or not.
    simp [Peer.receiveMarks, Peer.receiveNonce, Peer.receiveSpan, hannounced, bornFor, drawnFor]
      at hfresh ⊢
    exact (h.birth _).draw hfresh hn
  | none =>
    cases hspan : p.span with
    | none =>
      rw [hspan] at h
      simp [Peer.receiveMarks, Peer.receiveNonce, Peer.receiveSpan, hannounced, hspan, bornFor,
        drawnFor]
      exact h.mono (Nat.le_succ n)
    | some span =>
      rw [hspan] at h
      simp [Peer.receiveMarks, Peer.receiveNonce, Peer.receiveSpan, hannounced, hspan, bornFor,
        drawnFor] at hfresh ⊢
      exact h.draw hfresh hn

/-- What holds of `peer` after `n` operations that left `marks` behind. -/
structure Account (rows : NodeMap InnerState) (peer : NodeId) (n : ℕ) (marks : List Mark)
    (s : SpanStore) : Prop where
  /-- No state was drawn from twice, and the live SPAN is ahead of the draws. -/
  ledger : Orbit.Ledger (Span.advance ssl) n (storedFor peer rows) (bornFor peer marks)
    (drawnFor peer marks) (s.manager.peers peer).span
  /-- As long as there is no SPAN, the row is the one the run started with. -/
  row : (s.manager.peers peer).span = none → s.rows peer = rows peer

variable {ssl} {rows : NodeMap InnerState} {peer : NodeId} {n N : ℕ} {marks : List Mark}
  {s s' : SpanStore}

/-- The account of a peer's draws stays right through an operation that leaves its SPAN, and its row
while there is none. -/
theorem Account.quiet (h : Account ssl rows peer n marks s) (op : SpanOp)
    (hspan : ((spanStep ssl s op).1.manager.peers peer).span = (s.manager.peers peer).span)
    (hrow : (s.manager.peers peer).span = none → (spanStep ssl s op).1.rows peer = s.rows peer)
    (hborn : bornFor peer (spanStep ssl s op).2 = [])
    (hdrawn : drawnFor peer (spanStep ssl s op).2 = []) :
    Account ssl rows peer (n + 1) (marks ++ (spanStep ssl s op).2) (spanStep ssl s op).1 := by
  refine ⟨?_, fun hnone => ?_⟩
  · simpa only [bornFor_append, drawnFor_append, hborn, hdrawn, List.append_nil, hspan]
      using h.ledger.mono (Nat.le_succ n)
  · rw [hspan] at hnone
    rw [hrow hnone, h.row hnone]

/-- A peer whose state is replaced keeps the SPAN of every other. -/
theorem peers_set_span (m : SpanManager) {peer other : NodeId} {p : Peer}
    (h : p.span = (m.peers other).span) :
    ((m.set other p).peers peer).span = (m.peers peer).span := by
  by_cases heq : peer = other
  · rw [heq, SpanManager.peers_set, h]
  · rw [SpanManager.peers_set_of_ne m heq]

/-- A checkpoint writes rows of peers with a SPAN only, and leaves the live table alone. -/
theorem checkpoint_spec (s : SpanStore) (saved : NodeId → Bool) (peer : NodeId) :
    (s.checkpoint saved).manager = s.manager ∧
      ((s.manager.peers peer).span = none → (s.checkpoint saved).rows peer = s.rows peer) := by
  unfold SpanStore.checkpoint
  split
  · refine ⟨rfl, fun hnone => ?_⟩
    simp [SpanManager.exportSpan, hnone]
  · exact ⟨rfl, fun _ => rfl⟩

variable (ssl) in
/-- Sending to another peer neither starts a SPAN of this one nor draws from it. -/
theorem sendMarks_other (p : Peer) {peer other : NodeId} (h : other ≠ peer) (sei : EntropyInput) :
    bornFor peer (p.sendMarks ssl other sei) = [] ∧
      drawnFor peer (p.sendMarks ssl other sei) = [] := by
  unfold Peer.sendMarks
  rcases p.sendSpan ssl sei with _ | ⟨span, ext, p'⟩
  · exact ⟨rfl, rfl⟩
  · cases p.span <;> simp [bornFor, drawnFor, h]

variable (ssl) in

/-- A frame of another peer neither starts a SPAN of this one nor draws from it. -/
theorem receiveMarks_other (p : Peer) {peer other : NodeId} (h : other ≠ peer) (frame : Bytes) :
    bornFor peer (p.receiveMarks ssl other frame) = [] ∧
      drawnFor peer (p.receiveMarks ssl other frame) = [] := by
  unfold Peer.receiveMarks
  cases p.announcedSpan ssl frame <;> cases (p.receiveSpan ssl frame).span <;>
    simp [bornFor, drawnFor, h]

/-- A DongleInfo keeps the account, when the row that it restores is the live SPAN or there is
none. -/
theorem Account.restore (h : Account ssl rows peer n marks s) (read : NodeId → Bool)
    (hkeeps : KeepsLive peer s (.dongleInfo read)) :
    Account ssl rows peer (n + 1) (marks ++ (spanStep ssl s (.dongleInfo read)).2)
      (spanStep ssl s (.dongleInfo read)).1 := by
  cases hload : s.loadAll read peer with
  | none =>
    refine h.quiet _ ?_ (fun _ => rfl) rfl rfl
    simp only [spanStep, SpanStore.bindAndRestore, SpanStore.importAll, hload]
  | some inner =>
    have hspan' : ((spanStep ssl s (.dongleInfo read)).1.manager.peers peer).span =
        some (Span.deserialize inner) := by
      simp [spanStep, SpanStore.bindAndRestore, SpanStore.importAll, hload,
        SpanManager.importSpan]
    cases hspan : (s.manager.peers peer).span with
    | some span =>
      -- The row is the live SPAN itself: restoring it changes nothing.
      rw [hkeeps inner hload span hspan] at hspan
      exact h.quiet _ (hspan'.trans hspan.symm) (fun _ => rfl) rfl rfl
    | none =>
      -- There is no SPAN yet, so the row is still the one that the run started with.
      have hrow : rows peer = some inner := by
        rw [← h.row hspan]
        unfold SpanStore.loadAll at hload
        split at hload
        · exact hload
        · cases hload
      have hledger := h.ledger
      rw [storedFor, hrow, hspan] at hledger
      refine ⟨?_, fun hnone => by rw [hspan'] at hnone; cases hnone⟩
      rw [hspan', storedFor, hrow]
      simpa [spanStep] using hledger.restore.mono (Nat.le_succ n)

/-- One operation keeps the account, when it does not rewind the peer's SPAN. -/
theorem Account.step (h : Account ssl rows peer n marks s) {op : SpanOp}
    (hkeeps : KeepsLive peer s op)
    (hfresh : Orbit.Fresh (Span.advance ssl) N
      (storedFor peer rows ++ bornFor peer (marks ++ (spanStep ssl s op).2))) (hn : n ≤ N) :
    Account ssl rows peer (n + 1) (marks ++ (spanStep ssl s op).2) (spanStep ssl s op).1 := by
  cases op with
  | configurePeer other config =>
    exact h.quiet _ (peers_set_span _ rfl) (fun _ => rfl) rfl rfl
  | nonceGet other => exact h.quiet _ (peers_set_span _ rfl) (fun _ => rfl) rfl rfl
  | respondToNonceGet other rei => exact h.quiet _ (peers_set_span _ rfl) (fun _ => rfl) rfl rfl
  | acceptNonceReport other report =>
    refine h.quiet _ (peers_set_span _ ?_) (fun _ => rfl) rfl rfl
    unfold Peer.acceptNonceReport
    split <;> rfl
  | encrypt other inner sei =>
    -- The peer's own SPAN moves on, and that of another peer is none of its business.
    by_cases heq : other = peer
    · subst heq
      simp only [spanStep, bornFor_append] at hfresh
      refine ⟨?_, fun hnone => h.row (Peer.span_eq_none_of_encrypt ssl inner sei ?_)⟩
      · simpa [spanStep, SpanManager.encrypt] using
          ledger_send ssl other inner sei h.ledger hfresh hn
      · simpa [spanStep, SpanManager.encrypt] using hnone
    · obtain ⟨hborn, hdrawn⟩ := sendMarks_other ssl (s.manager.peers other) heq sei
      exact h.quiet _ (congrArg Peer.span (SpanManager.peers_set_of_ne _ (Ne.symm heq) _))
        (fun _ => rfl) hborn hdrawn
  | receiveNonce other frame =>
    by_cases heq : other = peer
    · subst heq
      simp only [spanStep, bornFor_append] at hfresh
      refine ⟨?_, fun hnone => h.row (Peer.span_eq_none_of_receiveNonce ssl frame ?_)⟩
      · simpa [spanStep, SpanManager.receiveNonce] using
          ledger_receive ssl other frame h.ledger hfresh hn
      · simpa [spanStep, SpanManager.receiveNonce] using hnone
    · obtain ⟨hborn, hdrawn⟩ := receiveMarks_other ssl (s.manager.peers other) heq frame
      exact h.quiet _ (congrArg Peer.span (SpanManager.peers_set_of_ne _ (Ne.symm heq) _))
        (fun _ => rfl) hborn hdrawn
  | checkpointDue saved =>
    obtain ⟨hmanager, hrow⟩ := checkpoint_spec s saved peer
    exact h.quiet _ (by simp only [spanStep, hmanager]) hrow rfl rfl
  | dongleInfo read => exact h.restore read hkeeps

/-- After a run that rewinds no SPAN of the peer, the account holds. -/
theorem account_exec (ops : List SpanOp) (hn : ops.length ≤ N)
    (hfresh : Orbit.Fresh (Span.advance ssl) N (births ssl rows peer ops))
    (hkeeps : ∀ t ∈ trace (spanStep ssl) { rows } ops, KeepsLive peer t.before t.input) :
    Account ssl rows peer ops.length (emitted (spanStep ssl) { rows } ops)
      (exec (spanStep ssl) { rows } ops) := by
  induction ops using List.reverseRecOn with
  | nil => exact ⟨Orbit.Ledger.start 0 _, fun _ => rfl⟩
  | append_singleton ops op ih =>
    rw [births, emitted_concat, bornFor_append, ← List.append_assoc] at hfresh
    rw [trace_concat] at hkeeps
    rw [List.length_append, List.length_singleton] at hn
    have hbefore := ih (by omega) hfresh.of_append fun t ht =>
      hkeeps t (List.mem_append_left _ ht)
    have hlast := hkeeps _ (List.mem_append_right _ List.mem_cons_self)
    rw [emitted_concat, exec_concat, List.length_append, List.length_singleton]
    refine hbefore.step hlast (N := N) ?_ (by omega)
    rwa [bornFor_append, ← List.append_assoc]

/-- In a run in which no DongleInfo restores a row of `peer` over a live SPAN that differs from it,
no two draws for `peer` are from the same SPAN state, so no nonce is used twice where different
states give different nonces. -/
theorem draws_nodup (rows : NodeMap InnerState) (peer : NodeId) (ops : List SpanOp)
    (hfresh : Orbit.Fresh (Span.advance ssl) ops.length (births ssl rows peer ops))
    (hkeeps : ∀ t ∈ trace (spanStep ssl) { rows } ops, KeepsLive peer t.before t.input) :
    (draws ssl rows peer ops).Nodup ∧
      (Set.InjOn (fun span => (span.truncatedNonce ssl).1) {span | span ∈ draws ssl rows peer ops} →
        ((draws ssl rows peer ops).map fun span => (span.truncatedNonce ssl).1).Nodup) := by
  have hnodup := (account_exec ops (Nat.le_refl _) hfresh hkeeps).ledger.nodup
  exact ⟨hnodup, fun hinj => hnodup.map_on fun _ hx _ hy heq => hinj hx hy heq⟩

/-- The stick comes up, a SPAN with node 2 is established by a first send, and a checkpoint saves
it. -/
def established : List SpanOp :=
  [.dongleInfo fun _ => true, .configurePeer 2 { ourNodeId := 1, peerNodeId := 2 },
    .acceptNonceReport 2
      { sequenceNumber := 0, sos := true, mos := false, rei := some (Vector.replicate 16 9) },
    .encrypt 2 [0x25, 0x02] (Vector.replicate 16 3), .checkpointDue fun _ => true]

/-- The SPAN that the first send of `established` instantiates. -/
def firstSpan : Span :=
  Span.instantiate OpenSsl.standIn (Vector.replicate 16 3) (Vector.replicate 16 9)
    (Vector.replicate 32 0)

/-- The orbit of that SPAN is fresh for eight operations. -/
theorem firstSpan_fresh : Orbit.Fresh (Span.advance OpenSsl.standIn) 8 [firstSpan] :=
  Orbit.Fresh.singleton (by decide +kernel)

/-- The stick is unplugged and plugged in again right after the checkpoint. -/
def replugAtOnce : List SpanOp :=
  established ++ [.dongleInfo fun _ => true, .encrypt 2 [0x25, 0x02] (Vector.replicate 16 4)]

/-- A dongle replugged at once after its checkpoint: the two draws are from two states. -/
theorem draws_nodup_replugAtOnce :
    (draws OpenSsl.standIn (fun _ => none) 2 replugAtOnce).length = 2 ∧
      (draws OpenSsl.standIn (fun _ => none) 2 replugAtOnce).Nodup := by
  refine ⟨rfl, (draws_nodup _ 2 _ (firstSpan_fresh.mono (by decide)) fun t ht => ?_).1⟩
  simp only [replugAtOnce, established, trace, List.cons_append, List.nil_append, List.mem_cons,
    List.not_mem_nil, or_false] at ht
  rcases ht with rfl | rfl | rfl | rfl | rfl | rfl | rfl
  · intro inner hinner
    cases hinner
  · trivial
  · trivial
  · trivial
  · trivial
  · intro inner hinner span hspan
    have hrow : some (firstSpan.advance OpenSsl.standIn).serialize = some inner := hinner
    have hlive : some (firstSpan.advance OpenSsl.standIn) = some span := hspan
    rw [← Option.some.inj hrow, ← Option.some.inj hlive, Span.deserialize_serialize]
  · trivial

/-- A send between the checkpoint and the DongleInfo, and one after it. -/
def replugLater : List SpanOp :=
  established ++ [.encrypt 2 [0x25, 0x02] (Vector.replicate 16 4), .dongleInfo fun _ => true,
    .encrypt 2 [0x25, 0x02] (Vector.replicate 16 5)]

/-- The last two sends draw from the same state, although the births are fresh. -/
theorem replugLater_redraws :
    Orbit.Fresh (Span.advance OpenSsl.standIn) replugLater.length
        (births OpenSsl.standIn (fun _ => none) 2 replugLater) ∧
      ¬ (draws OpenSsl.standIn (fun _ => none) 2 replugLater).Nodup := by
  have hdraws : draws OpenSsl.standIn (fun _ => none) 2 replugLater =
      [firstSpan, firstSpan.advance OpenSsl.standIn,
        Span.deserialize (firstSpan.advance OpenSsl.standIn).serialize] := rfl
  refine ⟨firstSpan_fresh, ?_⟩
  rw [hdraws, Span.deserialize_serialize]
  simp

end Zwaved.S2
