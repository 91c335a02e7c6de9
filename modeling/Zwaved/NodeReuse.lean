import Zwaved.Protocol.Removals
import Zwaved.Protocol.Sessions
import Zwaved.S2.SpanOrigins
import Zwaved.Storage.PendingQueue

/-!
# Reuse of a node id

When a node is excluded its id is free, and the next device may get it. What the daemon keeps for a
node is in several places: the protocol thread and the registry, the pending queue, the SPANs and
their rows. The exclusion is handled in one place, `handleIncomingFrame`, which tells the registry.
`clearForNode` is there for it, but nothing calls it, and nothing drops a SPAN.

`Daemon` is these parts together. `Tenancy` counts how often each id has been freed, and keeps for
every row of the queue and every SPAN what the count was when it came about; the daemon does not see
it (`exec_daemon`). A payload or a SPAN of an old device is then one whose count is less than that
at the last inclusion. A row of the queue names the home that it is for, and a wake-up takes those
of the bound home, so for payloads the exclusions are counted by home. `SpanManager` knows no home:
a SPAN stays live when another dongle comes, so for SPANs they are counted whatever the home.
`reusesSafely_of` says that an id is reused safely as long as every inclusion finds nothing of an
earlier device.
-/

namespace Zwaved

open Reactive Protocol S2
open Storage.PendingQueue

/-! ## The daemon -/

/-- The parts of the daemon that keep something for a node. -/
structure Daemon where
  /-- The protocol thread. -/
  thread : ProtocolThread := {}
  /-- `PendingQueue::instance()`. -/
  queue : Queue := {}
  /-- The SPANs and their store. -/
  spans : SpanService := {}

/-- What happens to the daemon. -/
inductive DaemonEvent
  /-- An event of the protocol thread. -/
  | thread (event : ProtocolThread.Event)
  /-- A payload is queued for a sleeping node. -/
  | enqueue (nodeId : NodeId) (payload : Bytes) (priority : UInt8) (outcome : InsertOutcome)
  /-- WakeUpNotification. -/
  | wakeUpNotification (nodeId : NodeId) (outcome : DrainOutcome)
  /-- S2 traffic. -/
  | transport (op : TransportOp)
  /-- S2SpanCheckpointDue. -/
  | checkpointDue (saved : NodeId → Bool)
  /-- The dongle is looked at: the stores are bound to its home id, and DongleInfo is published. -/
  | dongleInfo (homeId : Bytes) (read : NodeId → Bool)
  /-- The process is started again. -/
  | restart (dbValid : Bool)

/-- What the daemon does. -/
inductive DaemonOutput
  /-- An output of the protocol thread. -/
  | thread (output : ThreadOutput)
  /-- An event of the queue. -/
  | queue (event : QueueEvent)
  /-- What a wake-up publishes. -/
  | wakeUp (output : Queue.WakeUpOutput)
  /-- What is done to a SPAN. -/
  | span (mark : Mark)

variable (ssl : OpenSsl)

/-- One event. -/
def Daemon.step (d : Daemon) : DaemonEvent → Daemon × List DaemonOutput
  | .thread event =>
    let (thread, outputs) := d.thread.step event
    ({ d with thread }, outputs.map .thread)
  | .enqueue nodeId payload priority outcome =>
    let (queue, events) := d.queue.enqueue nodeId payload priority outcome
    ({ d with queue }, events.map .queue)
  | .wakeUpNotification nodeId outcome =>
    let (queue, outputs) := d.queue.onWakeUpNotification nodeId outcome
    ({ d with queue }, outputs.map .wakeUp)
  | .transport op =>
    let (spans, marks) := serviceStep ssl d.spans (.transport op)
    ({ d with spans }, marks.map .span)
  | .checkpointDue saved => ({ d with spans := d.spans.checkpoint saved }, [])
  | .dongleInfo homeId read =>
    ({ d with
        queue := d.queue.setHomeId homeId
        spans := d.spans.bindAndRestore homeId read }, [])
  | .restart dbValid => ({ queue := d.queue.reopen dbValid, spans := d.spans.restart }, [])

/-! ## Tenancies -/

/-- The registry takes the node in, with what the inclusion says of the device. -/
def Protocol.ThreadOutput.includes (nodeId : NodeId) : ThreadOutput → Bool
  | .registryAdd added _ => added = nodeId
  | _ => false

/-- The devices that have had the ids so far. -/
structure Tenancy where
  /-- The home id of the last DongleInfo of the process. -/
  home : Option Bytes := none
  /-- By home and node: how often the node has been excluded. -/
  excluded : Option Bytes → NodeId → ℕ := fun _ _ => 0
  /-- By home and node: how often the node had been excluded when it was last included. -/
  included : Option Bytes → NodeId → ℕ := fun _ _ => 0
  /-- By node: how often it has been excluded, whatever the home. -/
  freed : NodeId → ℕ := fun _ => 0
  /-- By node: how often it had been excluded, whatever the home, when it was last included. -/
  taken : NodeId → ℕ := fun _ => 0
  /-- By sequence number: how often the node had been excluded when the payload was queued. -/
  queued : ℕ → ℕ := fun _ => 0
  /-- How often the node had been excluded, whatever the home, when a SPAN was established. -/
  spans : Origins ℕ := {}

namespace Tenancy

/-- What is established with a node now. -/
def stamp (t : Tenancy) : NodeMap ℕ := fun nodeId => some (t.freed nodeId)

/-- How the tenancies follow the outputs of the protocol thread. -/
def follow (t : Tenancy) (outputs : List ThreadOutput) : Tenancy :=
  { t with
    excluded := fun home nodeId =>
      if home = t.home ∧ .registryRemove nodeId ∈ outputs then t.excluded home nodeId + 1
      else t.excluded home nodeId
    included := fun home nodeId =>
      if home = t.home ∧ outputs.any (·.includes nodeId) then t.excluded home nodeId
      else t.included home nodeId
    freed := fun nodeId =>
      if .registryRemove nodeId ∈ outputs then t.freed nodeId + 1 else t.freed nodeId
    taken := fun nodeId =>
      if outputs.any (·.includes nodeId) then t.freed nodeId else t.taken nodeId }

/-- How the tenancies follow an event. -/
def next (t : Tenancy) (d : Daemon) : DaemonEvent → Tenancy
  | .thread event => t.follow (d.thread.step event).2
  | .enqueue nodeId _ _ _ =>
    { t with queued := Function.update t.queued d.queue.nextSequence (t.excluded t.home nodeId) }
  | .wakeUpNotification _ _ => t
  | .transport op => { t with spans := t.spans.track ssl t.stamp d.spans (.transport op) }
  | .checkpointDue saved => { t with spans := t.spans.track ssl t.stamp d.spans (.checkpointDue saved) }
  | .dongleInfo homeId read =>
    { t with
      home := some homeId
      spans := t.spans.track ssl t.stamp d.spans (.dongleInfo homeId read) }
  | .restart _ => { t with home := none, spans := t.spans.track ssl t.stamp d.spans .restart }

end Tenancy

/-- The daemon, with the tenancies. -/
structure TrackedDaemon where
  /-- The daemon. -/
  daemon : Daemon := {}
  /-- The tenancies. -/
  tenancy : Tenancy := {}

namespace TrackedDaemon

/-- One event. -/
def step (t : TrackedDaemon) (event : DaemonEvent) : TrackedDaemon × List DaemonOutput :=
  ({ daemon := (t.daemon.step ssl event).1, tenancy := t.tenancy.next ssl t.daemon event },
    (t.daemon.step ssl event).2)

/-- The tenancies are only counted along: the daemon does and puts out what it would without
them. -/
theorem exec_daemon (t : TrackedDaemon) (events : List DaemonEvent) :
    (exec (step ssl) t events).daemon = exec (Daemon.step ssl) t.daemon events ∧
      emitted (step ssl) t events = emitted (Daemon.step ssl) t.daemon events := by
  induction events generalizing t with
  | nil => exact ⟨rfl, rfl⟩
  | cons event events ih =>
    obtain ⟨hexec, hemitted⟩ := ih (step ssl t event).1
    refine ⟨hexec, ?_⟩
    rw [emitted, emitted, hemitted]
    rfl

/-- An id of the bound home is freed by the callback of an exclusion with a final status, and by
that of the removal of a failed node that went through, and by nothing else that happens on the
thread. -/
theorem excluded_thread (t : TrackedDaemon) (event : ProtocolThread.Event) (nodeId : NodeId) :
    (step ssl t (.thread event)).1.tenancy.excluded t.tenancy.home nodeId =
        t.tenancy.excluded t.tenancy.home nodeId + 1 ↔
      ∃ frame, event = .frame frame ∧ t.daemon.thread.connected = true ∧
        ((∃ callback, HostApi.decodeNodeCallback frame = some callback ∧
            ProtocolThread.Excludes callback ∧ callback.nodeId.toUInt8 = nodeId) ∨
          ∃ callback, FailedNodeRemoval.decodeRemoveFailedNodeCallback frame = some callback ∧
            callback.status = FailedNodeRemoval.statusRemoved ∧ nodeId ≠ 0 ∧
            t.daemon.thread.activeFailedNodeRemoval.nodeId = nodeId) := by
  rw [← ProtocolThread.registryRemove_mem_step]
  simp only [step, Tenancy.next, Tenancy.follow, true_and]
  split <;> simp [*]

/-- What frees an id at the bound home frees it whatever the home. -/
theorem freed_thread (t : TrackedDaemon) (event : ProtocolThread.Event) (nodeId : NodeId) :
    (step ssl t (.thread event)).1.tenancy.freed nodeId = t.tenancy.freed nodeId + 1 ↔
      (step ssl t (.thread event)).1.tenancy.excluded t.tenancy.home nodeId =
        t.tenancy.excluded t.tenancy.home nodeId + 1 := by
  simp only [step, Tenancy.next, Tenancy.follow, true_and]
  split <;> simp

/-- A wake-up sends no payload that was queued before the device was replaced: what it sends to the
node are the payloads of the rows that it drains, and none of these is from before. -/
def SendsOwn (t : TrackedDaemon) : DaemonEvent → Prop
  | .wakeUpNotification nodeId outcome =>
      (∀ target payload callbackId, .sendData target payload callbackId ∈
          (t.daemon.queue.onWakeUpNotification nodeId outcome).2 →
        target = nodeId ∧ ∃ row ∈ t.daemon.queue.drained nodeId outcome, row.payload = payload) ∧
      ∀ row ∈ t.daemon.queue.drained nodeId outcome,
        t.tenancy.included t.tenancy.home nodeId ≤ t.tenancy.queued row.sequence
  | _ => True

/-- `encrypt` draws from no SPAN that was established with the node before it was excluded and its
id given to the next device, whatever the homes at which this was. -/
def UsesOwn (t : TrackedDaemon) : DaemonEvent → Prop
  | .transport (.encrypt nodeId inner sei) => ∀ span,
      .span (.drawn nodeId span) ∈ (step ssl t (.transport (.encrypt nodeId inner sei))).2 →
      ∀ since, (step ssl t (.transport (.encrypt nodeId inner sei))).1.tenancy.spans.live nodeId =
          some since →
        t.tenancy.taken nodeId ≤ since
  | _ => True

/-- Node ids are reused safely in a run. -/
structure ReusesSafely (events : List DaemonEvent) : Prop where
  /-- Nothing that was queued for an old device is sent to a new one. -/
  sends : ∀ t ∈ trace (step ssl) {} events, t.before.SendsOwn t.input
  /-- No SPAN of an old device is used for a new one. -/
  uses : ∀ t ∈ trace (step ssl) {} events, t.before.UsesOwn ssl t.input

/-- There is nothing of an earlier device: what is queued for the node at the bound home is from
after its last exclusion there, and every SPAN with the node, live or in a row of any home, is from
after its last exclusion at all. -/
structure Vacant (t : TrackedDaemon) (nodeId : NodeId) : Prop where
  /-- What is queued. -/
  queue : ∀ row ∈ t.daemon.queue.rows, row.nodeId = nodeId →
    t.tenancy.home.map Storage.formatHomeId = some row.homeId →
      t.tenancy.queued row.sequence = t.tenancy.excluded t.tenancy.home nodeId
  /-- The live SPAN. -/
  live : ∀ since, t.daemon.spans.manager.hasSpan nodeId →
    t.tenancy.spans.live nodeId = some since → since = t.tenancy.freed nodeId
  /-- The rows. -/
  row : ∀ home since, t.daemon.spans.store.table home nodeId ≠ none →
    t.tenancy.spans.row home nodeId = some since → since = t.tenancy.freed nodeId

/-- Every inclusion of the event finds nothing of an earlier device. -/
def FindsVacant (t : TrackedDaemon) : DaemonEvent → Prop
  | .thread event => ∀ nodeId info,
      .registryAdd nodeId info ∈ (t.daemon.thread.step event).2 → t.Vacant nodeId
  | _ => True

/-! ## What holds in a run -/

/-- Nothing that is kept for a node is from before its last inclusion. -/
structure Current (t : TrackedDaemon) : Prop where
  /-- The queue scopes to the bound home. -/
  homeId : t.daemon.queue.currentHomeId = t.tenancy.home.map Storage.formatHomeId
  /-- The sequence numbers of the rows are taken. -/
  numbered : t.daemon.queue.Numbered
  /-- No inclusion is ahead of the exclusions. -/
  counted : ∀ home nodeId, t.tenancy.included home nodeId ≤ t.tenancy.excluded home nodeId
  /-- Nor is one whatever the home. -/
  freed : ∀ nodeId, t.tenancy.taken nodeId ≤ t.tenancy.freed nodeId
  /-- What is queued. -/
  queue : ∀ row ∈ t.daemon.queue.rows, ∀ homeId, row.homeId = Storage.formatHomeId homeId →
    t.tenancy.included (some homeId) row.nodeId ≤ t.tenancy.queued row.sequence
  /-- The SPANs and their rows. -/
  spans : t.tenancy.spans.All (fun nodeId since => t.tenancy.taken nodeId ≤ since) t.daemon.spans

/-- At the start no SPAN is live and nothing is stamped. -/
theorem current_initial : Current {} where
  homeId := rfl
  numbered _ hrow := nomatch hrow
  counted _ _ := Nat.le_refl 0
  freed _ := Nat.le_refl 0
  queue _ hrow := nomatch hrow
  spans := ⟨fun _ _ hspan => (nomatch hspan), fun _ _ _ hrow => absurd rfl hrow⟩

variable {ssl} {t : TrackedDaemon}

/-- What is established now is not from before the last inclusion. -/
theorem Current.stamp (h : Current t) (nodeId : NodeId) (since : ℕ)
    (hgiven : t.tenancy.stamp nodeId = some since) : t.tenancy.taken nodeId ≤ since := by
  rw [← Option.some.inj hgiven]
  exact h.freed nodeId

/-- An inclusion among what an event of the thread puts out finds nothing old. -/
theorem FindsVacant.of_includes {event : ProtocolThread.Event} {nodeId : NodeId}
    (hvacant : t.FindsVacant (.thread event))
    (hincludes : (t.daemon.thread.step event).2.any (·.includes nodeId)) : t.Vacant nodeId := by
  obtain ⟨output, houtput, hadds⟩ := List.any_eq_true.mp hincludes
  cases output with
  | registryAdd added info =>
    obtain rfl : added = nodeId := of_decide_eq_true hadds
    exact hvacant added info houtput
  | send | sessionStatus | nodeStatus | nodeIncluded | sendDataCallback | applicationCommand
    | removeFailedNodeStatus | requestNodeInfoStatus | nodeInfoUpdate | registryRemove
    | registryUpdate => cases hadds

/-- An event of the protocol thread moves the counts, and an inclusion finds nothing old. -/
theorem Current.thread (h : Current t) {event : ProtocolThread.Event}
    (hvacant : t.FindsVacant (.thread event)) : Current (step ssl t (.thread event)).1 := by
  -- The count at an inclusion is that of the exclusions, and is else what it was: by home ...
  have hincluded (home : Option Bytes) (nodeId : NodeId) :
      (t.tenancy.follow (t.daemon.thread.step event).2).included home nodeId =
          t.tenancy.included home nodeId ∨
        (home = t.tenancy.home ∧ t.Vacant nodeId ∧
          (t.tenancy.follow (t.daemon.thread.step event).2).included home nodeId =
            t.tenancy.excluded home nodeId) := by
    by_cases hincludes : home = t.tenancy.home ∧
        (t.daemon.thread.step event).2.any (·.includes nodeId)
    · exact Or.inr ⟨hincludes.1, hvacant.of_includes hincludes.2, if_pos hincludes⟩
    · exact Or.inl (if_neg hincludes)
  -- ... and whatever the home.
  have htaken (nodeId : NodeId) :
      (t.tenancy.follow (t.daemon.thread.step event).2).taken nodeId = t.tenancy.taken nodeId ∨
        (t.Vacant nodeId ∧ (t.tenancy.follow (t.daemon.thread.step event).2).taken nodeId =
          t.tenancy.freed nodeId) := by
    by_cases hincludes : (t.daemon.thread.step event).2.any (·.includes nodeId)
    · exact Or.inr ⟨hvacant.of_includes hincludes, if_pos hincludes⟩
    · exact Or.inl (if_neg hincludes)
  refine ⟨h.homeId, h.numbered, fun home nodeId => ?_, fun nodeId => ?_,
    fun row hrow homeId hhome => ?_, fun nodeId since hspan hlive => ?_,
    fun home nodeId since htable hrow => ?_⟩
  · have hexcluded : t.tenancy.excluded home nodeId ≤
        (t.tenancy.follow (t.daemon.thread.step event).2).excluded home nodeId := by
      unfold Tenancy.follow
      dsimp only
      split
      · exact Nat.le_succ _
      · exact Nat.le_refl _
    refine Nat.le_trans ?_ hexcluded
    rcases hincluded home nodeId with heq | ⟨-, -, heq⟩
    · exact Nat.le_trans (Nat.le_of_eq heq) (h.counted home nodeId)
    · exact Nat.le_of_eq heq
  · have hfreed : t.tenancy.freed nodeId ≤
        (t.tenancy.follow (t.daemon.thread.step event).2).freed nodeId := by
      unfold Tenancy.follow
      dsimp only
      split
      · exact Nat.le_succ _
      · exact Nat.le_refl _
    refine Nat.le_trans ?_ hfreed
    rcases htaken nodeId with heq | ⟨-, heq⟩
    · exact Nat.le_trans (Nat.le_of_eq heq) (h.freed nodeId)
    · exact Nat.le_of_eq heq
  · rcases hincluded (some homeId) row.nodeId with heq | ⟨hbound, hnone, heq⟩
    · exact Nat.le_trans (Nat.le_of_eq heq) (h.queue row hrow homeId hhome)
    · have hscope : t.tenancy.home.map Storage.formatHomeId = some row.homeId := by
        rw [← hbound, hhome]
        rfl
      have hqueued := hnone.queue row hrow rfl hscope
      rw [← hbound] at hqueued
      exact Nat.le_of_eq (heq.trans hqueued.symm)
  · rcases htaken nodeId with heq | ⟨hnone, heq⟩
    · exact Nat.le_trans (Nat.le_of_eq heq) (h.spans.live nodeId since hspan hlive)
    · exact Nat.le_of_eq (heq.trans (hnone.live since hspan hlive).symm)
  · rcases htaken nodeId with heq | ⟨hnone, heq⟩
    · exact Nat.le_trans (Nat.le_of_eq heq) (h.spans.row home nodeId since htable hrow)
    · exact Nat.le_of_eq (heq.trans (hnone.row home since htable hrow).symm)

/-- A command that is queued now belongs to the tenancy that its node has now. -/
theorem Current.enqueue (h : Current t) (nodeId : NodeId) (payload : Bytes) (priority : UInt8)
    (outcome : InsertOutcome) :
    Current (step ssl t (.enqueue nodeId payload priority outcome)).1 := by
  -- The next sequence number is that of no row yet.
  have hkept : ∀ row ∈ t.daemon.queue.rows,
      Function.update t.tenancy.queued t.daemon.queue.nextSequence
        (t.tenancy.excluded t.tenancy.home nodeId) row.sequence = t.tenancy.queued row.sequence :=
    fun row hrow => Function.update_of_ne (Nat.ne_of_lt (h.numbered row hrow)) ..
  rcases Queue.enqueue_cases t.daemon.queue nodeId payload priority outcome with
    hsame | ⟨home, hhome, hstored⟩
  · simp only [step, Daemon.step, Tenancy.next, hsame]
    refine ⟨h.homeId, h.numbered, h.counted, h.freed, fun row hrow homeId heq => ?_, h.spans⟩
    exact Nat.le_trans (h.queue row hrow homeId heq) (Nat.le_of_eq (hkept row hrow).symm)
  · simp only [step, Daemon.step, Tenancy.next, hstored]
    refine ⟨h.homeId, h.numbered.insert home nodeId priority payload, h.counted, h.freed,
      fun row hrow homeId heq => ?_, h.spans⟩
    rcases List.mem_append.mp hrow with hrow | hrow
    · exact Nat.le_trans (h.queue row hrow homeId heq) (Nat.le_of_eq (hkept row hrow).symm)
    · obtain rfl := List.mem_singleton.mp hrow
      -- The row is of the bound home.
      have hbound : t.tenancy.home = some homeId := by
        rw [h.homeId] at hhome
        obtain ⟨bound, hbound, hformat⟩ := Option.map_eq_some_iff.mp hhome
        rw [hbound, Storage.Registry.formatHomeId_injective (hformat.trans heq)]
      dsimp only
      rw [Function.update_self, hbound]
      exact h.counted (some homeId) nodeId

/-- Every event but those of the thread keeps what is current, and so does every event of the thread
that includes no node into an id with something old. -/
theorem Current.step (h : Current t) {event : DaemonEvent} (hvacant : t.FindsVacant event) :
    Current (step ssl t event).1 := by
  cases event with
  | thread event => exact h.thread hvacant
  | enqueue nodeId payload priority outcome => exact h.enqueue nodeId payload priority outcome
  | wakeUpNotification nodeId outcome =>
    obtain ⟨hrows, -, hhome⟩ := Queue.drain_spec t.daemon.queue nodeId outcome
    exact ⟨hhome.trans h.homeId, h.numbered.drain nodeId outcome, h.counted, h.freed,
      fun row hrow => h.queue row (hrows row hrow), h.spans⟩
  | transport op =>
    exact ⟨h.homeId, h.numbered, h.counted, h.freed, h.queue,
      h.spans.track ssl h.stamp (.transport op)⟩
  | checkpointDue saved =>
    exact ⟨h.homeId, h.numbered, h.counted, h.freed, h.queue,
      h.spans.track ssl h.stamp (.checkpointDue saved)⟩
  | dongleInfo homeId read =>
    exact ⟨rfl, h.numbered, h.counted, h.freed, h.queue,
      h.spans.track ssl h.stamp (.dongleInfo homeId read)⟩
  | restart dbValid =>
    exact ⟨rfl, h.numbered, h.counted, h.freed, h.queue, h.spans.track ssl h.stamp .restart⟩

/-- What a wake-up sends is not from before the last inclusion. -/
theorem Current.sendsOwn (h : Current t) (event : DaemonEvent) : t.SendsOwn event := by
  cases event with
  | wakeUpNotification nodeId outcome =>
    refine ⟨fun target payload callbackId hsent => ?_, fun row hrow => ?_⟩
    · obtain ⟨htarget, -, hrow⟩ := (Queue.sendData_mem_onWakeUpNotification outcome).mp hsent
      exact ⟨htarget, hrow⟩
    obtain ⟨hmem, rfl, hhome, -⟩ := Queue.mem_drained hrow
    rw [h.homeId] at hhome
    obtain ⟨homeId, hbound, hformat⟩ := Option.map_eq_some_iff.mp hhome
    rw [hbound]
    exact h.queue row hmem homeId hformat.symm
  | thread | enqueue | transport | checkpointDue | dongleInfo | restart => trivial

/-- What `encrypt` draws from is not from before the last inclusion. -/
theorem Current.usesOwn (h : Current t) (event : DaemonEvent) : t.UsesOwn ssl event := by
  cases event with
  | transport op =>
    cases op with
    | encrypt nodeId inner sei =>
      intro span hdrawn since hlive
      have hafter : Current (TrackedDaemon.step ssl t (.transport (.encrypt nodeId inner sei))).1 :=
        h.step trivial
      have hmark : .drawn nodeId span ∈
          ((TransportOp.encrypt nodeId inner sei).run ssl t.daemon.spans.manager).2 := by
        simpa [TrackedDaemon.step, Daemon.step, serviceStep] using hdrawn
      have hspan := ((TransportOp.encrypt nodeId inner sei).run_spec ssl t.daemon.spans.manager
        nodeId).2 (drawnFor_ne_nil hmark)
      exact hafter.spans.live nodeId since hspan hlive
    | configurePeer | nonceGet | respondToNonceGet | acceptNonceReport | receiveNonce => trivial
  | thread | enqueue | wakeUpNotification | checkpointDue | dongleInfo | restart => trivial

variable (ssl)

/-- In a run in which every inclusion finds nothing of an earlier device, node ids are reused
safely. -/
theorem reusesSafely_of (events : List DaemonEvent)
    (hvacant : ∀ taken ∈ trace (TrackedDaemon.step ssl) {} events,
      taken.before.FindsVacant taken.input) : ReusesSafely ssl events := by
  have hcurrent : ∀ taken ∈ trace (TrackedDaemon.step ssl) {} events, Current taken.before := by
    intro taken htaken
    obtain ⟨seen, rest, rfl, hbefore⟩ := (mem_trace_iff ..).mp htaken
    rw [hbefore]
    refine trace_induction_of (TrackedDaemon.step ssl) {}
      (C := fun _ taken => taken.before.FindsVacant taken.input) (I := fun _ t => Current t)
      current_initial (fun _ _ _ h hfinds => h.step hfinds) seen fun pre event post hsplit => ?_
    refine hvacant ⟨exec (TrackedDaemon.step ssl) {} pre, event⟩ ((mem_trace_iff ..).mpr ?_)
    exact ⟨pre, post ++ taken.input :: rest, by simp [hsplit], rfl⟩
  exact ⟨fun taken htaken => (hcurrent taken htaken).sendsOwn taken.input,
    fun taken htaken => (hcurrent taken htaken).usesOwn taken.input⟩

/-! ## A device is replaced -/

/-- A callback of the dongle. -/
def callbackFrame (commandId : UInt8) (payload : Bytes) : Serial.ZwaveDataFrame :=
  { frameType := .request, commandId, payload, valid := true }

/-- The home is bound and the thread runs. -/
def started : List DaemonEvent :=
  [.dongleInfo [0xE2, 0xA1, 0xB0, 0x7C] fun _ => true, .thread .connect]

/-- A device is included as node 2, in session 1. -/
def inclusion (info : Bytes) : List DaemonEvent :=
  [.thread (.dispatch ProtocolThread.includeAny), .thread (.sent true),
    .thread (.frame (callbackFrame HostApi.cmdAddNodeToNetwork ([1, 0x03, 2] ++ info))),
    .thread (.frame (callbackFrame HostApi.cmdAddNodeToNetwork [1, 0x06, 2]))]

/-- Node 2 is excluded, in session 2. -/
def exclusion : List DaemonEvent :=
  [.thread (.dispatch (.network (.removeNode 0x01 false false 2))), .thread (.sent true),
    .thread (.frame (callbackFrame HostApi.cmdRemoveNodeFromNetwork [2, 0x06, 2]))]

/-- What a sleeping sensor says of itself. -/
def sensor : Bytes := [6, 0x04, 0x20, 0x01, 0x30, 0x84, 0x9F]

/-- What a lock says of itself. -/
def lock : Bytes := [6, 0x04, 0x40, 0x03, 0x62, 0x84, 0x9F]

/-- A SPAN is established with node 2, and a command sent under it. -/
def session : List DaemonEvent :=
  [.transport (.configurePeer 2 { ourNodeId := 1, peerNodeId := 2 }),
    .transport (.acceptNonceReport 2
      { sequenceNumber := 0, sos := true, mos := false, rei := some (Vector.replicate 16 9) }),
    .transport (.encrypt 2 [0x25, 0x02] (Vector.replicate 16 3))]

/-- A sensor has a SPAN and a payload in the queue when it is excluded. A lock gets its id and wakes
up, and then a command is sent to it. -/
def replaced : List DaemonEvent :=
  started ++ inclusion sensor ++ session ++
    [.enqueue 2 [0x30, 0x02] priorityNormal .stored] ++ exclusion ++ inclusion lock ++
    [.wakeUpNotification 2 {}, .transport (.encrypt 2 [0x62, 0x02] (Vector.replicate 16 4))]

/-- The sensor is excluded, and the lock gets its id in the network of another dongle. -/
def replacedElsewhere : List DaemonEvent :=
  started ++ inclusion sensor ++ session ++ exclusion ++
    [.dongleInfo [0xC0, 0xFF, 0xEE, 0x01] fun _ => true] ++ inclusion lock ++
    [.transport (.encrypt 2 [0x62, 0x02] (Vector.replicate 16 4))]

/-- The lock is sent the payload that was queued for the sensor, and the command goes out under the
SPAN of the sensor, also when the lock is in another network. -/
theorem not_reusesSafely_replaced :
    ¬ (∀ taken ∈ trace (TrackedDaemon.step OpenSsl.standIn) {} replaced,
        taken.before.SendsOwn taken.input) ∧
      ¬ (∀ taken ∈ trace (TrackedDaemon.step OpenSsl.standIn) {} replaced,
        taken.before.UsesOwn OpenSsl.standIn taken.input) ∧
      ¬ ReusesSafely OpenSsl.standIn replaced ∧
      ¬ ReusesSafely OpenSsl.standIn replacedElsewhere := by
  -- The payload queued for the first device goes out to the second one on its wake-up.
  have hsends : ¬ ∀ taken ∈ trace (TrackedDaemon.step OpenSsl.standIn) {} replaced,
      taken.before.SendsOwn taken.input := by
    intro hall
    have hsend := hall ⟨exec (TrackedDaemon.step OpenSsl.standIn) {} (replaced.take 17),
      .wakeUpNotification 2 {}⟩ ((mem_trace_iff ..).mpr ⟨replaced.take 17, _, rfl, rfl⟩)
    have hrow := hsend.2 ⟨1, "E2A1B07C", 2, priorityNormal, [0x30, 0x02]⟩ (by decide +kernel)
    exact absurd hrow (by decide +kernel)
  -- The frame to the second device is drawn from the SPAN of the first.
  have huses : ¬ ∀ taken ∈ trace (TrackedDaemon.step OpenSsl.standIn) {} replaced,
      taken.before.UsesOwn OpenSsl.standIn taken.input := by
    intro hall
    have huse := hall ⟨exec (TrackedDaemon.step OpenSsl.standIn) {} (replaced.take 18),
      .transport (.encrypt 2 [0x62, 0x02] (Vector.replicate 16 4))⟩
      ((mem_trace_iff ..).mpr ⟨replaced.take 18, [], rfl, rfl⟩)
    have hstale := huse (firstSpan.advance OpenSsl.standIn) List.mem_cons_self 0 rfl
    exact absurd hstale (by decide +kernel)
  refine ⟨hsends, huses, fun h => hsends h.sends, fun h => ?_⟩
  -- And so it is when the two are on the sticks of two homes.
  have huse := h.uses ⟨exec (TrackedDaemon.step OpenSsl.standIn) {} (replacedElsewhere.take 17),
    .transport (.encrypt 2 [0x62, 0x02] (Vector.replicate 16 4))⟩
    ((mem_trace_iff ..).mpr ⟨replacedElsewhere.take 17, [], rfl, rfl⟩)
  have hstale := huse (firstSpan.advance OpenSsl.standIn) List.mem_cons_self 0 rfl
  exact absurd hstale (by decide +kernel)

/-- A sensor has got what was queued for it and has no SPAN when it is excluded. A lock gets its id,
and has a SPAN and a payload of its own. -/
def replacedClean : List DaemonEvent :=
  started ++ inclusion sensor ++
    [.enqueue 2 [0x30, 0x02] priorityNormal .stored, .wakeUpNotification 2 {}] ++ exclusion ++
    inclusion lock ++ session ++
    [.enqueue 2 [0x62, 0x02] priorityNormal .stored, .wakeUpNotification 2 {},
      .transport (.encrypt 2 [0x62, 0x02] (Vector.replicate 16 4))]

/-- With nothing queued and no SPAN at all, every id is vacant. -/
theorem vacant_of_empty {t : TrackedDaemon} (hrows : t.daemon.queue.rows = [])
    (hlive : ∀ nodeId, t.daemon.spans.manager.hasSpan nodeId = false)
    (htable : ∀ home nodeId, t.daemon.spans.store.table home nodeId = none) (nodeId : NodeId) :
    t.Vacant nodeId where
  queue row hrow := by
    rw [hrows] at hrow
    cases hrow
  live _ hspan := by
    rw [hlive nodeId] at hspan
    cases hspan
  row home _ hrow := absurd (htable home nodeId) hrow

/-- A run in which the sensor's id is given to another device once nothing of the sensor is left,
and reused safely. -/
theorem reusesSafely_replacedClean :
    (exec (TrackedDaemon.step OpenSsl.standIn) {} replacedClean).tenancy.included
        (some [0xE2, 0xA1, 0xB0, 0x7C]) 2 = 1 ∧
      ReusesSafely OpenSsl.standIn replacedClean := by
  refine ⟨by decide +kernel, reusesSafely_of OpenSsl.standIn replacedClean fun taken htaken => ?_⟩
  simp only [replacedClean, started, inclusion, exclusion, session, trace, List.cons_append,
    List.nil_append, List.mem_cons, List.not_mem_nil, or_false] at htaken
  rcases htaken with rfl | rfl | rfl | rfl | rfl | rfl | rfl | rfl | rfl | rfl | rfl | rfl | rfl |
    rfl | rfl | rfl | rfl | rfl | rfl | rfl | rfl
  all_goals first
    | trivial
    | exact fun nodeId _ _ => vacant_of_empty rfl (fun _ => rfl) (fun _ _ => rfl) nodeId

end TrackedDaemon

end Zwaved
