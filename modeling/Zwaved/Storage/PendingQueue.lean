import Mathlib.Data.List.Sort
import Zwaved.Storage.Registry

/-!
# The pending queue

`PendingQueue.cpp` keeps what is to be sent to a sleeping node in the table `pending_commands`,
under the home id and the node. `WakeUpOrchestrator.cpp` drains the queue of a node that wakes up,
sends every payload that was in it and puts the node back to sleep.

A statement may fail: what becomes of it comes with the call (`InsertOutcome`, `DrainOutcome`). The
code looks at very little of it. `enqueue` publishes its event whether or not the row was stored,
with the row id of the last one that was; `drain` returns the rows that the SELECT has stepped over
before it ended, for whatever reason, and deletes all of the node's rows. The column `enqueued_at`
is left out, which nothing reads.
-/

namespace Zwaved.Storage.PendingQueue

/-- A row of `pending_commands`. -/
structure PendingCommand where
  /-- `sequence`. -/
  sequence : ℕ
  /-- `home_id`. -/
  homeId : String
  /-- `node_id`. -/
  nodeId : NodeId
  /-- `priority`. -/
  priority : UInt8
  /-- `payload`. -/
  payload : Bytes
  deriving DecidableEq, Repr

/-- `ORDER BY priority ASC, sequence ASC`. -/
def PendingCommand.Before (a b : PendingCommand) : Prop :=
  a.priority < b.priority ∨ (a.priority = b.priority ∧ a.sequence ≤ b.sequence)

instance : DecidableRel PendingCommand.Before := fun _ _ => inferInstanceAs (Decidable (_ ∨ _))

/-- `PRIORITY_NORMAL`. -/
def priorityNormal : UInt8 := 100

/-- What becomes of the INSERT of `enqueue`. -/
inductive InsertOutcome
  /-- It is not prepared. -/
  | unprepared
  /-- It is rejected. An empty payload may be bound as NULL, which the column refuses. -/
  | rejected
  /-- The row is stored. -/
  | stored
  deriving DecidableEq, Repr

/-- What becomes of the statements of `drain`. -/
structure DrainOutcome where
  /-- The SELECT is prepared. -/
  prepared : Bool := true
  /-- How many rows it steps over before it fails, if it does. -/
  failsAfter : Option ℕ := none
  /-- The DELETE is prepared and done. -/
  deleted : Bool := true
  deriving DecidableEq, Repr

/-- What the queue publishes. -/
inductive QueueEvent
  /-- PendingCommandEnqueued. -/
  | pendingCommandEnqueued (nodeId : NodeId) (sequence : UInt32) (priority : UInt8)
  /-- PendingCommandsDrained. -/
  | pendingCommandsDrained (nodeId : NodeId) (count : UInt32)
  deriving DecidableEq, Repr

/-- An entry of `peek`. -/
structure Entry where
  /-- `sequence`. -/
  sequence : UInt32
  /-- `priority`. -/
  priority : UInt8
  /-- `payload`. -/
  payload : Bytes
  deriving DecidableEq, Repr

/-- `PendingQueue::Queue`: the table, and the state of the connection to it. -/
structure Queue where
  /-- The rows of `pending_commands`. -/
  rows : List PendingCommand := []
  /-- The next value of the AUTOINCREMENT column, which is never used again. -/
  nextSequence : ℕ := 1
  /-- `db.valid()`. -/
  dbValid : Bool := true
  /-- `currentHomeId`. -/
  currentHomeId : Option String := none
  /-- `sqlite3_last_insert_rowid`: zero on a connection that has stored no row. -/
  lastInsertRowid : ℕ := 0
  deriving DecidableEq

namespace Queue

/-- Another process, or another `Queue`, over the same file. -/
def reopen (q : Queue) (dbValid : Bool) : Queue :=
  { rows := q.rows, nextSequence := q.nextSequence, dbValid }

/-- `setHomeId`. -/
def setHomeId (q : Queue) (homeIdBytes : Bytes) : Queue :=
  { q with currentHomeId := some (formatHomeId homeIdBytes) }

/-- The home that the calls scope to, while there is a database. -/
def home (q : Queue) : Option String := if q.dbValid then q.currentHomeId else none

/-- `INSERT_SQL`. -/
def insert (q : Queue) (home : String) (nodeId : NodeId) (priority : UInt8)
    (payload : Bytes) : Queue :=
  { q with
    rows := q.rows ++ [{ sequence := q.nextSequence, homeId := home, nodeId, priority, payload }]
    nextSequence := q.nextSequence + 1
    lastInsertRowid := q.nextSequence }

/-- `enqueue`. -/
def enqueue (q : Queue) (nodeId : NodeId) (payload : Bytes) (priority : UInt8)
    (outcome : InsertOutcome) : Queue × List QueueEvent :=
  match q.home with
  | none => (q, [])
  | some home =>
    match outcome with
    | .unprepared => (q, [])
    | .rejected =>
      (q, [.pendingCommandEnqueued nodeId (UInt32.ofNat q.lastInsertRowid) priority])
    | .stored =>
      let q := q.insert home nodeId priority payload
      (q, [.pendingCommandEnqueued nodeId (UInt32.ofNat q.lastInsertRowid) priority])

/-- `SELECT_FOR_NODE_SQL`. -/
def selectForNode (q : Queue) (home : String) (nodeId : NodeId) : List PendingCommand :=
  (q.rows.filter fun row => row.homeId = home ∧ row.nodeId = nodeId).insertionSort
    PendingCommand.Before

/-- `DELETE_FOR_NODE_SQL`. -/
def deleteForNode (q : Queue) (home : String) (nodeId : NodeId) : Queue :=
  { q with rows := q.rows.filter fun row => ¬ (row.homeId = home ∧ row.nodeId = nodeId) }

/-- The rows that the SELECT steps over. -/
def stepped (q : Queue) (home : String) (nodeId : NodeId) (outcome : DrainOutcome) :
    List PendingCommand :=
  match outcome.failsAfter with
  | none => q.selectForNode home nodeId
  | some count => (q.selectForNode home nodeId).take count

/-- The rows whose payloads `drain` returns: those that the SELECT steps over, less the empty
ones. -/
def drained (q : Queue) (nodeId : NodeId) (outcome : DrainOutcome) : List PendingCommand :=
  match q.home with
  | none => []
  | some home =>
    if outcome.prepared then
      (q.stepped home nodeId outcome).filter fun row => row.payload ≠ []
    else []

/-- `drain`: the payloads, and what is published. -/
def drain (q : Queue) (nodeId : NodeId) (outcome : DrainOutcome) :
    Queue × List Bytes × List QueueEvent :=
  match q.home with
  | none => (q, [], [.pendingCommandsDrained nodeId 0])
  | some home =>
    if outcome.prepared then
      let out := (q.drained nodeId outcome).map PendingCommand.payload
      (if outcome.deleted then q.deleteForNode home nodeId else q, out,
        [.pendingCommandsDrained nodeId (UInt32.ofNat out.length)])
    else (q, [], [])

/-- `peek`; there is no DELETE in it. -/
def peek (q : Queue) (nodeId : NodeId) (outcome : DrainOutcome) : List Entry :=
  match q.home with
  | none => []
  | some home =>
    if outcome.prepared then
      (q.stepped home nodeId outcome).map fun row =>
        { sequence := UInt32.ofNat row.sequence, priority := row.priority, payload := row.payload }
    else []

/-- `clearForNode`. -/
def clearForNode (q : Queue) (nodeId : NodeId) (deleted : Bool) : Queue :=
  match q.home with
  | none => q
  | some home => if deleted then q.deleteForNode home nodeId else q

/-! ## What the operations do to the rows -/

variable {q : Queue} {nodeId : NodeId} {row : PendingCommand}

/-- The home that a statement is bound to is the current one. -/
theorem homeId_of_home {home : String} (h : q.home = some home) : q.currentHomeId = some home := by
  unfold Queue.home at h
  split at h
  · exact h
  · cases h

/-- What is drained is in the queue of the node, at the home that is bound. -/
theorem mem_drained {outcome : DrainOutcome} (h : row ∈ q.drained nodeId outcome) :
    row ∈ q.rows ∧ row.nodeId = nodeId ∧ q.currentHomeId = some row.homeId ∧ row.payload ≠ [] := by
  unfold drained at h
  cases hhome : q.home with
  | none =>
    rw [hhome] at h
    cases h
  | some home =>
    rw [hhome] at h
    dsimp only at h
    split at h
    · obtain ⟨hstepped, hpayload⟩ := List.mem_filter.mp h
      have hselected : row ∈ q.selectForNode home nodeId := by
        unfold stepped at hstepped
        split at hstepped
        · exact hstepped
        · exact List.mem_of_mem_take hstepped
      obtain ⟨hrow, hscope⟩ := List.mem_filter.mp ((List.mem_insertionSort _).mp hselected)
      obtain ⟨rfl, rfl⟩ := of_decide_eq_true hscope
      exact ⟨hrow, rfl, homeId_of_home hhome, of_decide_eq_true hpayload⟩
    · cases h

/-- A drain adds no row, gives no number out and leaves the home. -/
theorem drain_spec (q : Queue) (nodeId : NodeId) (outcome : DrainOutcome) :
    (∀ row ∈ (q.drain nodeId outcome).1.rows, row ∈ q.rows) ∧
      (q.drain nodeId outcome).1.nextSequence = q.nextSequence ∧
      (q.drain nodeId outcome).1.currentHomeId = q.currentHomeId := by
  unfold drain
  split
  · exact ⟨fun _ h => h, rfl, rfl⟩
  split
  · dsimp only
    split
    · exact ⟨fun _ h => (List.mem_filter.mp h).1, rfl, rfl⟩
    · exact ⟨fun _ h => h, rfl, rfl⟩
  · exact ⟨fun _ h => h, rfl, rfl⟩

/-- An enqueue stores one row, under the next sequence number and the bound home, or none. -/
theorem enqueue_cases (q : Queue) (nodeId : NodeId) (payload : Bytes) (priority : UInt8)
    (outcome : InsertOutcome) :
    (q.enqueue nodeId payload priority outcome).1 = q ∨
      ∃ home, q.currentHomeId = some home ∧
        (q.enqueue nodeId payload priority outcome).1 = q.insert home nodeId priority payload := by
  unfold enqueue
  cases hhome : q.home with
  | none => exact Or.inl rfl
  | some home =>
    cases outcome with
    | unprepared => exact Or.inl rfl
    | rejected => exact Or.inl rfl
    | stored => exact Or.inr ⟨home, homeId_of_home hhome, rfl⟩

/-- Every row has a sequence number that is taken. -/
def Numbered (q : Queue) : Prop := ∀ row ∈ q.rows, row.sequence < q.nextSequence

/-- A stored row takes a number that no other row has. -/
theorem Numbered.insert (h : q.Numbered) (home : String) (nodeId : NodeId) (priority : UInt8)
    (payload : Bytes) : (q.insert home nodeId priority payload).Numbered := by
  intro row hrow
  rcases List.mem_append.mp hrow with hrow | hrow
  · exact Nat.lt_succ_of_lt (h row hrow)
  · rw [List.mem_singleton.mp hrow]
    exact Nat.lt_succ_self q.nextSequence

/-- A drain takes rows away and gives no number out. -/
theorem Numbered.drain (h : q.Numbered) (nodeId : NodeId) (outcome : DrainOutcome) :
    (q.drain nodeId outcome).1.Numbered := by
  obtain ⟨hrows, hnext, -⟩ := drain_spec q nodeId outcome
  intro row hrow
  rw [hnext]
  exact h row (hrows row hrow)

/-! ## The wake-up -/

/-- What a wake-up publishes. -/
inductive WakeUpOutput
  /-- An event of the queue. -/
  | queue (event : QueueEvent)
  /-- SendDataCommand. -/
  | sendData (nodeId : NodeId) (payload : Bytes) (callbackId : UInt8)
  /-- SendWakeUpNoMoreInformationCommand. -/
  | sendWakeUpNoMoreInformation (nodeId : NodeId) (callbackId : UInt8)
  /-- WakeUpCycleComplete. -/
  | wakeUpCycleComplete (nodeId : NodeId) (drainedCount : UInt32)
  deriving DecidableEq

/-- `onWakeUpNotification`. -/
def onWakeUpNotification (q : Queue) (nodeId : NodeId) (outcome : DrainOutcome) :
    Queue × List WakeUpOutput :=
  let (q, payloads, events) := q.drain nodeId outcome
  (q, events.map .queue ++ payloads.map (.sendData nodeId · 0) ++
    [.sendWakeUpNoMoreInformation nodeId 0,
      .wakeUpCycleComplete nodeId (UInt32.ofNat payloads.length)])

/-- The payloads that a drain returns are those of the rows that it drains. -/
theorem payloads_drain (q : Queue) (nodeId : NodeId) (outcome : DrainOutcome) :
    (q.drain nodeId outcome).2.1 = (q.drained nodeId outcome).map PendingCommand.payload := by
  unfold drain
  cases hhome : q.home with
  | none => simp [drained, hhome]
  | some home =>
    cases hprepared : outcome.prepared with
    | true => rfl
    | false => simp [drained, hhome, hprepared]

/-- A wake-up sends the payloads of the rows that it drains to the node, and nothing else. -/
theorem sendData_mem_onWakeUpNotification {other : NodeId} {payload : Bytes} {callbackId : UInt8}
    (outcome : DrainOutcome) :
    .sendData other payload callbackId ∈ (q.onWakeUpNotification nodeId outcome).2 ↔
      other = nodeId ∧ callbackId = 0 ∧
        ∃ row ∈ q.drained nodeId outcome, row.payload = payload := by
  have hsends : .sendData other payload callbackId ∈ (q.onWakeUpNotification nodeId outcome).2 ↔
      ∃ sent ∈ (q.drain nodeId outcome).2.1,
        WakeUpOutput.sendData nodeId sent 0 = .sendData other payload callbackId := by
    simp [onWakeUpNotification]
  rw [hsends, payloads_drain]
  constructor
  · rintro ⟨sent, hsent, heq⟩
    obtain ⟨row, hrow, rfl⟩ := List.mem_map.mp hsent
    obtain ⟨rfl, rfl, rfl⟩ := WakeUpOutput.sendData.inj heq
    exact ⟨rfl, rfl, row, hrow, rfl⟩
  · rintro ⟨rfl, rfl, row, hrow, rfl⟩
    exact ⟨row.payload, List.mem_map_of_mem hrow, rfl⟩

end Queue

end Zwaved.Storage.PendingQueue
