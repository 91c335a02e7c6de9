import Zwaved.Reactive.Run
import Zwaved.StableSort
import Zwaved.Storage.PendingQueue

/-!
# Runs of the pending queue

One file, over its whole life: the operations of `Queue` and the wake-ups, in any order, and the
openings of the file between them. `step` runs one of them, and what it returns and publishes is its
output.

`Lanes` says what the queue is for: one list for every home and node, in the order in which the
commands came. While the statements succeed and no payload is empty, the rows of a home and a node
are its lane (`Mirrors`), in the order of their sequence numbers, and so what the SELECT gives is
the lane sorted by priority, stably.
-/

namespace Zwaved.Storage.PendingQueue

open Reactive StableSort

/-- An operation, with what becomes of its statements. -/
inductive Op
  /-- `setHomeId`. -/
  | setHomeId (homeIdBytes : Bytes)
  /-- `enqueue`. -/
  | enqueue (nodeId : NodeId) (payload : Bytes) (priority : UInt8) (outcome : InsertOutcome)
  /-- `drain`. -/
  | drain (nodeId : NodeId) (outcome : DrainOutcome)
  /-- `peek`. -/
  | peek (nodeId : NodeId) (outcome : DrainOutcome)
  /-- `clearForNode`. -/
  | clearForNode (nodeId : NodeId) (deleted : Bool)
  /-- The file is opened again. -/
  | reopen (dbValid : Bool)
  /-- A WakeUpNotification, for `onWakeUpNotification`. -/
  | wakeUpNotification (nodeId : NodeId) (outcome : DrainOutcome)
  deriving DecidableEq

/-- The drain that an operation makes. -/
def Op.drainOf : Op → Option (NodeId × DrainOutcome)
  | .drain nodeId outcome | .wakeUpNotification nodeId outcome => some (nodeId, outcome)
  | .setHomeId _ | .enqueue _ _ _ _ | .peek _ _ | .clearForNode _ _ | .reopen _ => none

/-- What an operation returns or publishes. -/
inductive Output
  /-- An event. -/
  | published (output : Queue.WakeUpOutput)
  /-- The payloads that `drain` returns. -/
  | drained (payloads : List Bytes)
  /-- The entries that `peek` returns. -/
  | peeked (entries : List Entry)
  deriving DecidableEq

/-- One operation. -/
def step (q : Queue) : Op → Queue × List Output
  | .setHomeId homeIdBytes => (q.setHomeId homeIdBytes, [])
  | .enqueue nodeId payload priority outcome =>
    let (q, events) := q.enqueue nodeId payload priority outcome
    (q, events.map fun event => .published (.queue event))
  | .drain nodeId outcome =>
    let (q, payloads, events) := q.drain nodeId outcome
    (q, (events.map fun event => .published (.queue event)) ++ [.drained payloads])
  | .peek nodeId outcome => (q, [.peeked (q.peek nodeId outcome)])
  | .clearForNode nodeId deleted => (q.clearForNode nodeId deleted, [])
  | .reopen dbValid => (q.reopen dbValid, [])
  | .wakeUpNotification nodeId outcome =>
    let (q, outputs) := q.onWakeUpNotification nodeId outcome
    (q, outputs.map .published)

/-! ## What a step does to the rows -/

/-- A step keeps the rows, stores one for an `enqueue`, or deletes those of the node of a `drain`, a
`clearForNode` or a wake-up. -/
inductive Moves (q : Queue) : Op → Queue → Prop
  /-- The rows and the numbers are as they were. -/
  | kept {op : Op} {q' : Queue} (hrows : q'.rows = q.rows)
      (hnext : q'.nextSequence = q.nextSequence) : Moves q op q'
  /-- One row is stored. -/
  | stored {nodeId : NodeId} {payload : Bytes} {priority : UInt8} {home : String}
    (hhome : q.home = some home) :
    Moves q (.enqueue nodeId payload priority .stored) (q.insert home nodeId priority payload)
  /-- The rows of a node are deleted by a drain or a wake-up. -/
  | drained {op : Op} {nodeId : NodeId} {outcome : DrainOutcome} {home : String}
    (hop : op.drainOf = some (nodeId, outcome)) (hhome : q.home = some home)
    (hprepared : outcome.prepared = true) (hdeleted : outcome.deleted = true) :
    Moves q op (q.deleteForNode home nodeId)
  /-- The rows of a node are deleted by `clearForNode`. -/
  | cleared {nodeId : NodeId} {home : String} (hhome : q.home = some home) :
    Moves q (.clearForNode nodeId true) (q.deleteForNode home nodeId)

/-- A drain and a wake-up notification leave the same queue. -/
theorem step_of_drainOf (q : Queue) {op : Op} {nodeId : NodeId} {outcome : DrainOutcome}
    (hop : op.drainOf = some (nodeId, outcome)) : (step q op).1 = (q.drain nodeId outcome).1 := by
  cases op with
  | drain n o =>
    obtain ⟨rfl, rfl⟩ := Prod.mk.inj (Option.some.inj hop)
    rfl
  | wakeUpNotification n o =>
    obtain ⟨rfl, rfl⟩ := Prod.mk.inj (Option.some.inj hop)
    rfl
  | setHomeId | enqueue | peek | clearForNode | reopen => cases hop

/-- A drain deletes the rows of its node if both statements succeed, and otherwise keeps every row:
without a home, with a failed select or with a failed delete. -/
theorem moves_drain {q : Queue} {nodeId : NodeId} {outcome : DrainOutcome} {op : Op}
    (hop : op.drainOf = some (nodeId, outcome)) :
    Moves q op (q.drain nodeId outcome).1 := by
  unfold Queue.drain
  cases hhome : q.home with
  | none => exact .kept rfl rfl
  | some home =>
    cases hprepared : outcome.prepared with
    | false => exact .kept rfl rfl
    | true =>
      cases hdeleted : outcome.deleted with
      | false => exact .kept rfl rfl
      | true => exact .drained hop hhome hprepared hdeleted

/-- Every operation moves the queue in one of the ways of `Moves`, one case per operation. -/
theorem step_moves (q : Queue) (op : Op) : Moves q op (step q op).1 := by
  -- What a call does to the rows is one of four things: keep them, append one, drop what was
  -- drained, drop what was cleared.
  cases op with
  | setHomeId homeIdBytes => exact .kept rfl rfl
  | enqueue nodeId payload priority outcome =>
    change Moves q _ (q.enqueue nodeId payload priority outcome).1
    unfold Queue.enqueue
    -- Without a home nothing is stored.
    cases hhome : q.home with
    | none => exact .kept rfl rfl
    | some home =>
      -- The command is stored only if the statement was prepared and ran.
      cases outcome with
      | unprepared => exact .kept rfl rfl
      | rejected => exact .kept rfl rfl
      | stored => exact .stored hhome
  | drain nodeId outcome => exact moves_drain rfl
  | peek nodeId outcome => exact .kept rfl rfl
  -- The same of a clearing, which must have run.
  | clearForNode nodeId deleted =>
    change Moves q _ (q.clearForNode nodeId deleted)
    unfold Queue.clearForNode
    cases hhome : q.home with
    | none => exact .kept rfl rfl
    | some home =>
      cases deleted with
      | false => exact .kept rfl rfl
      | true => exact .cleared hhome
  | reopen dbValid => exact .kept rfl rfl
  | wakeUpNotification nodeId outcome => exact moves_drain rfl

/-- The home and the node whose rows an operation may change. -/
def Queue.Addresses (q : Queue) (home : String) (nodeId : NodeId) : Op → Prop
  | .enqueue node _ _ _ | .drain node _ | .clearForNode node _ | .wakeUpNotification node _ =>
    q.home = some home ∧ node = nodeId
  | .setHomeId _ | .peek _ _ | .reopen _ => False

/-- A drain or a wake-up addresses its node's rows under the current home. -/
theorem addresses_of_drainOf {q : Queue} {op : Op} {nodeId : NodeId} {outcome : DrainOutcome}
    {home : String} (hop : op.drainOf = some (nodeId, outcome)) (hhome : q.home = some home) :
    q.Addresses home nodeId op := by
  cases op with
  | drain n o => exact ⟨hhome, (Prod.mk.inj (Option.some.inj hop)).1⟩
  | wakeUpNotification n o => exact ⟨hhome, (Prod.mk.inj (Option.some.inj hop)).1⟩
  | setHomeId | enqueue | peek | clearForNode | reopen => cases hop

/-- The rows of `pending_commands` for a home and a node. -/
def Queue.rowsFor (q : Queue) (home : String) (nodeId : NodeId) : List PendingCommand :=
  q.rows.filter fun row => row.homeId = home ∧ row.nodeId = nodeId

/-- A row that is stored comes behind the rows of its own home and node, and is none of any
other's. -/
theorem rowsFor_insert (q : Queue) (home scope : String) (nodeId node : NodeId) (priority : UInt8)
    (payload : Bytes) :
    (q.insert home nodeId priority payload).rowsFor scope node = q.rowsFor scope node ++
      if home = scope ∧ nodeId = node then
        [{ sequence := q.nextSequence, homeId := home, nodeId, priority, payload }] else [] := by
  simp only [Queue.rowsFor, Queue.insert, List.filter_append, List.filter_cons, List.filter_nil,
    decide_eq_true_eq]

/-- A delete takes every row of its home and node, and none of any other's. -/
theorem rowsFor_deleteForNode (q : Queue) (home scope : String) (nodeId node : NodeId) :
    (q.deleteForNode home nodeId).rowsFor scope node =
      if home = scope ∧ nodeId = node then [] else q.rowsFor scope node := by
  unfold Queue.rowsFor Queue.deleteForNode
  rw [List.filter_filter]
  split
  next h =>
    obtain ⟨rfl, rfl⟩ := h
    simp
  next h =>
    apply List.filter_congr
    intro row _
    rw [Bool.eq_iff_iff, Bool.and_eq_true, decide_eq_true_eq, decide_eq_true_eq]
    constructor
    · exact fun hrow => hrow.1
    · intro hrow
      refine ⟨hrow, fun hother => h ?_⟩
      exact ⟨hother.1.symm.trans hrow.1, hother.2.symm.trans hrow.2⟩

/-- A delete keeps the order of the rows that are left. -/
theorem deleteForNode_sublist (q : Queue) (home : String) (nodeId : NodeId) :
    (q.deleteForNode home nodeId).rows.Sublist q.rows := List.filter_sublist

/-- A step leaves what is queued for every home and node that it does not address. -/
theorem rowsFor_step {q : Queue} {op : Op} {home : String} {nodeId : NodeId}
    (h : ¬ q.Addresses home nodeId op) :
    (step q op).1.rowsFor home nodeId = q.rowsFor home nodeId := by
  have hmoves := step_moves q op
  generalize (step q op).1 = q' at hmoves ⊢
  cases hmoves with
  | kept hrows hnext => rw [Queue.rowsFor, hrows, Queue.rowsFor]
  | stored hhome =>
    rw [rowsFor_insert, if_neg, List.append_nil]
    rintro ⟨rfl, rfl⟩
    exact h ⟨hhome, rfl⟩
  | drained hop hhome hprepared hdeleted =>
    rw [rowsFor_deleteForNode, if_neg]
    rintro ⟨rfl, rfl⟩
    exact h (addresses_of_drainOf hop hhome)
  | cleared hhome =>
    rw [rowsFor_deleteForNode, if_neg]
    rintro ⟨rfl, rfl⟩
    exact h ⟨hhome, rfl⟩

/-! ## The numbers of the rows -/

/-- The rows are numbered in the order in which they were stored, below the next number. -/
structure Ordered (q : Queue) : Prop where
  /-- The numbers ascend. -/
  ascending : q.rows.Pairwise fun a b => a.sequence < b.sequence
  /-- Every number is taken. -/
  numbered : q.Numbered

/-- A queue without rows is ordered. -/
theorem Ordered.empty : Ordered {} := by
  refine ⟨List.Pairwise.nil, ?_⟩
  intro row hrow
  cases hrow

/-- Rows in the order of their numbers are all different. -/
theorem Ordered.nodup {q : Queue} (h : Ordered q) : q.rows.Nodup :=
  h.ascending.imp fun hlt heq => absurd (congrArg PendingCommand.sequence heq) hlt.ne

/-- Rows that are left of ordered ones are ordered, if no number is given out meanwhile. -/
theorem Ordered.sublist {q q' : Queue} (h : Ordered q) (hrows : q'.rows.Sublist q.rows)
    (hnext : q'.nextSequence = q.nextSequence) : Ordered q' := by
  refine ⟨h.ascending.sublist hrows, ?_⟩
  intro row hrow
  rw [hnext]
  exact h.numbered row (hrows.subset hrow)

/-- A stored row takes the next number, so it stands behind all others. -/
theorem Ordered.insert {q : Queue} (h : Ordered q) (home : String) (nodeId : NodeId)
    (priority : UInt8) (payload : Bytes) : Ordered (q.insert home nodeId priority payload) := by
  refine ⟨?_, h.numbered.insert home nodeId priority payload⟩
  refine List.pairwise_append.mpr ⟨h.ascending, List.pairwise_singleton _ _, ?_⟩
  intro row hrow other hother
  rw [List.mem_singleton.mp hother]
  exact h.numbered row hrow

/-- Every operation keeps the rows in the order of their numbers. -/
theorem Ordered.step {q : Queue} (h : Ordered q) (op : Op) : Ordered (step q op).1 := by
  have hmoves := step_moves q op
  generalize (PendingQueue.step q op).1 = q' at hmoves ⊢
  cases hmoves with
  | kept hrows hnext => exact h.sublist (hrows ▸ List.Sublist.refl _) hnext
  | stored hhome => exact h.insert _ _ _ _
  | drained hop hhome hprepared hdeleted => exact h.sublist (deleteForNode_sublist ..) rfl
  | cleared hhome => exact h.sublist (deleteForNode_sublist ..) rfl

/-- A row comes before another by priority, and among rows of one priority by number. -/
theorem PendingCommand.before_iff (a b : PendingCommand) :
    a.Before b ↔ a.priority.toNat < b.priority.toNat ∨
      (a.priority.toNat = b.priority.toNat ∧ a.sequence ≤ b.sequence) := by
  rw [PendingCommand.Before, UInt8.lt_iff_toNat_lt, UInt8.toNat_inj]

instance : Std.Total PendingCommand.Before where
  total a b := by
    rw [PendingCommand.before_iff, PendingCommand.before_iff]
    omega

instance : IsTrans PendingCommand PendingCommand.Before where
  trans a b c := by
    rw [PendingCommand.before_iff, PendingCommand.before_iff, PendingCommand.before_iff]
    omega

/-- The SELECT sorts the rows of a node by priority, stably. -/
theorem Ordered.selectForNode {q : Queue} (h : Ordered q) (home : String) (nodeId : NodeId) :
    StablySorts (fun row => row.priority.toNat) (q.rowsFor home nodeId)
      (q.selectForNode home nodeId) := by
  refine stablySorts_of_perm (List.perm_insertionSort _ _) (h.ascending.filter _) ?_
  have hsorted := List.pairwise_insertionSort PendingCommand.Before (q.rowsFor home nodeId)
  exact hsorted.imp fun {a b} hab => (a.before_iff b).mp hab

/-! ## Lanes -/

/-- A command that waits. -/
structure Queued where
  /-- Its priority. -/
  priority : UInt8
  /-- Its payload. -/
  payload : Bytes
  deriving DecidableEq

/-- `ORDER BY` looks at the priority as a number. -/
def Queued.key (queued : Queued) : ℕ := queued.priority.toNat

/-- The command of a row. -/
def PendingCommand.queued (row : PendingCommand) : Queued := ⟨row.priority, row.payload⟩

/-- What the pending queue is for: a lane for every home and node, and the home that is bound. -/
structure Lanes where
  /-- The home that is bound. -/
  home : Option Bytes := none
  /-- The commands that wait for a node, in the order in which they were enqueued. -/
  queued : Bytes → NodeId → List Queued := fun _ _ => []

namespace Lanes

/-- The lane of a node at the home that is bound. -/
def outstanding (lanes : Lanes) (nodeId : NodeId) : List Queued :=
  match lanes.home with
  | none => []
  | some home => lanes.queued home nodeId

/-- The lane of a node changes. -/
def change (lanes : Lanes) (nodeId : NodeId) (f : List Queued → List Queued) : Lanes :=
  match lanes.home with
  | none => lanes
  | some home =>
    { lanes with
      queued := fun h n =>
        if home = h ∧ nodeId = n then f (lanes.queued h n) else lanes.queued h n }

/-- A change of a lane leaves the home. -/
@[simp] theorem home_change (lanes : Lanes) (nodeId : NodeId) (f : List Queued → List Queued) :
    (lanes.change nodeId f).home = lanes.home := by
  unfold change
  split
  · rfl
  · rfl

/-- Without a home there is no lane to change. -/
theorem change_of_none {lanes : Lanes} (h : lanes.home = none) (nodeId : NodeId)
    (f : List Queued → List Queued) : lanes.change nodeId f = lanes := by
  rw [change, h]

/-- A change of a lane is one of the node's lane under the current home, and leaves every other
lane. -/
theorem queued_change {lanes : Lanes} {homeIdBytes : Bytes} (h : lanes.home = some homeIdBytes)
    (nodeId node : NodeId) (f : List Queued → List Queued) (home : Bytes) :
    (lanes.change nodeId f).queued home node =
      if homeIdBytes = home ∧ nodeId = node then f (lanes.queued home node)
      else lanes.queued home node := by
  rw [change, h]

/-- One operation: an `enqueue` adds to the end of the lane of its node, and a drain, a
`clearForNode` and a wake-up empty it. The file that is opened again has no home yet. -/
def step (lanes : Lanes) : Op → Lanes
  | .setHomeId homeIdBytes => { lanes with home := some homeIdBytes }
  | .enqueue nodeId payload priority _ => lanes.change nodeId (· ++ [⟨priority, payload⟩])
  | .drain nodeId _ | .clearForNode nodeId _ | .wakeUpNotification nodeId _ =>
    lanes.change nodeId fun _ => []
  | .peek _ _ => lanes
  | .reopen _ => { lanes with home := none }

/-- The lanes after a sequence of operations on an empty file. -/
def after (ops : List Op) : Lanes := ops.foldl step {}

/-- The lanes after one more operation are those before it, moved by it. -/
theorem after_concat (ops : List Op) (op : Op) : after (ops ++ [op]) = (after ops).step op := by
  rw [after, after, List.foldl_append]
  rfl

end Lanes

/-- The statements of an operation succeed, and it does not enqueue an empty payload. -/
def Op.Succeeds : Op → Prop
  | .setHomeId _ => True
  | .enqueue _ payload _ outcome => payload ≠ [] ∧ outcome = .stored
  | .drain _ outcome | .peek _ outcome | .wakeUpNotification _ outcome => outcome = {}
  | .clearForNode _ deleted => deleted = true
  | .reopen dbValid => dbValid = true

instance : DecidablePred Op.Succeeds := fun op => by
  cases op <;> unfold Op.Succeeds <;> infer_instance

/-- The rows are those of the lanes. -/
structure Mirrors (lanes : Lanes) (q : Queue) : Prop where
  /-- There is a database. -/
  dbValid : q.dbValid = true
  /-- The same home is bound. -/
  homeId : q.currentHomeId = lanes.home.map formatHomeId
  /-- The rows of a node are its lane. -/
  rows : ∀ home nodeId,
    (q.rowsFor (formatHomeId home) nodeId).map PendingCommand.queued = lanes.queued home nodeId
  /-- No payload is empty. -/
  payload : ∀ row ∈ q.rows, row.payload ≠ []

variable {lanes : Lanes} {q : Queue}

/-- The queue's home is the one of the lanes, as text. -/
theorem Mirrors.home (h : Mirrors lanes q) : q.home = lanes.home.map formatHomeId := by
  rw [Queue.home, if_pos h.dbValid, h.homeId]

/-- Two homes with the same text are the same, so a row of a home and node is found under its
bytes. -/
theorem scope_iff {home home' : Bytes} {nodeId node : NodeId} :
    (formatHomeId home = formatHomeId home' ∧ nodeId = node) ↔ (home = home' ∧ nodeId = node) :=
  and_congr_left fun _ => Registry.formatHomeId_injective.eq_iff

/-- A stored row mirrors a command behind the others in its lane. The text of a home determines its
bytes, so no other lane gets the row. -/
theorem Mirrors.insert (h : Mirrors lanes q) {homeIdBytes : Bytes}
    (hlane : lanes.home = some homeIdBytes) (nodeId : NodeId) {payload : Bytes} (priority : UInt8)
    (hpayload : payload ≠ []) :
    Mirrors (lanes.change nodeId (· ++ [⟨priority, payload⟩]))
      (q.insert (formatHomeId homeIdBytes) nodeId priority payload) := by
  refine ⟨h.dbValid, ?_, ?_, ?_⟩
  · rw [Lanes.home_change]
    exact h.homeId
  · intro home node
    rw [rowsFor_insert, List.map_append, h.rows home node, Lanes.queued_change hlane]
    simp only [scope_iff]
    split
    · rfl
    · exact List.append_nil _
  · intro row hrow
    rcases List.mem_append.mp hrow with hrow | hrow
    · exact h.payload row hrow
    · rw [List.mem_singleton.mp hrow]
      exact hpayload

/-- Deleting the rows of a node mirrors emptying its lane. -/
theorem Mirrors.deleteForNode (h : Mirrors lanes q) {homeIdBytes : Bytes}
    (hlane : lanes.home = some homeIdBytes) (nodeId : NodeId) :
    Mirrors (lanes.change nodeId fun _ => [])
      (q.deleteForNode (formatHomeId homeIdBytes) nodeId) := by
  refine ⟨h.dbValid, ?_, ?_, ?_⟩
  · rw [Lanes.home_change]
    exact h.homeId
  · intro home node
    rw [rowsFor_deleteForNode, Lanes.queued_change hlane]
    simp only [scope_iff]
    split
    · rfl
    · exact h.rows home node
  · intro row hrow
    exact h.payload row (List.mem_filter.mp hrow).1

/-- A successful `enqueue` mirrors a command behind the others in the lane, under the current home
or with none. -/
theorem Mirrors.enqueue (h : Mirrors lanes q) (nodeId : NodeId) {payload : Bytes}
    (priority : UInt8) (hpayload : payload ≠ []) :
    Mirrors (lanes.change nodeId (· ++ [⟨priority, payload⟩]))
      (q.enqueue nodeId payload priority .stored).1 := by
  unfold Queue.enqueue
  rw [h.home]
  cases hlane : lanes.home with
  | none =>
    rw [Lanes.change_of_none hlane]
    exact h
  | some homeIdBytes => exact h.insert hlane nodeId priority hpayload

/-- A successful drain mirrors emptying the lane. -/
theorem Mirrors.drain (h : Mirrors lanes q) (nodeId : NodeId) :
    Mirrors (lanes.change nodeId fun _ => []) (q.drain nodeId {}).1 := by
  unfold Queue.drain
  rw [h.home]
  cases hlane : lanes.home with
  | none =>
    rw [Lanes.change_of_none hlane]
    exact h
  | some homeIdBytes => exact h.deleteForNode hlane nodeId

/-- A successful `clearForNode` mirrors emptying the lane. -/
theorem Mirrors.clearForNode (h : Mirrors lanes q) (nodeId : NodeId) :
    Mirrors (lanes.change nodeId fun _ => []) (q.clearForNode nodeId true) := by
  unfold Queue.clearForNode
  rw [h.home]
  cases hlane : lanes.home with
  | none =>
    rw [Lanes.change_of_none hlane]
    exact h
  | some homeIdBytes => exact h.deleteForNode hlane nodeId

/-- An operation that succeeds keeps the queue the mirror of the lanes, one case per operation. -/
theorem Mirrors.step (h : Mirrors lanes q) {op : Op} (hop : op.Succeeds) :
    Mirrors (lanes.step op) (step q op).1 := by
  cases op with
  | setHomeId homeIdBytes => exact ⟨h.dbValid, rfl, h.rows, h.payload⟩
  | enqueue nodeId payload priority outcome =>
    obtain ⟨hpayload, rfl⟩ := hop
    exact h.enqueue nodeId priority hpayload
  | drain nodeId outcome =>
    obtain rfl := hop
    exact h.drain nodeId
  | peek nodeId outcome => exact h
  | clearForNode nodeId deleted =>
    obtain rfl := hop
    exact h.clearForNode nodeId
  | reopen dbValid => exact ⟨hop, rfl, h.rows, h.payload⟩
  | wakeUpNotification nodeId outcome =>
    obtain rfl := hop
    exact h.drain nodeId

/-- After every sequence of operations that succeed the rows are those of the lanes, in order. -/
theorem mirrors_after (ops : List Op) (hops : ∀ op ∈ ops, op.Succeeds) :
    Mirrors (Lanes.after ops) (exec step {} ops) ∧ Ordered (exec step {} ops) := by
  induction ops using List.reverseRecOn with
  | nil =>
    refine ⟨⟨rfl, rfl, fun _ _ => rfl, ?_⟩, Ordered.empty⟩
    intro row hrow
    cases hrow
  | append_singleton ops op ih =>
    obtain ⟨hmirrors, hordered⟩ := ih fun o ho => hops o (List.mem_append_left _ ho)
    rw [exec_concat, Lanes.after_concat]
    exact ⟨hmirrors.step (hops op (by simp)), hordered.step op⟩

/-! ## Priority queues -/

/-- The queue serves every node its lane, sorted by priority and first come first served within a
priority, and an operation changes what is queued for no home and node but its own. -/
structure PriorityQueues (lanes : Lanes) (q : Queue) : Prop where
  /-- What a drain returns, a peek lists and a wake-up sends. -/
  served : ∀ nodeId, ∃ out, StablySorts Queued.key (lanes.outstanding nodeId) out ∧
    (q.drain nodeId {}).2.1 = out.map Queued.payload ∧
    (q.peek nodeId {}).map (fun entry => (⟨entry.priority, entry.payload⟩ : Queued)) = out ∧
    (q.onWakeUpNotification nodeId {}).2 =
      [.queue (.pendingCommandsDrained nodeId (UInt32.ofNat out.length))] ++
        out.map (fun queued => .sendData nodeId queued.payload 0) ++
        [.sendWakeUpNoMoreInformation nodeId 0,
          .wakeUpCycleComplete nodeId (UInt32.ofNat out.length)]
  /-- Every other home and node keeps its rows. -/
  isolated : ∀ op home nodeId, ¬ q.Addresses home nodeId op →
    (step q op).1.rowsFor home nodeId = q.rowsFor home nodeId

/-- A successful drain gives the rows that the select reads under the home of the lanes. -/
theorem Mirrors.drained (h : Mirrors lanes q) (nodeId : NodeId) {homeIdBytes : Bytes}
    (hlane : lanes.home = some homeIdBytes) :
    q.drained nodeId {} = q.selectForNode (formatHomeId homeIdBytes) nodeId := by
  have hhome := h.home
  rw [hlane] at hhome
  unfold Queue.drained
  rw [hhome]
  refine List.filter_eq_self.mpr fun row hrow => decide_eq_true ?_
  have hselected := (List.mem_insertionSort _).mp hrow
  exact h.payload row (List.mem_filter.mp hselected).1

/-- What is peeked and what is drained are the commands outstanding in the lane, sorted stably by
priority: the rows stand in the order of their numbers, and the select orders by priority and then
by number. -/
theorem Mirrors.served (h : Mirrors lanes q) (hordered : Ordered q) (nodeId : NodeId) :
    ∃ out : List PendingCommand,
      StablySorts Queued.key (lanes.outstanding nodeId) (out.map PendingCommand.queued) ∧
      q.peek nodeId {} = out.map (fun row =>
        { sequence := UInt32.ofNat row.sequence, priority := row.priority,
          payload := row.payload }) ∧
      (q.drain nodeId {}).2 = (out.map PendingCommand.payload,
        [.pendingCommandsDrained nodeId (UInt32.ofNat out.length)]) := by
  have hhome := h.home
  -- Without a home there is no lane, and nothing is peeked at or drained.
  cases hlane : lanes.home with
  | none =>
    rw [hlane] at hhome
    have hempty : lanes.outstanding nodeId = [] := by
      rw [Lanes.outstanding, hlane]
    refine ⟨[], ?_, ?_, ?_⟩
    · rw [hempty]
      exact StablySorts.nil _
    · rw [Queue.peek, hhome]
      rfl
    · rw [Queue.drain, hhome]
      rfl
  | some homeIdBytes =>
    rw [hlane] at hhome
    have hdrained := h.drained nodeId hlane
    refine ⟨q.selectForNode (formatHomeId homeIdBytes) nodeId, ?_, ?_, ?_⟩
    -- The rows of the node in the order of the query are its commands, stably sorted.
    · have houtstanding : lanes.outstanding nodeId = lanes.queued homeIdBytes nodeId := by
        rw [Lanes.outstanding, hlane]
      rw [houtstanding, ← h.rows homeIdBytes nodeId]
      refine StablySorts.map ?_
      exact hordered.selectForNode (formatHomeId homeIdBytes) nodeId
    -- Peeking reads the same rows, and leaves them.
    · rw [Queue.peek, hhome]
      rfl
    -- Draining returns their payloads, and counts them.
    · rw [← hdrained]
      unfold Queue.drain
      rw [hhome]
      simp

/-- Whatever the sequence of operations that succeed, the file holds a stable priority queue for
every home and node. -/
theorem stable_priority_queues (ops : List Op) (hops : ∀ op ∈ ops, op.Succeeds) :
    PriorityQueues (Lanes.after ops) (exec step {} ops) := by
  obtain ⟨hmirrors, hordered⟩ := mirrors_after ops hops
  constructor
  · intro nodeId
    obtain ⟨out, hsorts, hpeek, hdrain⟩ := hmirrors.served hordered nodeId
    refine ⟨out.map PendingCommand.queued, hsorts, ?_, ?_, ?_⟩
    · rw [hdrain, List.map_map]
      rfl
    · rw [hpeek, List.map_map]
      rfl
    · have hwake : ((exec step {} ops).onWakeUpNotification nodeId {}).2 =
          ((exec step {} ops).drain nodeId {}).2.2.map .queue ++
            ((exec step {} ops).drain nodeId {}).2.1.map (.sendData nodeId · 0) ++
            [.sendWakeUpNoMoreInformation nodeId 0,
              .wakeUpCycleComplete nodeId
                (UInt32.ofNat ((exec step {} ops).drain nodeId {}).2.1.length)] := rfl
      rw [hwake, hdrain, List.map_map, List.map_map, List.length_map, List.length_map]
      rfl
  · intro op home nodeId h
    exact rowsFor_step h

/-- Two homes and two nodes, across an opening of the file. -/
theorem stable_priority_queues_reopened :
    PriorityQueues
      (Lanes.after [.setHomeId [1, 2, 3, 4], .enqueue 5 [7] 100 .stored, .enqueue 5 [8] 10 .stored,
        .enqueue 6 [9] 100 .stored, .reopen true, .setHomeId [1, 2, 3, 4],
        .enqueue 5 [10] 100 .stored, .drain 6 {}])
      (exec step {} [.setHomeId [1, 2, 3, 4], .enqueue 5 [7] 100 .stored, .enqueue 5 [8] 10 .stored,
        .enqueue 6 [9] 100 .stored, .reopen true, .setHomeId [1, 2, 3, 4],
        .enqueue 5 [10] 100 .stored, .drain 6 {}]) :=
  stable_priority_queues _ (by decide)

end Zwaved.Storage.PendingQueue
