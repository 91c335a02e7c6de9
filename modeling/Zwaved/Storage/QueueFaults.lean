import Zwaved.Storage.QueueRuns

/-!
# A failing database under the pending queue

What the queue owes its callers when a statement fails (`Reliable`): the event of an `enqueue`
stands for a row that was stored, a drain deletes no row that it has not returned, and no row is
returned twice. It owes them this only while three things do not happen (`Undisturbed`), because
`execDone` logs a failure and returns nothing: an INSERT that is rejected is published all the same,
the DELETE takes every row of the node whatever the SELECT has read, and a DELETE that fails leaves
the rows that were returned for the next drain.
-/

namespace Zwaved.Storage.PendingQueue

open Reactive

/-! ## What is owed -/

/-- The rows whose payloads a step returns or sends. -/
def returned (t : Taken Queue Op) : List PendingCommand :=
  match t.input.drainOf with
  | none => []
  | some (nodeId, outcome) => t.before.drained nodeId outcome

/-- A step publishes PendingCommandEnqueued. -/
def Publishes (t : Taken Queue Op) : Prop :=
  ∃ nodeId sequence priority,
    .published (.queue (.pendingCommandEnqueued nodeId sequence priority)) ∈
      (step t.before t.input).2

/-- A step stores a row. -/
def Stores (t : Taken Queue Op) : Prop :=
  ∃ row, (step t.before t.input).1.rows = t.before.rows ++ [row]

/-- No command is lost and none is sent twice. -/
structure Reliable (ops : List Op) : Prop where
  /-- PendingCommandEnqueued is published exactly when the row was stored. -/
  published : ∀ t ∈ trace step {} ops, Publishes t ↔ Stores t
  /-- A drain deletes no row whose payload it does not return. -/
  read : ∀ t ∈ trace step {} ops, t.input.drainOf ≠ none →
    ∀ row ∈ t.before.rows, row ∉ (step t.before t.input).1.rows → row ∈ returned t
  /-- No row is returned by two drains. -/
  once : (trace step {} ops).Pairwise fun t u => ∀ row ∈ returned t, row ∉ returned u

/-! ## What may happen -/

/-- A step is a drain or a wake-up whose SELECT is prepared. -/
structure Drains (t : Taken Queue Op) (home : String) (nodeId : NodeId) (outcome : DrainOutcome) :
    Prop where
  /-- The operation. -/
  input : t.input.drainOf = some (nodeId, outcome)
  /-- The home that is bound. -/
  home : t.before.home = some home
  /-- The SELECT is prepared. -/
  prepared : outcome.prepared = true

/-- The INSERT of an `enqueue` is prepared and rejected. -/
def InsertRejected (t : Taken Queue Op) : Prop :=
  t.before.home ≠ none ∧
    ∃ nodeId payload priority, t.input = .enqueue nodeId payload priority .rejected

/-- The DELETE of a drain is done, and there are rows of the node that the SELECT did not reach
before it failed, or one that has no payload. -/
def DeletesUnread (t : Taken Queue Op) : Prop :=
  ∃ home nodeId outcome, Drains t home nodeId outcome ∧ outcome.deleted = true ∧
    ((∃ count, outcome.failsAfter = some count ∧ count < (t.before.rowsFor home nodeId).length) ∨
      ∃ row ∈ t.before.rowsFor home nodeId, row.payload = [])

/-- The SELECT of a drain steps over a row. -/
def StepsOver (t : Taken Queue Op) (row : PendingCommand) : Prop :=
  ∃ home nodeId outcome, Drains t home nodeId outcome ∧ row ∈ t.before.stepped home nodeId outcome

/-- A drain steps over a row that has a payload, and its DELETE fails. -/
def LeavesBehind (t : Taken Queue Op) (row : PendingCommand) : Prop :=
  row.payload ≠ [] ∧ ∃ home nodeId outcome, Drains t home nodeId outcome ∧ outcome.deleted = false ∧
    row ∈ t.before.stepped home nodeId outcome

/-- None of the three failures takes effect. -/
structure Undisturbed (ops : List Op) : Prop where
  /-- No INSERT is rejected. -/
  stored : ∀ t ∈ trace step {} ops, ¬ InsertRejected t
  /-- No DELETE takes a row that was not read. -/
  read : ∀ t ∈ trace step {} ops, ¬ DeletesUnread t
  /-- No drain reaches a row that the DELETE of an earlier one has left behind. -/
  once : (trace step {} ops).Pairwise fun t u => ∀ row, LeavesBehind t row → ¬ StepsOver u row

/-! ## Storing -/

variable {t u : Taken Queue Op}

/-- A drain publishes no PendingCommandEnqueued. -/
theorem events_drain {q : Queue} {nodeId : NodeId} {outcome : DrainOutcome} {event : QueueEvent}
    (h : event ∈ (q.drain nodeId outcome).2.2) :
    ∃ count, event = .pendingCommandsDrained nodeId count := by
  unfold Queue.drain at h
  split at h
  · exact ⟨0, List.mem_singleton.mp h⟩
  split at h
  · exact ⟨_, List.mem_singleton.mp h⟩
  · cases h

/-- An `enqueue` publishes its event unless there is no home or the INSERT is not prepared. -/
theorem publishes_enqueue (q : Queue) (nodeId : NodeId) (payload : Bytes) (priority : UInt8)
    (outcome : InsertOutcome) :
    Publishes ⟨q, .enqueue nodeId payload priority outcome⟩ ↔
      q.home ≠ none ∧ outcome ≠ .unprepared := by
  unfold Publishes step Queue.enqueue
  cases hhome : q.home with
  | none => simp
  | some home => cases outcome <;> simp

/-- An `enqueue` stores a row unless there is no home or the INSERT fails. -/
theorem stores_enqueue (q : Queue) (nodeId : NodeId) (payload : Bytes) (priority : UInt8)
    (outcome : InsertOutcome) :
    Stores ⟨q, .enqueue nodeId payload priority outcome⟩ ↔ q.home ≠ none ∧ outcome = .stored := by
  unfold Stores step Queue.enqueue
  cases hhome : q.home with
  | none => simp
  | some home => cases outcome <;> simp [Queue.insert]

/-- Nothing but an `enqueue` publishes the event. -/
theorem not_publishes_of_not_enqueue
    (h : ∀ nodeId payload priority outcome, t.input ≠ .enqueue nodeId payload priority outcome) :
    ¬ Publishes t := by
  obtain ⟨q, op⟩ := t
  rintro ⟨nodeId, sequence, priority, hmem⟩
  dsimp only at hmem
  cases op with
  -- Of the other calls only a drain publishes, and it publishes what it has drained.
  | setHomeId homeIdBytes => cases hmem
  | enqueue n payload p outcome => exact h n payload p outcome rfl
  | drain n outcome =>
    rcases List.mem_append.mp hmem with hmem | hmem
    · obtain ⟨event, hevent, heq⟩ := List.mem_map.mp hmem
      obtain ⟨count, rfl⟩ := events_drain hevent
      cases heq
    · cases List.mem_singleton.mp hmem
  | peek n outcome => cases List.mem_singleton.mp hmem
  | clearForNode n deleted => cases hmem
  | reopen dbValid => cases hmem
  -- A wake-up publishes what its drain does, besides the sends.
  | wakeUpNotification n outcome =>
    obtain ⟨output, houtput, heq⟩ := List.mem_map.mp hmem
    obtain rfl := Output.published.inj heq
    have hevent : .pendingCommandEnqueued nodeId sequence priority ∈ (q.drain n outcome).2.2 := by
      rcases List.mem_append.mp houtput with houtput | houtput
      · rcases List.mem_append.mp houtput with houtput | houtput
        · obtain ⟨event, hevent, heq⟩ := List.mem_map.mp houtput
          rwa [← Queue.WakeUpOutput.queue.inj heq]
        · obtain ⟨sent, -, heq⟩ := List.mem_map.mp houtput
          cases heq
      · simp at houtput
    obtain ⟨count, heq⟩ := events_drain hevent
    cases heq

/-- Nothing but an `enqueue` stores a row. -/
theorem not_stores_of_not_enqueue
    (h : ∀ nodeId payload priority outcome, t.input ≠ .enqueue nodeId payload priority outcome) :
    ¬ Stores t := by
  obtain ⟨q, op⟩ := t
  rintro ⟨row, hrows⟩
  have hlength := congrArg List.length hrows
  rw [List.length_append, List.length_singleton] at hlength
  have hmoves := step_moves q op
  dsimp only at hlength
  generalize (step q op).1 = q' at hmoves hlength
  cases hmoves with
  | kept hrows hnext =>
    rw [hrows] at hlength
    omega
  | stored hhome => exact h _ _ _ _ rfl
  | @drained _ nodeId _ home =>
    have hle := (deleteForNode_sublist q home nodeId).length_le
    omega
  | @cleared nodeId home =>
    have hle := (deleteForNode_sublist q home nodeId).length_le
    omega

/-- A step publishes exactly what it stores unless its INSERT is rejected. -/
theorem publishes_iff_stores (t : Taken Queue Op) :
    (Publishes t ↔ Stores t) ↔ ¬ InsertRejected t := by
  obtain ⟨q, op⟩ := t
  by_cases hop : ∃ nodeId payload priority outcome, op = .enqueue nodeId payload priority outcome
  · obtain ⟨nodeId, payload, priority, outcome, rfl⟩ := hop
    rw [publishes_enqueue, stores_enqueue, InsertRejected]
    cases outcome <;> simp
  · have hnone : ∀ nodeId payload priority outcome, op ≠ .enqueue nodeId payload priority outcome :=
      fun nodeId payload priority outcome h => hop ⟨nodeId, payload, priority, outcome, h⟩
    have hpublishes := not_publishes_of_not_enqueue (t := ⟨q, op⟩) hnone
    have hstores := not_stores_of_not_enqueue (t := ⟨q, op⟩) hnone
    constructor
    · rintro - ⟨-, nodeId, payload, priority, h⟩
      exact hnone _ _ _ _ h
    · intro _
      exact iff_of_false hpublishes hstores

/-! ## Reading -/

/-- A step returns the rows that its SELECT steps over and that have a payload. -/
theorem mem_returned_iff {row : PendingCommand} :
    row ∈ returned t ↔ row.payload ≠ [] ∧ StepsOver t row := by
  unfold returned
  cases hop : t.input.drainOf with
  | none =>
    refine iff_of_false List.not_mem_nil ?_
    rintro ⟨-, home, nodeId, outcome, hdrains, -⟩
    exact absurd (hop.symm.trans hdrains.input) (by simp)
  -- Only a drain returns rows, and returns those that it steps over.
  | some drain =>
    obtain ⟨nodeId, outcome⟩ := drain
    constructor
    · intro hrow
      dsimp only [Queue.drained] at hrow
      cases hhome : t.before.home with
      | none =>
        rw [hhome] at hrow
        cases hrow
      | some home =>
        rw [hhome] at hrow
        -- The statement was prepared, and its rows are filtered by their payload.
        dsimp only at hrow
        split at hrow
        next hprepared =>
          obtain ⟨hstepped, hpayload⟩ := List.mem_filter.mp hrow
          exact ⟨of_decide_eq_true hpayload, home, nodeId, outcome, ⟨hop, hhome, hprepared⟩,
            hstepped⟩
        next => cases hrow
    · rintro ⟨hpayload, home, node, o, hdrains, hstepped⟩
      obtain ⟨rfl, rfl⟩ := Prod.mk.inj (Option.some.inj (hop.symm.trans hdrains.input))
      dsimp only [Queue.drained]
      rw [hdrains.home, hdrains.prepared]
      exact List.mem_filter.mpr ⟨hstepped, decide_eq_true hpayload⟩

/-- A drain whose DELETE is done takes the rows of its node. -/
theorem Drains.deletes {home : String} {nodeId : NodeId} {outcome : DrainOutcome}
    (h : Drains t home nodeId outcome) (hdeleted : outcome.deleted = true) :
    (step t.before t.input).1 = t.before.deleteForNode home nodeId := by
  rw [step_of_drainOf _ h.input, Queue.drain, h.home]
  dsimp only
  rw [if_pos h.prepared, if_pos hdeleted]

/-- A step drains one home and one node, with one outcome. -/
theorem Drains.unique {home home' : String} {nodeId nodeId' : NodeId}
    {outcome outcome' : DrainOutcome} (h : Drains t home nodeId outcome)
    (h' : Drains t home' nodeId' outcome') :
    home = home' ∧ nodeId = nodeId' ∧ outcome = outcome' := by
  obtain ⟨hnode, houtcome⟩ := Prod.mk.inj (Option.some.inj (h.input.symm.trans h'.input))
  exact ⟨Option.some.inj (h.home.symm.trans h'.home), hnode, houtcome⟩

/-- The rows for a node are those of its home and number. -/
theorem mem_rowsFor {q : Queue} {home : String} {nodeId : NodeId} {row : PendingCommand} :
    row ∈ q.rowsFor home nodeId ↔ row ∈ q.rows ∧ row.homeId = home ∧ row.nodeId = nodeId := by
  rw [Queue.rowsFor, List.mem_filter, decide_eq_true_eq]

/-- A delete leaves the rows that are not the node's under the home. -/
theorem mem_deleteForNode {q : Queue} {home : String} {nodeId : NodeId} {row : PendingCommand} :
    row ∈ (q.deleteForNode home nodeId).rows ↔
      row ∈ q.rows ∧ ¬ (row.homeId = home ∧ row.nodeId = nodeId) := by
  rw [Queue.deleteForNode, List.mem_filter, decide_eq_true_eq]

/-- The SELECT steps over all rows of the node exactly when it does not fail before the last. -/
theorem Ordered.stepped_all {q : Queue} (h : Ordered q) (home : String) (nodeId : NodeId)
    (outcome : DrainOutcome) :
    (∀ row ∈ q.rowsFor home nodeId, row ∈ q.stepped home nodeId outcome) ↔
      ∀ count, outcome.failsAfter = some count → (q.rowsFor home nodeId).length ≤ count := by
  -- The query sorts the rows of the node and loses none.
  have hperm : (q.selectForNode home nodeId).Perm (q.rowsFor home nodeId) :=
    List.perm_insertionSort _ _
  unfold Queue.stepped
  cases hfails : outcome.failsAfter with
  | none =>
    refine iff_of_true (fun row hrow => hperm.mem_iff.mpr hrow) ?_
    intro count hcount
    cases hcount
  | some count =>
    constructor
    -- The rows are all different, so being among the first `count` means that there are at most
    -- that many.
    · rintro hall _ ⟨⟩
      have hsub : (q.rowsFor home nodeId).Subperm ((q.selectForNode home nodeId).take count) :=
        List.subperm_of_subset (h.nodup.filter _) hall
      exact hsub.length_le.trans (List.length_take_le _ _)
    -- There are at most `count` rows, so none is cut off.
    · intro hcount row hrow
      have hlength := hcount count rfl
      rw [← hperm.length_eq] at hlength
      dsimp only
      rw [List.take_of_length_le hlength]
      exact hperm.mem_iff.mpr hrow

/-- A drain that does not delete a row unread returns every row that it deletes. -/
theorem mem_returned_of_deleted (h : Ordered t.before) (hunread : ¬ DeletesUnread t)
    (hdrain : t.input.drainOf ≠ none) {row : PendingCommand} (hmem : row ∈ t.before.rows)
    (hgone : row ∉ (step t.before t.input).1.rows) : row ∈ returned t := by
  have hmoves := step_moves t.before t.input
  generalize (step t.before t.input).1 = q' at hmoves hgone
  generalize hop : t.input = op at hmoves
  -- A drain that takes rows away takes all of the node's, so it must have read all of them.
  cases hmoves with
  | kept hrows hnext =>
    rw [hrows] at hgone
    exact absurd hmem hgone
  | stored hhome => exact absurd (List.mem_append_left _ hmem) hgone
  | @drained _ nodeId outcome home hdrainOf hhome hprepared hdeleted =>
    -- The row is gone, so it is one of those that the drain deletes.
    have hdrains : Drains t home nodeId outcome := ⟨hop ▸ hdrainOf, hhome, hprepared⟩
    have hscope : row.homeId = home ∧ row.nodeId = nodeId := by
      by_contra hother
      exact hgone (mem_deleteForNode.mpr ⟨hmem, hother⟩)
    have hrow := mem_rowsFor.mpr ⟨hmem, hscope⟩
    -- A row without a payload would be deleted unread.
    have hpayload : row.payload ≠ [] := fun hempty =>
      hunread ⟨home, nodeId, outcome, hdrains, hdeleted, Or.inr ⟨row, hrow, hempty⟩⟩
    have hcount : ∀ count, outcome.failsAfter = some count →
        (t.before.rowsFor home nodeId).length ≤ count := by
      -- So would one behind the place where the reading fails.
      intro count hfails
      by_contra hlt
      exact hunread ⟨home, nodeId, outcome, hdrains, hdeleted,
        Or.inl ⟨count, hfails, Nat.lt_of_not_le hlt⟩⟩
    have hstepped := (h.stepped_all home nodeId outcome).mpr hcount row hrow
    exact mem_returned_iff.mpr ⟨hpayload, home, nodeId, outcome, hdrains, hstepped⟩
  | cleared hhome =>
    rw [hop] at hdrain
    exact absurd rfl hdrain

/-- A drain returns every row that it deletes exactly when it does not delete a row unread. -/
theorem reads_iff (h : Ordered t.before) :
    (t.input.drainOf ≠ none → ∀ row ∈ t.before.rows, row ∉ (step t.before t.input).1.rows →
      row ∈ returned t) ↔ ¬ DeletesUnread t := by
  constructor
  -- Each row of the node is deleted, so each has been returned, and with that been read.
  · rintro hall ⟨home, nodeId, outcome, hdrains, hdeleted, hunread⟩
    have hread : ∀ row ∈ t.before.rowsFor home nodeId,
        row.payload ≠ [] ∧ row ∈ t.before.stepped home nodeId outcome := by
      intro row hrow
      obtain ⟨hmem, hscope⟩ := mem_rowsFor.mp hrow
      have hgone : row ∉ (step t.before t.input).1.rows := by
        rw [hdrains.deletes hdeleted, mem_deleteForNode]
        exact fun hkept => hkept.2 hscope
      have hreturned := hall (by rw [hdrains.input]; exact Option.some_ne_none _) row hmem hgone
      obtain ⟨hpayload, home', node, o, hdrains', hstepped⟩ := mem_returned_iff.mp hreturned
      obtain ⟨rfl, rfl, rfl⟩ := hdrains.unique hdrains'
      exact ⟨hpayload, hstepped⟩
    -- Either way of not being read is against that.
    rcases hunread with ⟨count, hfails, hlt⟩ | ⟨row, hrow, hempty⟩
    · have hle := (h.stepped_all home nodeId outcome).mp (fun row hrow => (hread row hrow).2)
        count hfails
      omega
    · exact (hread row hrow).1 hempty
  · intro hunread hdrain row hmem hgone
    exact mem_returned_of_deleted h hunread hdrain hmem hgone

/-! ## Returning once -/

/-- The rows of a later state that are not newer than a step are left from it. -/
def Leaves (t : Taken Queue Op) (q : Queue) : Prop :=
  (step t.before t.input).1.nextSequence ≤ q.nextSequence ∧
    ∀ row ∈ q.rows, row.sequence < (step t.before t.input).1.nextSequence →
      row ∈ (step t.before t.input).1.rows

/-- No operation brings an older row back: whatever it is, the rows that are not newer than a step
stay among those that the step left. -/
theorem Leaves.step {q : Queue} (h : Leaves t q) (op : Op) : Leaves t (step q op).1 := by
  have hmoves := step_moves q op
  generalize (PendingQueue.step q op).1 = q' at hmoves ⊢
  obtain ⟨hnext, hrows⟩ := h
  cases hmoves with
  | kept hkept hsame =>
    refine ⟨hsame ▸ hnext, ?_⟩
    rw [hkept]
    exact hrows
  | stored hhome =>
    refine ⟨Nat.le_succ_of_le hnext, ?_⟩
    intro row hrow hlt
    rcases List.mem_append.mp hrow with hrow | hrow
    · exact hrows row hrow hlt
    · rw [List.mem_singleton.mp hrow] at hlt
      exact absurd hlt (Nat.not_lt.mpr hnext)
  | drained hop hhome hprepared hdeleted =>
    exact ⟨hnext, fun row hrow => hrows row (mem_deleteForNode.mp hrow).1⟩
  | cleared hhome => exact ⟨hnext, fun row hrow => hrows row (mem_deleteForNode.mp hrow).1⟩

/-- Every step of a run is taken from a state with ordered rows, which have come to it from the
steps before. -/
theorem leaves_of_run (ops : List Op) :
    (∀ t ∈ trace step {} ops, Ordered t.before) ∧
      (trace step {} ops).Pairwise fun t u => Leaves t u.before := by
  have hrun := trace_induction step {}
    (I := fun tr q => Ordered q ∧ (∀ t ∈ tr, Ordered t.before ∧ Leaves t q) ∧
      tr.Pairwise fun t u => Leaves t u.before) ?_ ?_ ops
  · exact ⟨fun t ht => (hrun.2.1 t ht).1, hrun.2.2⟩
  · refine ⟨Ordered.empty, ?_, List.Pairwise.nil⟩
    intro t ht
    cases ht
  · rintro tr q op ⟨hordered, hsteps, hpairs⟩
    refine ⟨hordered.step op, ?_, ?_⟩
    · intro t ht
      rcases List.mem_append.mp ht with ht | ht
      · exact ⟨(hsteps t ht).1, (hsteps t ht).2.step op⟩
      · rw [List.mem_singleton.mp ht]
        exact ⟨hordered, Nat.le_refl _, fun row hrow _ => hrow⟩
    · refine List.pairwise_append.mpr ⟨hpairs, List.pairwise_singleton _ _, ?_⟩
      intro t ht u hu
      rw [List.mem_singleton.mp hu]
      exact (hsteps t ht).2

/-- A row that a drain steps over was one of the rows that it was to give. -/
theorem mem_rows_of_stepsOver {row : PendingCommand} (h : StepsOver t row) :
    row ∈ t.before.rows ∧ ∃ home nodeId outcome, Drains t home nodeId outcome ∧
      row ∈ t.before.stepped home nodeId outcome ∧ row ∈ t.before.rowsFor home nodeId := by
  obtain ⟨home, nodeId, outcome, hdrains, hstepped⟩ := h
  have hselected : row ∈ t.before.selectForNode home nodeId := by
    unfold Queue.stepped at hstepped
    split at hstepped
    · exact hstepped
    · exact List.mem_of_mem_take hstepped
  have hrow : row ∈ t.before.rowsFor home nodeId := (List.mem_insertionSort _).mp hselected
  exact ⟨(mem_rowsFor.mp hrow).1, home, nodeId, outcome, hdrains, hstepped, hrow⟩

/-- Of two steps, the later returns no row that the earlier has returned exactly when it does not
step over one that the earlier has left behind: what a DELETE has taken does not come back. -/
theorem once_iff (hordered : Ordered t.before) (hleaves : Leaves t u.before) :
    (∀ row ∈ returned t, row ∉ returned u) ↔ ∀ row, LeavesBehind t row → ¬ StepsOver u row := by
  constructor
  · rintro honce row ⟨hpayload, home, nodeId, outcome, hdrains, -, hstepped⟩ hover
    have hreturned := mem_returned_iff.mpr ⟨hpayload, home, nodeId, outcome, hdrains, hstepped⟩
    exact honce row hreturned (mem_returned_iff.mpr ⟨hpayload, hover⟩)
  · intro hbehind row hreturned hagain
    obtain ⟨hpayload, hover⟩ := mem_returned_iff.mp hreturned
    obtain ⟨-, hover'⟩ := mem_returned_iff.mp hagain
    obtain ⟨hmem, home, nodeId, outcome, hdrains, hstepped, hrow⟩ := mem_rows_of_stepsOver hover
    cases hdeleted : outcome.deleted with
    | false =>
      exact hbehind row ⟨hpayload, home, nodeId, outcome, hdrains, hdeleted, hstepped⟩ hover'
    | true =>
      have hafter := hdrains.deletes hdeleted
      have hlt : row.sequence < (step t.before t.input).1.nextSequence := by
        rw [hafter]
        exact hordered.numbered row hmem
      have hstill := hleaves.2 row (mem_rows_of_stepsOver hover').1 hlt
      rw [hafter, mem_deleteForNode] at hstill
      exact hstill.2 (mem_rowsFor.mp hrow).2

/-! ## Reliability -/

/-- The queue is reliable in a run exactly when none of the failures takes effect in it. -/
theorem reliable_iff (ops : List Op) : Reliable ops ↔ Undisturbed ops := by
  obtain ⟨hordered, hleaves⟩ := leaves_of_run ops
  have honce : (trace step {} ops).Pairwise fun t u =>
      ((∀ row ∈ returned t, row ∉ returned u) ↔
        ∀ row, LeavesBehind t row → ¬ StepsOver u row) := by
    refine hleaves.imp_of_mem ?_
    intro t u ht _ h
    exact once_iff (hordered t ht) h
  constructor
  · intro h
    refine ⟨?_, ?_, ?_⟩
    · exact fun t ht => (publishes_iff_stores t).mp (h.published t ht)
    · exact fun t ht => (reads_iff (hordered t ht)).mp (h.read t ht)
    · exact (honce.and h.once).imp fun hpair => hpair.1.mp hpair.2
  · intro h
    refine ⟨?_, ?_, ?_⟩
    · exact fun t ht => (publishes_iff_stores t).mpr (h.stored t ht)
    · exact fun t ht => (reads_iff (hordered t ht)).mpr (h.read t ht)
    · exact (honce.and h.once).imp fun hpair => hpair.1.mpr hpair.2

/-- An empty payload is bound as NULL and rejected, and published; a SELECT that fails after the
first of two rows, whose second is deleted with it; a DELETE that fails, after which the row is
returned again; and an empty payload that is stored, and deleted without being returned. -/
theorem not_reliable :
    ¬ Reliable [.setHomeId [1, 2, 3, 4], .enqueue 5 [] 100 .rejected] ∧
      ¬ Reliable [.setHomeId [1, 2, 3, 4], .enqueue 5 [7] 100 .stored, .enqueue 5 [8] 100 .stored,
        .drain 5 { failsAfter := some 1 }] ∧
      ¬ Reliable [.setHomeId [1, 2, 3, 4], .enqueue 5 [7] 100 .stored,
        .drain 5 { deleted := false }, .drain 5 {}] ∧
      ¬ Reliable [.setHomeId [1, 2, 3, 4], .enqueue 5 [] 100 .stored, .drain 5 {}] := by
  refine ⟨?_, ?_, ?_, ?_⟩
  -- The insert fails, and the command is announced all the same.
  · intro h
    have hiff := h.published ⟨exec step {} [.setHomeId [1, 2, 3, 4]], _⟩
      ((mem_trace_iff ..).mpr ⟨[.setHomeId [1, 2, 3, 4]], [], rfl, rfl⟩)
    refine (publishes_iff_stores _).mp hiff ⟨?_, 5, [], 100, rfl⟩
    decide
  -- The second row is not read and is deleted with the first.
  · intro h
    have hread := h.read
      ⟨exec step {} [.setHomeId [1, 2, 3, 4], .enqueue 5 [7] 100 .stored,
        .enqueue 5 [8] 100 .stored], _⟩
      ((mem_trace_iff ..).mpr ⟨[.setHomeId [1, 2, 3, 4], .enqueue 5 [7] 100 .stored,
        .enqueue 5 [8] 100 .stored], [], rfl, rfl⟩)
    revert hread
    decide
  -- Nothing is deleted, and the same row is returned a second time.
  · intro h
    have honce := List.pairwise_iff_getElem.mp h.once 2 3 (by decide) (by decide) (by decide)
    revert honce
    decide
  -- The row without a payload is deleted and not returned.
  · intro h
    have hread := h.read
      ⟨exec step {} [.setHomeId [1, 2, 3, 4], .enqueue 5 [] 100 .stored], _⟩
      ((mem_trace_iff ..).mpr ⟨[.setHomeId [1, 2, 3, 4], .enqueue 5 [] 100 .stored], [], rfl, rfl⟩)
    revert hread
    decide

end Zwaved.Storage.PendingQueue
