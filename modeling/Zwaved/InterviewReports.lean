import Mathlib.Data.List.Basic
import Zwaved.Interview
import Zwaved.NodeRegistry

/-!
# The reports of an interview

`InterviewOrchestrator.cpp` over runs of the events that it subscribes to. A sleeping node is asked
all at once when it wakes up, but its session still waits for one report at a time and drops any
other. What is left of the session's steps is matched against the node's reports in order
(`run_reports`), so the interview ends exactly if the steps are a sublist of the reports
(`completesOnce_iff`): reports that overtake each other leave it parked.
-/

namespace Zwaved.Interview

/-- What the orchestrator subscribes to. -/
inductive Event
  /-- NodeIncluded. -/
  | nodeIncluded (nodeId : NodeId) (commandClasses : Bytes)
  /-- NodeSecurityStatus. -/
  | nodeSecurityStatus (nodeId : NodeId) (scheme : SecurityScheme)
  /-- The report on a step: ManufacturerSpecificReport, NodeVersionReport,
  MultiChannelEndPointReport or ZWavePlusInfoReport. -/
  | report (sourceNodeId : NodeId) (step : Step)
  deriving DecidableEq, Repr

/-- The handler of an event, without the erasure of the session. -/
def dispatch (sessions : NodeMap Session) : Event → NodeMap Session × List Output
  | .nodeIncluded nodeId commandClasses => onNodeIncluded sessions nodeId commandClasses
  | .nodeSecurityStatus nodeId scheme =>
    if scheme = .none then (sessions, []) else onNodeSecurityStatus sessions nodeId
  | .report sourceNodeId step => advance sessions sourceNodeId step

/-- What an output does to the sessions. -/
def erase (sessions : NodeMap Session) : Output → NodeMap Session
  | .eraseSession nodeId => Function.update sessions nodeId none
  | _ => sessions

/-- The handler of an event. -/
def handle (sessions : NodeMap Session) (event : Event) : NodeMap Session × List Output :=
  let (sessions, outputs) := dispatch sessions event
  (outputs.foldl erase sessions, outputs)

/-- One event after another, with all that is sent. -/
def run (sessions : NodeMap Session) : List Event → NodeMap Session × List Output
  | [] => (sessions, [])
  | event :: events =>
    let (sessions, outputs) := handle sessions event
    let (sessions, rest) := run sessions events
    (sessions, outputs ++ rest)

/-- The command classes that a node was included with, after an event. -/
def included (nodeId : NodeId) (before : Option Bytes) : Event → Option Bytes
  | .nodeIncluded other commandClasses => if other = nodeId then some commandClasses else before
  | _ => before

/-- The command classes of the last NodeIncluded of a node. -/
def nif (nodeId : NodeId) (events : List Event) : Option Bytes :=
  events.foldl (included nodeId) none

/-- The reports as events. -/
def asEvents (reports : List (NodeId × Step)) : List Event :=
  reports.map fun report => .report report.1 report.2

/-- The steps that a node reports on, in order. -/
def stepsOf (nodeId : NodeId) (reports : List (NodeId × Step)) : List Step :=
  reports.filterMap fun report => if report.1 = nodeId then some report.2 else none

/-- NodeInterviewComplete is published once for the node, and no session of it is left. -/
def CompletesOnce (sessions : NodeMap Session) (nodeId : NodeId)
    (reports : List (NodeId × Step)) : Prop :=
  (run sessions (asEvents reports)).2.count (.eraseSession nodeId) = 1 ∧
    (run sessions (asEvents reports)).1 nodeId = none

/-! ## The step that is awaited -/

/-- The steps that a session has not seen a report on. -/
def Session.pending (session : Session) : List Step := session.steps.drop session.index

variable {sessions : NodeMap Session} {nodeId other : NodeId} {session : Session} {step : Step}

/-- The session waits for reports on these steps. -/
def Waits (sessions : NodeMap Session) (nodeId : NodeId) (pending : List Step) : Prop :=
  ∃ session, sessions nodeId = some session ∧ session.started = true ∧ session.viaQueue = true ∧
    session.pending = pending

/-- A report advances its node's interview, and the sessions that are over are erased. -/
theorem handle_report (sessions : NodeMap Session) (nodeId : NodeId) (step : Step) :
    handle sessions (.report nodeId step) =
      ((advance sessions nodeId step).2.foldl erase (advance sessions nodeId step).1,
        (advance sessions nodeId step).2) := rfl

/-- The report that is awaited moves the session on. -/
theorem advance_of_awaited (hsession : sessions nodeId = some session)
    (hstarted : session.started = true) (h : session.pending.head? = some step) :
    advance sessions nodeId step =
      (Function.update sessions nodeId (some { session with index := session.index + 1 }),
        match session.pending.tail.head? with
        | none => [.eraseSession nodeId]
        | some next => if session.viaQueue then [] else [.get nodeId next]) := by
  have hawaited : session.steps[session.index]? = some step := List.head?_drop.symm.trans h
  have hnext : session.steps[session.index + 1]? = session.pending.tail.head? := by
    rw [Session.pending, List.tail_drop, List.head?_drop]
  unfold advance
  rw [hsession]
  dsimp only
  rw [if_neg (by simp [hstarted, hawaited]), hnext]
  cases session.pending.tail.head? with
  | none => rfl
  | some next => rfl

/-- The last report ends the interview. -/
theorem handle_report_last (h : Waits sessions nodeId [step]) :
    (handle sessions (.report nodeId step)).1 nodeId = none ∧
      (handle sessions (.report nodeId step)).2 = [.eraseSession nodeId] := by
  obtain ⟨session, hsession, hstarted, -, hpending⟩ := h
  rw [handle_report, advance_of_awaited hsession hstarted (by rw [hpending]; rfl), hpending]
  exact ⟨Function.update_self .., rfl⟩

/-- Any other report that is awaited brings the next step. -/
theorem handle_report_next {next : Step} {pending : List Step}
    (h : Waits sessions nodeId (step :: next :: pending)) :
    Waits (handle sessions (.report nodeId step)).1 nodeId (next :: pending) ∧
      (handle sessions (.report nodeId step)).2 = [] := by
  obtain ⟨session, hsession, hstarted, hqueue, hpending⟩ := h
  rw [handle_report, advance_of_awaited hsession hstarted (by rw [hpending]; rfl), hpending]
  dsimp only [List.tail_cons, List.head?_cons]
  rw [if_pos hqueue]
  refine ⟨⟨_, Function.update_self .., hstarted, hqueue, ?_⟩, rfl⟩
  calc session.steps.drop (session.index + 1)
      = session.pending.tail := List.tail_drop.symm
    _ = next :: pending := by rw [hpending]; rfl

/-- A report that is not awaited is dropped. -/
theorem handle_report_of_ne {awaited : Step} {pending : List Step}
    (h : Waits sessions nodeId (awaited :: pending)) (hne : step ≠ awaited) :
    handle sessions (.report nodeId step) = (sessions, []) := by
  obtain ⟨session, hsession, -, -, hpending⟩ := h
  have hawaited : session.steps[session.index]? = some awaited :=
    List.head?_drop.symm.trans (congrArg List.head? hpending)
  have hdropped : advance sessions nodeId step = (sessions, []) := by
    unfold advance
    rw [hsession]
    exact if_pos (Or.inr (by simp [hawaited, hne.symm]))
  rw [handle_report, hdropped]
  rfl

/-- Without a session there is nothing to report to. -/
theorem handle_report_of_none (h : sessions nodeId = none) (step : Step) :
    handle sessions (.report nodeId step) = (sessions, []) := by
  have hdropped : advance sessions nodeId step = (sessions, []) := by
    unfold advance
    rw [h]
  rw [handle_report, hdropped]
  rfl

/-- What is erased for other nodes leaves the node's session. -/
theorem foldl_erase (outputs : List Output) (sessions : NodeMap Session)
    (h : .eraseSession nodeId ∉ outputs) : outputs.foldl erase sessions nodeId = sessions nodeId := by
  induction outputs generalizing sessions with
  | nil => rfl
  | cons out outputs ih =>
    have hrest := ih (erase sessions out) fun hmem => h (List.mem_cons_of_mem _ hmem)
    refine hrest.trans ?_
    cases out with
    | get other step => rfl
    | enqueue other payload => rfl
    | eraseSession other =>
      have hne : nodeId ≠ other := fun heq => h (heq ▸ List.mem_cons_self)
      exact Function.update_of_ne hne ..

/-- The report of another node leaves the node's session. -/
theorem handle_report_other (h : other ≠ nodeId) (sessions : NodeMap Session) (step : Step) :
    (handle sessions (.report other step)).1 nodeId = sessions nodeId ∧
      .eraseSession nodeId ∉ (handle sessions (.report other step)).2 := by
  have habout := about_advance sessions other step
  have hnone : .eraseSession nodeId ∉ (advance sessions other step).2 := fun hmem =>
    h (habout.outputs _ hmem).symm
  exact ⟨(foldl_erase _ _ hnone).trans (habout.frame nodeId h.symm), hnone⟩

/-! ## Runs of reports -/

/-- A run handles its first event and then the rest, and puts out what each of them does. -/
theorem run_cons (sessions : NodeMap Session) (event : Event) (events : List Event) :
    run sessions (event :: events) = ((run (handle sessions event).1 events).1,
      (handle sessions event).2 ++ (run (handle sessions event).1 events).2) := rfl

/-- Without a session nothing is completed. -/
theorem run_reports_of_none (h : sessions nodeId = none) (reports : List (NodeId × Step)) :
    (run sessions (asEvents reports)).2.count (.eraseSession nodeId) = 0 ∧
      (run sessions (asEvents reports)).1 nodeId = none := by
  induction reports generalizing sessions with
  | nil => exact ⟨rfl, h⟩
  | cons report reports ih =>
    obtain ⟨other, step⟩ := report
    rw [asEvents, List.map_cons, run_cons]
    by_cases hnode : other = nodeId
    · subst hnode
      rw [handle_report_of_none h step]
      exact ih h
    · obtain ⟨hkept, hnone⟩ := handle_report_other hnode sessions step
      obtain ⟨hcount, hend⟩ := ih (hkept.trans h)
      refine ⟨?_, hend⟩
      rw [List.count_append, List.count_eq_zero_of_not_mem hnone, Nat.zero_add]
      exact hcount

/-- A session that waits ends exactly if what it waits for is a sublist of the reports. -/
theorem run_reports {awaited : Step} {pending : List Step}
    (h : Waits sessions nodeId (awaited :: pending)) (reports : List (NodeId × Step)) :
    CompletesOnce sessions nodeId reports ↔
      (awaited :: pending).Sublist (stepsOf nodeId reports) := by
  -- Every report moves what is awaited on, drops out, or is another node's; the rest of the reports
  -- meets the sessions that it leaves.
  induction reports generalizing sessions awaited pending with
  | nil =>
    obtain ⟨session, hsession, -⟩ := h
    refine iff_of_false (fun hdone => ?_) (by simp [stepsOf])
    exact absurd (hsession.symm.trans hdone.2) (by simp)
  | cons report reports ih =>
    obtain ⟨other, step⟩ := report
    have hrest : CompletesOnce sessions nodeId ((other, step) :: reports) ↔
        ((handle sessions (.report other step)).2 ++
            (run (handle sessions (.report other step)).1 (asEvents reports)).2).count
              (.eraseSession nodeId) = 1 ∧
          (run (handle sessions (.report other step)).1 (asEvents reports)).1 nodeId = none :=
      Iff.rfl
    rw [hrest]
    by_cases hnode : other = nodeId
    · subst hnode
      have hsteps : stepsOf other ((other, step) :: reports) = step :: stepsOf other reports :=
        List.filterMap_cons_some (if_pos rfl)
      rw [hsteps]
      by_cases hstep : step = awaited
      · subst hstep
        cases pending with
        | nil =>
          -- The interview is complete, and what else comes in completes nothing.
          obtain ⟨hnone, hout⟩ := handle_report_last h
          obtain ⟨hcount, hend⟩ := run_reports_of_none hnone reports
          refine iff_of_true ⟨?_, hend⟩ (by simp)
          rw [hout, List.singleton_append, List.count_cons_self]
          exact congrArg Nat.succ hcount
        | cons next pending =>
          obtain ⟨hwaits, hout⟩ := handle_report_next h
          rw [hout, List.cons_sublist_cons]
          exact ih hwaits
      · -- A dropped report is one that the sublist passes over.
        rw [handle_report_of_ne h hstep, List.cons_sublist_cons']
        refine (ih h).trans ⟨Or.inl, fun hsub => ?_⟩
        exact hsub.resolve_right fun hsame => hstep hsame.1.symm
    · have hsteps : stepsOf nodeId ((other, step) :: reports) = stepsOf nodeId reports :=
        List.filterMap_cons_none (if_neg hnode)
      obtain ⟨hkept, hnone⟩ := handle_report_other hnode sessions step
      have hwaits : Waits (handle sessions (.report other step)).1 nodeId (awaited :: pending) := by
        obtain ⟨session, hsession, hrest⟩ := h
        exact ⟨session, hkept.trans hsession, hrest⟩
      rw [hsteps, ← ih hwaits, List.count_append, List.count_eq_zero_of_not_mem hnone, Nat.zero_add]
      rfl

/-! ## Where an interview starts -/

/-- The sessions ask for the same and in the same way. -/
def Session.SameAs (session other : Session) : Prop :=
  session.steps = other.steps ∧ session.viaQueue = other.viaQueue

/-- Every session is that of the node's last NodeIncluded, whatever has become of it. -/
def Recorded (events : List Event) (sessions : NodeMap Session) : Prop :=
  ∀ nodeId session, sessions nodeId = some session →
    ∃ commandClasses, nif nodeId events = some commandClasses ∧
      session.SameAs (sessionFor commandClasses)

/-- Erasing the sessions that are over leaves a node's session or takes it away. -/
theorem foldl_erase_cases (outputs : List Output) (sessions : NodeMap Session) (nodeId : NodeId) :
    outputs.foldl erase sessions nodeId = none ∨
      outputs.foldl erase sessions nodeId = sessions nodeId := by
  by_cases h : .eraseSession nodeId ∈ outputs
  · refine Or.inl ?_
    induction outputs generalizing sessions with
    | nil => cases h
    | cons out outputs ih =>
      by_cases hrest : .eraseSession nodeId ∈ outputs
      · exact ih _ hrest
      · obtain rfl := (List.mem_cons.mp h).resolve_right hrest
        rw [List.foldl_cons, foldl_erase outputs _ hrest]
        exact Function.update_self ..
  · exact Or.inr (foldl_erase outputs sessions h)

/-- Beginning an interview marks the session as started at its first step. -/
theorem beginInterview_fst (nodeId : NodeId) (session : Session) :
    (beginInterview nodeId session).1 = { session with started := true, index := 0 } := by
  unfold beginInterview
  dsimp only
  split <;> rfl

/-- A handler that leaves all sessions but one, and this one of its kind, leaves each of its
kind. -/
theorem exists_sameAs {after : NodeMap Session} {found : Session}
    (hothers : nodeId ≠ other → after nodeId = sessions nodeId)
    (hnone : sessions other = none → after other = none)
    (hown : ∀ session, sessions other = some session → after other = some found →
      found.SameAs session)
    (h : after nodeId = some found) :
    ∃ session, sessions nodeId = some session ∧ found.SameAs session := by
  by_cases hnode : nodeId = other
  · subst hnode
    cases hsession : sessions nodeId with
    | none => exact absurd ((hnone hsession).symm.trans h) (by simp)
    | some session => exact ⟨session, rfl, hown session hsession h⟩
  · exact ⟨found, (hothers hnode).symm.trans h, rfl, rfl⟩

/-- A session after a report is one that was there, which asks for the same in the same way. -/
theorem advance_session {found : Session}
    (h : (advance sessions other step).1 nodeId = some found) :
    ∃ session, sessions nodeId = some session ∧ found.SameAs session := by
  refine exists_sameAs ((about_advance sessions other step).frame nodeId) ?_ ?_ h
  · intro hnone
    unfold advance
    rw [hnone]
    exact hnone
  · intro session hsession hfound
    unfold advance at hfound
    rw [hsession] at hfound
    dsimp only at hfound
    split at hfound
    · obtain rfl := Option.some.inj (hsession.symm.trans hfound)
      exact ⟨rfl, rfl⟩
    -- Whether a step follows or not, the session is counted on.
    · split at hfound
      all_goals
        dsimp only at hfound
        rw [Function.update_self] at hfound
        obtain rfl := Option.some.inj hfound
        exact ⟨rfl, rfl⟩

/-- A session after a security status is one that was there, which asks for the same in the same
way. -/
theorem onNodeSecurityStatus_session {found : Session}
    (h : (onNodeSecurityStatus sessions other).1 nodeId = some found) :
    ∃ session, sessions nodeId = some session ∧ found.SameAs session := by
  refine exists_sameAs ((about_onNodeSecurityStatus sessions other).frame nodeId) ?_ ?_ h
  · intro hnone
    unfold onNodeSecurityStatus
    rw [hnone]
    exact hnone
  · intro session hsession hfound
    unfold onNodeSecurityStatus at hfound
    rw [hsession] at hfound
    dsimp only at hfound
    split at hfound
    · obtain rfl := Option.some.inj (hsession.symm.trans hfound)
      exact ⟨rfl, rfl⟩
    · rw [beginInterview_fst] at hfound
      dsimp only at hfound
      rw [Function.update_self] at hfound
      obtain rfl := Option.some.inj hfound
      exact ⟨rfl, rfl⟩

/-- An inclusion opens a session that asks for what the command classes of the node call for. -/
theorem onNodeIncluded_session (sessions : NodeMap Session) (nodeId : NodeId)
    (commandClasses : Bytes) : ∃ session,
      (onNodeIncluded sessions nodeId commandClasses).1 nodeId = some session ∧
        session.SameAs (sessionFor commandClasses) := by
  unfold onNodeIncluded
  dsimp only
  split
  · exact ⟨_, Function.update_self .., rfl, rfl⟩
  · rw [beginInterview_fst]
    exact ⟨_, Function.update_self .., rfl, rfl⟩

/-- Each event keeps the sessions those of the last NodeIncluded. -/
theorem Recorded.handle {events : List Event} (h : Recorded events sessions) (event : Event) :
    Recorded (events ++ [event]) (handle sessions event).1 := by
  intro nodeId found hfound
  -- A session that is there has not been erased.
  have hdispatched : (dispatch sessions event).1 nodeId = some found := by
    rcases foldl_erase_cases (dispatch sessions event).2 (dispatch sessions event).1 nodeId with
      hnone | hsame
    · exact absurd (hnone.symm.trans hfound) (by simp)
    · exact hsame.symm.trans hfound
  -- An event that is no NodeIncluded of the node leaves its last one.
  have hold (hnif : nif nodeId (events ++ [event]) = nif nodeId events)
      (hkept : ∃ session, sessions nodeId = some session ∧ found.SameAs session) :
      ∃ commandClasses, nif nodeId (events ++ [event]) = some commandClasses ∧
        found.SameAs (sessionFor commandClasses) := by
    obtain ⟨session, hsession, hsteps, hqueue⟩ := hkept
    obtain ⟨commandClasses, hlast, hsame⟩ := h nodeId session hsession
    exact ⟨commandClasses, hnif.trans hlast, hsteps.trans hsame.1, hqueue.trans hsame.2⟩
  have hconcat : nif nodeId (events ++ [event]) = included nodeId (nif nodeId events) event :=
    List.foldl_concat ..
  cases event with
  | nodeIncluded other commandClasses =>
    by_cases hnode : other = nodeId
    · subst hnode
      obtain ⟨session, hsession, hsame⟩ := onNodeIncluded_session sessions other commandClasses
      obtain rfl := Option.some.inj (hsession.symm.trans hdispatched)
      exact ⟨commandClasses, hconcat.trans (if_pos rfl), hsame⟩
    · refine hold (hconcat.trans (if_neg hnode)) ⟨found, ?_, rfl, rfl⟩
      rw [← hdispatched]
      exact ((about_onNodeIncluded sessions other commandClasses).frame nodeId
        (Ne.symm hnode)).symm
  | nodeSecurityStatus other scheme =>
    refine hold hconcat ?_
    unfold dispatch at hdispatched
    dsimp only at hdispatched
    split at hdispatched
    · exact ⟨found, hdispatched, rfl, rfl⟩
    · exact onNodeSecurityStatus_session hdispatched
  | report other step => exact hold hconcat (advance_session hdispatched)

/-- In every run, each session is that of its node's last NodeIncluded. -/
theorem recorded_run (events : List Event) : Recorded events (run (fun _ => none) events).1 := by
  have hrun : ∀ (sessions : NodeMap Session) (before events : List Event),
      Recorded before sessions → Recorded (before ++ events) (run sessions events).1 := by
    intro sessions before events
    induction events generalizing sessions before with
    | nil =>
      intro h
      rw [List.append_nil]
      exact h
    | cons event events ih =>
      intro h
      rw [List.append_cons]
      exact ih _ _ (h.handle event)
  exact hrun _ [] events fun nodeId session hsession => by cases hsession

/-- Beginning an interview queues frames for its own node only, and only if the session goes by the
queue. -/
theorem mem_beginInterview_enqueue {payload : Bytes}
    (h : .enqueue nodeId payload ∈ (beginInterview other session).2) :
    nodeId = other ∧ session.viaQueue = true := by
  refine ⟨nodeId_of_mem_beginInterview h, ?_⟩
  unfold beginInterview at h
  dsimp only at h
  split at h
  · next hqueue => exact hqueue
  · simp at h

/-- Beginning an interview ends none. -/
theorem eraseSession_notMem_beginInterview :
    .eraseSession nodeId ∉ (beginInterview other session).2 := by
  unfold beginInterview
  dsimp only
  split <;> simp

/-- A handler that queues a Get has begun an interview. -/
theorem dispatch_of_enqueue {event : Event} {payload : Bytes}
    (h : .enqueue nodeId payload ∈ (dispatch sessions event).2) :
    ∃ session : Session, session.viaQueue = true ∧ dispatch sessions event =
      (Function.update sessions nodeId (some (beginInterview nodeId session).1),
        (beginInterview nodeId session).2) := by
  -- Only the beginning of an interview queues, and an event begins one at most.
  cases event with
  | nodeIncluded other commandClasses =>
    change .enqueue nodeId payload ∈ (onNodeIncluded sessions other commandClasses).2 at h
    unfold dispatch
    dsimp only
    unfold onNodeIncluded at h ⊢
    dsimp only at h ⊢
    split at h
    · cases h
    · next hsecure =>
      obtain ⟨rfl, hqueue⟩ := mem_beginInterview_enqueue h
      exact ⟨_, hqueue, if_neg hsecure⟩
  -- A node that has become secure is begun with if its interview has been put off.
  | nodeSecurityStatus other scheme =>
    unfold dispatch at h ⊢
    dsimp only at h ⊢
    split at h
    · cases h
    · next hscheme =>
      rw [if_neg hscheme]
      unfold onNodeSecurityStatus at h ⊢
      cases hsession : sessions other with
      | none =>
        rw [hsession] at h
        cases h
      | some session =>
        rw [hsession] at h
        dsimp only at h ⊢
        split at h
        · cases h
        · next hstarted =>
          obtain ⟨rfl, hqueue⟩ := mem_beginInterview_enqueue h
          exact ⟨session, hqueue, if_neg hstarted⟩
  -- A report leads to the next Get or to the end, neither of which is queued.
  | report other step =>
    change .enqueue nodeId payload ∈ (advance sessions other step).2 at h
    unfold advance at h
    cases hsession : sessions other with
    | none =>
      rw [hsession] at h
      cases h
    | some session =>
      rw [hsession] at h
      dsimp only at h
      split at h
      · cases h
      · split at h
        · cases List.mem_singleton.mp h
        · split at h
          · cases h
          · cases List.mem_singleton.mp h

/-- When its Gets have been queued, the session of a node waits for a report on each of its steps.
-/
theorem waits_of_enqueue {before : List Event} {event : Event} {payload : Bytes}
    (hrecorded : Recorded before sessions)
    (h : .enqueue nodeId payload ∈ (handle sessions event).2) :
    ∃ commandClasses, nif nodeId (before ++ [event]) = some commandClasses ∧
      wakeUp ∈ commandClasses ∧
        Waits (handle sessions event).1 nodeId (sessionFor commandClasses).steps := by
  obtain ⟨session, hqueue, hbegun⟩ := dispatch_of_enqueue h
  have hsession : (handle sessions event).1 nodeId =
      some { session with started := true, index := 0 } := by
    unfold handle
    rw [hbegun, ← beginInterview_fst nodeId session]
    exact (foldl_erase _ _ eraseSession_notMem_beginInterview).trans (Function.update_self ..)
  obtain ⟨commandClasses, hlast, hsteps, hsame⟩ := hrecorded.handle event nodeId _ hsession
  refine ⟨commandClasses, hlast, ?_, _, hsession, rfl, hqueue, hsteps⟩
  exact of_decide_eq_true (hsame.symm.trans hqueue)

/-- After the Gets of a sleeping node have been queued, the interview completes, exactly once and
with no session left, for those sequences of reports in which the node's steps stand in the order of
the session, whatever stands between them, and for no others. -/
theorem completesOnce_iff (before : List Event) (event : Event) (nodeId : NodeId) (payload : Bytes)
    (h : .enqueue nodeId payload ∈ (handle (run (fun _ => none) before).1 event).2) :
    ∃ commandClasses, nif nodeId (before ++ [event]) = some commandClasses ∧
      wakeUp ∈ commandClasses ∧ ∀ reports,
        CompletesOnce (handle (run (fun _ => none) before).1 event).1 nodeId reports ↔
          (sessionFor commandClasses).steps.Sublist (stepsOf nodeId reports) := by
  obtain ⟨commandClasses, hlast, hsleeps, hwaits⟩ := waits_of_enqueue (recorded_run before) h
  exact ⟨commandClasses, hlast, hsleeps, fun reports => run_reports hwaits reports⟩

/-- A sleeping node whose interview begins as it joins completes exactly when it answers the steps
in order. -/
theorem completesOnce_iff_joined :
    ∃ commandClasses, nif 30 ([] ++ [.nodeIncluded 30 [0x25, 0x84]]) = some commandClasses ∧
      wakeUp ∈ commandClasses ∧ ∀ reports,
        CompletesOnce (handle (run (fun _ => none) []).1 (.nodeIncluded 30 [0x25, 0x84])).1 30
            reports ↔
          (sessionFor commandClasses).steps.Sublist (stepsOf 30 reports) :=
  completesOnce_iff [] (.nodeIncluded 30 [0x25, 0x84]) 30 [0x72, 0x04] (by decide)

/-- The node answers both Gets, the second one first. -/
theorem not_completesOnce_overtaken :
    ¬ ∀ reports, (∀ step ∈ (sessionFor [0x25, 0x84]).steps, (30, step) ∈ reports) →
      CompletesOnce (handle (fun _ => none) (.nodeIncluded 30 [0x25, 0x84])).1 30 reports := by
  intro h
  have hdone := h [(30, .version), (30, .manufacturerSpecific)] (by decide)
  exact absurd hdone.1 (by decide)

end Zwaved.Interview
