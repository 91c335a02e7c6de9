import Zwaved.Protocol.Sessions

/-!
# Announcing an inclusion

NodeIncluded starts everything that is done with a new node: the interview, the lifeline and the key
exchange. The thread publishes it at a terminal callback of an inclusion, for the node that an
earlier callback reported, which it keeps in `pendingInclusion` without the session.

Neither the status nor the session is looked at. A callback that says that the inclusion has failed,
or that the controller is not the primary one, announces the node all the same; so does one of
another session, and a session that is started anew finds the node of the one before.
`announcesJoined_iff` has the condition under which the announcements are right.
-/

namespace Zwaved.Protocol.ProtocolThread

open Reactive Serial HostApi

/-! ## What was reported -/

/-- The step hands in the callback. -/
def Hears (callback : NodeStatusCallback) (t : Taken ProtocolThread Event) : Prop :=
  t.before.connected = true ∧
    ∃ frame, t.input = .frame frame ∧ decodeNodeCallback frame = some callback

/-- The step hands in a callback that says what the new node is. -/
def ReportStep (t : Taken ProtocolThread Event) : Prop :=
  ∃ callback, Hears callback t ∧ Reports callback

/-- The session that was under way is over for another one: a session is started, or a
connection. -/
def Supersedes (t : Taken ProtocolThread Event) : Prop :=
  StartsSession t ∨ (t.input = .connect ∧ t.before.connected = false)

/-- `report` is the last callback of the history that says what the new node is, and `rest` what
came since. -/
def LastReport (history : List (Taken ProtocolThread Event)) (report : NodeStatusCallback)
    (rest : List (Taken ProtocolThread Event)) : Prop :=
  Reports report ∧ ∃ t, Since ReportStep history t rest ∧ Hears report t

/-- The last report is of the session, which nothing has superseded. -/
def FromSession (history : List (Taken ProtocolThread Event)) (sessionId : UInt8)
    (report : NodeStatusCallback) : Prop :=
  ∃ rest, LastReport history report rest ∧ report.sessionId = sessionId ∧
    ∀ t ∈ rest, ¬ Supersedes t

/-- Every node that is announced was reported in the session that the callback says is completed. -/
def AnnouncesJoined (events : List Event) : Prop :=
  ∀ pre event, pre ++ [event] <+: events → ∀ nodeId commandClasses,
    ThreadOutput.nodeIncluded nodeId commandClasses ∈ (step (exec step {} pre) event).2 →
      ∃ callback report, Hears callback ⟨exec step {} pre, event⟩ ∧
        callback.commandId = cmdAddNodeToNetwork ∧ callback.status = statusCompleted ∧
        FromSession (trace step {} (pre ++ [event])) callback.sessionId report ∧
        report.nodeId.toUInt8 = nodeId ∧ report.info.commandClasses = commandClasses

/-- A terminal callback of an inclusion that finds a node pending, or brings one, is the completion
of the session that reported the node. -/
def Joins (history : List (Taken ProtocolThread Event)) (t : Taken ProtocolThread Event) : Prop :=
  ∀ callback, Hears callback t → callback.commandId = cmdAddNodeToNetwork →
    isTerminalStatus callback.commandId callback.status = true →
    t.before.pendingInclusion.isSome ∨ Reports callback →
      callback.status = statusCompleted ∧
        ∃ report, FromSession (history ++ [t]) callback.sessionId report

/-! ## What is pending -/

variable {history : List (Taken ProtocolThread Event)} {s : ProtocolThread}

/-- A step hears one callback at most. -/
theorem Hears.unique {callback callback' : NodeStatusCallback} {t : Taken ProtocolThread Event}
    (h : Hears callback t) (h' : Hears callback' t) : callback = callback' := by
  obtain ⟨-, frame, hinput, hdecode⟩ := h
  obtain ⟨-, frame', hinput', hdecode'⟩ := h'
  obtain rfl := Event.frame.inj (hinput.symm.trans hinput')
  exact Option.some.inj (hdecode.symm.trans hdecode')

/-- There is one last report at most. -/
theorem LastReport.unique {report report' : NodeStatusCallback}
    {rest rest' : List (Taken ProtocolThread Event)} (h : LastReport history report rest)
    (h' : LastReport history report' rest') : report = report' := by
  obtain ⟨-, t, hsince, hhears⟩ := h
  obtain ⟨-, t', hsince', hhears'⟩ := h'
  obtain ⟨rfl, -⟩ := hsince.unique hsince'
  exact hhears.unique hhears'

/-- What is pending is what was reported last. -/
def Stashed (history : List (Taken ProtocolThread Event)) (s : ProtocolThread) : Prop :=
  ∀ nodeId commandClasses, s.pendingInclusion = some (nodeId, commandClasses) →
    ∃ report rest, LastReport history report rest ∧ report.nodeId.toUInt8 = nodeId ∧
      report.info.commandClasses = commandClasses

/-- A callback that reports a node replaces the pending inclusion, and any other leaves it. -/
theorem pendingInclusion_register (s : ProtocolThread) (callback : NodeStatusCallback) :
    (s.register callback).1.pendingInclusion =
      if Reports callback then some (callback.nodeId.toUInt8, callback.info.commandClasses)
      else s.pendingInclusion := by
  unfold register
  split
  · rfl
  split <;> rfl

/-- What is pending once the callback is registered was reported last, this callback included. -/
theorem Stashed.register (h : Stashed history s) {event : Event} {callback : NodeStatusCallback}
    (hhears : Hears callback ⟨s, event⟩) :
    Stashed (history ++ [⟨s, event⟩]) (s.register callback).1 := by
  intro nodeId commandClasses hpending
  rw [pendingInclusion_register] at hpending
  split at hpending
  · next hreports =>
    obtain ⟨rfl, rfl⟩ := Prod.mk.inj (Option.some.inj hpending)
    exact ⟨callback, [], ⟨hreports, _, Since.fresh history ⟨callback, hhears, hreports⟩, hhears⟩,
      rfl, rfl⟩
  · next hnot =>
    obtain ⟨report, rest, ⟨hreports, t, hsince, hfrom⟩, hnode, hclasses⟩ := h _ _ hpending
    have hquiet : ¬ ReportStep ⟨s, event⟩ := by
      rintro ⟨callback', hhears', hreports'⟩
      obtain rfl := hhears.unique hhears'
      exact hnot hreports'
    exact ⟨report, _, ⟨hreports, t, hsince.concat hquiet, hfrom⟩, hnode, hclasses⟩

/-- A step that reports nothing and leaves what is pending. -/
theorem Stashed.stay (h : Stashed history s) {s' : ProtocolThread} {event : Event}
    (hpending : s'.pendingInclusion = s.pendingInclusion) (hquiet : ¬ ReportStep ⟨s, event⟩) :
    Stashed (history ++ [⟨s, event⟩]) s' := by
  intro nodeId commandClasses hsome
  obtain ⟨report, rest, ⟨hreports, t, hsince, hfrom⟩, hnode, hclasses⟩ := h _ _ (hpending ▸ hsome)
  exact ⟨report, _, ⟨hreports, t, hsince.concat hquiet, hfrom⟩, hnode, hclasses⟩

/-- A node is announced exactly at the terminal status of an inclusion, as the pending one says. -/
theorem announced_finish (s : ProtocolThread) (callback : NodeStatusCallback) (nodeId : NodeId)
    (commandClasses : Bytes) :
    ThreadOutput.nodeIncluded nodeId commandClasses ∈ (s.finish callback).2 ↔
      callback.commandId = cmdAddNodeToNetwork ∧
        isTerminalStatus callback.commandId callback.status = true ∧
        s.pendingInclusion = some (nodeId, commandClasses) := by
  unfold finish
  by_cases hterminal : isTerminalStatus callback.commandId callback.status = true
  · rw [if_pos hterminal]
    cases hpending : s.pendingInclusion with
    | none => simp
    | some pending =>
      obtain ⟨pendingId, pendingClasses⟩ := pending
      by_cases hadd : callback.commandId = cmdAddNodeToNetwork
      · rw [hadd] at hterminal
        simp only [hadd, hterminal, if_true, List.singleton_append, List.mem_cons, reduceCtorEq,
          List.not_mem_nil, or_false, true_and, ThreadOutput.nodeIncluded.injEq, Option.some.injEq,
          Prod.mk.injEq, eq_comm]
      · simp [hadd]
  · rw [if_neg hterminal]
    simp [hterminal]

/-- What a step announces: the node that is pending once a terminal callback of an inclusion is
registered, and nothing else. -/
theorem announced_iff (s : ProtocolThread) (event : Event) (nodeId : NodeId) (commandClasses : Bytes) :
    ThreadOutput.nodeIncluded nodeId commandClasses ∈ (step s event).2 ↔
      ∃ callback, Hears callback ⟨s, event⟩ ∧ callback.commandId = cmdAddNodeToNetwork ∧
        isTerminalStatus callback.commandId callback.status = true ∧
        (s.register callback).1.pendingInclusion = some (nodeId, commandClasses) := by
  -- Only a callback announces anything.
  have hnobody : (∀ callback, ¬ Hears callback ⟨s, event⟩) →
      ThreadOutput.nodeIncluded nodeId commandClasses ∉ (step s event).2 →
      (ThreadOutput.nodeIncluded nodeId commandClasses ∈ (step s event).2 ↔
        ∃ callback, Hears callback ⟨s, event⟩ ∧ callback.commandId = cmdAddNodeToNetwork ∧
          isTerminalStatus callback.commandId callback.status = true ∧
          (s.register callback).1.pendingInclusion = some (nodeId, commandClasses)) :=
    fun hdeaf hsilent => iff_of_false hsilent fun h => h.elim fun callback h => hdeaf callback h.1
  have hdeaf : (∀ frame, event ≠ .frame frame) → ∀ callback, ¬ Hears callback ⟨s, event⟩ := by
    rintro hevent callback ⟨-, frame, heq, -⟩
    exact hevent frame heq
  cases event with
  | connect =>
    refine hnobody (hdeaf fun frame => by simp) ?_
    simp only [step]
    split <;> simp
  | disconnect =>
    refine hnobody (hdeaf fun frame => by simp) ?_
    simp only [step]
    split <;> simp
  | dispatch request =>
    refine hnobody (hdeaf fun frame => by simp) ?_
    simp only [step]
    split
    · rw [(dispatchRequest_spec s request).2.2.2.2]
      cases starts request <;> simp
    · simp
  | sent ok =>
    refine hnobody (hdeaf fun frame => by simp) ?_
    simp only [step]
    split
    · exact (aside_afterSend s _ ok).1.unannounced nodeId commandClasses
    · simp
    · simp
  | resume deadline =>
    refine hnobody (hdeaf fun frame => by simp) ?_
    simp only [step]
    split <;> simp
  | frame frame =>
    by_cases hconnected : s.connected = true
    swap
    · refine hnobody (fun callback h => hconnected h.1) ?_
      simp only [step, if_neg hconnected]
      simp
    have hstep : step s (.frame frame) = s.onFrame frame := by simp only [step, if_pos hconnected]
    cases hdecode : decodeNodeCallback frame with
    | none =>
      refine hnobody ?_ ?_
      · rintro callback ⟨-, frame', h, hsome⟩
        obtain rfl := Event.frame.inj h
        rw [hdecode] at hsome
        cases hsome
      · rw [hstep]
        exact (aside_onFrame s hdecode).1.unannounced nodeId commandClasses
    | some callback =>
      have hhears : Hears callback ⟨s, .frame frame⟩ := ⟨hconnected, frame, rfl, hdecode⟩
      have hsilent := (register_spec s callback).2.2.2.2 nodeId commandClasses
      have hfinish := announced_finish (s.register callback).1 callback nodeId commandClasses
      rw [hstep, onFrame_nodeCallback s hdecode]
      constructor
      · intro hmem
        refine ⟨callback, hhears, hfinish.mp ?_⟩
        rcases List.mem_cons.mp hmem with heq | hmem
        · cases heq
        · exact (List.mem_append.mp hmem).resolve_left hsilent
      · rintro ⟨callback', hhears', hall⟩
        obtain rfl := hhears.unique hhears'
        exact List.mem_cons_of_mem _ (List.mem_append_right _ (hfinish.mpr hall))

/-- One step keeps what is pending to what was reported last. -/
theorem Stashed.step (h : Stashed history s) (event : Event) :
    Stashed (history ++ [⟨s, event⟩]) (step s event).1 := by
  -- With nothing stashed there is nothing to account for.
  have hempty : ∀ {history} {s' : ProtocolThread}, s'.pendingInclusion = none →
      Stashed history s' := by
    intro history s' hnone nodeId commandClasses hsome
    rw [hnone] at hsome
    cases hsome
  -- Only a frame can be a report.
  have hdeaf : ∀ {event : Event}, (∀ frame, event ≠ .frame frame) → ¬ ReportStep ⟨s, event⟩ := by
    rintro event hother ⟨callback, ⟨-, frame, hinput, -⟩, -⟩
    exact hother frame hinput
  unfold ProtocolThread.step
  cases event with
  -- Of these events the opening of the port alone touches the stash, and empties it.
  | connect =>
    dsimp only
    split
    · exact h.stay rfl (hdeaf (by simp))
    · exact hempty rfl
  | disconnect =>
    dsimp only
    split
    · exact h.stay rfl (hdeaf (by simp))
    · exact h.stay rfl (hdeaf (by simp))
  | dispatch request =>
    dsimp only
    split
    · exact h.stay (dispatchRequest_spec s request).2.2.1 (hdeaf (by simp))
    · exact h.stay rfl (hdeaf (by simp))
  | sent ok =>
    dsimp only
    split
    · exact h.stay (aside_afterSend s _ ok).1.pendingInclusion (hdeaf (by simp))
    · exact h.stay rfl (hdeaf (by simp))
    · exact h.stay rfl (hdeaf (by simp))
  | resume deadline =>
    dsimp only
    split
    · exact h.stay rfl (hdeaf (by simp))
    · exact h.stay rfl (hdeaf (by simp))
  | frame frame =>
    -- A frame is heard only while the port is open.
    by_cases hconnected : s.connected = true
    swap
    · simp only [if_neg hconnected]
      exact h.stay rfl fun ⟨_, hhears, _⟩ => hconnected hhears.1
    simp only [if_pos hconnected]
    cases hdecode : decodeNodeCallback frame with
    -- A frame without a node's callback leaves the stash alone.
    | none =>
      refine h.stay (aside_onFrame s hdecode).1.pendingInclusion ?_
      rintro ⟨callback, ⟨-, frame', hinput, hsome⟩, -⟩
      obtain rfl := Event.frame.inj hinput
      rw [hdecode] at hsome
      cases hsome
    | some callback =>
      rw [onFrame_nodeCallback s hdecode]
      unfold onNodeCallback finish
      dsimp only
      -- The status that ends the session empties the stash; any other may fill it with the node
      -- that it reports.
      split
      · exact hempty rfl
      · exact h.register ⟨hconnected, frame, rfl, hdecode⟩

/-- In every run, what is pending is what was reported last. -/
theorem stashed_run (events : List Event) : Stashed (trace step {} events) (exec step {} events) :=
  trace_induction step {} (I := Stashed) (fun _ _ h => nomatch h) (fun _ _ event h => h.step event)
    events

/-- The announcements of a run are right exactly when every terminal callback of an inclusion that
finds a node pending is the completion of the session that reported it. -/
theorem announcesJoined_iff (events : List Event) :
    AnnouncesJoined events ↔ ∀ pre event, pre ++ [event] <+: events →
      Joins (trace step {} pre) ⟨exec step {} pre, event⟩ := by
  constructor
  · intro hjoined pre event hpre callback hhears hadd hterminal hpending
    -- Something is announced, and that is right.
    have hsome : (((exec step {} pre).register callback).1.pendingInclusion).isSome := by
      rw [pendingInclusion_register]
      split
      · rfl
      · next hnot => exact hpending.resolve_right hnot
    obtain ⟨⟨nodeId, commandClasses⟩, hpair⟩ := Option.isSome_iff_exists.mp hsome
    have hannounced : ThreadOutput.nodeIncluded nodeId commandClasses ∈
        (step (exec step {} pre) event).2 :=
      (announced_iff _ event nodeId commandClasses).mpr ⟨callback, hhears, hadd, hterminal, hpair⟩
    obtain ⟨callback', report, hhears', -, hcompleted, hfrom, -, -⟩ :=
      hjoined pre event hpre nodeId commandClasses hannounced
    obtain rfl := hhears.unique hhears'
    rw [trace_concat] at hfrom
    exact ⟨hcompleted, report, hfrom⟩
  · intro hjoins pre event hpre nodeId commandClasses hannounced
    obtain ⟨callback, hhears, hadd, hterminal, hpair⟩ := (announced_iff _ _ _ _).mp hannounced
    have hpending : (exec step {} pre).pendingInclusion.isSome ∨ Reports callback := by
      rw [pendingInclusion_register] at hpair
      split at hpair
      · next hreports => exact Or.inr hreports
      · exact Or.inl (by rw [hpair]; rfl)
    obtain ⟨hcompleted, report, hfrom⟩ :=
      hjoins pre event hpre callback hhears hadd hterminal hpending
    obtain ⟨stashed, rest, hlast, hnode, hclasses⟩ :=
      (stashed_run pre).register hhears nodeId commandClasses hpair
    obtain ⟨rest', hlast', hsession, hunbroken⟩ := hfrom
    obtain rfl := hlast.unique hlast'
    rw [trace_concat]
    exact ⟨callback, stashed, hhears, hadd, hcompleted, ⟨rest', hlast', hsession, hunbroken⟩, hnode,
      hclasses⟩

/-- The callback of an inclusion in session 1 that the status is about, for node 5, a lock. -/
def lockCallback (status : UInt8) : ZwaveDataFrame :=
  { frameType := .request, commandId := cmdAddNodeToNetwork,
    payload := [1, status, 5, 5, 0x04, 0x40, 0x03, 0x62, 0x9F], valid := true }

/-- Node 5 is found, and then its inclusion fails. -/
def failedInclusion : List Event :=
  [.connect, .dispatch includeAny, .sent true, .frame (lockCallback 0x03),
    .frame (lockCallback statusFailed)]

/-- A failed inclusion is announced all the same: its node never joined. -/
theorem not_announcesJoined_failedInclusion :
    (step (exec step {} (failedInclusion.take 4)) (.frame (lockCallback statusFailed))).2.contains
        (.nodeIncluded 5 [0x62, 0x9F]) ∧
      ¬ AnnouncesJoined failedInclusion := by
  have hannounced : (step (exec step {} (failedInclusion.take 4))
      (.frame (lockCallback statusFailed))).2.contains (.nodeIncluded 5 [0x62, 0x9F]) := by decide
  refine ⟨hannounced, fun hjoined => ?_⟩
  obtain ⟨callback, -, ⟨-, frame, hinput, hdecode⟩, -, hcompleted, -⟩ :=
    hjoined (failedInclusion.take 4) (.frame (lockCallback statusFailed)) List.prefix_rfl 5
      [0x62, 0x9F] (List.contains_iff_mem.mp hannounced)
  obtain rfl := Event.frame.inj hinput
  have hfailed : (decodeNodeCallback (lockCallback statusFailed)).map NodeStatusCallback.status =
      some statusFailed := by decide
  rw [hdecode, Option.map_some, hcompleted] at hfailed
  exact absurd hfailed (by decide)

end Zwaved.Protocol.ProtocolThread
