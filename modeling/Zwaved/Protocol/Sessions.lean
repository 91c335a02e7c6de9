import Zwaved.Protocol.Thread

/-!
# The retained session status

SessionStatus is a retained topic: whoever asks gets the last one that was published, "the mirror of
the protocol thread's session tracker". The thread publishes it at its start, when it starts a
session and when a terminal callback ends one.

Two things go past it. A start request that the dongle does not take leaves the session in the
tracker and the status active, where the removal of a failed node, which keeps its request in a
slot, closes the slot when the send fails. And the tracker goes with the connection, but the status
stays active when the dongle is unplugged in the middle of a session. `tellsTruth_iff` says that
nothing else does: the status tells the truth all through a run exactly when no send of a start
request fails with its session still open, and no connection ends with a session open.
-/

namespace Zwaved.Protocol

open Reactive Serial HostApi

/-! ## The status -/

/-- The status that an output publishes. -/
def ThreadOutput.session : ThreadOutput → Option SessionStatus
  | .sessionStatus status => some status
  | _ => none

namespace ProtocolThread

/-- The status that is retained after some more outputs. -/
def retain (last : SessionStatus) (outputs : List ThreadOutput) : SessionStatus :=
  outputs.foldl (fun last output => output.session.getD last) last

/-- The status that is retained in a run of the thread, which publishes an inactive one first. -/
def retained (outputs : List ThreadOutput) : SessionStatus := retain {} outputs

/-- The status that is retained after two lists of outputs is what the second makes of the
first's. -/
theorem retain_append (last : SessionStatus) (first more : List ThreadOutput) :
    retain last (first ++ more) = retain (retain last first) more := List.foldl_append

/-- Outputs that publish no status leave the retained one. -/
theorem retain_quiet (last : SessionStatus) {outputs : List ThreadOutput}
    (h : ∀ status, ThreadOutput.sessionStatus status ∉ outputs) : retain last outputs = last := by
  induction outputs generalizing last with
  | nil => rfl
  | cons output outputs ih =>
    have hhead : output.session = none := by
      cases output with
      | sessionStatus status => exact absurd List.mem_cons_self (h status)
      | _ => rfl
    show retain (output.session.getD last) outputs = last
    rw [hhead]
    exact ih last fun status hmem => h status (List.mem_cons_of_mem _ hmem)

/-- The status mirrors the tracker. -/
def Mirrors : SessionStatus → Option ActiveSession → Prop
  | status, some session => status = .ofSession session
  | status, none => status.active = false

/-! ## The truth -/

/-- The step dispatches a request that starts a session. -/
def StartsSession (t : Taken ProtocolThread Event) : Prop :=
  ∃ request, t.input = .dispatch request ∧ (starts request).isSome ∧
    t.before.connected = true ∧ t.before.phase = .idle

/-- The dongle takes the request in this step. -/
def Accepts (request : Request) (t : Taken ProtocolThread Event) : Prop :=
  t.before.phase = .sending request ∧ t.input = .sent true

/-- `request` is the last request of the history that starts a session, `session` the one that it
starts, and `rest` what came since. -/
def LastStart (history : List (Taken ProtocolThread Event)) (request : Request)
    (session : ActiveSession) (rest : List (Taken ProtocolThread Event)) : Prop :=
  starts request = some session ∧
    ∃ start, Since StartsSession history start rest ∧ start.input = .dispatch request

/-- The session was started by the last start request, and the dongle accepted that. -/
def Accepted (history : List (Taken ProtocolThread Event)) (session : ActiveSession) : Prop :=
  ∃ request rest, LastStart history request session rest ∧ ∃ t ∈ rest, Accepts request t

/-- What the retained status says is true: it is active exactly when an accepted session is open in
the tracker, and names that one. -/
structure Truthful (history : List (Taken ProtocolThread Event)) (s : ProtocolThread)
    (status : SessionStatus) : Prop where
  /-- Active exactly when an accepted session is open. -/
  active : status.active = true ↔ ∃ session, s.tracker = some session ∧ Accepted history session
  /-- With the command and the session id of that one. -/
  names : ∀ session, s.tracker = some session → Accepted history session →
    status.commandId = session.commandId ∧ status.sessionId = session.sessionId

/-- The status is truthful all through a run, whenever nothing is being dispatched. -/
def TellsTruth (events : List Event) : Prop :=
  ∀ pre, pre <+: events → (exec step {} pre).phase = .idle →
    Truthful (trace step {} pre) (exec step {} pre) (retained (emitted step {} pre))

/-- A start request that is not accepted has lost its session before its send fails, and a
connection ends with no session open. -/
def Closes (s : ProtocolThread) : Event → Prop
  | .sent ok => ok = false → ∀ request, s.phase = .sending request → (starts request).isSome →
      s.tracker = none
  | .disconnect => s.connected = true → s.phase = .idle → s.tracker = none
  | _ => True

/-- The request that starts a session is being sent. -/
def StartPending (s : ProtocolThread) : Prop :=
  ∃ request, s.phase = .sending request ∧ (starts request).isSome

/-! ## The invariant -/

/-- The status mirrors the tracker; and a session in the tracker comes from the last start request,
which is either being sent or was accepted. -/
structure Kept (history : List (Taken ProtocolThread Event)) (s : ProtocolThread)
    (status : SessionStatus) : Prop where
  /-- The status mirrors the tracker. -/
  mirrors : Mirrors status s.tracker
  /-- The session was started, and its request is being sent or was accepted. -/
  started : ∀ session, s.tracker = some session → ∃ request rest,
    LastStart history request session rest ∧
      ((s.phase = .sending request ∧ ∀ t ∈ rest, ¬ Accepts request t) ∨
        (¬ StartPending s ∧ ∃ t ∈ rest, Accepts request t))
  /-- There is no tracker without a connection. -/
  connected : s.connected = false → s.tracker = none ∧ s.phase = .idle

variable {history : List (Taken ProtocolThread Event)} {s : ProtocolThread} {status : SessionStatus}

/-- The last start request stays the last one through a step that starts nothing. -/
theorem LastStart.concat {request : Request} {session : ActiveSession}
    {rest : List (Taken ProtocolThread Event)} (h : LastStart history request session rest)
    {t : Taken ProtocolThread Event} (hquiet : ¬ StartsSession t) :
    LastStart (history ++ [t]) request session (rest ++ [t]) := by
  obtain ⟨hstarts, start, hsince, hinput⟩ := h
  exact ⟨hstarts, start, hsince.concat hquiet, hinput⟩

/-- Two last start requests of one history are the same, at the same place. -/
theorem LastStart.unique {request request' : Request} {session session' : ActiveSession}
    {rest rest' : List (Taken ProtocolThread Event)} (h : LastStart history request session rest)
    (h' : LastStart history request' session' rest') : request = request' ∧ rest = rest' := by
  obtain ⟨-, start, hsince, hinput⟩ := h
  obtain ⟨-, start', hsince', hinput'⟩ := h'
  obtain ⟨rfl, hrest⟩ := hsince.unique hsince'
  exact ⟨Event.dispatch.inj (hinput.symm.trans hinput'), hrest⟩

/-- At the start the status mirrors the tracker, which has no session. -/
theorem kept_init : Kept [] {} {} :=
  ⟨rfl, fun _ h => (Option.some_ne_none _ h.symm).elim, fun _ => ⟨rfl, rfl⟩⟩

/-- A step that leaves the tracker alone, starts nothing and ends no send of a start request. -/
theorem Kept.stay (h : Kept history s status) {s' : ProtocolThread} {event : Event}
    (htracker : s'.tracker = s.tracker)
    (hphase : s'.phase = s.phase ∨ (¬ StartPending s ∧ ¬ StartPending s'))
    (hconnected : s'.connected = false → s'.tracker = none ∧ s'.phase = .idle)
    (hquiet : ¬ StartsSession ⟨s, event⟩) (haccepts : event = .sent true → ¬ StartPending s) :
    -- The session is the one before, and so is the request that started it.
    Kept (history ++ [⟨s, event⟩]) s' status := by
  refine ⟨htracker ▸ h.mirrors, fun session hopen => ?_, hconnected⟩
  obtain ⟨request, rest, hlast, hsending | ⟨hpending, t, ht, haccepted⟩⟩ :=
    h.started session (htracker ▸ hopen)
  -- The request is still on its way out: the phase has not changed, and no send of it has been
  -- accepted.
  · obtain ⟨hsend, hnone⟩ := hsending
    have hpending : StartPending s := ⟨request, hsend, by rw [hlast.1]; rfl⟩
    have hsame : s'.phase = s.phase := hphase.resolve_right fun hboth => hboth.1 hpending
    refine ⟨request, rest ++ [⟨s, event⟩], hlast.concat hquiet, Or.inl ⟨hsame.trans hsend, ?_⟩⟩
    intro t ht
    rcases List.mem_append.mp ht with ht | ht
    · exact hnone t ht
    · rw [List.mem_singleton.mp ht]
      exact fun hboth => haccepts hboth.2 hpending
  -- It has been accepted before, and nothing starts a session meanwhile.
  · have hpending' : ¬ StartPending s' := by
      rcases hphase with hsame | ⟨-, hnot⟩
      · rintro ⟨request', hsend, hstarts⟩
        exact hpending ⟨request', hsame ▸ hsend, hstarts⟩
      · exact hnot
    exact ⟨request, rest ++ [⟨s, event⟩], hlast.concat hquiet,
      Or.inr ⟨hpending', t, List.mem_append_left _ ht, haccepted⟩⟩

/-- A step that leaves no session in the tracker and an inactive status. -/
theorem Kept.clear {s' : ProtocolThread} (htracker : s'.tracker = none)
    (hstatus : status.active = false) (hconnected : s'.connected = false → s'.phase = .idle)
    (history : List (Taken ProtocolThread Event)) : Kept history s' status := by
  refine ⟨?_, fun session hopen => ?_, fun hnot => ⟨htracker, hconnected hnot⟩⟩
  · rw [htracker]
    exact hstatus
  · rw [htracker] at hopen
    cases hopen

/-- Only the dispatch of a request can start a session. -/
theorem not_startsSession {event : Event} (h : ∀ request, event ≠ .dispatch request) :
    ¬ StartsSession ⟨s, event⟩ := by
  rintro ⟨request, hinput, -⟩
  exact h request hinput

/-- The invariant is kept by a step that changes neither the state nor the status. -/
theorem Kept.same (h : Kept history s status) {event : Event} (hquiet : ¬ StartsSession ⟨s, event⟩)
    (haccepts : event = .sent true → ¬ StartPending s) :
    Kept (history ++ [⟨s, event⟩]) s status :=
  h.stay rfl (Or.inl rfl) h.connected hquiet haccepts

/-- What a frame does to the session: nothing, or it ends it. -/
theorem onFrame_session (s : ProtocolThread) (frame : ZwaveDataFrame) :
    (s.onFrame frame).1.connected = s.connected ∧ (s.onFrame frame).1.phase = s.phase ∧
      (((s.onFrame frame).1.tracker = s.tracker ∧
          ∀ last, retain last (s.onFrame frame).2 = last) ∨
        ((s.onFrame frame).1.tracker = none ∧
          ∀ last, retain last (s.onFrame frame).2 = {})) := by
  -- A frame other than a node's callback does not touch the session.
  cases hcallback : decodeNodeCallback frame with
  | none =>
    obtain ⟨haside, hphase⟩ := aside_onFrame s hcallback
    exact ⟨haside.connected, hphase,
      Or.inl ⟨haside.tracker, fun last => retain_quiet last haside.quiet⟩⟩
  | some callback =>
    rw [onFrame_nodeCallback s hcallback]
    obtain ⟨hconnected, hphase, htracker, hquiet, -⟩ := register_spec s callback
    unfold onNodeCallback finish
    dsimp only
    -- A status that ends the session clears it and reports that.
    split
    · refine ⟨hconnected, hphase, Or.inr ⟨rfl, fun last => ?_⟩⟩
      rw [← List.append_assoc, retain_append]
      rfl
    · refine ⟨hconnected, hphase, Or.inl ⟨htracker, fun last => ?_⟩⟩
      apply retain_quiet
      intro status hmem
      rw [List.append_nil] at hmem
      rcases List.mem_cons.mp hmem with heq | hmem
      · cases heq
      · exact hquiet status hmem

/-- One step keeps the invariant, if it closes what it leaves. -/
theorem Kept.step (h : Kept history s status) {event : Event} (hcloses : Closes s event) :
    Kept (history ++ [⟨s, event⟩]) (s.step event).1 (retain status (s.step event).2) := by
  unfold ProtocolThread.step
  cases event with
  | connect =>
    dsimp only
    split
    · exact h.same (not_startsSession (by simp)) (by simp)
    next hnot =>
    -- Without a connection there was no session.
    obtain ⟨hnone, -⟩ := h.connected (Bool.eq_false_iff.mpr hnot)
    have hinactive : status.active = false := by
      have hmirrors := h.mirrors
      rwa [hnone] at hmirrors
    exact Kept.clear rfl hinactive (fun _ => rfl) _
  | disconnect =>
    dsimp only
    split
    · next hwhen =>
      have hnone : s.tracker = none := hcloses hwhen.1 hwhen.2
      have hinactive : status.active = false := by
        have hmirrors := h.mirrors
        rwa [hnone] at hmirrors
      apply Kept.clear
      · rfl
      · exact hinactive
      · exact fun _ => hwhen.2
    · exact h.same (not_startsSession (by simp)) (by simp)
  | dispatch request =>
    dsimp only
    split
    · next hwhen =>
      obtain ⟨hphase, hconnected, -, htracker, houtputs⟩ := dispatchRequest_spec s request
      have hlive : (s.dispatchRequest request).1.connected = false →
          (s.dispatchRequest request).1.tracker = none ∧
            (s.dispatchRequest request).1.phase = .idle := by
        rw [hconnected, hwhen.1]
        exact fun hnot => nomatch hnot
      cases hstarts : starts request with
      | none =>
        have hquiet : ¬ StartsSession ⟨s, .dispatch request⟩ := by
          rintro ⟨request', hinput, hsome, -⟩
          rw [← Event.dispatch.inj hinput, hstarts] at hsome
          cases hsome
        have hpending : ¬ StartPending s := by
          rintro ⟨request', hsend, -⟩
          rw [hwhen.2] at hsend
          cases hsend
        have hpending' : ¬ StartPending (s.dispatchRequest request).1 := by
          rintro ⟨request', hsend, hsome⟩
          rw [hphase] at hsend
          rw [← Phase.sending.inj hsend, hstarts] at hsome
          cases hsome
        rw [hstarts] at htracker houtputs
        rw [houtputs]
        exact h.stay htracker (Or.inr ⟨hpending, hpending'⟩) hlive hquiet (by simp)
      | some session =>
        rw [hstarts] at htracker houtputs
        have hstart : StartsSession ⟨s, .dispatch request⟩ :=
          ⟨request, rfl, by rw [hstarts]; rfl, hwhen.1, hwhen.2⟩
        refine ⟨?_, fun session' hopen => ?_, hlive⟩
        · rw [houtputs, htracker]
          rfl
        · rw [htracker] at hopen
          obtain rfl := Option.some.inj hopen
          exact ⟨request, [], ⟨hstarts, _, Since.fresh history hstart, rfl⟩,
            Or.inl ⟨hphase, fun t ht => nomatch ht⟩⟩
    · next hwhen =>
      have hquiet : ¬ StartsSession ⟨s, .dispatch request⟩ := by
        rintro ⟨request', -, -, hconnected, hphase⟩
        exact hwhen ⟨hconnected, hphase⟩
      exact h.same hquiet (by simp)
  | sent ok =>
    dsimp only
    split
    · next request hsend =>
      obtain ⟨haside, hphase⟩ := aside_afterSend s request ok
      have hlive : (s.afterSend request ok).1.connected = false →
          (s.afterSend request ok).1.tracker = none ∧ (s.afterSend request ok).1.phase = .idle := by
        intro hnot
        rw [haside.connected] at hnot
        obtain ⟨-, hidle⟩ := h.connected hnot
        rw [hidle] at hsend
        cases hsend
      have hpending' : ¬ StartPending (s.afterSend request ok).1 := by
        rintro ⟨request', hsend', -⟩
        exact hphase request' hsend'
      rw [retain_quiet _ haside.quiet]
      by_cases hpending : StartPending s
      · obtain ⟨request', hsend', hsome⟩ := hpending
        obtain rfl := Phase.sending.inj (hsend.symm.trans hsend')
        cases ok with
        | false =>
          -- The session of the request that failed is gone already.
          have hnone : s.tracker = none := hcloses rfl request hsend hsome
          have hinactive : status.active = false := by
            have hmirrors := h.mirrors
            rwa [hnone] at hmirrors
          exact Kept.clear (haside.tracker.trans hnone) hinactive (fun hnot => (hlive hnot).2) _
        | true =>
          refine ⟨haside.tracker ▸ h.mirrors, fun session hopen => ?_, hlive⟩
          obtain ⟨started, rest, hlast, ⟨hsending, -⟩ | ⟨hnot, -⟩⟩ :=
            h.started session (haside.tracker ▸ hopen)
          · obtain rfl := Phase.sending.inj (hsend.symm.trans hsending)
            exact ⟨request, rest ++ [⟨s, .sent true⟩], hlast.concat (not_startsSession (by simp)),
              Or.inr ⟨hpending', _, List.mem_append_right _ (List.mem_singleton_self _),
                hsend, rfl⟩⟩
          · exact absurd ⟨request, hsend, hsome⟩ hnot
      · exact h.stay haside.tracker (Or.inr ⟨hpending, hpending'⟩) hlive
          (not_startsSession (by simp)) (fun _ => hpending)
    · next hphase =>
      exact h.same (not_startsSession (by simp)) fun _ ⟨_, hsend, _⟩ => by
        rw [hphase] at hsend
        cases hsend
    · next hphase =>
      exact h.same (not_startsSession (by simp)) fun _ ⟨_, hsend, _⟩ => by
        rw [hphase] at hsend
        cases hsend
  | frame frame =>
    dsimp only
    split
    · next hlive =>
      obtain ⟨hconnected, hphase, ⟨htracker, hstatus⟩ | ⟨htracker, hstatus⟩⟩ :=
        onFrame_session s frame
      · rw [hstatus]
        refine h.stay htracker (Or.inl hphase) (fun hnot => ?_) (not_startsSession (by simp))
          (by simp)
        rw [hconnected, hlive] at hnot
        cases hnot
      · rw [hstatus]
        refine Kept.clear htracker rfl (fun hnot => ?_) _
        rw [hconnected, hlive] at hnot
        cases hnot
    · exact h.same (not_startsSession (by simp)) (by simp)
  | resume deadline =>
    dsimp only
    split
    · next hwhen =>
      have hpending : ¬ StartPending s := by
        rintro ⟨request, hsend, -⟩
        rw [hwhen.1] at hsend
        cases hsend
      refine h.stay rfl (Or.inr ⟨hpending, ?_⟩) (fun hnot => ⟨(h.connected hnot).1, rfl⟩)
        (not_startsSession (by simp)) (by simp)
      rintro ⟨request, hsend, -⟩
      cases hsend
    · exact h.same (not_startsSession (by simp)) (by simp)

/-- Between two sends the status says what the last start request and its answer say. -/
theorem Kept.truthful (h : Kept history s status) (hidle : s.phase = .idle) :
    Truthful history s status := by
  -- The thread is idle, so no request that starts a session is on its way.
  have hpending : ¬ StartPending s := by
    rintro ⟨request, hsend, -⟩
    rw [hidle] at hsend
    cases hsend
  have hmirrors := h.mirrors
  cases htracker : s.tracker with
  | none =>
    rw [htracker] at hmirrors
    have hinactive : status.active = false := hmirrors
    refine ⟨⟨fun hactive => ?_, fun ⟨session, hopen, _⟩ => ?_⟩, fun session hopen => ?_⟩
    · rw [hinactive] at hactive
      cases hactive
    · rw [htracker] at hopen
      cases hopen
    · rw [htracker] at hopen
      cases hopen
  | some session =>
    rw [htracker] at hmirrors
    obtain rfl : status = .ofSession session := hmirrors
    -- A session that is shown has its request sent, since the thread is idle.
    obtain ⟨request, rest, hlast, ⟨hsend, -⟩ | ⟨-, haccepted⟩⟩ := h.started session htracker
    · rw [hidle] at hsend
      cases hsend
    · refine ⟨⟨fun _ => ⟨session, htracker, request, rest, hlast, haccepted⟩, fun _ => rfl⟩, ?_⟩
      intro session' hopen _
      rw [htracker] at hopen
      obtain rfl := Option.some.inj hopen
      exact ⟨rfl, rfl⟩

/-- A step after which the status is truthful closes what it leaves. -/
theorem Kept.closes (h : Kept history s status) {event : Event}
    (htruth : (s.step event).1.phase = .idle → Truthful (history ++ [⟨s, event⟩]) (s.step event).1
      (retain status (s.step event).2)) : Closes s event := by
  cases event with
  | sent ok =>
    intro hfailed request hsend hsome
    subst hfailed
    by_contra hopen
    obtain ⟨session, htracker⟩ := Option.ne_none_iff_exists'.mp hopen
    obtain ⟨started, rest, hlast, ⟨hsending, hnone⟩ | ⟨hnot, -⟩⟩ := h.started session htracker
    swap
    · exact hnot ⟨request, hsend, hsome⟩
    obtain rfl := Phase.sending.inj (hsend.symm.trans hsending)
    -- The send has failed, and the session is still there with its status.
    have hstep : s.step (.sent false) = s.afterSend request false := by
      simp only [ProtocolThread.step, hsend]
    obtain ⟨haside, -⟩ := aside_afterSend s request false
    have hidle : (s.afterSend request false).1.phase = .idle := by
      unfold afterSend afterSendData
      split <;> rfl
    rw [hstep] at htruth
    have htruth := htruth hidle
    rw [retain_quiet _ haside.quiet] at htruth
    have hmirrors := h.mirrors
    rw [htracker] at hmirrors
    obtain rfl : status = .ofSession session := hmirrors
    obtain ⟨session', -, request', rest', hlast', t, ht, haccepts⟩ := htruth.active.mp rfl
    obtain ⟨rfl, rfl⟩ := (hlast.concat (not_startsSession (by simp))).unique hlast'
    rcases List.mem_append.mp ht with ht | ht
    · exact hnone t ht haccepts
    · rw [List.mem_singleton.mp ht] at haccepts
      cases haccepts.2
  | disconnect =>
    intro hconnected hidle
    by_contra hopen
    obtain ⟨session, htracker⟩ := Option.ne_none_iff_exists'.mp hopen
    have hstep : s.step .disconnect =
        ({ s with connected := false, tracker := none, pendingSendData := none }, []) := by
      simp only [ProtocolThread.step, hconnected, hidle, and_self, if_true]
    rw [hstep] at htruth
    have hmirrors := h.mirrors
    rw [htracker] at hmirrors
    obtain rfl : status = .ofSession session := hmirrors
    obtain ⟨session', hopen', -⟩ := (htruth hidle).active.mp rfl
    cases hopen'
  | connect => trivial
  | dispatch request => trivial
  | frame frame => trivial
  | resume deadline => trivial

/-! ## Runs -/

/-- The invariant after a run whose steps close what they leave. -/
theorem kept_run (events : List Event)
    (h : ∀ pre event, pre ++ [event] <+: events → Closes (exec step {} pre) event) :
    Kept (trace step {} events) (exec step {} events) (retained (emitted step {} events)) := by
  refine run_induction_of step {} (C := fun _ t => Closes t.before t.input)
    (I := fun history outputs s => Kept history s (retained outputs)) kept_init ?_ events ?_
  · intro history outputs s event hkept hcloses
    rw [retained, retain_append]
    exact hkept.step hcloses
  · rintro pre event post rfl
    exact h pre event ⟨post, by simp⟩

/-- The retained status tells the truth all through a run exactly when every step closes the session
that it leaves behind. -/
theorem tellsTruth_iff (events : List Event) :
    TellsTruth events ↔
      ∀ pre event, pre ++ [event] <+: events → Closes (exec step {} pre) event := by
  constructor
  · intro htruth pre
    -- The steps before one close what they leave, so the invariant holds where it is taken.
    induction hlen : pre.length using Nat.strongRecOn generalizing pre with
    | ind n ih =>
      intro event hpre
      have hkept := kept_run pre fun pre' event' hpre' => by
        have hshorter := hpre'.length_le
        rw [List.length_append, List.length_singleton] at hshorter
        exact ih pre'.length (by omega) pre' rfl event'
          (hpre'.trans ((List.prefix_append pre [event]).trans hpre))
      have hafter := htruth (pre ++ [event]) hpre
      rw [trace_concat, exec_concat, emitted_concat, retained, retain_append] at hafter
      exact hkept.closes hafter
  · intro hcloses pre hpre hidle
    exact (kept_run pre fun pre' event hpre' => hcloses pre' event (hpre'.trans hpre)).truthful hidle

/-- The request to include any node, in session 1. -/
def includeAny : Request :=
  .network (.addNode 0x01 false false false false 1 false (Vector.replicate 4 0)
    (Vector.replicate 4 0))

/-- A start request that the dongle does not take. -/
def refused : List Event := [.connect, .dispatch includeAny, .sent false]

/-- The dongle is unplugged in the middle of an inclusion. -/
def unplugged : List Event := [.connect, .dispatch includeAny, .sent true, .disconnect]

/-- In both the status stays active: for a session that never was, and for one that is gone. -/
theorem not_tellsTruth_refused_unplugged : ¬ TellsTruth refused ∧ ¬ TellsTruth unplugged := by
  constructor
  · intro htruth
    have hafter := htruth refused List.prefix_rfl (by decide)
    obtain ⟨session, -, request, rest, ⟨-, start, hsince, -⟩, t, ht, haccepts⟩ :=
      hafter.active.mp (by decide)
    have hnone : ∀ t ∈ trace step {} refused, t.input ≠ .sent true := by decide
    exact hnone t (hsince.mem ht) haccepts.2
  · intro htruth
    have hafter := htruth unplugged List.prefix_rfl (by decide)
    obtain ⟨session, hopen, -⟩ := hafter.active.mp (by decide)
    have hnone : (exec step {} unplugged).tracker = none := by decide
    rw [hnone] at hopen
    cases hopen

end ProtocolThread

end Zwaved.Protocol
