import Zwaved.Protocol.Connection.Isolation
import Zwaved.Reactive.Rank

/-!
# How the thread ends

Once the destructor has set `running`, the thread has a bounded number of steps left:
`remaining` counts them down. But it may be left asleep. `pathCv.wait` looks at the condition and
falls asleep in one go only for those that take `pathMutex`, and the destructor does not: if it
notifies after the look and before the sleep, nobody is woken, and it joins a thread that sleeps on.
`shutdown_iff` says that this is the only way: when the threads have come to rest, the destructor
has returned exactly if its notification was not lost, or something else has woken the thread since.
-/

namespace Zwaved.Protocol.Connection

open Reactive ZwaveProtocolState

/-! ## The lost notification -/

/-- The destructor notifies between the look at the condition and the sleep. -/
def Missed (t : Taken ZwaveProtocolState Input) : Prop :=
  t.input = .destroy ∧ t.before.destructor = .notifying ∧ t.before.stage = .unmet

/-- The thread is woken up, and not by the destructor. -/
def Wakes (t : Taken ZwaveProtocolState Input) : Prop :=
  t.before.stage = .asleep ∧
    (t.input = .spuriousWakeUp ∨ t.input = .notify ∧ t.before.announcing = true)

/-- The notification was lost, and the thread has not been woken up since. -/
def Stuck (history : List (Taken ZwaveProtocolState Input)) : Prop :=
  ∃ start rest, Since (fun t => Missed t ∨ Wakes t) history start rest ∧ Missed start

section Stuck

variable {history : List (Taken ZwaveProtocolState Input)} {t : Taken ZwaveProtocolState Input}

/-- The step that loses the notification does not wake the thread: it does not sleep yet. -/
theorem not_wakes_of_missed (h : Missed t) : ¬ Wakes t := by
  rintro ⟨hasleep, -⟩
  rw [h.2.2] at hasleep
  cases hasleep

/-- The thread is stuck once the notification is lost. -/
theorem stuck_missed (h : Missed t) : Stuck (history ++ [t]) :=
  ⟨t, [], Since.fresh history (Or.inl h), h⟩

/-- A thread that is woken up is not stuck. -/
theorem not_stuck_wakes (h : Wakes t) : ¬ Stuck (history ++ [t]) := by
  rintro ⟨start, rest, hsince, hmissed⟩
  obtain ⟨rfl, -⟩ := hsince.unique (Since.fresh history (Or.inr h))
  exact not_wakes_of_missed hmissed h

/-- A step that neither loses the notification nor wakes the thread changes nothing about its being
stuck. -/
theorem stuck_concat (hmissed : ¬ Missed t) (hwakes : ¬ Wakes t) :
    Stuck (history ++ [t]) ↔ Stuck history := by
  have hneither : ¬ (Missed t ∨ Wakes t) := not_or.mpr ⟨hmissed, hwakes⟩
  constructor
  · rintro ⟨start, rest, hsince, hstart⟩
    obtain ⟨init, -, hbefore⟩ := hsince.of_concat hneither
    exact ⟨start, init, hbefore, hstart⟩
  · rintro ⟨start, rest, hsince, hstart⟩
    exact ⟨start, rest ++ [t], hsince.concat hneither, hstart⟩

end Stuck

/-! ## What holds throughout -/

/-- What holds after every run. -/
structure Sound (s : ZwaveProtocolState) : Prop where
  /-- Only the destructor ends the thread. -/
  running : s.running = true ↔ s.destructor = .alive
  /-- The path does not change while `pathMutex` is held. -/
  unmet : s.stage = .unmet → s.path = none
  /-- A path that is set while the thread sleeps is about to be notified. -/
  asleep : s.stage = .asleep → s.path = none ∨ s.announcing = true
  /-- The thread ends only when it has to. -/
  leaving : s.stage = .leaving ∨ s.stage = .exited → s.running = false
  /-- The destructor has joined. -/
  finished : s.destructor = .finished → s.stage = .exited
  /-- There are five stores. -/
  binding : ∀ info result stores, s.stage = .binding info result stores → stores.length ≤ 5

section Sound

variable {s s' : ZwaveProtocolState}

/-- Soundness is kept when the thread goes on to a stage whose conditions hold and the flags stay as
they are. -/
theorem Sound.moves (h : Sound s) (hexited : s.stage ≠ .exited)
    (hrunning : s'.running = s.running) (hdestructor : s'.destructor = s.destructor)
    (hunmet : s'.stage = .unmet → s'.path = none)
    (hasleep : s'.stage = .asleep → s'.path = none ∨ s'.announcing = true)
    (hleaving : s'.stage = .leaving ∨ s'.stage = .exited → s.running = false)
    (hbinding : ∀ info result stores, s'.stage = .binding info result stores →
      stores.length ≤ 5) : Sound s' where
  running := by rw [hrunning, hdestructor, h.running]
  unmet := hunmet
  asleep := hasleep
  leaving := fun hstage => by rw [hrunning, hleaving hstage]
  finished := fun hfinished => absurd (h.finished (hdestructor ▸ hfinished)) hexited
  binding := hbinding

/-- Waking the thread for a path keeps the state sound. -/
theorem Sound.notifyPath (h : Sound s) : Sound s.notifyPath where
  running := by simpa using h.running
  unmet := by
    -- A thread that slept asks for its condition again.
    rw [notifyPath_stage, notifyPath_path]
    split
    · simp
    · exact h.unmet
  asleep := by
    rw [notifyPath_stage]
    split <;> simp_all
  leaving := by
    rw [notifyPath_stage, notifyPath_running]
    split
    · simp
    · exact h.leaving
  finished := by
    rw [notifyPath_stage, notifyPath_destructor]
    -- A thread that has returned is not woken up.
    intro hfinished
    rw [h.finished hfinished]
    simp
  binding := by
    rw [notifyPath_stage]
    split
    · simp
    · exact h.binding

/-- Every input keeps the state sound, one case per input and per move of the thread. -/
theorem Sound.step (h : Sound s) (input : Input) : Sound (s.step input).1 := by
  rcases s.step_cases input with ⟨hsame, -⟩ | hdoes
  · rwa [hsame]
  generalize s.step input = out at hdoes
  cases hdoes with
  -- These steps change nothing that is asked for.
  | pushRequest | retained => exact ⟨h.running, h.unmet, h.asleep, h.leaving, h.finished, h.binding⟩
  -- A thread that has found its condition not to hold keeps the lock until it sleeps, so no path is
  -- announced meanwhile.
  | dongleStatus status hannouncing hholds hsubscribed =>
    refine ⟨h.running, fun hunmet => ?_, fun _ => Or.inr rfl, h.leaving, h.finished, h.binding⟩
    have hstage : s.stage = .unmet := hunmet
    simp [holdsPath, hstage] at hholds
  -- Once it has been notified the thread does not sleep.
  | notify hannouncing =>
    have hnotified := h.notifyPath
    refine ⟨hnotified.running, hnotified.unmet, fun hasleep => ?_, hnotified.leaving,
      hnotified.finished, hnotified.binding⟩
    have hstage : s.notifyPath.stage = .asleep := hasleep
    rw [notifyPath_stage] at hstage
    split at hstage <;> simp_all
  | spuriousWakeUp => exact h.notifyPath
  -- The destructor begins by taking the running flag away.
  | destroy halive =>
    exact ⟨by simp, h.unmet, h.asleep, fun _ => rfl, by simp, h.binding⟩
  | notifyAll hnotifying =>
    have hnotified := h.notifyPath
    have hrunning : s.running = false := by
      simpa [hnotifying] using h.running
    exact ⟨by simp [hrunning], hnotified.unmet, hnotified.asleep, hnotified.leaving, by simp,
      hnotified.binding⟩
  -- The thread returns only when it is told to, so by then the destructor has run.
  | join hjoining hexited =>
    have hrunning : s.running = false := h.leaving (Or.inr hexited)
    exact ⟨by simp [hrunning], h.unmet, h.asleep, h.leaving, fun _ => hexited, h.binding⟩
  | moves hmoves =>
    have hunmet := h.unmet
    -- The thread's own moves are looked at one by one.
    refine h.moves ?_ rfl rfl ?_ ?_ ?_ ?_ <;> cases hmoves <;> simp_all
  | subscribeBus hstage | openFails hstage | unknown _ hstage | announce hstage | clear hstage
  | dispatch hstage =>
    exact h.moves (by simp [hstage]) rfl rfl (by simp [subscribeBus]) (by simp [subscribeBus])
      (by simp [subscribeBus]) (by simp [subscribeBus])
  | introduced _ hstage =>
    exact h.moves (by simp [hstage]) rfl rfl (by simp) (by simp) (by simp) (by simp [Store.all])
  -- The stores still to be bound get fewer.
  | bind hstage =>
    have hlength := h.binding _ _ _ hstage
    refine h.moves (by simp [hstage]) rfl rfl (by simp) (by simp) (by simp) ?_
    rintro info result stores heq
    cases heq
    exact Nat.le_of_succ_le hlength
  -- The last thing of a thread that leaves its loop is to return.
  | exit hstage =>
    exact h.moves (by simp [hstage]) rfl rfl (by simp) (by simp)
      (fun _ => h.leaving (Or.inl hstage)) (by simp)
  | disconnect hstage =>
    refine h.moves ?_ rfl rfl (by simp) (by simp) (by simp) (by simp)
    rcases hstage with ⟨hstage, -⟩ | ⟨hstage, -⟩ <;> simp [hstage]
  -- When a request has been answered, the thread goes on in its session.
  | sent ok hstage | resume deadline hstage =>
    refine h.moves (by simp [hstage]) rfl rfl ?_ ?_ ?_ ?_ <;>
      rw [sessionEvent_stage, dispatchStage] <;> split_ifs <;> simp
  | frame frame hstage =>
    refine h.moves ?_ rfl rfl ?_ ?_ ?_ ?_ <;> rcases hstage with hstage | hstage <;> simp [hstage]

end Sound

/-! ## When the thread is stuck -/

/-- The destructor waits for a thread that sleeps, or is about to. -/
def Waits (s : ZwaveProtocolState) : Prop :=
  s.destructor = .joining ∧ (s.stage = .unmet ∨ s.stage = .asleep)

section Waits

variable {s : ZwaveProtocolState} {input : Input}

/-- After the lost notification the destructor waits for a thread that is about to sleep. -/
theorem waits_missed (h : Missed ⟨s, input⟩) : Waits (s.step input).1 := by
  obtain ⟨hinput, hnotifying, hunmet⟩ := h
  dsimp only at hinput hnotifying hunmet
  subst hinput
  simp [Waits, ZwaveProtocolState.step, ZwaveProtocolState.destroy, hnotifying, notifyPath_stage,
    hunmet]

/-- Once the thread has been woken up, the destructor does not wait for one that sleeps. -/
theorem not_waits_wakes (h : Wakes ⟨s, input⟩) : ¬ Waits (s.step input).1 := by
  obtain ⟨hasleep, hinput | ⟨hinput, hannouncing⟩⟩ := h
  · dsimp only at hasleep hinput
    subst hinput
    simp [Waits, ZwaveProtocolState.step, notifyPath_stage, hasleep]
  · dsimp only at hasleep hinput hannouncing
    subst hinput
    simp [Waits, ZwaveProtocolState.step, notifyPath_stage, hasleep, hannouncing]

/-- A step that neither loses the notification nor wakes the thread leaves whether the destructor
waits for a sleeping one. -/
theorem waits_step (h : Sound s) (hmissed : ¬ Missed ⟨s, input⟩) (hwakes : ¬ Wakes ⟨s, input⟩) :
    Waits (s.step input).1 ↔ Waits s := by
  rcases s.step_cases input with ⟨hsame, -⟩ | hdoes
  · rw [hsame]
  have hrunning := h.running
  generalize s.step input = out at hdoes
  cases hdoes with
  -- These steps are not the destructor's and do not move the thread.
  | pushRequest | retained | dongleStatus => exact Iff.rfl
  -- A notification wakes up a thread that sleeps, but this is none.
  | notify hannouncing =>
    have hawake : s.stage ≠ .asleep := fun hasleep => hwakes ⟨hasleep, Or.inr ⟨rfl, hannouncing⟩⟩
    simp [Waits, notifyPath_stage, hawake]
  | spuriousWakeUp =>
    have hawake : s.stage ≠ .asleep := fun hasleep => hwakes ⟨hasleep, Or.inl rfl⟩
    simp [Waits, notifyPath_stage, hawake]
  | destroy halive => simp [Waits, halive]
  -- The notification is not the lost one, so the thread is not just about to sleep.
  | notifyAll hnotifying =>
    have hmet : s.stage ≠ .unmet := fun hunmet => hmissed ⟨rfl, hnotifying, hunmet⟩
    simp only [Waits, notifyPath_stage, hnotifying]
    split <;> simp_all
  | join hjoining hexited => simp [Waits, hexited]
  -- To fall asleep is to go on waiting, and once the destructor has begun the condition holds.
  | moves hmoves => unfold Waits; cases hmoves <;> simp_all
  | subscribeBus hstage | openFails hstage | introduced _ hstage | unknown _ hstage | bind hstage
  | announce hstage | clear hstage | dispatch hstage | exit hstage =>
    simp [Waits, hstage, subscribeBus]
  | disconnect hstage => rcases hstage with ⟨hstage, -⟩ | ⟨hstage, -⟩ <;> simp [Waits, hstage]
  | sent ok hstage | resume deadline hstage =>
    simp only [Waits, sessionEvent_stage, dispatchStage, hstage]
    split_ifs <;> simp
  | frame frame hstage => simp [Waits]

end Waits

/-- After every run the state is sound, and the destructor waits for a sleeping thread exactly when
the notification was lost and nothing has woken the thread since. -/
theorem sound_run (inputs : List Input) :
    Sound (exec step {} inputs) ∧
      (Waits (exec step {} inputs) ↔ Stuck (trace step {} inputs)) := by
  refine trace_induction (I := fun history s => Sound s ∧ (Waits s ↔ Stuck history)) step {}
    ⟨⟨by simp, by simp, by simp, by simp, by simp, by simp⟩, by simp [Waits], ?_⟩ ?_ inputs
  · rintro ⟨start, rest, hsince, -⟩
    exact absurd hsince.suffix (by simp)
  rintro history s input ⟨hsound, hwaits⟩
  refine ⟨hsound.step input, ?_⟩
  by_cases hmissed : Missed ⟨s, input⟩
  · exact iff_of_true (waits_missed hmissed) (stuck_missed hmissed)
  by_cases hwakes : Wakes ⟨s, input⟩
  · exact iff_of_false (not_waits_wakes hwakes) (not_stuck_wakes hwakes)
  rw [waits_step hsound hmissed hwakes, stuck_concat hmissed hwakes, hwaits]

/-! ## The steps that are left -/

/-- How many steps the thread has left where it is, once it has to end. -/
def Stage.remaining (phase : Phase) : Stage → ℕ
  | .exited => 0
  | .leaving => 1
  | .atLoop => 2
  | .starting | .backingOff | .atSession => 3
  | .clearing | .pumping => 4
  | .dispatching =>
    match phase with
    | .sending _ => 5
    | .idle | .throttled => 4
  | .popping => 6
  | .checking => 7
  | .binding _ _ stores => 5 + stores.length
  | .introspecting => 11
  | .opening _ => 12
  | .awaited _ => 13
  | .met => 14
  | .awaiting => 15
  | .asleep => 16
  | .unmet => 17

/-- How many steps the destructor has left. -/
def Destructor.remaining : Destructor → ℕ
  | .alive => 3
  | .notifying => 2
  | .joining => 1
  | .finished => 0

/-- The steps that are left. -/
def remaining (s : ZwaveProtocolState) : ℕ :=
  s.stage.remaining s.session.phase + s.destructor.remaining

section Remaining

variable {s s' : ZwaveProtocolState} {input : Input}

/-- The stage goes down, and the destructor stays where it is. -/
theorem remaining_lt (hstage : s'.stage.remaining s'.session.phase + 1 ≤
      s.stage.remaining s.session.phase) (hdestructor : s'.destructor = s.destructor)
    (work : Bool) : remaining s' + work.toNat ≤ remaining s := by
  have hone := Bool.toNat_le work
  unfold remaining
  rw [hdestructor]
  omega

/-- A step that is no work of the thread and does not put it further back leaves no more steps. -/
theorem remaining_le (hstage : s'.stage.remaining s'.session.phase ≤
      s.stage.remaining s.session.phase) (hdestructor : s'.destructor = s.destructor)
    {work : Bool} (hwork : work = false) : remaining s' + work.toNat ≤ remaining s := by
  unfold remaining
  rw [hdestructor, hwork]
  exact Nat.add_le_add_right hstage _

/-- Waking the thread for a path leaves it no more steps than it had. -/
theorem remaining_notifyPath_le (s : ZwaveProtocolState) :
    s.notifyPath.stage.remaining s.notifyPath.session.phase ≤
      s.stage.remaining s.session.phase := by
  rw [notifyPath_stage]
  split
  · next hasleep =>
    rw [hasleep]
    exact Nat.le_succ 15
  · rw [notifyPath_session]

/-- After an event of a dispatch the steps that are left are told by the phase it has come to. -/
theorem remaining_dispatchStage (session : ProtocolThread) :
    (dispatchStage session).remaining session.phase =
      match session.phase with
      | .idle => 3
      | .sending _ => 5
      | .throttled => 4 := by
  unfold dispatchStage
  cases session.phase <;> rfl

/-- When `sendRequest` returns, a step is done. -/
theorem remaining_sent (ok : Bool) (hstage : s.stage = .dispatching) :
    remaining (s.sessionEvent (.sent ok) (dispatchStage (s.session.step (.sent ok)).1)).1 +
      (works ⟨s, .sent ok⟩).toNat ≤ remaining s := by
  cases hphase : s.session.phase with
  | sending request =>
    refine remaining_lt ?_ (by rfl) _
    have hafter := (s.session.aside_afterSend request ok).2
    rw [sessionEvent_stage, sessionEvent_session, remaining_dispatchStage, hstage, hphase]
    simp only [ProtocolThread.step, hphase, Stage.remaining]
    split
    · decide
    · next hsending => exact absurd hsending (hafter _)
    · decide
  | idle | throttled =>
    refine remaining_le ?_ (by rfl) (by simp [works, hstage, hphase])
    rw [sessionEvent_stage, sessionEvent_session, remaining_dispatchStage, hstage]
    simp [ProtocolThread.step, hphase, Stage.remaining]

/-- Once the thread is to end, the throttle does not wait any longer, and a resumed dispatch leaves
a step fewer. -/
theorem remaining_resume (deadline : Bool) (hstage : s.stage = .dispatching)
    (hrunning : s.running = false) :
    remaining (s.sessionEvent (.resume (deadline || !s.running))
        (dispatchStage (s.session.step (.resume (deadline || !s.running))).1)).1 +
      (works ⟨s, .resume deadline⟩).toNat ≤ remaining s := by
  cases hphase : s.session.phase with
  | throttled =>
    refine remaining_lt ?_ (by rfl) _
    rw [sessionEvent_stage, sessionEvent_session, remaining_dispatchStage, hstage, hphase]
    simp [ProtocolThread.step, hphase, Stage.remaining, hrunning]
  | idle | sending =>
    refine remaining_le ?_ (by rfl) (by simp [works, hstage, hphase])
    rw [sessionEvent_stage, sessionEvent_session, remaining_dispatchStage, hstage]
    simp [ProtocolThread.step, hphase, Stage.remaining]

/-- Once the thread has to end, a step of the thread or the destructor uses one up, and nothing that
comes from outside adds one. -/
theorem remaining_step_le (h : Sound s) (hrunning : s.running = false) (input : Input) :
    remaining (s.step input).1 + (works ⟨s, input⟩).toNat ≤ remaining s := by
  -- A step that changes nothing is none of the thread's works.
  rcases s.step_cases input with ⟨hsame, hworks⟩ | hdoes
  · rw [hsame, hworks]
    exact Nat.le_refl _
  generalize s.step input = out at hdoes
  cases hdoes with
  -- What others do is not counted, and takes nothing away.
  | pushRequest | retained | dongleStatus => exact remaining_le (Nat.le_refl _) (by rfl) rfl
  | notify | spuriousWakeUp =>
    exact remaining_le (remaining_notifyPath_le s) s.notifyPath_destructor rfl
  -- The destructor has run already.
  | destroy halive =>
    rw [h.running.mpr halive] at hrunning
    cases hrunning
  -- A step of the destructor counts as well: it has one less to do.
  | notifyAll hnotifying =>
    have hstage := remaining_notifyPath_le s
    have hone := Bool.toNat_le (works ⟨s, .destroy⟩)
    simp only [remaining, Destructor.remaining, hnotifying]
    omega
  | join hjoining hexited =>
    have hone := Bool.toNat_le (works ⟨s, .destroy⟩)
    simp only [remaining, Destructor.remaining, hjoining]
    omega
  -- Each move leads to a stage with less to do.
  | moves hmoves =>
    refine remaining_lt ?_ (by rfl) _
    cases hmoves <;> simp_all [Stage.remaining]
  | subscribeBus hstage | openFails hstage | introduced _ hstage | unknown _ hstage
  | announce hstage | clear hstage | exit hstage =>
    refine remaining_lt ?_ (by rfl) _
    simp [hstage, Stage.remaining, ZwaveProtocolState.subscribeBus, Store.all]
  | bind hstage =>
    refine remaining_lt ?_ (by rfl) _
    rw [hstage]
    exact Nat.le_refl _
  | disconnect hstage =>
    refine remaining_lt ?_ (by rfl) _
    rcases hstage with ⟨hstage, -⟩ | ⟨hstage, -⟩ <;> simp [hstage, Stage.remaining]
  -- Also on the way from a dispatch to its end.
  | dispatch hstage =>
    refine remaining_lt ?_ (by rfl) _
    rw [sessionEvent_stage, hstage]
    simp only [Stage.remaining]
    split <;> decide
  | sent ok hstage => exact remaining_sent ok hstage
  | resume deadline hstage => exact remaining_resume deadline hstage hrunning
  | frame frame hstage =>
    refine remaining_le ?_ (by rfl) rfl
    rw [sessionEvent_stage, sessionEvent_session, phase_frame]

/-- A thread that is to run after a step was to run before it: nothing starts it again. -/
theorem running_of_step (input : Input) (h : (s.step input).1.running = true) :
    s.running = true := by
  rcases s.step_cases input with ⟨hsame, -⟩ | hdoes
  · rwa [hsame] at h
  generalize s.step input = out at hdoes h
  cases hdoes with
  | destroy halive => cases h
  | notify | spuriousWakeUp | notifyAll => simpa using h
  | _ => exact h

/-- When the destructor has been called, there are nineteen steps left at most. -/
theorem remaining_le_of_sound (h : Sound s) (hrunning : s.running = false) : remaining s ≤ 19 := by
  have hdestructor : s.destructor.remaining ≤ 2 := by
    have hcalled : s.destructor ≠ .alive := by
      intro halive
      rw [h.running.mpr halive] at hrunning
      cases hrunning
    cases hstage : s.destructor with
    | alive => exact absurd hstage hcalled
    | _ => decide
  have hstage : s.stage.remaining s.session.phase ≤ 17 := by
    cases hstage : s.stage with
    | binding info result stores =>
      have hlength := h.binding info result stores hstage
      simp only [Stage.remaining]
      omega
    | dispatching =>
      simp only [Stage.remaining]
      split <;> decide
    | _ => simp [Stage.remaining]
  unfold remaining
  omega

/-- Until the destructor is called, there are more. -/
def rank (s : ZwaveProtocolState) : ℕ := if s.running then 19 else remaining s

/-- No input raises the rank, and one that makes the thread work lowers it, once the destructor has
been called. -/
theorem rank_step_le (h : Sound s) (input : Input) :
    rank (s.step input).1 + (works ⟨s, input⟩ && !s.running).toNat ≤ rank s := by
  have hafter := h.step input
  cases hrunning : s.running with
  | true =>
    have hle : rank (s.step input).1 ≤ 19 := by
      unfold rank
      split
      · exact Nat.le_refl _
      · next hstopped => exact remaining_le_of_sound hafter (by simpa using hstopped)
    simpa [rank, hrunning] using hle
  | false =>
    have hstopped : (s.step input).1.running = false := by
      rw [← Bool.not_eq_true]
      intro hstarts
      rw [running_of_step input hstarts] at hrunning
      cases hrunning
    have hremaining := remaining_step_le h hrunning input
    simpa [rank, hrunning, hstopped] using hremaining

end Remaining

/-! ## The shutdown -/

/-- The thread and the destructor wait, or are over, and nobody is about to notify. -/
def Quiet (s : ZwaveProtocolState) : Prop :=
  s.announcing = false ∧ ∀ input, works ⟨s, input⟩ = false

/-- When everybody waits, the thread sleeps or is over. -/
theorem Quiet.stage {s : ZwaveProtocolState} (h : Quiet s) (hin : InStep s) :
    s.stage = .asleep ∨ s.stage = .exited := by
  cases hstage : s.stage with
  | asleep => exact Or.inl rfl
  | exited => exact Or.inr rfl
  | opening path => exact absurd (h.2 (.opened true)) (by simp [works, hstage])
  | introspecting => exact absurd (h.2 (.introspected {} [])) (by simp [works, hstage])
  | pumping => exact absurd (h.2 .pumped) (by simp [works, hstage])
  | dispatching =>
    have hbusy : s.session.phase ≠ .idle := fun hidle => absurd hstage (hin.phase.mp hidle)
    cases hphase : s.session.phase with
    | idle => exact absurd hphase hbusy
    | sending request => exact absurd (h.2 (.sent true)) (by simp [works, hstage, hphase])
    | throttled => exact absurd (h.2 (.resume true)) (by simp [works, hstage, hphase])
  | _ => exact absurd (h.2 .proceed) (by simp [works, hstage])

/-- A thread that does not have to end sleeps because there is no dongle. -/
theorem Quiet.asleep {s : ZwaveProtocolState} (h : Quiet s) (hin : InStep s) (hsound : Sound s)
    (halive : s.destructor = .alive) : s.stage = .asleep ∧ s.path = none := by
  rcases h.stage hin with hasleep | hexited
  · refine ⟨hasleep, (hsound.asleep hasleep).resolve_right ?_⟩
    rw [h.1]
    simp
  · have hrunning := hsound.leaving (Or.inr hexited)
    rw [hsound.running.mpr halive] at hrunning
    cases hrunning

/-- A destructor that has not returned has notified, and joins a thread that sleeps. -/
theorem Quiet.finished_iff {s : ZwaveProtocolState} (h : Quiet s) (hin : InStep s)
    (hcalled : s.destructor ≠ .alive) : s.destructor = .finished ↔ ¬ Waits s := by
  have hdestroy := h.2 .destroy
  cases hdestructor : s.destructor with
  | alive => exact absurd hdestructor hcalled
  | notifying => simp [works, hdestructor] at hdestroy
  | joining =>
    rcases h.stage hin with hasleep | hexited
    · simp [Waits, hdestructor, hasleep]
    · simp [works, hdestructor, hexited] at hdestroy
  | finished => simp [Waits, hdestructor]

/-- Whatever the order of the steps: once the destructor has been called, the thread and the
destructor take nineteen steps at most. They come to rest with the thread asleep and no dongle
announced if it has not been called; and if it has, then it has returned exactly if its notification
has not been lost. While that is so, it does not return. -/
theorem shutdown_iff (inputs : List Input) :
    let s := exec step {} inputs
    let history := trace step {} inputs
    history.countP (fun t => works t && !t.before.running) ≤ 19 ∧
      (Quiet s → s.destructor = .alive → s.stage = .asleep ∧ s.path = none) ∧
      (Quiet s → s.destructor ≠ .alive → (s.destructor = .finished ↔ ¬ Stuck history)) ∧
      (Stuck history → s.destructor = .joining) := by
  intro s history
  obtain ⟨hsound, hstuck⟩ := sound_run inputs
  obtain ⟨hin, -, -⟩ := kept_run inputs
  refine ⟨?_, fun hquiet halive => hquiet.asleep hin hsound halive, fun hquiet hcalled => ?_,
    fun h => (hstuck.mpr h).1⟩
  · have hcount : history.countP (fun t => works t && !t.before.running) + rank s ≤
        rank {} + history.countP fun _ => false :=
      countP_add_rank_le rank _ _ (sound_run []).1 (C := fun _ => True) (fun _ _ => trivial)
        fun st input hst _ => ⟨hst.step input, rank_step_le hst input⟩
    have hrank : rank {} = 19 := rfl
    rw [List.countP_false, hrank] at hcount
    exact le_trans (Nat.le_add_right _ _) hcount
  · rw [← hstuck]
    exact hquiet.finished_iff hin hcalled

/-- The destructor is called while the thread is about to fall asleep. -/
example :
    let s := exec step {} [.proceed, .proceed, .proceed, .destroy, .destroy, .proceed]
    s.stage = .asleep ∧ s.destructor = .joining := ⟨rfl, rfl⟩

end Zwaved.Protocol.Connection
