import Zwaved.MessageBus.Bus
import Zwaved.Reactive.Grounded

/-!
# What is still to be delivered

The log of a bus says who was called with what. Each call in it is justified by what precedes it: it
is the replay right after a subscription, or the subscriber was there when the publication started,
is still there and has not been called with it (`Justified`). What is still to come is in the stack:
for each publication that is not over, the callbacks whose turn it is not yet (`Dispatching`). The
invariant of the bus says both, and that its lists and tables are what the log says (`Registered`);
every action keeps it (`Invariant.step`), whichever handler takes it.
-/

namespace Zwaved.MessageBus

open Reactive

variable {τ α : Type}

/-- The publication that an event starts on a topic. -/
def Event.publication? [DecidableEq τ] (topic : τ) : Event τ α → Option (ℕ × α)
  | .published other number value => if other = topic then some (number, value) else none
  | _ => none

/-- The last publication on a topic. -/
def lastPublished [DecidableEq τ] (topic : τ) (log : List (Event τ α)) : Option (ℕ × α) :=
  (log.filterMap (Event.publication? topic)).getLast?

/-- After these events the subscription is there. -/
def Subscribed (log : List (Event τ α)) (topic : τ) (id : SubscriptionId) : Prop :=
  .subscribed topic id ∈ log ∧ .unsubscribed id ∉ log

/-- The subscription was called with the publication, or is gone. -/
def Served (log : List (Event τ α)) (topic : τ) (id : SubscriptionId) (number : ℕ) (value : α) :
    Prop :=
  .called topic id number value ∈ log ∨ .unsubscribed id ∈ log

section Invariant

variable [DecidableEq τ] (isRetained : τ → Bool)

/-- What the bus has seen when an event happens. -/
def Justified (pre : List (Event τ α)) : Event τ α → Prop
  | .subscribed _ id => (∀ topic, .subscribed topic id ∉ pre) ∧ .unsubscribed id ∉ pre
  | .unsubscribed _ => True
  | .published _ number _ => ∀ topic value, .published topic number value ∉ pre
  | .called topic id number value =>
    (∃ before, pre = before ++ [.subscribed topic id] ∧ isRetained topic = true ∧
      lastPublished topic before = some (number, value)) ∨
    ∃ before mid, pre = before ++ .published topic number value :: mid ∧
      Subscribed before topic id ∧ .called topic id number value ∉ pre ∧
      ∀ earlier < id, Subscribed before topic earlier → Served mid topic earlier number value
  | .finished number => ∃ topic value before mid,
    pre = before ++ .published topic number value :: mid ∧
      ∀ id, Subscribed before topic id → Served mid topic id number value

/-- A publication that is not over: the callbacks whose turn is still to come were there at its
start and have not been called with it, and all others have been served. -/
def Dispatching (log : List (Event τ α)) (topic : τ) (number : ℕ) (value : α)
    (pending : List SubscriptionId) : Prop :=
  ∃ before mid, log = before ++ .published topic number value :: mid ∧
    pending.Pairwise (· < ·) ∧
    (∀ id ∈ pending, Subscribed before topic id ∧ .called topic id number value ∉ log) ∧
    ∀ id, Subscribed before topic id → id ∉ pending → Served mid topic id number value

/-- The publication that a running call belongs to. -/
def Frame.number? : Frame τ α → Option ℕ
  | .replay => none
  | .dispatch _ number _ _ => some number

/-- A publication that has started is over or runs. -/
def Opened (log : List (Event τ α)) (running : List (Frame τ α)) (number : ℕ) : Prop :=
  .finished number ∈ log ∨ ∃ topic value pending, .dispatch topic number value pending ∈ running

/-- The lists and tables of the bus are what the log says. -/
structure Registered (log : List (Event τ α)) (s : Bus τ α) : Prop where
  /-- The callbacks of a topic are its subscriptions. -/
  callbacks : ∀ topic id, id ∈ (s.topics topic).callbacks ↔ Subscribed log topic id
  /-- Each can be removed. -/
  removers : ∀ topic id, s.removers id = some topic ↔ Subscribed log topic id
  /-- They are in the order of their ids. -/
  ordered : ∀ topic, (s.topics topic).callbacks.Pairwise (· < ·)
  /-- The next id is new. -/
  ids : ∀ topic id, .subscribed topic id ∈ log → id < s.nextId
  /-- No id is removed before it is given out. -/
  removed : ∀ id, .unsubscribed id ∈ log → id < s.nextId
  /-- The next number is new. -/
  numbers : ∀ topic number value, .published topic number value ∈ log → number < s.published
  /-- A retained topic keeps its last publication. -/
  retained : ∀ topic, isRetained topic = true →
    (s.topics topic).retained = lastPublished topic log

/-- What holds of the log and the bus after every action. -/
structure Invariant (log : List (Event τ α)) (s : Bus τ α) : Prop where
  /-- The bus is what the log says. -/
  registered : Registered isRetained log s
  /-- Each event is justified. -/
  grounded : Grounded (Justified isRetained) log
  /-- The publications that are not over. -/
  frames : ∀ topic number value pending, .dispatch topic number value pending ∈ s.running →
    Dispatching log topic number value pending
  /-- No publication runs twice. -/
  apart : s.running.Pairwise fun frame frame' =>
    ∀ number, frame.number? = some number → frame'.number? ≠ some number
  /-- What was published is over or runs. -/
  opened : ∀ topic number value, .published topic number value ∈ log → Opened log s.running number

end Invariant

/-! ## More events -/

section Append

variable {log events : List (Event τ α)} {topic : τ} {id : SubscriptionId} {number : ℕ} {value : α}
  {pending : List SubscriptionId}

/-- A call, or the end of a publication. -/
def Event.IsTraffic : Event τ α → Prop
  | .called _ _ _ _ => True
  | .finished _ => True
  | _ => False

/-- A turn of a publication logs calls and the end of the publication, and nothing else. -/
theorem Bus.dispatch_isTraffic (s : Bus τ α) (topic : τ) (number : ℕ) (value : α)
    (pending : List SubscriptionId) :
    ∀ event ∈ (s.dispatch topic number value pending).2, event.IsTraffic := by
  unfold Bus.dispatch
  split
  · simp [Event.IsTraffic]
  · simp [Event.IsTraffic]

/-- Events that neither subscribe nor unsubscribe a callback leave whether it is subscribed. -/
theorem subscribed_append (hsubscribed : .subscribed topic id ∉ events)
    (hunsubscribed : .unsubscribed id ∉ events) :
    Subscribed (log ++ events) topic id ↔ Subscribed log topic id := by
  simp [Subscribed, hsubscribed, hunsubscribed]

/-- A publication that a callback has been served stays served. -/
theorem Served.append (h : Served log topic id number value) (events : List (Event τ α)) :
    Served (log ++ events) topic id number value := by
  rcases h with hcalled | hgone
  · exact Or.inl (List.mem_append_left _ hcalled)
  · exact Or.inr (List.mem_append_left _ hgone)

/-- Events that call none of the pending callbacks with the value leave it pending. -/
theorem Dispatching.append (h : Dispatching log topic number value pending)
    (hcalled : ∀ id ∈ pending, .called topic id number value ∉ events) :
    Dispatching (log ++ events) topic number value pending := by
  obtain ⟨before, mid, hlog, hsorted, hpending, hserved⟩ := h
  refine ⟨before, mid ++ events, by rw [hlog]; simp, hsorted, fun id hid => ?_, fun id hid hnot => ?_⟩
  · refine ⟨(hpending id hid).1, fun hmem => ?_⟩
    rcases List.mem_append.mp hmem with hmem | hmem
    · exact (hpending id hid).2 hmem
    · exact hcalled id hid hmem
  · exact (hserved id hid hnot).append events

/-- A publication whose callbacks are still being called has been logged. -/
theorem Dispatching.mem_published (h : Dispatching log topic number value pending) :
    .published topic number value ∈ log := by
  obtain ⟨before, mid, hlog, -⟩ := h
  rw [hlog]
  exact List.mem_append_right _ List.mem_cons_self

/-- A publication stays over or runs, when more happens and nothing returns. -/
theorem Opened.append {running running' : List (Frame τ α)} (h : Opened log running number)
    (events : List (Event τ α)) (hrunning : running ⊆ running') :
    Opened (log ++ events) running' number := by
  rcases h with hover | ⟨topic, value, pending, hmem⟩
  · exact Or.inl (List.mem_append_left _ hover)
  · exact Or.inr ⟨topic, value, pending, hrunning hmem⟩

/-- It is the innermost one that runs, or does not need it. -/
theorem Opened.pop {frame : Frame τ α} {running : List (Frame τ α)}
    (h : Opened log (frame :: running) number) :
    frame.number? = some number ∨ Opened log running number := by
  rcases h with hover | ⟨topic, value, pending, hmem⟩
  · exact Or.inr (Or.inl hover)
  · rcases List.mem_cons.mp hmem with rfl | hmem
    · exact Or.inl rfl
    · exact Or.inr (Or.inr ⟨topic, value, pending, hmem⟩)

/-- The publications further down in the stack are others. -/
theorem number_ne_of_apart {running : List (Frame τ α)}
    (h : (Frame.dispatch topic number value pending :: running).Pairwise fun frame frame' =>
      ∀ number, frame.number? = some number → frame'.number? ≠ some number) {topic' : τ}
    {number' : ℕ} {value' : α} {pending' : List SubscriptionId}
    (hmem : .dispatch topic' number' value' pending' ∈ running) : number' ≠ number := by
  rintro rfl
  exact (List.pairwise_cons.mp h).1 _ hmem number' rfl rfl

variable [DecidableEq τ]

/-- Events that publish nothing on a topic leave the last publication there. -/
theorem lastPublished_append (h : ∀ event ∈ events, event.publication? topic = none) :
    lastPublished topic (log ++ events) = lastPublished topic log := by
  rw [lastPublished, List.filterMap_append, List.filterMap_eq_nil_iff.mpr h, List.append_nil,
    lastPublished]

/-- An event that publishes nothing on a topic leaves the last publication there. -/
theorem lastPublished_concat {event : Event τ α} (h : event.publication? topic = none) :
    lastPublished topic (log ++ [event]) = lastPublished topic log := by
  refine lastPublished_append fun other hother => ?_
  rw [List.mem_singleton.mp hother]
  exact h

/-- The last publication on a topic has been published. -/
theorem mem_of_lastPublished (h : lastPublished topic log = some (number, value)) :
    .published topic number value ∈ log := by
  obtain ⟨event, hevent, hpublication⟩ := List.mem_filterMap.mp (List.mem_of_getLast? h)
  cases event with
  | published other number' value' =>
    dsimp only [Event.publication?] at hpublication
    split at hpublication
    · next htopic =>
      obtain ⟨rfl, rfl⟩ := Prod.mk.inj (Option.some.inj hpublication)
      rw [← htopic]
      exact hevent
    · cases hpublication
  | subscribed | unsubscribed | called | finished => cases hpublication

variable {isRetained : τ → Bool} {s : Bus τ α}

/-- The lists and tables account for a log with more calls and ends of publications. -/
theorem Registered.traffic (h : Registered isRetained log s)
    (htraffic : ∀ event ∈ events, event.IsTraffic) (running : List (Frame τ α)) :
    Registered isRetained (log ++ events) { s with running } := by
  -- The traffic has no registrations in it, so each of what the log tells of them is told by its
  -- old part.
  have hsubscribed (topic : τ) (id : SubscriptionId) : .subscribed topic id ∉ events :=
    fun hmem => htraffic _ hmem
  have hunsubscribed (id : SubscriptionId) : .unsubscribed id ∉ events :=
    fun hmem => htraffic _ hmem
  have hpublished (topic : τ) (number : ℕ) (value : α) : .published topic number value ∉ events :=
    fun hmem => htraffic _ hmem
  have hpublication (topic : τ) : ∀ event ∈ events, event.publication? topic = none := by
    intro event hevent
    cases event with
    | published other number value => exact absurd hevent (hpublished other number value)
    | subscribed | unsubscribed | called | finished => rfl
  refine ⟨fun topic id => ?_, fun topic id => ?_, h.ordered, fun topic id hmem => ?_,
    fun id hmem => ?_, fun topic number value hmem => ?_, fun topic hretained => ?_⟩
  -- The rest asks the log for registrations and publications only.
  · rw [subscribed_append (hsubscribed topic id) (hunsubscribed id)]
    exact h.callbacks topic id
  · rw [subscribed_append (hsubscribed topic id) (hunsubscribed id)]
    exact h.removers topic id
  · exact h.ids topic id ((List.mem_append.mp hmem).resolve_right (hsubscribed topic id))
  · exact h.removed id ((List.mem_append.mp hmem).resolve_right (hunsubscribed id))
  · exact h.numbers topic number value
      ((List.mem_append.mp hmem).resolve_right (hpublished topic number value))
  · rw [lastPublished_append (hpublication topic)]
    exact h.retained topic hretained

/-- The lists and tables account for the log whatever is running. -/
theorem Registered.pop (h : Registered isRetained log s) (running : List (Frame τ α)) :
    Registered isRetained log { s with running } :=
  ⟨h.callbacks, h.removers, h.ordered, h.ids, h.removed, h.numbers, h.retained⟩

/-- Who is called with a value is called with a publication that has started. -/
theorem mem_published_of_called (h : Grounded (Justified isRetained) log)
    (hcalled : .called topic id number value ∈ log) : .published topic number value ∈ log := by
  obtain ⟨pre, post, rfl, hjustified⟩ := h.of_mem hcalled
  rcases hjustified with ⟨before, rfl, -, hlast⟩ | ⟨before, mid, rfl, -⟩
  · have hmem := mem_of_lastPublished hlast
    simp [hmem]
  · simp

end Append

/-! ## The actions -/

section Actions

variable [DecidableEq τ] {isRetained : τ → Bool} {log : List (Event τ α)} {s : Bus τ α}

/-- A callback that was there when the publication started and is there no more is gone. -/
theorem served_of_notMem (h : Registered isRetained log s) {before mid : List (Event τ α)}
    {topic : τ} {number : ℕ} {value : α} {id : SubscriptionId}
    (hlog : log = before ++ .published topic number value :: mid)
    (hsubscribed : Subscribed before topic id) (hnot : id ∉ (s.topics topic).callbacks) :
    Served mid topic id number value := by
  have hunsubscribed : .unsubscribed id ∈ log := by
    by_contra hmem
    refine hnot ((h.callbacks topic id).mpr ⟨?_, hmem⟩)
    rw [hlog]
    exact List.mem_append_left _ hsubscribed.1
  rw [hlog] at hunsubscribed
  rcases List.mem_append.mp hunsubscribed with hmem | hmem
  · exact absurd hmem hsubscribed.2
  · rcases List.mem_cons.mp hmem with heq | hmem
    · cases heq
    · exact Or.inr hmem

/-- The invariant is kept when no callback is left to be called and the publication ends. -/
theorem Invariant.finish {topic : τ} {number : ℕ} {value : α} {pending : List SubscriptionId}
    (h : Invariant isRetained log
      { s with running := .dispatch topic number value pending :: s.running })
    (hnone : ∀ id ∈ pending, id ∉ (s.topics topic).callbacks) :
    Invariant isRetained (log ++ [.finished number]) s := by
  obtain ⟨before, mid, hlog, -, hpending, hserved⟩ :=
    h.frames topic number value pending List.mem_cons_self
  -- Those whose turn was still to come are gone, and all others have been served.
  refine ⟨h.registered.traffic (by simp [Event.IsTraffic]) s.running, h.grounded.concat ?_, ?_,
    (List.pairwise_cons.mp h.apart).2, ?_⟩
  · refine ⟨topic, value, before, mid, hlog, fun id hid => ?_⟩
    by_cases hmem : id ∈ pending
    · exact served_of_notMem h.registered hlog hid (hnone id hmem)
    · exact hserved id hid hmem
  · intro topic' number' value' pending' hmem
    exact (h.frames _ _ _ _ (List.mem_cons_of_mem _ hmem)).append (by simp)
  · intro topic' number' value' hpublished
    have hpublished := (List.mem_append.mp hpublished).resolve_right (by simp)
    rcases (h.opened topic' number' value' hpublished).pop with heq | hopened
    · obtain rfl := Option.some.inj heq
      exact Or.inl (List.mem_append_right _ List.mem_cons_self)
    · exact hopened.append _ (List.Subset.refl _)

/-- The invariant is kept when those that have gone are skipped and the next callback that is still
there is called. -/
theorem Invariant.call {topic : τ} {number : ℕ} {value : α}
    {skipped pending : List SubscriptionId} {id : SubscriptionId}
    (h : Invariant isRetained log
      { s with running := .dispatch topic number value (skipped ++ id :: pending) :: s.running })
    (hskipped : ∀ other ∈ skipped, other ∉ (s.topics topic).callbacks) :
    Invariant isRetained (log ++ [.called topic id number value])
      { s with running := .dispatch topic number value pending :: s.running } := by
  obtain ⟨before, mid, hlog, hsorted, hpending, hserved⟩ :=
    h.frames topic number value _ List.mem_cons_self
  obtain ⟨-, hrest, hbefore⟩ := List.pairwise_append.mp hsorted
  obtain ⟨hlater, hrest⟩ := List.pairwise_cons.mp hrest
  have hid := hpending id (by simp)
  -- Whoever was there at the start and is not pending has been served.
  have hpassed : ∀ other, Subscribed before topic other → other ∉ id :: pending →
      Served mid topic other number value := by
    intro other hother hnot
    by_cases hmem : other ∈ skipped
    · exact served_of_notMem h.registered hlog hother (hskipped other hmem)
    · exact hserved other hother fun hin => (List.mem_append.mp hin).elim hmem hnot
  refine ⟨h.registered.traffic (by simp [Event.IsTraffic]) _, h.grounded.concat (Or.inr ?_), ?_,
    ?_, ?_⟩
  · refine ⟨before, mid, hlog, hid.1, hid.2, fun earlier hlt hearlier => ?_⟩
    refine hpassed earlier hearlier fun hmem => ?_
    rcases List.mem_cons.mp hmem with rfl | hmem
    · exact Nat.lt_irrefl _ hlt
    · exact Nat.lt_asymm hlt (hlater earlier hmem)
  · -- The frame of this publication loses the callback; the others are about other numbers.
    intro topic' number' value' pending' hmem
    rcases List.mem_cons.mp hmem with heq | hmem
    · cases heq
      refine ⟨before, mid ++ [.called topic id number value], by rw [hlog]; simp, hrest,
        fun other hother => ⟨(hpending other (by simp [hother])).1, fun hcalled => ?_⟩,
        fun other hother hnot => ?_⟩
      · rcases List.mem_append.mp hcalled with hcalled | hcalled
        · exact (hpending other (by simp [hother])).2 hcalled
        · have heq : other = id := by simpa using hcalled
          exact Nat.ne_of_gt (hlater other hother) heq
      · by_cases heq : other = id
        · rw [heq]
          exact Or.inl (by simp)
        · exact (hpassed other hother (by simp [heq, hnot])).append _
    · have hne := number_ne_of_apart h.apart hmem
      exact (h.frames _ _ _ _ (List.mem_cons_of_mem _ hmem)).append (by simp [hne])
  · obtain ⟨hfirst, hrunning⟩ := List.pairwise_cons.mp h.apart
    exact List.pairwise_cons.mpr ⟨hfirst, hrunning⟩
  · intro topic' number' value' hpublished
    have hpublished := (List.mem_append.mp hpublished).resolve_right (by simp)
    rcases (h.opened topic' number' value' hpublished).pop with heq | hopened
    · obtain rfl := Option.some.inj heq
      exact Or.inr ⟨topic, value, pending, List.mem_cons_self⟩
    · exact hopened.append _ (List.subset_cons_self _ _)

/-- The invariant is kept by the next turn of a publication: it calls the next callback that is
there, or ends. -/
theorem Invariant.dispatch {topic : τ} {number : ℕ} {value : α} {pending : List SubscriptionId}
    (h : Invariant isRetained log
      { s with running := .dispatch topic number value pending :: s.running }) :
    Invariant isRetained (log ++ (s.dispatch topic number value pending).2)
      (s.dispatch topic number value pending).1 := by
  unfold Bus.dispatch
  have hsplit := List.takeWhile_append_dropWhile (p := (· ∉ (s.topics topic).callbacks))
    (l := pending)
  have hskipped : ∀ id ∈ pending.takeWhile (· ∉ (s.topics topic).callbacks),
      id ∉ (s.topics topic).callbacks := by
    intro id hid
    simpa using List.all_eq_true.mp List.all_takeWhile id hid
  cases hlive : pending.dropWhile (· ∉ (s.topics topic).callbacks) with
  | nil =>
    rw [hlive, List.append_nil] at hsplit
    rw [hsplit] at hskipped
    exact h.finish hskipped
  | cons id rest =>
    rw [hlive] at hsplit
    rw [← hsplit] at h
    exact h.call hskipped

/-- The new id is the last of its topic, and there is nothing else to remember. -/
theorem Registered.subscribe (h : Registered isRetained log s) (topic : τ)
    (running : List (Frame τ α)) :
    Registered isRetained (log ++ [.subscribed topic s.nextId])
      { s with
        topics := Function.update s.topics topic
          { s.topics topic with callbacks := (s.topics topic).callbacks ++ [s.nextId] }
        nextId := s.nextId + 1
        removers := Function.update s.removers s.nextId (some topic)
        running } := by
  have hfresh : .unsubscribed s.nextId ∉ log := fun hmem => Nat.lt_irrefl _ (h.removed _ hmem)
  have hnone : ∀ other, ¬ Subscribed log other s.nextId := fun other hsubscribed =>
    Nat.lt_irrefl _ (h.ids other _ hsubscribed.1)
  -- The subscriptions afterwards are those before and the new one.
  have hsubscribed : ∀ other id, Subscribed (log ++ [.subscribed topic s.nextId]) other id ↔
      (other = topic ∧ id = s.nextId) ∨ Subscribed log other id := by
    intro other id
    constructor
    · rintro ⟨hmem, hnot⟩
      rcases List.mem_append.mp hmem with hmem | hmem
      · exact Or.inr ⟨hmem, fun hin => hnot (List.mem_append_left _ hin)⟩
      · cases List.mem_singleton.mp hmem
        exact Or.inl ⟨rfl, rfl⟩
    · rintro (⟨rfl, rfl⟩ | ⟨hmem, hnot⟩)
      · exact ⟨by simp, by simpa using hfresh⟩
      · exact ⟨List.mem_append_left _ hmem, by simpa using hnot⟩
  refine ⟨fun other id => ?_, fun other id => ?_, fun other => ?_, fun other id hmem => ?_,
    fun id hmem => ?_, fun other number value hmem => ?_, fun other hretained => ?_⟩
  · rw [hsubscribed]
    by_cases hother : other = topic
    · subst hother
      simp [← h.callbacks, or_comm]
    · simp [hother, h.callbacks]
  · rw [hsubscribed]
    by_cases hid : id = s.nextId
    · subst hid
      simp [hnone, eq_comm]
    · simp [hid, h.removers]
  · by_cases hother : other = topic
    · subst hother
      dsimp only
      rw [Function.update_self]
      refine List.pairwise_append.mpr ⟨h.ordered other, List.pairwise_singleton _ _, ?_⟩
      intro id hid last hlast
      rw [List.mem_singleton.mp hlast]
      exact h.ids other id ((h.callbacks other id).mp hid).1
    · dsimp only
      rw [Function.update_of_ne hother]
      exact h.ordered other
  · rcases List.mem_append.mp hmem with hmem | hmem
    · exact Nat.lt_succ_of_lt (h.ids other id hmem)
    · cases List.mem_singleton.mp hmem
      exact Nat.lt_succ_self _
  · exact Nat.lt_succ_of_lt (h.removed id ((List.mem_append.mp hmem).resolve_right (by simp)))
  · exact h.numbers other number value ((List.mem_append.mp hmem).resolve_right (by simp))
  · have hlast : lastPublished other (log ++ [.subscribed topic s.nextId]) =
        lastPublished other log :=
      lastPublished_concat rfl
    rw [hlast, ← h.retained other hretained]
    by_cases hother : other = topic
    · subst hother
      simp
    · simp [Function.update_of_ne hother]

/-- A new id is not among those whose turn is still to come. -/
theorem Invariant.notMem_pending (h : Invariant isRetained log s) {topic : τ} {number : ℕ}
    {value : α} {pending : List SubscriptionId}
    (hmem : .dispatch topic number value pending ∈ s.running) : s.nextId ∉ pending := by
  intro hpending
  obtain ⟨before, mid, hlog, -, hall, -⟩ := h.frames topic number value pending hmem
  have hsubscribed : .subscribed topic s.nextId ∈ log := by
    rw [hlog]
    exact List.mem_append_left _ (hall _ hpending).1.1
  exact Nat.lt_irrefl _ (h.registered.ids topic _ hsubscribed)

/-- `subscribe` keeps the invariant. -/
theorem Invariant.subscribe (h : Invariant isRetained log s) (topic : τ) :
    Invariant isRetained (log ++ (s.subscribe isRetained topic).2)
      (s.subscribe isRetained topic).1 := by
  have hfresh : Justified isRetained log (.subscribed topic s.nextId) :=
    ⟨fun other hmem => Nat.lt_irrefl _ (h.registered.ids other _ hmem),
      fun hmem => Nat.lt_irrefl _ (h.registered.removed _ hmem)⟩
  have hgrounded := h.grounded.concat hfresh
  unfold Bus.subscribe
  dsimp only
  rw [Function.update_self]
  cases hreplay : if isRetained topic = true then (s.topics topic).retained else none with
  | none =>
    -- Nothing is retained, and the handler is not called.
    refine ⟨h.registered.subscribe topic s.running, hgrounded, fun _ _ _ _ hmem => ?_, h.apart,
      fun other number value hmem => ?_⟩
    · exact (h.frames _ _ _ _ hmem).append (by simp)
    · have hopened := h.opened other number value ((List.mem_append.mp hmem).resolve_right (by simp))
      exact hopened.append _ (List.Subset.refl _)
  | some last =>
    obtain ⟨number, value⟩ := last
    have hretained : isRetained topic = true := by
      by_contra hnot
      rw [if_neg hnot] at hreplay
      cases hreplay
    rw [if_pos hretained, h.registered.retained topic hretained] at hreplay
    -- The replay comes right after the subscription.
    have hevents : log ++ [.subscribed topic s.nextId, .called topic s.nextId number value] =
        (log ++ [.subscribed topic s.nextId]) ++ [.called topic s.nextId number value] := by simp
    refine ⟨?_, ?_, fun other number' value' pending hmem => ?_, ?_, fun other number' value' hmem => ?_⟩
    · rw [hevents]
      exact (h.registered.subscribe topic s.running).traffic (by simp [Event.IsTraffic])
        (.replay :: s.running)
    · rw [hevents]
      exact hgrounded.concat (Or.inl ⟨log, rfl, hretained, hreplay⟩)
    · have hmem : .dispatch other number' value' pending ∈ s.running := by simpa using hmem
      have hnot := h.notMem_pending hmem
      refine (h.frames other number' value' pending hmem).append fun id hid hcalled => ?_
      have heq : id = s.nextId := by
        simp only [List.mem_cons, reduceCtorEq, Event.called.injEq, List.not_mem_nil, or_false,
          false_or] at hcalled
        exact hcalled.2.1
      exact hnot (heq ▸ hid)
    · exact List.pairwise_cons.mpr ⟨(fun _ _ _ hnumber => nomatch hnumber), h.apart⟩
    · have hopened := h.opened other number' value' (by simpa using hmem)
      exact hopened.append _ (List.subset_cons_self _ _)

/-- The lists and tables account for the log after an unsubscription: the callback is no longer in
the list of its topic. -/
theorem Registered.unsubscribe (h : Registered isRetained log s) {topic : τ} {id : SubscriptionId}
    (hremover : s.removers id = some topic) :
    Registered isRetained (log ++ [.unsubscribed id])
      { s with
        topics := Function.update s.topics topic
          { s.topics topic with callbacks := (s.topics topic).callbacks.filter (· ≠ id) }
        removers := Function.update s.removers id none } := by
  -- The subscription that is taken back is one of the log.
  have hown := (h.removers topic id).mp hremover
  -- What is taken back is just the one id; all others are subscribed as they were.
  have hsubscribed : ∀ other x, Subscribed (log ++ [.unsubscribed id]) other x ↔
      x ≠ id ∧ Subscribed log other x := by
    intro other x
    simp only [Subscribed, List.mem_append, List.mem_singleton, reduceCtorEq, or_false,
      Event.unsubscribed.injEq, not_or]
    constructor
    · rintro ⟨hmem, hnot, hne⟩
      exact ⟨hne, hmem, hnot⟩
    · rintro ⟨hne, hmem, hnot⟩
      exact ⟨hmem, hnot, hne⟩
  refine ⟨fun other x => ?_, fun other x => ?_, fun other => ?_, fun other x hmem => ?_,
    fun x hmem => ?_, fun other number value hmem => ?_, fun other hretained => ?_⟩
  -- Its callback is gone from the list of its topic, and from no other list.
  · rw [hsubscribed, ← h.callbacks]
    by_cases hother : other = topic
    · subst hother
      simp [and_comm]
    · -- The id is in the list of its own topic only.
      have hne : x ∈ (s.topics other).callbacks → x ≠ id := by
        rintro hmem rfl
        have hboth := (h.removers other x).mpr ((h.callbacks other x).mp hmem)
        rw [hremover] at hboth
        exact hother (Option.some.inj hboth).symm
      simpa [hother] using hne
  -- Its remover is gone, and the others are those of the log.
  · rw [hsubscribed, ← h.removers]
    by_cases hx : x = id
    · subst hx
      simp
    · simp [hx]
  · by_cases hother : other = topic
    · subst hother
      dsimp only
      rw [Function.update_self]
      exact (h.ordered other).filter _
    · dsimp only
      rw [Function.update_of_ne hother]
      exact h.ordered other
  · exact h.ids other x ((List.mem_append.mp hmem).resolve_right (by simp))
  -- A subscription that has been taken back was given out before.
  · rcases List.mem_append.mp hmem with hmem | hmem
    · exact h.removed x hmem
    · cases List.mem_singleton.mp hmem
      exact h.ids topic id hown.1
  · exact h.numbers other number value ((List.mem_append.mp hmem).resolve_right (by simp))
  -- No publication has been added, so the retained values stay.
  · have hlast : lastPublished other (log ++ [.unsubscribed id]) = lastPublished other log :=
      lastPublished_concat rfl
    rw [hlast, ← h.retained other hretained]
    by_cases hother : other = topic
    · subst hother
      simp
    · simp [Function.update_of_ne hother]

/-- `unsubscribe` keeps the invariant. -/
theorem Invariant.unsubscribe (h : Invariant isRetained log s) (id : SubscriptionId) :
    Invariant isRetained (log ++ (s.unsubscribe id).2) (s.unsubscribe id).1 := by
  unfold Bus.unsubscribe
  cases hremover : s.removers id with
  | none =>
    dsimp only
    rw [List.append_nil]
    exact h
  | some topic =>
    refine ⟨h.registered.unsubscribe hremover, h.grounded.concat trivial, fun _ _ _ _ hmem => ?_,
      h.apart, fun other number value hmem => ?_⟩
    · exact (h.frames _ _ _ _ hmem).append (by simp)
    · have hopened := h.opened other number value ((List.mem_append.mp hmem).resolve_right (by simp))
      exact hopened.append _ (List.Subset.refl _)

/-- The lists and tables account for the log after a publication: its value is retained, if the
topic is, and its number is used up. -/
theorem Registered.publish (h : Registered isRetained log s) (topic : τ) (value : α)
    (running : List (Frame τ α)) :
    Registered isRetained (log ++ [.published topic s.published value])
      { s with
        topics := Function.update s.topics topic
          { s.topics topic with
            retained := if isRetained topic then some (s.published, value)
              else (s.topics topic).retained }
        published := s.published + 1
        running } := by
  refine ⟨fun other id => ?_, fun other id => ?_, fun other => ?_, fun other id hmem => ?_,
    fun id hmem => ?_, fun other number value' hmem => ?_, fun other hretained => ?_⟩
  -- A publication adds no subscription and takes none away.
  · rw [subscribed_append (by simp) (by simp), ← h.callbacks]
    by_cases hother : other = topic
    · subst hother
      simp
    · simp [hother]
  · rw [subscribed_append (by simp) (by simp)]
    exact h.removers other id
  · by_cases hother : other = topic
    · subst hother
      simpa using h.ordered other
    · simpa [hother] using h.ordered other
  · exact h.ids other id ((List.mem_append.mp hmem).resolve_right (by simp))
  · exact h.removed id ((List.mem_append.mp hmem).resolve_right (by simp))
  -- The number is new, and greater than all those before.
  · rcases List.mem_append.mp hmem with hmem | hmem
    · exact Nat.lt_succ_of_lt (h.numbers other number value' hmem)
    · cases List.mem_singleton.mp hmem
      exact Nat.lt_succ_self _
  -- A topic that keeps its last value has the new one, and the others keep theirs.
  · by_cases hother : other = topic
    · subst hother
      simp [hretained, lastPublished, List.filterMap_append, Event.publication?]
    · have hlast : lastPublished other (log ++ [.published topic s.published value]) =
          lastPublished other log :=
        lastPublished_concat (if_neg (Ne.symm hother))
      rw [hlast, ← h.retained other hretained]
      simp [hother]

/-- `publish` keeps the invariant. -/
theorem Invariant.publish (h : Invariant isRetained log s) (topic : τ) (value : α) :
    Invariant isRetained (log ++ (s.publish isRetained topic value).2)
      (s.publish isRetained topic value).1 := by
  have hnew : ∀ other value', .published other s.published value' ∉ log := fun other value' hmem =>
    Nat.lt_irrefl _ (h.registered.numbers other _ value' hmem)
  -- The publication starts, with the turn of all callbacks still to come.
  have hstart : Invariant isRetained (log ++ [.published topic s.published value])
      { s with
        topics := Function.update s.topics topic
          { s.topics topic with
            retained := if isRetained topic then some (s.published, value)
              else (s.topics topic).retained }
        published := s.published + 1
        running := .dispatch topic s.published value (s.topics topic).callbacks :: s.running } := by
    refine ⟨h.registered.publish topic value _, h.grounded.concat hnew,
      fun other number value' pending hmem => ?_, List.pairwise_cons.mpr ⟨?_, h.apart⟩,
      fun other number value' hmem => ?_⟩
    · rcases List.mem_cons.mp hmem with heq | hmem
      · cases heq
        refine ⟨log, [], rfl, h.registered.ordered topic, fun id hid => ⟨?_, fun hcalled => ?_⟩,
          fun id hid hnot => ?_⟩
        · exact (h.registered.callbacks topic id).mp hid
        · have hcalled := (List.mem_append.mp hcalled).resolve_right (by simp)
          exact hnew topic value (mem_published_of_called h.grounded hcalled)
        · exact absurd ((h.registered.callbacks topic id).mpr hid) hnot
      · exact (h.frames _ _ _ _ hmem).append (by simp)
    · intro frame hframe number hnumber
      obtain rfl := Option.some.inj hnumber
      cases frame with
      | replay => exact nofun
      | dispatch other number value' pending =>
        intro heq
        obtain rfl := Option.some.inj heq
        exact hnew other value' (h.frames _ _ _ _ hframe).mem_published
    · rcases List.mem_append.mp hmem with hmem | hmem
      · exact (h.opened other number value' hmem).append _ (List.subset_cons_self _ _)
      · cases List.mem_singleton.mp hmem
        exact Or.inr ⟨topic, value, (s.topics topic).callbacks, List.mem_cons_self⟩
  have hdispatch := Invariant.dispatch (s := { s with
    topics := Function.update s.topics topic
      { s.topics topic with
        retained := if isRetained topic then some (s.published, value)
          else (s.topics topic).retained }
    published := s.published + 1 }) hstart
  unfold Bus.publish
  dsimp only
  rw [Function.update_self]
  rw [List.append_assoc] at hdispatch
  exact hdispatch

/-- The return of a handler keeps the invariant. -/
theorem Invariant.handlerReturns (h : Invariant isRetained log s) :
    Invariant isRetained (log ++ s.handlerReturns.2) s.handlerReturns.1 := by
  unfold Bus.handlerReturns
  cases hrunning : s.running with
  | nil =>
    dsimp only
    rw [List.append_nil]
    exact h
  -- The handler at the top of the stack returns, and with it its dispatch goes on.
  | cons frame running =>
    have hframe : Invariant isRetained log { s with running := frame :: running } := by
      rw [← hrunning]
      exact h
    cases frame with
    -- The replay to a new subscriber is over and leaves its frame.
    | replay =>
      dsimp only
      rw [List.append_nil]
      refine ⟨h.registered.pop running, hframe.grounded, fun _ _ _ _ hmem => ?_,
        (List.pairwise_cons.mp hframe.apart).2, fun topic number value hmem => ?_⟩
      · exact hframe.frames _ _ _ _ (List.mem_cons_of_mem _ hmem)
      · exact (hframe.opened topic number value hmem).pop.resolve_left nofun
    | dispatch topic number value pending =>
      exact @Invariant.dispatch _ _ _ isRetained log { s with running } topic number value pending
        hframe

/-- Every action keeps the invariant. -/
theorem Invariant.step (h : Invariant isRetained log s) (action : Action τ α) :
    Invariant isRetained (log ++ (s.step isRetained action).2) (s.step isRetained action).1 := by
  cases action with
  | subscribe topic => exact h.subscribe topic
  | unsubscribe id => exact h.unsubscribe id
  | publish topic value => exact h.publish topic value
  | handlerReturns => exact h.handlerReturns

end Actions

end Zwaved.MessageBus
