import Mathlib.Algebra.GroupWithZero.Nat
import Zwaved.MessageBus.Delivery

/-!
# Every value is delivered once

What the invariant of the bus says about a log as a whole (`ExactlyOnce`): a new subscriber of a
retained topic is called with the last value and nothing else that is older, and with every value
whose publication starts while it is subscribed once. A publication has one place in the log, its
number being new, so what is justified at a call or at the end of a publication is about that place.

`delivers_exactly_once` is about every run of the bus: what the handlers do in their turn, and how
deep they do it, makes no difference.
-/

namespace Zwaved.MessageBus

open Reactive

variable {τ α : Type}

/-- The calls that are still to be made or to return. -/
def Frame.remaining : Frame τ α → ℕ
  | .replay => 1
  | .dispatch _ _ _ pending => pending.length + 1

/-- The calls of all that is running. -/
def Bus.remaining (s : Bus τ α) : ℕ := (s.running.map Frame.remaining).sum

/-- A turn makes one call at most of those that were to come. -/
theorem Bus.remaining_dispatch_le (s : Bus τ α) (topic : τ) (number : ℕ) (value : α)
    (pending : List SubscriptionId) :
    (s.dispatch topic number value pending).1.remaining ≤ pending.length + s.remaining := by
  unfold Bus.dispatch
  have hlength := (List.dropWhile_sublist (l := pending)
    (· ∉ (s.topics topic).callbacks)).length_le
  cases hlive : pending.dropWhile (· ∉ (s.topics topic).callbacks) with
  | nil => exact Nat.le_add_left _ _
  | cons id rest =>
    rw [hlive, List.length_cons] at hlength
    exact Nat.add_le_add_right hlength s.remaining

/-- A handler that returns leaves less to do. -/
theorem Bus.remaining_handlerReturns_lt {s : Bus τ α} (h : s.running ≠ []) :
    s.handlerReturns.1.remaining < s.remaining := by
  unfold Bus.handlerReturns
  cases hrunning : s.running with
  | nil => exact absurd hrunning h
  | cons frame running =>
    have hall : s.remaining = frame.remaining + (running.map Frame.remaining).sum := by
      rw [Bus.remaining, hrunning, List.map_cons, List.sum_cons]
    rw [hall]
    cases frame with
    | replay => exact Nat.lt_add_of_pos_left Nat.one_pos
    | dispatch topic number value pending =>
      have hturn := Bus.remaining_dispatch_le { s with running } topic number value pending
      calc ({ s with running }.dispatch topic number value pending).1.remaining
          ≤ pending.length + (running.map Frame.remaining).sum := hturn
        _ < pending.length + 1 + (running.map Frame.remaining).sum := by omega

variable [DecidableEq τ]

/-- The log delivers every value exactly once. -/
structure ExactlyOnce [DecidableEq α] (isRetained : τ → Bool) (log : List (Event τ α)) : Prop where
  /-- No two publications have the same number. -/
  numbered {number : ℕ} :
    OnlyOnce (fun event => ∃ topic value, event = .published topic number value) log
  /-- A new subscriber of a retained topic is called with the last value, if there is one. -/
  replay {pre post : List (Event τ α)} {topic : τ} {id : SubscriptionId} {number : ℕ} {value : α}
    (subscribed : log = pre ++ .subscribed topic id :: post) (retained : isRetained topic = true)
    (last : lastPublished topic pre = some (number, value)) :
    ∃ rest, post = .called topic id number value :: rest
  /-- A subscriber is called with nothing but this value and those that were published while it was
  subscribed. -/
  source {topic : τ} {id : SubscriptionId} {number : ℕ} {value : α}
    (called : .called topic id number value ∈ log) :
    (∃ pre post, log = pre ++ .subscribed topic id :: .called topic id number value :: post ∧
      isRetained topic = true ∧ lastPublished topic pre = some (number, value)) ∨
    ∃ pre post, log = pre ++ .published topic number value :: post ∧ Subscribed pre topic id
  /-- A subscriber is called with a value once at most. -/
  once {topic : τ} {id : SubscriptionId} {number : ℕ} {value : α} :
    log.count (.called topic id number value) ≤ 1
  /-- When a publication is over, the subscribers that were there at its start and have not gone
  have been called. -/
  all {pre mid post : List (Event τ α)} {topic : τ} {id : SubscriptionId} {number : ℕ} {value : α}
    (ended : log = pre ++ .published topic number value :: (mid ++ .finished number :: post))
    (subscribed : Subscribed pre topic id) : Served mid topic id number value
  /-- A subscriber that is passed over had gone before its turn. -/
  turn {pre mid post : List (Event τ α)} {topic : τ} {id later : SubscriptionId} {number : ℕ}
    {value : α}
    (reached : log =
      pre ++ .published topic number value :: (mid ++ .called topic later number value :: post))
    (subscribed : Subscribed pre topic id) (behind : Subscribed pre topic later) (lt : id < later) :
    Served mid topic id number value

/-! ## The replay -/

section Replay

variable (isRetained : τ → Bool)

/-- A new subscriber of a retained topic is called with the last value at once. -/
def Replayed (log : List (Event τ α)) : Prop :=
  ∀ pre topic id post number value, log = pre ++ .subscribed topic id :: post →
    isRetained topic = true → lastPublished topic pre = some (number, value) →
    ∃ rest, post = .called topic id number value :: rest

variable {isRetained} {log events : List (Event τ α)} {s : Bus τ α}

/-- The replays stay right behind events that subscribe nobody. -/
theorem Replayed.append (h : Replayed isRetained log)
    (hevents : ∀ topic id, .subscribed topic id ∉ events) : Replayed isRetained (log ++ events) := by
  intro pre topic id post number value heq hretained hlast
  obtain ⟨post', rfl, hlog⟩ := append_eq_append_cons heq (hevents topic id)
  obtain ⟨rest, rfl⟩ := h pre topic id post' number value hlog hretained hlast
  exact ⟨rest ++ events, rfl⟩

/-- The replays stay right when a callback subscribes: it is called with the last value of the
topic, if that is retained. -/
theorem Replayed.subscribe (h : Replayed isRetained log) (hinv : Invariant isRetained log s)
    (topic : τ) : Replayed isRetained (log ++ (s.subscribe isRetained topic).2) := by
  intro pre other id post number value heq hretained hlast
  unfold Bus.subscribe at heq
  dsimp only at heq
  rw [Function.update_self] at heq
  dsimp only at heq
  -- A new subscriber is called at once if the topic has a last value.
  cases hreplay : if isRetained topic = true then (s.topics topic).retained else none with
  | none =>
    rw [hreplay] at heq
    rcases concat_eq_append_cons heq with ⟨rfl, hevent, -⟩ | ⟨post', rfl, hlog⟩
    · -- There is no last value.
      cases hevent
      rw [if_pos hretained, hinv.registered.retained topic hretained, hlast] at hreplay
      cases hreplay
    -- The subscription is an earlier one, which has been called.
    · obtain ⟨rest, rfl⟩ := h pre other id post' number value hlog hretained hlast
      exact ⟨_, rfl⟩
  | some last =>
    obtain ⟨number', value'⟩ := last
    rw [hreplay] at heq
    dsimp only at heq
    -- The subscription and its call are two events, so that a split between them is looked for.
    have heq' : (log ++ [.subscribed topic s.nextId]) ++
        [.called topic s.nextId number' value'] = pre ++ .subscribed other id :: post := by
      rw [← heq]
      simp
    obtain ⟨post', rfl, hlog⟩ := append_eq_append_cons heq' (by simp)
    -- The subscription of the split is the new one, or one of the log.
    rcases concat_eq_append_cons hlog with ⟨rfl, hevent, rfl⟩ | ⟨post'', rfl, hplace⟩
    · cases hevent
      rw [if_pos hretained, hinv.registered.retained topic hretained, hlast] at hreplay
      cases hreplay
      exact ⟨[], rfl⟩
    · obtain ⟨rest, rfl⟩ := h pre other id post'' number value hplace hretained hlast
      exact ⟨_, rfl⟩

/-- Every action keeps the replays. -/
theorem Replayed.step (h : Replayed isRetained log) (hinv : Invariant isRetained log s)
    (action : Action τ α) : Replayed isRetained (log ++ (s.step isRetained action).2) := by
  cases action with
  | subscribe topic => exact h.subscribe hinv topic
  -- Of the other actions none logs a subscription.
  | unsubscribe id =>
    refine h.append fun topic id' hmem => ?_
    unfold Bus.step Bus.unsubscribe at hmem
    dsimp only at hmem
    split at hmem
    · cases hmem
    · cases List.mem_singleton.mp hmem
  | publish topic value =>
    refine h.append fun other id hmem => ?_
    rcases List.mem_cons.mp hmem with heq | hmem
    · cases heq
    · exact Bus.dispatch_isTraffic _ _ _ _ _ _ hmem
  | handlerReturns =>
    refine h.append fun topic id hmem => ?_
    unfold Bus.step Bus.handlerReturns at hmem
    dsimp only at hmem
    split at hmem
    · cases hmem
    · cases hmem
    · exact Bus.dispatch_isTraffic _ _ _ _ _ _ hmem

end Replay

/-! ## What the log says -/

section Log

variable {isRetained : τ → Bool} {log pre mid post : List (Event τ α)} {topic : τ}
  {id later : SubscriptionId} {number : ℕ} {value : α}

/-- The numbers of the publications are new. -/
theorem published_onlyOnce (h : Grounded (Justified isRetained) log) (number : ℕ) :
    OnlyOnce (fun event => ∃ topic value, event = .published topic number value) log := by
  rintro pre _ post hlog ⟨topic, value, rfl⟩ _ hmem ⟨topic', value', rfl⟩
  exact h pre _ post hlog topic' value' hmem

/-- The two places of a publication are one. -/
theorem published_split_unique (h : Grounded (Justified isRetained) log)
    {before mid' : List (Event τ α)}
    {topic' : τ} {value' : α} (hlog : log = pre ++ .published topic number value :: mid)
    (hlog' : log = before ++ .published topic' number value' :: mid') :
    pre = before ∧ topic = topic' ∧ value = value' ∧ mid = mid' := by
  obtain ⟨hpre, hevent, hmid⟩ := (published_onlyOnce h number).split_unique hlog
    ⟨topic, value, rfl⟩ hlog' ⟨topic', value', rfl⟩
  cases hevent
  exact ⟨hpre, rfl, rfl, hmid⟩

/-- Who is called has subscribed. -/
theorem mem_subscribed_of_called (h : Grounded (Justified isRetained) log)
    (hcalled : .called topic id number value ∈ log) : .subscribed topic id ∈ log := by
  obtain ⟨pre, post, rfl, hjustified⟩ := h.of_mem hcalled
  rcases hjustified with ⟨before, rfl, -⟩ | ⟨before, mid, rfl, hsubscribed, -⟩
  · simp
  · have hmem := hsubscribed.1
    simp [hmem]

/-- A value that a subscriber is called with is the one replayed to it, or was published while it
was subscribed. -/
theorem source_of_called (h : Grounded (Justified isRetained) log)
    (hcalled : .called topic id number value ∈ log) :
    (∃ pre post, log = pre ++ .subscribed topic id :: .called topic id number value :: post ∧
      isRetained topic = true ∧ lastPublished topic pre = some (number, value)) ∨
    ∃ pre post, log = pre ++ .published topic number value :: post ∧ Subscribed pre topic id := by
  obtain ⟨pre, post, rfl, hjustified⟩ := h.of_mem hcalled
  rcases hjustified with ⟨before, rfl, hretained, hlast⟩ | ⟨before, mid, rfl, hsubscribed, -⟩
  · exact Or.inl ⟨before, post, by simp, hretained, hlast⟩
  · exact Or.inr ⟨before, mid ++ .called topic id number value :: post, by simp, hsubscribed⟩

/-- In a justified log no callback is called with one publication twice. -/
theorem called_onlyOnce (h : Grounded (Justified isRetained) log) (topic : τ) (id : SubscriptionId)
    (number : ℕ) (value : α) : OnlyOnce (· = .called topic id number value) log := by
  rintro pre _ post rfl rfl _ hmem rfl
  rcases h pre _ post rfl with ⟨before, rfl, -⟩ | ⟨before, mid, -, -, hnot, -⟩
  · -- It would have been called before it subscribed.
    have hbefore : .called topic id number value ∈ before :=
      (List.mem_append.mp hmem).resolve_right (by simp)
    have hplace := h before (.subscribed topic id) (.called topic id number value :: post) (by simp)
    have hgrounded : Grounded (Justified isRetained) before := h.of_append.of_append
    exact hplace.1 topic (mem_subscribed_of_called hgrounded hbefore)
  · exact hnot hmem

/-- At the end of a publication, those who were there at its start have been served. -/
theorem served_of_finished (h : Grounded (Justified isRetained) log)
    (hlog : log = pre ++ .published topic number value :: (mid ++ .finished number :: post))
    (hsubscribed : Subscribed pre topic id) : Served mid topic id number value := by
  have hplace : log = (pre ++ .published topic number value :: mid) ++ .finished number :: post := by
    rw [hlog]
    simp
  -- The publication that ends is this one.
  obtain ⟨topic', value', before, mid', heq, hserved⟩ := h _ _ _ hplace
  rw [hplace] at h
  obtain ⟨rfl, rfl, rfl, rfl⟩ := published_split_unique h.of_append rfl heq
  exact hserved id hsubscribed

/-- At the call of a subscriber, those in front of it have been served. -/
theorem served_of_called (h : Grounded (Justified isRetained) log)
    (hlog : log =
      pre ++ .published topic number value :: (mid ++ .called topic later number value :: post))
    (hsubscribed : Subscribed pre topic id) (hlater : Subscribed pre topic later) (hlt : id < later) :
    Served mid topic id number value := by
  -- The call of the later subscriber stands behind the publication.
  have hplace : log = (pre ++ .published topic number value :: mid) ++
      .called topic later number value :: post := by
    rw [hlog]
    simp
  have hgrounded : Grounded (Justified isRetained) (pre ++ .published topic number value :: mid) := by
    rw [hplace] at h
    exact h.of_append
  -- A call is made by a replay or by a dispatch, and a dispatch calls in the order of the ids.
  rcases h _ _ _ hplace with ⟨before, heq, -⟩ | ⟨before, mid', heq, -, -, hserved⟩
  · -- A replay would be its second subscription.
    have hfresh := hgrounded before (.subscribed topic later) [] heq
    rcases concat_eq_append_cons heq.symm with ⟨-, hevent, -⟩ | ⟨mid', -, hbefore⟩
    · cases hevent
    · refine absurd ?_ (hfresh.1 topic)
      rw [hbefore]
      exact List.mem_append_left _ hlater.1
  · obtain ⟨rfl, -, -, rfl⟩ := published_split_unique hgrounded rfl heq
    exact hserved id hlt hsubscribed

/-- A log that the invariant and the replays hold of delivers every value exactly once. -/
theorem Invariant.exactlyOnce [DecidableEq α] {s : Bus τ α} (h : Invariant isRetained log s)
    (hreplayed : Replayed isRetained log) : ExactlyOnce isRetained log where
  numbered := published_onlyOnce h.grounded _
  replay hlog hretained hlast := hreplayed _ _ _ _ _ _ hlog hretained hlast
  source hcalled := source_of_called h.grounded hcalled
  once {topic id number value} := by
    by_cases hmem : .called topic id number value ∈ log
    · exact Nat.le_of_eq ((called_onlyOnce h.grounded topic id number value).count_eq_one hmem)
    · rw [List.count_eq_zero_of_not_mem hmem]
      exact Nat.zero_le 1
  all hlog hsubscribed := served_of_finished h.grounded hlog hsubscribed
  turn hlog hsubscribed hlater hlt := served_of_called h.grounded hlog hsubscribed hlater hlt

end Log

/-! ## What an action logs -/

/-- An action logs the operation that it is, at once, and then only what is called and what is over:
a `subscribe` gives out a new id, a `publish` starts a publication with a new number, an
`unsubscribe` takes back a subscription that there is, and the return of a handler is no operation.
-/
def Action.Logged (log events : List (Event τ α)) : Action τ α → Prop
  | .subscribe topic => ∃ id rest, events = .subscribed topic id :: rest ∧
      (∀ topic, .subscribed topic id ∉ log) ∧ .unsubscribed id ∉ log ∧
      ∀ event ∈ rest, event.IsTraffic
  | .unsubscribe id =>
      ((∃ topic, Subscribed log topic id) → events = [.unsubscribed id]) ∧
        ((∀ topic, ¬ Subscribed log topic id) → events = [])
  | .publish topic value => ∃ number rest, events = .published topic number value :: rest ∧
      (∀ topic value, .published topic number value ∉ log) ∧ ∀ event ∈ rest, event.IsTraffic
  | .handlerReturns => ∀ event ∈ events, event.IsTraffic

/-- Every action of the bus is logged as what it is. -/
theorem Registered.logged {isRetained : τ → Bool} {log : List (Event τ α)} {s : Bus τ α}
    (h : Registered isRetained log s) (action : Action τ α) :
    action.Logged log (s.step isRetained action).2 := by
  cases action with
  | subscribe topic =>
    -- The id is the next one, so no event of the log has it.
    have hnew : (∀ topic, .subscribed topic s.nextId ∉ log) ∧ .unsubscribed s.nextId ∉ log :=
      ⟨fun other hmem => Nat.lt_irrefl _ (h.ids other _ hmem),
        fun hmem => Nat.lt_irrefl _ (h.removed _ hmem)⟩
    unfold Bus.step Bus.subscribe
    dsimp only
    split
    · exact ⟨s.nextId, [], rfl, hnew.1, hnew.2, fun _ hevent => absurd hevent List.not_mem_nil⟩
    · exact ⟨s.nextId, _, rfl, hnew.1, hnew.2, by simp [Event.IsTraffic]⟩
  | unsubscribe id =>
    unfold Bus.step Bus.unsubscribe
    dsimp only
    -- There is something to take back exactly if the id has a remover, which the registered
    -- subscriptions have.
    cases hremover : s.removers id with
    | none =>
      refine ⟨fun hsubscribed => ?_, fun _ => rfl⟩
      obtain ⟨topic, hsubscribed⟩ := hsubscribed
      rw [(h.removers topic id).mpr hsubscribed] at hremover
      cases hremover
    | some topic =>
      exact ⟨fun _ => rfl, fun hnone => absurd ((h.removers topic id).mp hremover) (hnone topic)⟩
  | publish topic value =>
    -- The number is the next one too.
    have hnew : ∀ other value', .published other s.published value' ∉ log :=
      fun other value' hmem => Nat.lt_irrefl _ (h.numbers other _ value' hmem)
    exact ⟨s.published, _, rfl, hnew, Bus.dispatch_isTraffic _ topic s.published value _⟩
  | handlerReturns =>
    -- The return of a handler logs calls and ends of publications only.
    intro event hmem
    unfold Bus.step Bus.handlerReturns at hmem
    dsimp only at hmem
    split at hmem
    · cases hmem
    · cases hmem
    · exact Bus.dispatch_isTraffic _ _ _ _ _ event hmem

/-! ## Runs -/

section Run

variable (isRetained : τ → Bool)

/-- The invariant holds of a new bus, which has logged nothing. -/
theorem invariant_new : Invariant isRetained ([] : List (Event τ α)) {} where
  registered := by
    refine ⟨?_, ?_, ?_, ?_, ?_, ?_, ?_⟩ <;> simp [Subscribed, lastPublished]
  grounded := grounded_nil
  frames := by simp
  apart := List.Pairwise.nil
  opened := by simp

/-- After every run the invariant holds of what the bus has logged, and so do the replays. -/
theorem invariant_emitted (actions : List (Action τ α)) :
    Invariant isRetained (emitted (Bus.step isRetained) {} actions)
        (exec (Bus.step isRetained) {} actions) ∧
      Replayed isRetained (emitted (Bus.step isRetained) {} actions) := by
  refine emitted_induction (Bus.step isRetained) {}
    (I := fun log s => Invariant isRetained log s ∧ Replayed isRetained log) ?_ ?_ actions
  · refine ⟨invariant_new isRetained, fun pre topic id post number value heq => ?_⟩
    simp at heq
  · rintro log s action ⟨hinv, hreplayed⟩
    exact ⟨hinv.step action, hreplayed.step hinv action⟩

/-- When all handlers have returned, those who were there at the start of a publication have been
served. -/
theorem Invariant.served {isRetained : τ → Bool} {log pre post : List (Event τ α)} {s : Bus τ α}
    (h : Invariant isRetained log s) (hrunning : s.running = []) {topic : τ} {number : ℕ} {value : α}
    (hlog : log = pre ++ .published topic number value :: post) {id : SubscriptionId}
    (hsubscribed : Subscribed pre topic id) : Served post topic id number value := by
  have hpublished : .published topic number value ∈ log := by
    rw [hlog]
    simp
  have hfinished : .finished number ∈ log := by
    rcases h.opened topic number value hpublished with hover | ⟨topic', value', pending, hmem⟩
    · exact hover
    · rw [hrunning] at hmem
      cases hmem
  obtain ⟨before, after, hplace, topic', value', pre', mid, rfl, hserved⟩ :=
    h.grounded.of_mem hfinished
  have hplace' : log =
      pre' ++ .published topic' number value' :: (mid ++ .finished number :: after) := by
    rw [hplace]
    simp
  obtain ⟨rfl, rfl, rfl, rfl⟩ := published_split_unique h.grounded hlog hplace'
  exact (hserved id hsubscribed).append _

/-- If the handlers do nothing but return, all that is running comes to its end. -/
theorem exists_handlerReturns (s : Bus τ α) :
    ∃ n, (exec (Bus.step isRetained) s (List.replicate n .handlerReturns)).running = [] := by
  induction hremaining : s.remaining using Nat.strongRecOn generalizing s with
  | ind remaining ih =>
    by_cases hrunning : s.running = []
    · exact ⟨0, hrunning⟩
    · have hlt := Bus.remaining_handlerReturns_lt hrunning
      rw [hremaining] at hlt
      obtain ⟨n, hn⟩ := ih _ hlt s.handlerReturns.1 rfl
      exact ⟨n + 1, hn⟩

/-- In every run of the bus each `subscribe`, `unsubscribe` and `publish` is logged as what it is,
at its place, and the callbacks of a topic are those that have subscribed to it since; each value is
delivered once; when no handler is running, all deliveries have been made, and the handlers that are
running need only return. -/
theorem delivers_exactly_once [DecidableEq α] (actions : List (Action τ α)) :
    let log := emitted (Bus.step isRetained) {} actions
    let s := exec (Bus.step isRetained) {} actions
    (∀ pre action post, actions = pre ++ action :: post →
        action.Logged (emitted (Bus.step isRetained) {} pre)
          ((exec (Bus.step isRetained) {} pre).step isRetained action).2) ∧
      (∀ topic id, id ∈ (s.topics topic).callbacks ↔ Subscribed log topic id) ∧
      ExactlyOnce isRetained log ∧
      (s.running = [] → ∀ pre topic number value post id,
        log = pre ++ .published topic number value :: post → Subscribed pre topic id →
        Served post topic id number value) ∧
      ∃ n, (exec (Bus.step isRetained) s (List.replicate n .handlerReturns)).running = [] := by
  obtain ⟨hinv, hreplayed⟩ := invariant_emitted isRetained actions
  refine ⟨fun pre action _ _ => ?_, hinv.registered.callbacks, hinv.exactlyOnce hreplayed,
    fun hrunning pre topic number value post id hlog hsub => ?_, ?_⟩
  · exact (invariant_emitted isRetained pre).1.registered.logged action
  · exact hinv.served hrunning hlog hsub
  · exact exists_handlerReturns isRetained _

/-- Two handlers are there when `'a'` is published. In its turn the first one publishes `'b'`, and
when it is called with that, it removes the second one; back in its first turn it subscribes a third
one. -/
def nestedRun : List (Action Unit Char) :=
  [.subscribe (), .subscribe (), .publish () 'a', .publish () 'b', .unsubscribe 2, .handlerReturns,
    .subscribe (), .handlerReturns, .handlerReturns]

/-- The second handler is called with neither value, and the third one with the last value only. -/
theorem delivers_exactly_once_nested :
    emitted (Bus.step fun _ => true) {} nestedRun =
        [.subscribed () 1, .subscribed () 2, .published () 0 'a', .called () 1 0 'a',
          .published () 1 'b', .called () 1 1 'b', .unsubscribed 2, .finished 1, .subscribed () 3,
          .called () 3 1 'b', .finished 0] ∧
      ExactlyOnce (fun _ => true) (emitted (Bus.step fun _ => true) {} nestedRun) :=
  ⟨by decide, (delivers_exactly_once (fun _ => true) nestedRun).2.2.1⟩

/-- A handler subscribes while its value is being dispatched: the new subscriber gets the value by
the replay and not again. -/
example : emitted (Bus.step fun _ : Unit => true) {} [.subscribe (), .publish () 'a', .subscribe (),
    .handlerReturns, .handlerReturns] =
    [.subscribed () 1, .published () 0 'a', .called () 1 0 'a', .subscribed () 2, .called () 2 0 'a',
      .finished 0] := by
  decide

end Run

end Zwaved.MessageBus
