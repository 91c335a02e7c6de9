import Mathlib.Logic.Function.Basic
import Zwaved.Reactive.Run

/-!
# The message bus

`MessageBus.cpp` and `MessageBusInternal.hpp`: each event type has a topic, a list of callbacks and,
where the type is retained, the value that was published last. A handler may subscribe, unsubscribe
and publish in its turn, and a publish from within a handler runs to its end before the handler goes
on. The bus is therefore a machine with a stack of the calls that are running, and an input is what
the code on top of the stack does next: one of the three operations, or its return. The lock that
keeps other threads out is recursive and held throughout, so there is one such stack. `unsubscribe`
gives it up between its two halves; here it is one action.

The callbacks of a topic are an `eventpp::CallbackList`: an invocation calls those that were there
when it began and have not been removed before their turn. Publications are numbered, so that equal
values can be told apart; the code has no such numbers.
-/

namespace Zwaved.MessageBus

/-- `SubscriptionId`: a 64-bit counter, which no run exhausts. -/
abbrev SubscriptionId := ℕ

/-- `Topic`. -/
structure Topic (α : Type) where
  /-- `callbacks`, in the order in which they were appended. -/
  callbacks : List SubscriptionId := []
  /-- `retained`, with the number of its publication. -/
  retained : Option (ℕ × α) := none

/-- A call of a handler that is running. -/
inductive Frame (τ α : Type)
  /-- The replay in `subscribe`. -/
  | replay
  /-- The invocation of the callbacks in `publish`, with those whose turn is still to come. -/
  | dispatch (topic : τ) (number : ℕ) (value : α) (pending : List SubscriptionId)

/-- `BusState`, with the topics. All topics have values of one type here. -/
structure Bus (τ α : Type) where
  /-- `topic<T>()`. -/
  topics : τ → Topic α := fun _ => {}
  /-- `nextId`. -/
  nextId : SubscriptionId := 1
  /-- `removers`: the topic that the subscription is removed from. -/
  removers : SubscriptionId → Option τ := fun _ => none
  /-- The number of the next publication. -/
  published : ℕ := 0
  /-- The calls that are running, the innermost first. -/
  running : List (Frame τ α) := []

/-- What the running code does next. -/
inductive Action (τ α : Type)
  /-- `subscribe`. -/
  | subscribe (topic : τ)
  /-- `unsubscribe`. -/
  | unsubscribe (subscriptionId : SubscriptionId)
  /-- `publish`. -/
  | publish (topic : τ) (value : α)
  /-- The innermost handler returns. -/
  | handlerReturns

/-- What happens on the bus. -/
inductive Event (τ α : Type)
  /-- The handler is in the list of the topic. -/
  | subscribed (topic : τ) (subscriptionId : SubscriptionId)
  /-- The handler is removed. -/
  | unsubscribed (subscriptionId : SubscriptionId)
  /-- A publish starts. -/
  | published (topic : τ) (number : ℕ) (value : α)
  /-- The handler is called with the value of a publication. -/
  | called (topic : τ) (subscriptionId : SubscriptionId) (number : ℕ) (value : α)
  /-- A publish is over. -/
  | finished (number : ℕ)
  deriving DecidableEq

namespace Bus

variable {τ α : Type} [DecidableEq τ] (isRetained : τ → Bool)

/-- `callbacks(value)`, from the callbacks whose turn is still to come: the next one that is still
there is called. -/
def dispatch (s : Bus τ α) (topic : τ) (number : ℕ) (value : α) (pending : List SubscriptionId) :
    Bus τ α × List (Event τ α) :=
  match pending.dropWhile (· ∉ (s.topics topic).callbacks) with
  | [] => (s, [.finished number])
  | id :: pending =>
    ({ s with running := .dispatch topic number value pending :: s.running },
      [.called topic id number value])

/-- `subscribe`. -/
def subscribe (s : Bus τ α) (topic : τ) : Bus τ α × List (Event τ α) :=
  let newId := s.nextId
  let callbacks := (s.topics topic).callbacks ++ [newId]
  let s := { s with
    topics := Function.update s.topics topic { s.topics topic with callbacks }
    nextId := newId + 1
    removers := Function.update s.removers newId (some topic) }
  match if isRetained topic then (s.topics topic).retained else none with
  | none => (s, [.subscribed topic newId])
  | some (number, value) =>
    ({ s with running := .replay :: s.running },
      [.subscribed topic newId, .called topic newId number value])

/-- `unsubscribe`. -/
def unsubscribe (s : Bus τ α) (subscriptionId : SubscriptionId) : Bus τ α × List (Event τ α) :=
  match s.removers subscriptionId with
  | none => (s, [])
  | some topic =>
    let callbacks := (s.topics topic).callbacks.filter (· ≠ subscriptionId)
    ({ s with
        topics := Function.update s.topics topic { s.topics topic with callbacks }
        removers := Function.update s.removers subscriptionId none },
      [.unsubscribed subscriptionId])

/-- `publish`. -/
def publish (s : Bus τ α) (topic : τ) (value : α) : Bus τ α × List (Event τ α) :=
  let number := s.published
  let retained := if isRetained topic then some (number, value) else (s.topics topic).retained
  let s := { s with
    topics := Function.update s.topics topic { s.topics topic with retained }
    published := number + 1 }
  let (s, events) := s.dispatch topic number value (s.topics topic).callbacks
  (s, .published topic number value :: events)

/-- The innermost handler returns to the call that it was running in. -/
def handlerReturns (s : Bus τ α) : Bus τ α × List (Event τ α) :=
  match s.running with
  | [] => (s, [])
  | .replay :: running => ({ s with running }, [])
  | .dispatch topic number value pending :: running =>
    { s with running }.dispatch topic number value pending

/-- One action. -/
def step (s : Bus τ α) : Action τ α → Bus τ α × List (Event τ α)
  | .subscribe topic => s.subscribe isRetained topic
  | .unsubscribe subscriptionId => s.unsubscribe subscriptionId
  | .publish topic value => s.publish isRetained topic value
  | .handlerReturns => s.handlerReturns

end Bus

end Zwaved.MessageBus
