import Zwaved.Protocol.Introspection
import Zwaved.Protocol.Thread

/-!
# The thread and its connections

`zwaveCommunicationThread` in `ProtocolThread.cpp`: the thread waits for the path of a dongle, opens
the port, asks the dongle who it is, binds the stores of the daemon to its network, and runs a
session until the dongle is gone. The other threads come in between: a bus command puts a request
on the queue, the monitor announces a dongle or takes it back, and the destructor ends the thread.

A step is what one of them does between two points where another can come in. The path is guarded
by `pathMutex`. `pathCv.wait` holds it from its look at the condition until it has fallen asleep,
and `onDongleStatus` takes it; the destructor does not, so it is the one that can come in between.
What the dongle and the port answer is up to the environment. In a session the thread takes the
steps of `ProtocolThread.step`.
-/

namespace Zwaved.Protocol.Connection

open HostApi Reactive Serial
open Introspection (DaemonError DongleInfo IntrospectionResult severityError)

/-- `DongleStatus`. -/
structure DongleStatus where
  /-- `connected`. -/
  connected : Bool := false
  /-- `ttyPath`. -/
  ttyPath : String := ""
  deriving DecidableEq, Repr

/-- The path that a status announces. -/
def DongleStatus.path (status : DongleStatus) : Option String :=
  if status.connected ∧ status.ttyPath ≠ "" then some status.ttyPath else none

/-- The stores that are bound to a network. -/
inductive Store
  | nodeRegistry
  | pendingQueue
  | policyRegister
  | nodeMetadata
  | sceneStore
  deriving DecidableEq, Repr

/-- The order in which they are bound. -/
def Store.all : List Store :=
  [.nodeRegistry, .pendingQueue, .policyRegister, .nodeMetadata, .sceneStore]

/-- Where the thread is. -/
inductive Stage
  /-- It is about to subscribe. -/
  | starting
  /-- It is at the condition of its loop. -/
  | atLoop
  /-- In `awaitDevicePath`, it is about to look at the condition. -/
  | awaiting
  /-- The condition did not hold, and it is about to fall asleep. -/
  | unmet
  /-- It is asleep in `pathCv.wait`. -/
  | asleep
  /-- The condition held. -/
  | met
  /-- `awaitDevicePath` has returned. -/
  | awaited (path : Option String)
  /-- It is in `SerialPort::open`. -/
  | opening (path : String)
  /-- It sleeps for a second. -/
  | backingOff
  /-- It is in `introspectDongle`. -/
  | introspecting
  /-- The stores that are left are about to be bound. -/
  | binding (info : DongleInfo) (result : IntrospectionResult) (stores : List Store)
  /-- It is about to clear the requests. -/
  | clearing
  /-- In `runConnectedSession`, it is at the condition of the loop. -/
  | atSession
  /-- It is about to call `isPathSet`. -/
  | checking
  /-- It is in `popRequest`. -/
  | popping
  /-- It is in `dispatchRequest`. -/
  | dispatching
  /-- It is in `pumpOnce`. -/
  | pumping
  /-- It is about to unsubscribe. -/
  | leaving
  /-- The thread is over. -/
  | exited
  deriving DecidableEq

/-- Where `~ZwaveProtocolState` is. -/
inductive Destructor
  /-- It has not been called. -/
  | alive
  /-- It has set `running`, and is about to notify. -/
  | notifying
  /-- It joins `thread`. -/
  | joining
  /-- It is over. -/
  | finished
  deriving DecidableEq, Repr

/-- `ZwaveProtocolState`, with the homes of the stores and the retained status of the dongle. -/
structure ZwaveProtocolState where
  /-- `thread`. -/
  stage : Stage := .starting
  /-- `running`. -/
  running : Bool := true
  /-- `path`. -/
  path : Option String := none
  /-- `queue`. -/
  queue : List Request := []
  /-- `subscriptions` is not empty. -/
  subscribed : Bool := false
  /-- The last DongleStatus published. -/
  dongleStatus : Option DongleStatus := none
  /-- `onDongleStatus` has set the path, and is about to notify. -/
  announcing : Bool := false
  /-- The network that a store is bound to. -/
  homes : Store → Option Bytes := fun _ => none
  /-- The session, and the slots. -/
  session : ProtocolThread := {}
  /-- The destructor. -/
  destructor : Destructor := .alive

/-- What happens next. -/
inductive Input
  /-- `pushRequest`, on any thread. -/
  | pushRequest (request : Request)
  /-- A DongleStatus is published, up to the notification. -/
  | dongleStatus (status : DongleStatus)
  /-- `onDongleStatus` notifies. -/
  | notify
  /-- The thread wakes up for no reason. -/
  | spuriousWakeUp
  /-- The destructor is called, or goes on. -/
  | destroy
  /-- The thread goes on, where it waits for nothing. -/
  | proceed
  /-- `SerialPort::open` returns. -/
  | opened (ok : Bool)
  /-- `introspectDongle` returns, and has published errors. -/
  | introspected (result : IntrospectionResult) (errors : List DaemonError)
  /-- `sendRequest` returns. -/
  | sent (ok : Bool)
  /-- The transport hands in a frame. -/
  | frame (frame : ZwaveDataFrame)
  /-- The throttle looks at its condition. -/
  | resume (deadline : Bool)
  /-- `pumpOnce` returns. -/
  | pumped

/-- What is seen of it. -/
inductive Output
  /-- A request is on the queue. -/
  | pushed (request : Request)
  /-- A request has been taken from the queue, for a session. -/
  | dispatched (request : Request)
  /-- A request has been taken from the queue, and is lost. -/
  | cleared (request : Request)
  /-- DaemonError. -/
  | daemonError (error : DaemonError)
  /-- `setHomeId` of a store. -/
  | setHomeId (store : Store) (homeId : Bytes)
  /-- DongleInfo. -/
  | dongleInfo (info : DongleInfo)
  /-- `NodeRegistry::seed`. -/
  | seed (nodeId : NodeId)
  /-- `NodeRegistry::updateDeviceClass`. -/
  | updateDeviceClass (nodeId : NodeId) (info : NodeProtocolInfoResponse)
  /-- InitData. -/
  | initData (init : InitDataResponse)
  /-- The SessionStatus that the thread starts with. -/
  | sessionStatus (status : SessionStatus)
  /-- What the session puts out. -/
  | session (output : ThreadOutput)
  deriving DecidableEq

/-- `SEVERITY_INFO`. -/
def severityInfo : UInt8 := 1

/-- `CODE_NONE`. -/
def codeNone : UInt8 := 0x00

/-- `CODE_DONGLE_OPEN_FAILED`. -/
def codeDongleOpenFailed : UInt8 := 0x10

/-- A DaemonError that says that there is none. -/
def noError : DaemonError where
  severity := severityInfo
  source := ""
  code := codeNone
  message := ""

/-- The error of a port that does not open. -/
def openFailed (path : String) : DaemonError where
  severity := severityError
  source := "zwave-protocol"
  code := codeDongleOpenFailed
  message := "failed to open serial port " ++ path

namespace ZwaveProtocolState

variable (s : ZwaveProtocolState)

/-- The thread holds `pathMutex`. -/
def holdsPath : Bool := s.stage = .unmet ∨ s.stage = .met

/-- A notification of `pathCv`. -/
def notifyPath : ZwaveProtocolState :=
  if s.stage = .asleep then { s with stage := .awaiting } else s

section Notify

/-- Notifying the path changes nothing but the stage of a thread that sleeps. -/
theorem notifyPath_eq :
    s.notifyPath = { s with stage := if s.stage = .asleep then .awaiting else s.stage } := by
  unfold notifyPath
  split <;> rfl

/-- Waking the thread for a path leaves whether it is to run. -/
@[simp] theorem notifyPath_running : s.notifyPath.running = s.running := by rw [notifyPath_eq]

/-- Waking the thread for a path leaves the path. -/
@[simp] theorem notifyPath_path : s.notifyPath.path = s.path := by rw [notifyPath_eq]

/-- Waking the thread for a path leaves the queue. -/
@[simp] theorem notifyPath_queue : s.notifyPath.queue = s.queue := by rw [notifyPath_eq]

/-- Waking the thread for a path leaves the homes. -/
@[simp] theorem notifyPath_homes : s.notifyPath.homes = s.homes := by rw [notifyPath_eq]

/-- Waking the thread for a path leaves the session. -/
@[simp] theorem notifyPath_session : s.notifyPath.session = s.session := by rw [notifyPath_eq]

/-- Waking the thread for a path leaves what is being announced. -/
@[simp] theorem notifyPath_announcing : s.notifyPath.announcing = s.announcing := by
  rw [notifyPath_eq]

/-- Waking the thread for a path leaves how far the destructor has come. -/
@[simp] theorem notifyPath_destructor : s.notifyPath.destructor = s.destructor := by
  rw [notifyPath_eq]

/-- A thread that sleeps is woken to await a path again, and no other stage moves. -/
theorem notifyPath_stage :
    s.notifyPath.stage = if s.stage = .asleep then .awaiting else s.stage := by
  rw [notifyPath_eq]

end Notify

/-- `pushRequest`. -/
def pushRequest (request : Request) : ZwaveProtocolState × List Output :=
  ({ s with queue := s.queue ++ [request] }, [.pushed request])

/-- A DongleStatus is published, by a monitor that is done with the one before. `onDongleStatus`
takes `pathMutex` to set the path. -/
def publishDongleStatus (status : DongleStatus) : ZwaveProtocolState × List Output :=
  if s.announcing ∨ s.holdsPath then (s, [])
  else if s.subscribed then
    ({ s with dongleStatus := some status, path := status.path, announcing := true }, [])
  else ({ s with dongleStatus := some status }, [])

/-- `~ZwaveProtocolState`. Only the thread waits on `queueCv`, and not for long. -/
def destroy : ZwaveProtocolState × List Output :=
  match s.destructor with
  | .alive => ({ s with running := false, destructor := .notifying }, [])
  | .notifying => ({ s.notifyPath with destructor := .joining }, [])
  | .joining => if s.stage = .exited then ({ s with destructor := .finished }, []) else (s, [])
  | .finished => (s, [])

/-- An event of the session. -/
def sessionEvent (event : ProtocolThread.Event) (stage : Stage) :
    ZwaveProtocolState × List Output :=
  let (session, outputs) := s.session.step event
  ({ s with session, stage }, outputs.map .session)

section SessionEvent

variable (event : ProtocolThread.Event) (stage : Stage)

/-- An event of the session puts the thread in the stage that it is called with. -/
@[simp] theorem sessionEvent_stage : (s.sessionEvent event stage).1.stage = stage := rfl

/-- An event of the session moves the session as `Session.step` does. -/
@[simp] theorem sessionEvent_session :
    (s.sessionEvent event stage).1.session = (s.session.step event).1 := rfl

/-- An event of the session leaves the queue. -/
@[simp] theorem sessionEvent_queue : (s.sessionEvent event stage).1.queue = s.queue := rfl

/-- An event of the session leaves the homes. -/
@[simp] theorem sessionEvent_homes : (s.sessionEvent event stage).1.homes = s.homes := rfl

/-- An event of the session leaves whether the thread is to run. -/
@[simp] theorem sessionEvent_running : (s.sessionEvent event stage).1.running = s.running := rfl

/-- An event of the session leaves the path. -/
@[simp] theorem sessionEvent_path : (s.sessionEvent event stage).1.path = s.path := rfl

/-- An event of the session leaves what is being announced. -/
@[simp] theorem sessionEvent_announcing :
    (s.sessionEvent event stage).1.announcing = s.announcing := rfl

/-- An event of the session leaves how far the destructor has come. -/
@[simp] theorem sessionEvent_destructor :
    (s.sessionEvent event stage).1.destructor = s.destructor := rfl

/-- An event of the session puts out what the session does. -/
@[simp] theorem sessionEvent_outputs :
    (s.sessionEvent event stage).2 = (s.session.step event).2.map .session := rfl

end SessionEvent

/-- Where the session goes on: a dispatch may not be over. -/
def dispatchStage (session : ProtocolThread) : Stage :=
  if session.phase = .idle then .atSession else .dispatching

/-- The subscriptions. The retained status is delivered at once. -/
def subscribeBus : ZwaveProtocolState × List Output :=
  ({ s with
      stage := .atLoop, subscribed := true
      path := match s.dongleStatus with
        | some status => status.path
        | none => s.path }, [.sessionStatus {}])

/-- What the thread has learned of the network, when the stores are bound to it. -/
def announced (info : DongleInfo) (result : IntrospectionResult) : List Output :=
  .dongleInfo info ::
    match result.initData with
    | none => []
    | some init =>
      init.nodeIds.map .seed ++
        result.nodeProtocolInfo.map (fun (nodeId, info) => .updateDeviceClass nodeId info) ++
        [.initData init]

/-- The thread goes on, where it waits for nothing. -/
def proceed : ZwaveProtocolState × List Output :=
  match s.stage with
  | .starting => s.subscribeBus
  | .atLoop => ({ s with stage := if s.running then .awaiting else .leaving }, [])
  | .awaiting =>
    ({ s with stage := if s.path.isSome ∨ s.running = false then .met else .unmet }, [])
  | .unmet => ({ s with stage := .asleep }, [])
  | .met => ({ s with stage := .awaited (if s.running then s.path else none) }, [])
  | .awaited path =>
    if s.running then
      match path with
      | none => ({ s with stage := .atLoop }, [])
      | some path => ({ s with stage := if path = "" then .atLoop else .opening path }, [])
    else ({ s with stage := .leaving }, [])
  | .backingOff => ({ s with stage := .atLoop }, [])
  | .binding info result (store :: stores) =>
    ({ s with
        stage := .binding info result stores
        homes := Function.update s.homes store (some info.homeId) },
      [.setHomeId store info.homeId])
  | .binding info result [] => ({ s with stage := .clearing }, announced info result)
  | .clearing =>
    let (cleared, outputs) := sessionEvent { s with queue := [] } .connect .atSession
    (cleared, s.queue.map .cleared ++ outputs)
  | .atSession =>
    if s.running then ({ s with stage := .checking }, []) else s.sessionEvent .disconnect .atLoop
  | .checking =>
    if s.path.isSome then ({ s with stage := .popping }, [])
    else s.sessionEvent .disconnect .atLoop
  | .popping =>
    match s.queue with
    | [] => ({ s with stage := .pumping }, [])
    | request :: queue =>
      let (dispatching, outputs) :=
        sessionEvent { s with queue } (.dispatch request) .dispatching
      (dispatching, .dispatched request :: outputs)
  | .leaving => ({ s with stage := .exited, subscribed := false }, [])
  | .asleep | .opening _ | .introspecting | .dispatching | .pumping | .exited => (s, [])

/-- `SerialPort::open` returns. -/
def opened (ok : Bool) : ZwaveProtocolState × List Output :=
  match s.stage with
  | .opening path =>
    if ok then ({ s with stage := .introspecting }, [])
    else ({ s with stage := .backingOff }, [.daemonError (openFailed path)])
  | _ => (s, [])

/-- `introspectDongle` returns. A dongle that does not say who it is gets a session all the same. -/
def introspected (result : IntrospectionResult) (errors : List DaemonError) :
    ZwaveProtocolState × List Output :=
  if s.stage = .introspecting then
    match result.dongleInfo with
    | some info =>
      ({ s with stage := .binding info result Store.all },
        errors.map .daemonError ++ [.daemonError noError])
    | none => ({ s with stage := .clearing }, errors.map .daemonError)
  else (s, [])

/-- An event of a dispatch. -/
def dispatchEvent (event : ProtocolThread.Event) : ZwaveProtocolState × List Output :=
  if s.stage = .dispatching then
    s.sessionEvent event (dispatchStage (s.session.step event).1)
  else (s, [])

/-- The transport hands in a frame, in a dispatch or from the pump. -/
def frame (frame : ZwaveDataFrame) : ZwaveProtocolState × List Output :=
  if s.stage = .dispatching ∨ s.stage = .pumping then s.sessionEvent (.frame frame) s.stage
  else (s, [])

/-- One step; one that cannot happen where the threads stand changes nothing. -/
def step : Input → ZwaveProtocolState × List Output
  | .pushRequest request => s.pushRequest request
  | .dongleStatus status => s.publishDongleStatus status
  | .notify => if s.announcing then ({ s.notifyPath with announcing := false }, []) else (s, [])
  | .spuriousWakeUp => (s.notifyPath, [])
  | .destroy => s.destroy
  | .proceed => s.proceed
  | .opened ok => s.opened ok
  | .introspected result errors => s.introspected result errors
  | .sent ok => s.dispatchEvent (.sent ok)
  | .frame frame => s.frame frame
  -- The throttle ends with the thread, too.
  | .resume deadline => s.dispatchEvent (.resume (deadline || !s.running))
  | .pumped => if s.stage = .pumping then ({ s with stage := .atSession }, []) else (s, [])

end ZwaveProtocolState

open ZwaveProtocolState in
/-- The thread or the destructor has something to do, and does it; the call of the destructor is not
one of its steps. -/
def works : Taken ZwaveProtocolState Input → Bool
  | ⟨s, .destroy⟩ =>
    match s.destructor with
    | .notifying => true
    | .joining => s.stage = .exited
    | .alive | .finished => false
  | ⟨s, .proceed⟩ =>
    match s.stage with
    | .asleep | .opening _ | .introspecting | .dispatching | .pumping | .exited => false
    | _ => true
  | ⟨s, .opened _⟩ =>
    match s.stage with
    | .opening _ => true
    | _ => false
  | ⟨s, .introspected ..⟩ => s.stage = .introspecting
  | ⟨s, .sent _⟩ =>
    match s.stage, s.session.phase with
    | .dispatching, .sending _ => true
    | _, _ => false
  | ⟨s, .resume deadline⟩ =>
    s.stage = .dispatching ∧ s.session.phase = .throttled ∧
      (s.session.pendingSendData = none ∨ (deadline || !s.running))
  | ⟨s, .pumped⟩ => s.stage = .pumping
  | ⟨_, .pushRequest _⟩ | ⟨_, .dongleStatus _⟩ | ⟨_, .notify⟩ | ⟨_, .spuriousWakeUp⟩
  | ⟨_, .frame _⟩ => false

namespace ZwaveProtocolState

variable (s : ZwaveProtocolState)

/-! ## What a step does -/

/-- The thread goes to another stage, and nothing else happens. -/
inductive Moves : Input → Stage → Prop
  /-- The loop goes on. -/
  | enter (hstage : s.stage = .atLoop) (hrunning : s.running = true) : Moves .proceed .awaiting
  /-- The loop is over. -/
  | stop (hstage : s.stage = .atLoop) (hrunning : s.running = false) : Moves .proceed .leaving
  /-- The condition holds. -/
  | meet (hstage : s.stage = .awaiting) (hmet : s.path.isSome ∨ s.running = false) :
    Moves .proceed .met
  /-- The condition does not hold. -/
  | miss (hstage : s.stage = .awaiting) (hpath : s.path = none) (hrunning : s.running = true) :
    Moves .proceed .unmet
  /-- The thread falls asleep. -/
  | sleep (hstage : s.stage = .unmet) : Moves .proceed .asleep
  /-- `awaitDevicePath` returns. -/
  | give (hstage : s.stage = .met) :
    Moves .proceed (.awaited (if s.running then s.path else none))
  /-- The thread has been woken up to end. -/
  | stopAwaited {path : Option String} (hstage : s.stage = .awaited path)
    (hrunning : s.running = false) : Moves .proceed .leaving
  /-- There is no path after all. -/
  | retry {path : Option String} (hstage : s.stage = .awaited path)
    (hrunning : s.running = true) (hpath : path = none ∨ path = some "") : Moves .proceed .atLoop
  /-- There is one. -/
  | openPort {path : String} (hstage : s.stage = .awaited (some path))
    (hrunning : s.running = true) : Moves .proceed (.opening path)
  /-- The second is over. -/
  | backOff (hstage : s.stage = .backingOff) : Moves .proceed .atLoop
  /-- The session goes on. -/
  | check (hstage : s.stage = .atSession) (hrunning : s.running = true) :
    Moves .proceed .checking
  /-- The dongle is there. -/
  | pop (hstage : s.stage = .checking) (hpath : s.path.isSome) : Moves .proceed .popping
  /-- There is no request. -/
  | pump (hstage : s.stage = .popping) (hqueue : s.queue = []) : Moves .proceed .pumping
  /-- The port is open. -/
  | opened {path : String} (hstage : s.stage = .opening path) :
    Moves (.opened true) .introspecting
  /-- The pump returns. -/
  | pumped (hstage : s.stage = .pumping) : Moves .pumped .atSession

/-- A step that changes something. -/
inductive Does : Input → ZwaveProtocolState × List Output → Prop
  | pushRequest (request : Request) : Does (.pushRequest request) (s.pushRequest request)
  /-- The thread is subscribed. -/
  | dongleStatus (status : DongleStatus) (hannouncing : s.announcing = false)
    (hholds : s.holdsPath = false) (hsubscribed : s.subscribed = true) :
    Does (.dongleStatus status)
      ({ s with dongleStatus := some status, path := status.path, announcing := true }, [])
  /-- It is not. -/
  | retained (status : DongleStatus) :
    Does (.dongleStatus status) ({ s with dongleStatus := some status }, [])
  | notify (hannouncing : s.announcing = true) :
    Does .notify ({ s.notifyPath with announcing := false }, [])
  | spuriousWakeUp : Does .spuriousWakeUp (s.notifyPath, [])
  | destroy (halive : s.destructor = .alive) :
    Does .destroy ({ s with running := false, destructor := .notifying }, [])
  | notifyAll (hnotifying : s.destructor = .notifying) :
    Does .destroy ({ s.notifyPath with destructor := .joining }, [])
  | join (hjoining : s.destructor = .joining) (hexited : s.stage = .exited) :
    Does .destroy ({ s with destructor := .finished }, [])
  | moves {input : Input} {stage : Stage} (hmoves : s.Moves input stage) :
    Does input ({ s with stage }, [])
  | subscribeBus (hstage : s.stage = .starting) : Does .proceed s.subscribeBus
  | openFails {path : String} (hstage : s.stage = .opening path) :
    Does (.opened false) ({ s with stage := .backingOff }, [.daemonError (openFailed path)])
  /-- The dongle says who it is. -/
  | introduced {result : IntrospectionResult} {info : DongleInfo} (errors : List DaemonError)
    (hstage : s.stage = .introspecting) (hinfo : result.dongleInfo = some info) :
    Does (.introspected result errors)
      ({ s with stage := .binding info result Store.all },
        errors.map .daemonError ++ [.daemonError noError])
  /-- It does not. -/
  | unknown {result : IntrospectionResult} (errors : List DaemonError)
    (hstage : s.stage = .introspecting) (hinfo : result.dongleInfo = none) :
    Does (.introspected result errors)
      ({ s with stage := .clearing }, errors.map .daemonError)
  | bind {info : DongleInfo} {result : IntrospectionResult} {store : Store}
    {stores : List Store} (hstage : s.stage = .binding info result (store :: stores)) :
    Does .proceed
      ({ s with
          stage := .binding info result stores
          homes := Function.update s.homes store (some info.homeId) },
        [.setHomeId store info.homeId])
  | announce {info : DongleInfo} {result : IntrospectionResult}
    (hstage : s.stage = .binding info result []) :
    Does .proceed ({ s with stage := .clearing }, announced info result)
  | clear (hstage : s.stage = .clearing) :
    Does .proceed
      ((sessionEvent { s with queue := [] } .connect .atSession).1,
        s.queue.map .cleared ++ (sessionEvent { s with queue := [] } .connect .atSession).2)
  | disconnect (hstage : s.stage = .atSession ∧ s.running = false ∨
      s.stage = .checking ∧ s.path = none) : Does .proceed (s.sessionEvent .disconnect .atLoop)
  | dispatch {request : Request} {queue : List Request} (hstage : s.stage = .popping)
    (hqueue : s.queue = request :: queue) :
    Does .proceed
      ((sessionEvent { s with queue } (.dispatch request) .dispatching).1,
        .dispatched request ::
          (sessionEvent { s with queue } (.dispatch request) .dispatching).2)
  | exit (hstage : s.stage = .leaving) :
    Does .proceed ({ s with stage := .exited, subscribed := false }, [])
  | sent (ok : Bool) (hstage : s.stage = .dispatching) :
    Does (.sent ok)
      (s.sessionEvent (.sent ok) (dispatchStage (s.session.step (.sent ok)).1))
  | resume (deadline : Bool) (hstage : s.stage = .dispatching) :
    Does (.resume deadline)
      (s.sessionEvent (.resume (deadline || !s.running))
        (dispatchStage (s.session.step (.resume (deadline || !s.running))).1))
  | frame (frame : ZwaveDataFrame) (hstage : s.stage = .dispatching ∨ s.stage = .pumping) :
    Does (.frame frame) (s.sessionEvent (.frame frame) s.stage)

/-- A `proceed` either finds the thread with nothing to do, and leaves all as it is, or is one of
the moves that `Does` lists. -/
theorem proceed_cases :
    s.proceed = (s, []) ∧ works ⟨s, .proceed⟩ = false ∨ s.Does .proceed s.proceed := by
  -- The stages in the order of the source. Where `running_` is asked for, either answer has its own
  -- move.
  have hrunning : s.running = true ∨ s.running = false := Bool.eq_false_or_eq_true _
  unfold proceed
  split
  case h_1 hstage => exact Or.inr (.subscribeBus hstage)
  case h_2 hstage =>
    rcases hrunning with hrunning | hrunning
    · rw [if_pos hrunning]
      exact Or.inr (.moves (.enter hstage hrunning))
    · rw [if_neg (Bool.not_eq_true _ ▸ hrunning)]
      exact Or.inr (.moves (.stop hstage hrunning))
  case h_3 hstage =>
    -- The predicate of the condition variable.
    by_cases hmet : s.path.isSome ∨ s.running = false
    · rw [if_pos hmet]
      exact Or.inr (.moves (.meet hstage hmet))
    · rw [if_neg hmet]
      simp only [not_or, Option.not_isSome_iff_eq_none, Bool.not_eq_false] at hmet
      exact Or.inr (.moves (.miss hstage hmet.1 hmet.2))
  case h_4 hstage => exact Or.inr (.moves (.sleep hstage))
  case h_5 hstage => exact Or.inr (.moves (.give hstage))
  -- `awaitDevicePath` has returned, with or without a path.
  case h_6 path hstage =>
    rcases hrunning with hrunning | hrunning
    · rw [if_pos hrunning]
      cases path with
      | none => exact Or.inr (.moves (.retry hstage hrunning (Or.inl rfl)))
      | some path =>
        dsimp only
        split
        · next hpath => exact Or.inr (.moves (.retry hstage hrunning (Or.inr (by rw [hpath]))))
        · exact Or.inr (.moves (.openPort hstage hrunning))
    · rw [if_neg (Bool.not_eq_true _ ▸ hrunning)]
      exact Or.inr (.moves (.stopAwaited hstage hrunning))
  case h_7 hstage => exact Or.inr (.moves (.backOff hstage))
  case h_8 hstage => exact Or.inr (.bind hstage)
  case h_9 hstage => exact Or.inr (.announce hstage)
  case h_10 hstage => exact Or.inr (.clear hstage)
  -- The session's loop ends when the daemon stops, and otherwise asks for the path.
  case h_11 hstage =>
    rcases hrunning with hrunning | hrunning
    · rw [if_pos hrunning]
      exact Or.inr (.moves (.check hstage hrunning))
    · rw [if_neg (Bool.not_eq_true _ ▸ hrunning)]
      exact Or.inr (.disconnect (Or.inl ⟨hstage, hrunning⟩))
  -- The port is closed when there is no path any more.
  case h_12 hstage =>
    by_cases hpath : s.path.isSome
    · rw [if_pos hpath]
      exact Or.inr (.moves (.pop hstage hpath))
    · rw [if_neg hpath]
      exact Or.inr (.disconnect (Or.inr ⟨hstage, Option.not_isSome_iff_eq_none.mp hpath⟩))
  case h_13 hstage =>
    -- An empty queue lets the port be pumped, and the first request of any other is dispatched.
    split
    case h_1 hqueue => exact Or.inr (.moves (.pump hstage hqueue))
    case h_2 hqueue => exact Or.inr (.dispatch hstage hqueue)
  case h_14 hstage => exact Or.inr (.exit hstage)
  -- In the other stages the thread waits for what another input brings.
  all_goals rename_i hstage; exact Or.inl ⟨rfl, by simp [works, hstage]⟩

/-- A step changes nothing, and is none that the thread or the destructor had to do, or it does one
of these. -/
theorem step_cases (input : Input) :
    s.step input = (s, []) ∧ works ⟨s, input⟩ = false ∨ s.Does input (s.step input) := by
  cases input with
  | pushRequest request => exact Or.inr (.pushRequest request)
  | dongleStatus status =>
    simp only [step, publishDongleStatus]
    split
    -- A status is being announced already, or the thread has the lock.
    · exact Or.inl ⟨rfl, rfl⟩
    · rename_i hfree
      simp only [not_or, Bool.not_eq_true] at hfree
      -- With no subscriber the status is only retained.
      split
      · exact Or.inr (.dongleStatus status hfree.1 hfree.2 ‹_›)
      · exact Or.inr (.retained status)
  | notify =>
    simp only [step]
    split
    · exact Or.inr (.notify ‹_›)
    · exact Or.inl ⟨rfl, rfl⟩
  | spuriousWakeUp => exact Or.inr .spuriousWakeUp
  | destroy =>
    simp only [step, destroy, works]
    -- The three moves of the destructor. The last one has to wait for the thread.
    split
    case h_1 hdestructor => exact Or.inr (.destroy hdestructor)
    case h_2 hdestructor => exact Or.inr (.notifyAll hdestructor)
    case h_3 hdestructor =>
      by_cases hexited : s.stage = .exited
      · rw [if_pos hexited]
        exact Or.inr (.join hdestructor hexited)
      · exact Or.inl ⟨if_neg hexited, by simp [hdestructor, hexited]⟩
    case h_4 hdestructor => exact Or.inl ⟨rfl, by simp [hdestructor]⟩
  | proceed => exact s.proceed_cases
  | opened ok =>
    -- An input that the thread does not wait for at its stage is passed over.
    simp only [step, opened, works]
    split
    case h_1 hstage =>
      cases ok
      · exact Or.inr (.openFails hstage)
      · exact Or.inr (.moves (.opened hstage))
    case h_2 => exact Or.inl ⟨rfl, rfl⟩
  | introspected result errors =>
    simp only [step, introspected, works]
    by_cases hstage : s.stage = .introspecting
    · rw [if_pos hstage]
      split
      case h_1 hinfo => exact Or.inr (.introduced errors hstage hinfo)
      case h_2 hinfo => exact Or.inr (.unknown errors hstage hinfo)
    · exact Or.inl ⟨if_neg hstage, by simp [hstage]⟩
  | sent ok =>
    simp only [step, dispatchEvent]
    by_cases hstage : s.stage = .dispatching
    · rw [if_pos hstage]
      exact Or.inr (.sent ok hstage)
    · refine Or.inl ⟨if_neg hstage, ?_⟩
      unfold works
      split <;> simp_all
  | frame frame =>
    simp only [step, ZwaveProtocolState.frame]
    split
    · exact Or.inr (.frame frame ‹_›)
    · exact Or.inl ⟨rfl, rfl⟩
  | resume deadline =>
    simp only [step, dispatchEvent]
    by_cases hstage : s.stage = .dispatching
    · rw [if_pos hstage]
      exact Or.inr (.resume deadline hstage)
    · exact Or.inl ⟨if_neg hstage, by simp [works, hstage]⟩
  | pumped =>
    simp only [step]
    by_cases hstage : s.stage = .pumping
    · rw [if_pos hstage]
      exact Or.inr (.moves (.pumped hstage))
    · exact Or.inl ⟨if_neg hstage, by simp [works, hstage]⟩

end ZwaveProtocolState

end Zwaved.Protocol.Connection
