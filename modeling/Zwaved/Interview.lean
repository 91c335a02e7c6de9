import Zwaved.Bytes

/-!
# The interview

`InterviewOrchestrator.cpp`, with the queue that it uses for sleeping nodes (`PendingQueue.cpp`). A
node that has been included is asked for its identity by a sequence of Gets, each sent when the
report on the one before it has arrived. For a node with a security class among its command classes
the sequence is deferred until NodeSecurityStatus says that the node is secure. For a sleeping node
the Gets are queued at once, to be sent when it wakes up.
-/

namespace Zwaved

/-! ## The queue -/

/-- `PendingQueue`, as far as the interview's entries go: they all have one priority, so those of a
node are drained in the order they came in. Entries of another network stay out of view. -/
structure PendingQueue where
  /-- `currentHomeId`. -/
  homeId : Option Bytes := none
  /-- The rows of each network and node. -/
  rows : Bytes → NodeId → List Bytes := fun _ _ => []

namespace PendingQueue

/-- What is queued for a node in the network at hand. -/
def queued (q : PendingQueue) (nodeId : NodeId) : List Bytes :=
  match q.homeId with
  | none => []
  | some home => q.rows home nodeId

/-- The rows of a node in the network at hand replaced. -/
def set (q : PendingQueue) (nodeId : NodeId) (payloads : List Bytes) : PendingQueue :=
  match q.homeId with
  | none => q
  | some home =>
    { q with rows := Function.update q.rows home (Function.update (q.rows home) nodeId payloads) }

/-- `enqueue`, which needs a network. -/
def enqueue (q : PendingQueue) (nodeId : NodeId) (payload : Bytes) : PendingQueue :=
  q.set nodeId (q.queued nodeId ++ [payload])

/-- `drain`. -/
def drain (q : PendingQueue) (nodeId : NodeId) : List Bytes × PendingQueue :=
  (q.queued nodeId, q.set nodeId [])

/-- Replacing what is queued for one node leaves the others. -/
theorem queued_set_of_ne (q : PendingQueue) {nodeId other : NodeId} (h : other ≠ nodeId)
    (payloads : List Bytes) : (q.set nodeId payloads).queued other = q.queued other := by
  unfold set queued
  cases hhome : q.homeId with
  | none => rw [hhome]
  | some home =>
    dsimp only
    rw [Function.update_self, Function.update_of_ne h]

/-- What is queued for a node after it was replaced is what it was replaced by, or nothing. -/
theorem queued_set (q : PendingQueue) (nodeId : NodeId) (payloads : List Bytes) :
    (q.set nodeId payloads).queued nodeId = payloads ∨
      (q.set nodeId payloads).queued nodeId = [] := by
  unfold set queued
  cases hhome : q.homeId with
  | none =>
    rw [hhome]
    exact Or.inr rfl
  | some home =>
    dsimp only
    rw [Function.update_self, Function.update_self]
    exact Or.inl rfl

end PendingQueue

/-! ## The interview -/

namespace Interview

/-- `CC_MULTI_CHANNEL`. -/
def multiChannel : UInt8 := 0x60

/-- `CC_ZWAVEPLUS_INFO`. -/
def zwavePlusInfo : UInt8 := 0x5E

/-- `CC_WAKE_UP`. -/
def wakeUp : UInt8 := 0x84

/-- `CC_SECURITY_0`. -/
def security0 : UInt8 := 0x98

/-- `CC_SECURITY_2`. -/
def security2 : UInt8 := 0x9F

/-- `Step`. -/
inductive Step
  /-- Manufacturer, product type and product. -/
  | manufacturerSpecific
  /-- Library and protocol versions. -/
  | version
  /-- The endpoints of a multi channel node. -/
  | endpoints
  /-- Z-Wave Plus roles and icons. -/
  | zwavePlus
  deriving DecidableEq, Repr

/-- `payloadForStep`, the bytes that `encodeGet` of the step's codec makes. -/
def payloadForStep : Step → Bytes
  | .manufacturerSpecific => [0x72, 0x04]
  | .version => [0x86, 0x11]
  | .endpoints => [0x60, 0x07]
  | .zwavePlus => [0x5E, 0x01]

/-- `Session`. -/
structure Session where
  /-- `steps`. -/
  steps : List Step
  /-- `index`. -/
  index : ℕ := 0
  /-- `started`: false while deferred. -/
  started : Bool := false
  /-- `viaQueue`: the node sleeps. -/
  viaQueue : Bool := false
  deriving DecidableEq, Repr

/-- What a handler has left to do. -/
inductive Output
  /-- The Get command of a step. -/
  | get (nodeId : NodeId) (step : Step)
  /-- `PendingQueue::enqueue`. -/
  | enqueue (nodeId : NodeId) (payload : Bytes)
  /-- `sessions.erase`, after NodeInterviewComplete. -/
  | eraseSession (nodeId : NodeId)
  deriving DecidableEq

/-- The node has a security class. -/
def IsSecure (commandClasses : Bytes) : Prop :=
  security0 ∈ commandClasses ∨ security2 ∈ commandClasses

instance (commandClasses : Bytes) : Decidable (IsSecure commandClasses) :=
  inferInstanceAs (Decidable (_ ∨ _))

/-- The session that NodeIncluded makes. -/
def sessionFor (commandClasses : Bytes) : Session where
  steps := [.manufacturerSpecific, .version] ++
    (if multiChannel ∈ commandClasses then [.endpoints] else []) ++
    (if zwavePlusInfo ∈ commandClasses then [.zwavePlus] else [])
  viaQueue := wakeUp ∈ commandClasses

/-- `beginInterview`. -/
def beginInterview (nodeId : NodeId) (session : Session) : Session × List Output :=
  let session := { session with started := true, index := 0 }
  if session.viaQueue then
    (session, session.steps.map fun step => .enqueue nodeId (payloadForStep step))
  else (session, (session.steps.head?.map fun step => .get nodeId step).toList)

/-- `onNodeIncluded`. -/
def onNodeIncluded (sessions : NodeMap Session) (nodeId : NodeId) (commandClasses : Bytes) :
    NodeMap Session × List Output :=
  let session := sessionFor commandClasses
  if IsSecure commandClasses then (Function.update sessions nodeId (some session), [])
  else
    let (session, outputs) := beginInterview nodeId session
    (Function.update sessions nodeId (some session), outputs)

/-- `onNodeSecurityStatus`, for a scheme other than `None`. -/
def onNodeSecurityStatus (sessions : NodeMap Session) (nodeId : NodeId) :
    NodeMap Session × List Output :=
  match sessions nodeId with
  | none => (sessions, [])
  | some session =>
    if session.started then (sessions, [])
    else
      let (session, outputs) := beginInterview nodeId session
      (Function.update sessions nodeId (some session), outputs)

/-- `advance`. -/
def advance (sessions : NodeMap Session) (nodeId : NodeId) (completed : Step) :
    NodeMap Session × List Output :=
  match sessions nodeId with
  | none => (sessions, [])
  | some session =>
    if session.started = false ∨ session.steps[session.index]? ≠ some completed then (sessions, [])
    else
      let session := { session with index := session.index + 1 }
      let sessions := Function.update sessions nodeId (some session)
      match session.steps[session.index]? with
      | none => (sessions, [.eraseSession nodeId])
      | some next => (sessions, if session.viaQueue then [] else [.get nodeId next])

/-- The interview of a node is deferred until it is secure. -/
def Deferred (sessions : NodeMap Session) (nodeId : NodeId) : Prop :=
  ∃ session ∈ sessions nodeId, session.started = false

/-- The interview of a node is under way. -/
def UnderWay (sessions : NodeMap Session) (nodeId : NodeId) : Prop :=
  ∃ session ∈ sessions nodeId, session.started = true

instance (sessions : NodeMap Session) (nodeId : NodeId) : Decidable (Deferred sessions nodeId) :=
  inferInstanceAs (Decidable (∃ _ ∈ sessions nodeId, _))

instance (sessions : NodeMap Session) (nodeId : NodeId) : Decidable (UnderWay sessions nodeId) :=
  inferInstanceAs (Decidable (∃ _ ∈ sessions nodeId, _))

/-- The node that an output is for. -/
def Output.nodeId : Output → NodeId
  | get nodeId _ => nodeId
  | enqueue nodeId _ => nodeId
  | eraseSession nodeId => nodeId

/-- What a handler returns is about one node. -/
structure About (nodeId : NodeId) (sessions : NodeMap Session)
    (result : NodeMap Session × List Output) : Prop where
  /-- The other sessions are left. -/
  frame : ∀ other, other ≠ nodeId → result.1 other = sessions other
  /-- The outputs are for the node. -/
  outputs : ∀ out ∈ result.2, out.nodeId = nodeId

/-- A handler that does nothing keeps to any node. -/
theorem About.refl (nodeId : NodeId) (sessions : NodeMap Session) :
    About nodeId sessions (sessions, []) := ⟨fun _ _ => rfl, fun _ h => by cases h⟩

/-- A handler that stores a node's session and puts out what names that node keeps to it. -/
theorem About.update {nodeId : NodeId} {outputs : List Output}
    (h : ∀ out ∈ outputs, out.nodeId = nodeId) (sessions : NodeMap Session) (session : Session) :
    About nodeId sessions (Function.update sessions nodeId (some session), outputs) :=
  ⟨fun _ hne => Function.update_of_ne hne _ _, h⟩

/-- What beginning an interview puts out is about its node. -/
theorem nodeId_of_mem_beginInterview {nodeId : NodeId} {session : Session} {out : Output}
    (h : out ∈ (beginInterview nodeId session).2) : out.nodeId = nodeId := by
  unfold beginInterview at h
  dsimp only at h
  split at h
  · obtain ⟨step, -, rfl⟩ := List.mem_map.mp h
    rfl
  · obtain ⟨step, -, rfl⟩ := Option.map_eq_some_iff.mp (Option.mem_toList.mp h)
    rfl

/-- An inclusion is about its node only. -/
theorem about_onNodeIncluded (sessions : NodeMap Session) (nodeId : NodeId)
    (commandClasses : Bytes) :
    About nodeId sessions (onNodeIncluded sessions nodeId commandClasses) := by
  unfold onNodeIncluded
  dsimp only
  split
  · exact About.update (fun out h => by cases h) sessions _
  · exact About.update (fun out h => nodeId_of_mem_beginInterview h) sessions _

/-- A security status is about its node only. -/
theorem about_onNodeSecurityStatus (sessions : NodeMap Session) (nodeId : NodeId) :
    About nodeId sessions (onNodeSecurityStatus sessions nodeId) := by
  unfold onNodeSecurityStatus
  cases sessions nodeId with
  | none => exact About.refl nodeId sessions
  | some session =>
    dsimp only
    split
    · exact About.refl nodeId sessions
    · exact About.update (fun out h => nodeId_of_mem_beginInterview h) sessions _

/-- A report is about its node only. -/
theorem about_advance (sessions : NodeMap Session) (nodeId : NodeId) (completed : Step) :
    About nodeId sessions (advance sessions nodeId completed) := by
  unfold advance
  cases sessions nodeId with
  | none => exact About.refl nodeId sessions
  | some session =>
    dsimp only
    split
    · exact About.refl nodeId sessions
    · split
      · exact About.update (fun out h => by rw [List.mem_singleton.mp h]; rfl) sessions _
      · refine About.update (fun out h => ?_) sessions _
        split at h
        · cases h
        · rw [List.mem_singleton.mp h]
          rfl

/-- For a node with a security class the interview is put off. -/
theorem onNodeIncluded_of_isSecure {commandClasses : Bytes} (h : IsSecure commandClasses)
    (sessions : NodeMap Session) (nodeId : NodeId) :
    onNodeIncluded sessions nodeId commandClasses =
      (Function.update sessions nodeId (some (sessionFor commandClasses)), []) := by
  unfold onNodeIncluded
  exact if_pos h

/-- NodeSecurityStatus starts what was put off, and nothing else. -/
theorem onNodeSecurityStatus_of_not_deferred {sessions : NodeMap Session} {nodeId : NodeId}
    (h : ¬ Deferred sessions nodeId) : onNodeSecurityStatus sessions nodeId = (sessions, []) := by
  unfold onNodeSecurityStatus
  cases hsession : sessions nodeId with
  | none => rfl
  | some session =>
    dsimp only
    refine if_pos ?_
    by_contra hstarted
    exact h ⟨session, hsession, by simpa using hstarted⟩

/-- A report moves an interview on that is under way. -/
theorem advance_of_not_underWay {sessions : NodeMap Session} {nodeId : NodeId}
    (h : ¬ UnderWay sessions nodeId) (completed : Step) :
    advance sessions nodeId completed = (sessions, []) := by
  unfold advance
  cases hsession : sessions nodeId with
  | none => rfl
  | some session =>
    dsimp only
    refine if_pos (Or.inl ?_)
    by_contra hstarted
    exact h ⟨session, hsession, by simpa using hstarted⟩

end Interview

end Zwaved
