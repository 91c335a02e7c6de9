import Zwaved.Inclusion.System
import Zwaved.S2.BootstrapStep

/-!
# What one action leads to

`Cause` says why an action is on the agenda: which action put it there, and what the handler had
found out by then. `cause_of_mem_work` says that there is no other reason. The lemmas after it say
which actions write to the registry, to the interview's sessions, to the queue and to the nonces.
The safety proofs start from these and do not look into the handlers.
-/

namespace Zwaved.Inclusion

open CcTranslator Reactive

/-- The payload belongs to the security layer. -/
def IsSecurityFrame (payload : Bytes) : Prop :=
  payload.byte 0 = S0.Security.commandClass ∨ payload.byte 0 = S2.securityTwo

namespace System

variable (sys : System)

/-- What the unwrap layer makes of a frame. -/
def republishes (w : World) (nodeId : NodeId) (data : Bytes) : Option (Origin × Bytes) :=
  (w.unwrap.onApplicationCommand sys.s0Ssl sys.networkKey w.nonces nodeId data w.now).2

/-- The first action puts the second one on the agenda. -/
inductive Cause (w : World) (draws : Draws) : Action → Action → Prop
  /-- The unwrap layer republishes a frame. -/
  | republished (subscriber : Subscriber) {nodeId : NodeId} {data inner : Bytes}
    {outer origin : Origin} (unwraps : sys.republishes w nodeId data = some (origin, inner)) :
    Cause w draws (.deliver .unwrap (.applicationCommand nodeId data outer))
      (.deliver subscriber (.applicationCommand nodeId inner origin))
  /-- The unwrap layer has opened an S0 frame. -/
  | unwrapped (subscriber : Subscriber) {nodeId : NodeId} {data frame inner : Bytes}
    {nonce : S0.Nonce} {outer : Origin}
    (unwraps : sys.republishes w nodeId data = some (.s0 frame nonce, inner)) :
    Cause w draws (.deliver .unwrap (.applicationCommand nodeId data outer))
      (.deliver subscriber (.nodeSecurityStatus nodeId .s0))
  /-- The S0 bootstrap is done. -/
  | verified (subscriber : Subscriber) {nodeId : NodeId} {ccData : Bytes} {origin : Origin}
    (verifies : w.s0.Verifies nodeId ccData) :
    Cause w draws (.deliver .s0Bootstrap (.applicationCommand nodeId ccData origin))
      (.deliver subscriber (.nodeSecurityStatus nodeId .s0))
  /-- The S0 bootstrap erases the session after that. -/
  | erasesS0 {nodeId : NodeId} {ccData : Bytes} {origin : Origin}
    (verifies : w.s0.Verifies nodeId ccData) :
    Cause w draws (.deliver .s0Bootstrap (.applicationCommand nodeId ccData origin))
      (.eraseS0 nodeId)
  /-- The S2 bootstrap is done. -/
  | completed (subscriber : Subscriber) {nodeId : NodeId} {ccData : Bytes} {origin : Origin}
    {granted : UInt8} (records : (sys.s2Step w.s2 draws (.applicationCommand nodeId ccData origin)).2 =
      [.setSecurityScheme nodeId (S2.schemeFor granted),
        .nodeSecurityStatus nodeId (S2.schemeFor granted)]) :
    Cause w draws (.deliver .s2Bootstrap (.applicationCommand nodeId ccData origin))
      (.deliver subscriber (.nodeSecurityStatus nodeId (S2.schemeFor granted)))
  /-- A frame of the security layer is sent. -/
  | sent (action : Action) (subscriber : Subscriber) (nodeId : NodeId) {payload : Bytes}
    (security : IsSecurityFrame payload) :
    Cause w draws action (.deliver subscriber (.sendData nodeId payload))
  /-- What was queued is sent. -/
  | drained (subscriber : Subscriber) {nodeId : NodeId} {payload : Bytes}
    (queued : payload ∈ w.pending.queued nodeId) :
    Cause w draws (.deliver .wakeUp (.wakeUpNotification nodeId))
      (.deliver subscriber (.sendData nodeId payload))
  /-- The interview asks. -/
  | asked (subscriber : Subscriber) {message : Message} {nodeId : NodeId} {step : Interview.Step}
    (asks : .get nodeId step ∈ (interviewStep w.interview message).2) :
    Cause w draws (.deliver .interview message) (.deliver subscriber (.get nodeId step))
  /-- The interview is over. -/
  | erasesInterview (message : Message) (nodeId : NodeId) :
    Cause w draws (.deliver .interview message) (.eraseInterview nodeId)

variable {sys} {w : World} {draws : Draws} {action : Action}

/-- What a publish puts on the agenda are deliveries of the message. -/
theorem mem_publish {message : Message} (h : action ∈ sys.publish message) :
    ∃ subscriber, action = .deliver subscriber message := by
  obtain ⟨subscriber, -, rfl⟩ := List.mem_map.mp h
  exact ⟨subscriber, rfl⟩

/-- What the unwrap layer puts on the agenda is a cause of one of the listed kinds. -/
theorem cause_unwrap {message : Message} (h : action ∈ (sys.onUnwrap w message).2) :
    sys.Cause w draws (.deliver .unwrap message) action := by
  cases message with
  | applicationCommand nodeId data outer =>
    unfold onUnwrap at h
    dsimp only at h
    cases hrepublished : sys.republishes w nodeId data with
    | none =>
      unfold republishes at hrepublished
      rw [hrepublished] at h
      cases h
    | some republished =>
      obtain ⟨origin, inner⟩ := republished
      have heq := hrepublished
      unfold republishes at heq
      rw [heq] at h
      cases origin with
      -- The status goes out before the command that was inside.
      | s0 frame nonce =>
        rcases List.mem_append.mp h with h | h
        · obtain ⟨subscriber, rfl⟩ := mem_publish h
          exact .unwrapped subscriber hrepublished
        · obtain ⟨subscriber, rfl⟩ := mem_publish h
          exact .republished subscriber hrepublished
      | radio | crc16 | transportService | s2 =>
        obtain ⟨subscriber, rfl⟩ := mem_publish h
        exact .republished subscriber hrepublished
  | nodeIncluded | nodeSecurityStatus | confirmDsk | dongleInfo | s2NetworkKeysReady | get | report
  | wakeUpNotification | sendData => cases h

/-- What the nonce responder puts on the agenda is of one of the listed kinds. -/
theorem cause_nonceResponder {message : Message}
    (h : action ∈ (sys.onNonceResponder w draws message).2) :
    sys.Cause w draws (.deliver .nonceResponder message) action := by
  cases message with
  | applicationCommand nodeId data outer =>
    unfold onNonceResponder at h
    dsimp only at h
    split at h
    · obtain ⟨subscriber, rfl⟩ := mem_publish h
      exact .sent _ subscriber nodeId (Or.inl rfl)
    · cases h
  | nodeIncluded | nodeSecurityStatus | confirmDsk | dongleInfo | s2NetworkKeysReady | get | report
  | wakeUpNotification | sendData => cases h

/-- A frame of the S0 class that the bootstrap sends is a cause of one of the listed kinds, whatever
action it comes from. -/
theorem cause_s0Sent (action' : Action) {nodeId : NodeId} {payload : Bytes}
    (hclass : payload.byte 0 = S0.Security.commandClass)
    (h : action ∈ sys.s0Actions (.sendPlaintext nodeId payload)) :
    sys.Cause w draws action' action := by
  obtain ⟨subscriber, rfl⟩ := mem_publish h
  exact .sent action' subscriber nodeId (Or.inl hclass)

/-- What the S0 bootstrap puts on the agenda is of one of the listed kinds. -/
theorem cause_s0Bootstrap {message : Message} (h : action ∈ (sys.onS0Bootstrap w draws message).2) :
    sys.Cause w draws (.deliver .s0Bootstrap message) action := by
  unfold onS0Bootstrap performS0 at h
  obtain ⟨out, hout, haction⟩ := List.mem_flatMap.mp h
  cases message with
  | nodeIncluded nodeId commandClasses =>
    unfold s0Step S0.Bootstrap.onNodeIncluded at hout
    dsimp only at hout
    split at hout
    · cases hout
    split at hout
    · cases hout
    obtain rfl := List.mem_singleton.mp hout
    exact cause_s0Sent _ rfl haction
  | applicationCommand nodeId ccData origin =>
    by_cases hverifies : w.s0.Verifies nodeId ccData
    · unfold s0Step at hout
      dsimp only at hout
      rw [S0.Bootstrap.onApplicationCommand_of_verifies _ _ hverifies] at hout
      simp only [List.mem_cons, List.not_mem_nil, or_false] at hout
      rcases hout with rfl | rfl | rfl
      -- The scheme is written at once; the status and the end of the session are on the agenda.
      · cases haction
      · obtain ⟨subscriber, rfl⟩ := mem_publish haction
        exact .verified subscriber hverifies
      · obtain rfl := List.mem_singleton.mp haction
        exact .erasesS0 hverifies
    · obtain ⟨payload, rfl, hclass⟩ := S0.Bootstrap.onApplicationCommand_of_not_verifies
        sys.s0Ssl sys.networkKey hverifies draws.nonce out hout
      exact cause_s0Sent _ hclass haction
  | nodeSecurityStatus | confirmDsk | dongleInfo | s2NetworkKeysReady | get | report
  | wakeUpNotification | sendData => cases hout

/-- The S2 bootstrap takes an ApplicationCommand for one. -/
theorem applicationCommand_of_s2Event {message : Message} {nodeId : NodeId} {ccData : Bytes}
    {entropy : S2.EntropyInput}
    (h : s2Event draws message = some (.applicationCommand nodeId ccData entropy)) :
    ∃ origin, message = .applicationCommand nodeId ccData origin := by
  cases message with
  | applicationCommand node data origin =>
    cases h
    exact ⟨origin, rfl⟩
  | nodeIncluded | nodeSecurityStatus | confirmDsk | dongleInfo | s2NetworkKeysReady | get | report
  | wakeUpNotification | sendData => cases h

/-- The S2 bootstrap says nothing of a scheme, or it records one on an ApplicationCommand. -/
theorem s2Step_silent_or_records (sys : System) (s2 : S2.Bootstrap) (draws : Draws)
    (message : Message) :
    (∀ out ∈ (sys.s2Step s2 draws message).2, S2.Bootstrap.Silent out) ∨
      ∃ nodeId ccData origin granted, message = .applicationCommand nodeId ccData origin ∧
        (sys.s2Step s2 draws message).2 = [.setSecurityScheme nodeId (S2.schemeFor granted),
          .nodeSecurityStatus nodeId (S2.schemeFor granted)] := by
  unfold s2Step
  cases hevent : s2Event draws message with
  | none => exact Or.inl (by simp)
  | some event =>
    rcases S2.Bootstrap.step_silent_or_records sys.s2Ssl sys.networkKeys s2 event with
      hsilent | ⟨nodeId, ccData, entropy, granted, rfl, houtputs⟩
    · exact Or.inl hsilent
    · obtain ⟨origin, rfl⟩ := applicationCommand_of_s2Event hevent
      exact Or.inr ⟨nodeId, ccData, origin, granted, rfl, houtputs⟩

/-- Whatever the S2 bootstrap sends is an S2 frame. -/
theorem s2Step_sendsS2 (sys : System) (s2 : S2.Bootstrap) (draws : Draws) (message : Message) :
    ∀ out ∈ (sys.s2Step s2 draws message).2, S2.Bootstrap.SendsS2 out := by
  unfold s2Step
  cases s2Event draws message with
  | none => simp
  | some event => exact S2.Bootstrap.step_sendsS2 sys.s2Ssl sys.networkKeys s2 event

/-- What the S2 bootstrap puts on the agenda is of one of the listed kinds. -/
theorem cause_s2Bootstrap {message : Message} (h : action ∈ (sys.onS2Bootstrap w draws message).2) :
    sys.Cause w draws (.deliver .s2Bootstrap message) action := by
  unfold onS2Bootstrap performS2 at h
  obtain ⟨out, hout, haction⟩ := List.mem_flatMap.mp h
  -- Whatever the orchestrator sends is a frame of S2.
  have hsends := sys.s2Step_sendsS2 w.s2 draws message out hout
  cases out with
  | sendPlaintext nodeId payload =>
    obtain ⟨subscriber, rfl⟩ := mem_publish haction
    exact .sent _ subscriber nodeId (Or.inr hsends)
  | sendEncrypted nodeId inner frame =>
    obtain ⟨subscriber, rfl⟩ := mem_publish haction
    exact .sent _ subscriber nodeId (Or.inr hsends)
  | nodeSecurityStatus nodeId scheme =>
    obtain ⟨subscriber, rfl⟩ := mem_publish haction
    -- A report of security goes out only with the completed handshake.
    rcases sys.s2Step_silent_or_records w.s2 draws message with
      hsilent | ⟨node, ccData, origin, granted, rfl, houtputs⟩
    · exact absurd rfl (hsilent _ hout nodeId scheme).2
    · rw [houtputs] at hout
      simp only [List.mem_cons, reduceCtorEq, List.not_mem_nil, or_false, false_or] at hout
      cases hout
      exact .completed subscriber houtputs
  | setSecurityScheme | dskPendingConfirmation | s2KeyAgreementComplete => cases haction

/-- What the interview puts on the agenda is of one of the listed kinds. -/
theorem cause_interview {message : Message} (h : action ∈ (sys.onInterview w message).2) :
    sys.Cause w draws (.deliver .interview message) action := by
  unfold onInterview performInterview at h
  obtain ⟨out, hout, haction⟩ := List.mem_flatMap.mp h
  cases out with
  | get nodeId step =>
    obtain ⟨subscriber, rfl⟩ := mem_publish haction
    exact .asked subscriber hout
  | enqueue => cases haction
  | eraseSession nodeId =>
    obtain rfl := List.mem_singleton.mp haction
    exact .erasesInterview message nodeId

/-- What the wake-up layer puts on the agenda is of one of the listed kinds. -/
theorem cause_wakeUp {message : Message} (h : action ∈ (sys.onWakeUp w message).2) :
    sys.Cause w draws (.deliver .wakeUp message) action := by
  cases message with
  | wakeUpNotification nodeId =>
    obtain ⟨payload, hqueued, haction⟩ := List.mem_flatMap.mp h
    obtain ⟨subscriber, rfl⟩ := mem_publish haction
    exact .drained subscriber hqueued
  | nodeIncluded | applicationCommand | nodeSecurityStatus | confirmDsk | dongleInfo
  | s2NetworkKeysReady | get | report | sendData => cases h

/-- Nothing comes onto the agenda without a cause. -/
theorem cause_of_mem_work {taken : Action} (h : action ∈ (sys.work w taken draws).2.1) :
    sys.Cause w draws taken action := by
  cases taken with
  | deliver subscriber message =>
    cases subscriber with
    | unwrap => exact cause_unwrap h
    | nonceResponder => exact cause_nonceResponder h
    | s0Bootstrap => exact cause_s0Bootstrap h
    | s2Bootstrap => exact cause_s2Bootstrap h
    | interview => exact cause_interview h
    | wakeUp => exact cause_wakeUp h
    | protocol => cases h
  | eraseS0 => cases h
  | eraseInterview => cases h

/-! ## What an action writes -/

/-- The handlers do not see where an ApplicationCommand comes from. -/
theorem work_origin (sys : System) (w : World) (draws : Draws) (subscriber : Subscriber)
    (nodeId : NodeId) (ccData : Bytes) (origin other : Origin) :
    sys.work w (.deliver subscriber (.applicationCommand nodeId ccData origin)) draws =
      sys.work w (.deliver subscriber (.applicationCommand nodeId ccData other)) draws := by
  cases subscriber <;> rfl

/-- The registry is written on an awaited VERIFY, and when the S2 bootstrap is done. -/
inductive Records (w : World) (draws : Draws) : Action → NodeRegistry → Prop
  /-- The S0 bootstrap takes a VERIFY. -/
  | verified {nodeId : NodeId} {ccData : Bytes} {origin : Origin}
    (verifies : w.s0.Verifies nodeId ccData) :
    Records w draws (.deliver .s0Bootstrap (.applicationCommand nodeId ccData origin))
      (w.registry.setSecurityScheme nodeId .s0)
  /-- The S2 bootstrap is done. -/
  | completed {nodeId : NodeId} {ccData : Bytes} {origin : Origin} (granted : UInt8) :
    Records w draws (.deliver .s2Bootstrap (.applicationCommand nodeId ccData origin))
      (w.registry.setSecurityScheme nodeId (S2.schemeFor granted))

/-- What sets no scheme leaves the registry. -/
theorem foldl_s0Write (outputs : List S0.BootstrapOutput)
    (h : ∀ out ∈ outputs, ∃ nodeId payload, out = .sendPlaintext nodeId payload)
    (registry : NodeRegistry) : outputs.foldl s0Write registry = registry := by
  induction outputs with
  | nil => rfl
  | cons out outputs ih =>
    obtain ⟨nodeId, payload, rfl⟩ := h out List.mem_cons_self
    exact ih fun out hout => h out (List.mem_cons_of_mem _ hout)

/-- The S0 bootstrap leaves the registry or records the outcome of an inclusion. -/
theorem registry_s0Bootstrap (sys : System) (w : World) (draws : Draws) (message : Message) :
    (sys.onS0Bootstrap w draws message).1.registry = w.registry ∨
      Records w draws (.deliver .s0Bootstrap message)
        (sys.onS0Bootstrap w draws message).1.registry := by
  unfold onS0Bootstrap performS0
  cases message with
  | applicationCommand nodeId ccData origin =>
    -- Only the frame that verifies writes the scheme.
    by_cases hverifies : w.s0.Verifies nodeId ccData
    · unfold s0Step
      dsimp only
      rw [S0.Bootstrap.onApplicationCommand_of_verifies _ _ hverifies]
      exact Or.inr (.verified hverifies)
    -- Any other frame has nonces and keys sent at most.
    · refine Or.inl (foldl_s0Write _ (fun out hout => ?_) _)
      obtain ⟨payload, rfl, -⟩ := S0.Bootstrap.onApplicationCommand_of_not_verifies
        sys.s0Ssl sys.networkKey hverifies draws.nonce out hout
      exact ⟨nodeId, payload, rfl⟩
  | nodeIncluded nodeId commandClasses =>
    -- An inclusion asks for the scheme of the node, or does nothing.
    left
    unfold s0Step S0.Bootstrap.onNodeIncluded
    dsimp only
    split
    · rfl
    split
    · rfl
    · rfl
  | nodeSecurityStatus | confirmDsk | dongleInfo | s2NetworkKeysReady | get | report
  | wakeUpNotification | sendData => exact Or.inl rfl

/-- What sets no scheme leaves the registry. -/
theorem foldl_s2Write (outputs : List S2.BootstrapOutput)
    (h : ∀ out ∈ outputs, S2.Bootstrap.Silent out) (registry : NodeRegistry) :
    outputs.foldl s2Write registry = registry := by
  induction outputs with
  | nil => rfl
  | cons out outputs ih =>
    have hout : s2Write registry out = registry := by
      cases out with
      | setSecurityScheme nodeId scheme =>
        exact absurd rfl (h _ List.mem_cons_self nodeId scheme).1
      | sendPlaintext | sendEncrypted | nodeSecurityStatus | dskPendingConfirmation
      | s2KeyAgreementComplete => rfl
    rw [List.foldl_cons, hout]
    exact ih fun out hout => h out (List.mem_cons_of_mem _ hout)

/-- The S2 bootstrap leaves the registry or records the outcome of an inclusion. -/
theorem registry_s2Bootstrap (sys : System) (w : World) (draws : Draws) (message : Message) :
    (sys.onS2Bootstrap w draws message).1.registry = w.registry ∨
      Records w draws (.deliver .s2Bootstrap message)
        (sys.onS2Bootstrap w draws message).1.registry := by
  unfold onS2Bootstrap performS2
  rcases sys.s2Step_silent_or_records w.s2 draws message with
    hsilent | ⟨nodeId, ccData, origin, granted, rfl, houtputs⟩
  · exact Or.inl (foldl_s2Write _ hsilent _)
  · right
    dsimp only
    rw [houtputs]
    exact .completed granted

/-- A VERIFY that the S0 bootstrap awaits records S0 for its node, whatever the frame came out
of. -/
theorem registry_of_verifies {nodeId : NodeId} {ccData : Bytes}
    (hverifies : w.s0.Verifies nodeId ccData) (origin : Origin) :
    (sys.work w (.deliver .s0Bootstrap (.applicationCommand nodeId ccData origin))
      draws).1.registry = w.registry.setSecurityScheme nodeId .s0 := by
  dsimp only [work, onS0Bootstrap, performS0, s0Step]
  rw [S0.Bootstrap.onApplicationCommand_of_verifies _ _ hverifies]
  rfl

/-- When the S2 bootstrap records a scheme and reports it, the registry holds that scheme
afterwards. -/
theorem registry_of_completed {message : Message} {nodeId : NodeId} {scheme : SecurityScheme}
    (hrecords : (sys.s2Step w.s2 draws message).2 =
      [.setSecurityScheme nodeId scheme, .nodeSecurityStatus nodeId scheme]) :
    (sys.work w (.deliver .s2Bootstrap message) draws).1.registry =
      w.registry.setSecurityScheme nodeId scheme := by
  dsimp only [work, onS2Bootstrap, performS2]
  rw [hrecords]
  rfl

/-- The unwrap layer writes its own state and the nonces only. -/
theorem onUnwrap_writes (sys : System) (w : World) (message : Message) :
    ∃ unwrap nonces, (sys.onUnwrap w message).1 = { w with unwrap, nonces } := by
  cases message with
  | applicationCommand nodeId data outer =>
    unfold onUnwrap
    dsimp only
    split <;> exact ⟨_, _, rfl⟩
  | dongleInfo => exact ⟨_, _, rfl⟩
  | nodeIncluded | nodeSecurityStatus | confirmDsk | s2NetworkKeysReady | get | report
  | wakeUpNotification | sendData => exact ⟨_, _, rfl⟩

/-- The nonce responder writes the nonces only. -/
theorem onNonceResponder_writes (sys : System) (w : World) (draws : Draws) (message : Message) :
    ∃ nonces, (sys.onNonceResponder w draws message).1 = { w with nonces } := by
  cases message with
  | applicationCommand nodeId data outer =>
    unfold onNonceResponder
    dsimp only
    split <;> exact ⟨_, rfl⟩
  | nodeIncluded | nodeSecurityStatus | confirmDsk | dongleInfo | s2NetworkKeysReady | get | report
  | wakeUpNotification | sendData => exact ⟨_, rfl⟩

/-- The wake-up layer writes the pending commands only. -/
theorem onWakeUp_writes (sys : System) (w : World) (message : Message) :
    ∃ pending, (sys.onWakeUp w message).1 = { w with pending } := by
  cases message <;> exact ⟨_, rfl⟩

/-- Handling an action leaves the registry or records the outcome of a bootstrap, as `Records`
lists. -/
theorem registry_work (sys : System) (w : World) (action : Action) (draws : Draws) :
    (sys.work w action draws).1.registry = w.registry ∨
      Records w draws action (sys.work w action draws).1.registry := by
  unfold work
  cases action with
  | deliver subscriber message =>
    -- Only the two bootstraps write to the registry; the others change their own part of the world.
    cases subscriber with
    | unwrap =>
      obtain ⟨unwrap, nonces, hw⟩ := sys.onUnwrap_writes w message
      exact Or.inl (by dsimp only; rw [hw])
    | nonceResponder =>
      obtain ⟨nonces, hw⟩ := sys.onNonceResponder_writes w draws message
      exact Or.inl (by dsimp only; rw [hw])
    | s0Bootstrap => exact registry_s0Bootstrap sys w draws message
    | s2Bootstrap => exact registry_s2Bootstrap sys w draws message
    | interview => exact Or.inl rfl
    | wakeUp =>
      obtain ⟨pending, hw⟩ := sys.onWakeUp_writes w message
      exact Or.inl (by dsimp only; rw [hw])
    | protocol => exact Or.inl rfl
  | eraseS0 => exact Or.inl rfl
  | eraseInterview => exact Or.inl rfl

/-- A nonce is in the table because it was, or because it has just been issued. -/
theorem entries_work {nodeId : NodeId} {nonceId : UInt8} {entry : S0.NonceEntry}
    (h : (sys.work w action draws).1.nonces.entries nodeId nonceId = some entry) :
    w.nonces.entries nodeId nonceId = some entry ∨
      ∃ data outer, action = .deliver .nonceResponder (.applicationCommand nodeId data outer) ∧
        S0.Security.commandByte data = some S0.Security.nonceGet ∧ draws.nonce = entry.nonce := by
  unfold work at h
  cases action with
  | deliver subscriber message =>
    cases subscriber with
    | unwrap =>
      -- The unwrapping takes nonces off the table, and issues none.
      unfold onUnwrap at h
      cases message with
      | applicationCommand node data outer =>
        dsimp only at h
        split at h <;> exact Or.inl (Unwrap.entries_onApplicationCommand h)
      | nodeIncluded | nodeSecurityStatus | confirmDsk | dongleInfo | s2NetworkKeysReady | get
      | report | wakeUpNotification | sendData => exact Or.inl h
    | nonceResponder =>
      unfold onNonceResponder at h
      cases message with
      | applicationCommand node data outer =>
        dsimp only at h
        split at h
        -- The nonce that is new has been drawn for this very request.
        · next hget =>
          rcases S0.NonceTable.entries_generate h with ⟨rfl, hnonce⟩ | h
          · exact Or.inr ⟨data, outer, rfl, hget, hnonce.symm⟩
          · exact Or.inl h
        · exact Or.inl h
      | nodeIncluded | nodeSecurityStatus | confirmDsk | dongleInfo | s2NetworkKeysReady | get
      | report | wakeUpNotification | sendData => exact Or.inl h
    | s0Bootstrap | s2Bootstrap | interview | protocol => exact Or.inl h
    -- The drained queue is not the table of nonces.
    | wakeUp =>
      obtain ⟨pending, hw⟩ := sys.onWakeUp_writes w message
      dsimp only at h
      rw [hw] at h
      exact Or.inl h
  | eraseS0 => exact Or.inl h
  | eraseInterview => exact Or.inl h

/-- The interview's sessions change when a message is delivered to it, or when one is erased. -/
theorem interview_work (sys : System) (w : World) (action : Action) (draws : Draws) :
    (sys.work w action draws).1.interview = w.interview ∨
      (∃ message, action = .deliver .interview message ∧
        (sys.work w action draws).1.interview = (interviewStep w.interview message).1) ∨
      ∃ nodeId, action = .eraseInterview nodeId ∧
        (sys.work w action draws).1.interview = Function.update w.interview nodeId none := by
  unfold work
  cases action with
  -- The interview's part is written where it takes a message, and where its session is erased.
  | deliver subscriber message =>
    cases subscriber with
    | unwrap =>
      obtain ⟨unwrap, nonces, hw⟩ := sys.onUnwrap_writes w message
      exact Or.inl (by dsimp only; rw [hw])
    | nonceResponder =>
      obtain ⟨nonces, hw⟩ := sys.onNonceResponder_writes w draws message
      exact Or.inl (by dsimp only; rw [hw])
    | interview => exact Or.inr (Or.inl ⟨message, rfl, rfl⟩)
    | wakeUp =>
      obtain ⟨pending, hw⟩ := sys.onWakeUp_writes w message
      exact Or.inl (by dsimp only; rw [hw])
    | s0Bootstrap | s2Bootstrap | protocol => exact Or.inl rfl
  | eraseS0 => exact Or.inl rfl
  | eraseInterview nodeId => exact Or.inr (Or.inr ⟨nodeId, rfl, rfl⟩)

/-- A payload is queued after the interview's outputs because it was, or by one of them. -/
theorem mem_queued_foldl {nodeId : NodeId} {payload : Bytes} (outputs : List Interview.Output)
    (pending : PendingQueue)
    (h : payload ∈ (outputs.foldl interviewQueue pending).queued nodeId) :
    payload ∈ pending.queued nodeId ∨ .enqueue nodeId payload ∈ outputs := by
  -- The outputs are queued one by one, so that what is on the queue of the node was there or is one
  -- of them.
  induction outputs generalizing pending with
  | nil => exact Or.inl h
  | cons out outputs ih =>
    rcases ih _ h with h | h
    · cases out with
      | get | eraseSession => exact Or.inl h
      | enqueue node queued =>
        unfold interviewQueue PendingQueue.enqueue at h
        by_cases hnode : nodeId = node
        · subst hnode
          -- A node that no queue can be kept for has none.
          rcases pending.queued_set nodeId (pending.queued nodeId ++ [queued]) with heq | heq
          · rw [heq] at h
            rcases List.mem_append.mp h with h | h
            · exact Or.inl h
            · obtain rfl := List.mem_singleton.mp h
              exact Or.inr List.mem_cons_self
          · rw [heq] at h
            cases h
        · rw [PendingQueue.queued_set_of_ne _ hnode] at h
          exact Or.inl h
    · exact Or.inr (List.mem_cons_of_mem _ h)

/-- A payload is queued because it was, or because the interview has just queued it. -/
theorem mem_queued_work {nodeId : NodeId} {payload : Bytes}
    (h : payload ∈ (sys.work w action draws).1.pending.queued nodeId) :
    payload ∈ w.pending.queued nodeId ∨
      ∃ message, action = .deliver .interview message ∧
        .enqueue nodeId payload ∈ (interviewStep w.interview message).2 := by
  unfold work at h
  cases action with
  | deliver subscriber message =>
    -- Of the subscribers only the interview queues.
    cases subscriber with
    | unwrap =>
      obtain ⟨unwrap, nonces, hw⟩ := sys.onUnwrap_writes w message
      dsimp only at h
      rw [hw] at h
      exact Or.inl h
    | nonceResponder =>
      obtain ⟨nonces, hw⟩ := sys.onNonceResponder_writes w draws message
      dsimp only at h
      rw [hw] at h
      exact Or.inl h
    | interview =>
      rcases mem_queued_foldl _ _ h with h | h
      · exact Or.inl h
      · exact Or.inr ⟨message, rfl, h⟩
    | wakeUp =>
      -- A node that has woken up gets its queue sent, which is empty then.
      unfold onWakeUp at h
      cases message with
      | wakeUpNotification node =>
        left
        dsimp only [PendingQueue.drain] at h
        by_cases hnode : nodeId = node
        · subst hnode
          rcases w.pending.queued_set nodeId [] with heq | heq <;>
          · rw [heq] at h
            cases h
        · rwa [PendingQueue.queued_set_of_ne _ hnode] at h
      | nodeIncluded | applicationCommand | nodeSecurityStatus | confirmDsk | dongleInfo
      | s2NetworkKeysReady | get | report | sendData => exact Or.inl h
    | s0Bootstrap | s2Bootstrap | protocol => exact Or.inl h
  | eraseS0 => exact Or.inl h
  | eraseInterview => exact Or.inl h

end System

end Zwaved.Inclusion
