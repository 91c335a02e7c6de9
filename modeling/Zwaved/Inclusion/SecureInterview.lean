import Zwaved.Inclusion.Causes
import Zwaved.Inclusion.Downgrade

/-!
# The channel of the interview

The interview of a node with a security class waits for NodeSecurityStatus, so that its Gets are
encrypted. What encrypts them is the scheme in the registry, at the time that a Get is at
`pushSendData`. Both bootstraps write the scheme before they publish the status. The unwrap layer
writes none: it publishes the status for every S0 frame that it opens, and the first such frame of a
node that is being bootstrapped is the VERIFY, which it republishes after the status. All of this is
delivered as it is published, so the first Get is out, in the clear, before the S0 bootstrap has
seen the VERIFY (`asked_in_clear`).

The invariant is `Guarded`: the node is secure, or its interview is quiet, that is not under way,
with nothing queued, no Get on the agenda, and no status either if it is deferred. NodeIncluded
would turn an interview that a status on the agenda no longer matters to into one that it does; but
it comes in when the agenda is empty, so nothing but its own deliveries is ever below it
(`Layered`). A step keeps the invariant if it is `Orderly` (`Guarded.step`), and a run of orderly
steps sends no Get in the clear (`ridesEncrypted`).
-/

namespace Zwaved.Inclusion

open CcTranslator Reactive

/-- The registry has a scheme for the node. -/
def Secure (nodeId : NodeId) (w : World) : Prop := w.registry.isSecure nodeId = true

instance (nodeId : NodeId) (w : World) : Decidable (Secure nodeId w) :=
  inferInstanceAs (Decidable (_ = _))

/-- The message has the protocol thread send an interview Get to the node: the typed command, or the
payload that was queued. -/
def IsGet (nodeId : NodeId) (step : Interview.Step) (message : Message) : Prop :=
  message = .get nodeId step ∨ message = .sendData nodeId (Interview.payloadForStep step)

/-- The action is the delivery of a Get for the node, or of anything else for it that is not of the
security layer. -/
def Asks (nodeId : NodeId) : Action → Prop
  | .deliver _ (.get node _) => node = nodeId
  | .deliver _ (.sendData node payload) => node = nodeId ∧ ¬ IsSecurityFrame payload
  | _ => False

/-- The action is the delivery of a NodeSecurityStatus of the node. -/
def Announces (nodeId : NodeId) : Action → Prop
  | .deliver _ (.nodeSecurityStatus node _) => node = nodeId
  | _ => False

/-- The action is the delivery of a NodeIncluded. -/
def IsInclusion : Action → Prop
  | .deliver _ (.nodeIncluded _ _) => True
  | _ => False

instance (payload : Bytes) : Decidable (IsSecurityFrame payload) :=
  inferInstanceAs (Decidable (_ ∨ _))

instance (nodeId : NodeId) : DecidablePred (Asks nodeId)
  | .deliver _ (.get _ _) => inferInstanceAs (Decidable (_ = _))
  | .deliver _ (.sendData _ _) => inferInstanceAs (Decidable (_ ∧ _))
  | .deliver _ (.nodeIncluded _ _) | .deliver _ (.applicationCommand _ _ _)
  | .deliver _ (.nodeSecurityStatus _ _) | .deliver _ (.confirmDsk _ _)
  | .deliver _ (.dongleInfo _ _) | .deliver _ (.s2NetworkKeysReady _) | .deliver _ (.report _ _)
  | .deliver _ (.wakeUpNotification _) | .eraseS0 _ | .eraseInterview _ =>
    inferInstanceAs (Decidable False)

instance (nodeId : NodeId) : DecidablePred (Announces nodeId)
  | .deliver _ (.nodeSecurityStatus _ _) => inferInstanceAs (Decidable (_ = _))
  | .deliver _ (.nodeIncluded _ _) | .deliver _ (.applicationCommand _ _ _)
  | .deliver _ (.get _ _) | .deliver _ (.sendData _ _) | .deliver _ (.confirmDsk _ _)
  | .deliver _ (.dongleInfo _ _) | .deliver _ (.s2NetworkKeysReady _) | .deliver _ (.report _ _)
  | .deliver _ (.wakeUpNotification _) | .eraseS0 _ | .eraseInterview _ =>
    inferInstanceAs (Decidable False)

/-- The interview of the node leads to nothing as things are. -/
structure Quiet (nodeId : NodeId) (c : Config World Action) : Prop where
  /-- It is not under way. -/
  waits : ¬ Interview.UnderWay c.state.interview nodeId
  /-- Nothing is queued for the node. -/
  unqueued : c.state.pending.queued nodeId = []
  /-- No Get is on the agenda. -/
  unasked : ∀ action ∈ c.agenda, ¬ Asks nodeId action
  /-- If it is deferred, no status is on the agenda. -/
  unannounced : Interview.Deferred c.state.interview nodeId →
    ∀ action ∈ c.agenda, ¬ Announces nodeId action

instance (nodeId : NodeId) (c : Config World Action) : Decidable (Quiet nodeId c) :=
  decidable_of_iff
    (¬ Interview.UnderWay c.state.interview nodeId ∧ c.state.pending.queued nodeId = [] ∧
      (∀ action ∈ c.agenda, ¬ Asks nodeId action) ∧
      (Interview.Deferred c.state.interview nodeId → ∀ action ∈ c.agenda, ¬ Announces nodeId action))
    ⟨fun ⟨waits, unqueued, unasked, unannounced⟩ => ⟨waits, unqueued, unasked, unannounced⟩,
      fun ⟨waits, unqueued, unasked, unannounced⟩ => ⟨waits, unqueued, unasked, unannounced⟩⟩

/-- Below a NodeIncluded there are only deliveries of the same. -/
def Layered (agenda : List Action) : Prop :=
  agenda.Pairwise fun above below => IsInclusion above → IsInclusion below

/-! ## The interview of a quiet node -/

/-- What a message can do to the sessions of a node whose interview is quiet. -/
structure Undisturbed (nodeId : NodeId) (sessions : NodeMap Interview.Session) (message : Message)
    (result : NodeMap Interview.Session × List Interview.Output) : Prop where
  /-- No interview of the node is under way after it. -/
  waits : ¬ Interview.UnderWay result.1 nodeId
  /-- The node is sent nothing, and nothing is queued for it. -/
  outputs : ∀ out ∈ result.2, out.nodeId ≠ nodeId
  /-- An interview is deferred by NodeIncluded. -/
  deferred : Interview.Deferred result.1 nodeId →
    Interview.Deferred sessions nodeId ∨
      ∃ commandClasses, message = .nodeIncluded nodeId commandClasses

/-- A message that leaves the sessions and puts nothing out disturbs no interview that is not under
way. -/
theorem Undisturbed.refl {nodeId : NodeId} {sessions : NodeMap Interview.Session}
    (h : ¬ Interview.UnderWay sessions nodeId) (message : Message) :
    Undisturbed nodeId sessions message (sessions, []) :=
  ⟨h, fun _ hout => (by cases hout), Or.inl⟩

/-- A message that only concerns another node disturbs no interview that is not under way. -/
theorem Undisturbed.of_about {nodeId other : NodeId} {sessions : NodeMap Interview.Session}
    {result : NodeMap Interview.Session × List Interview.Output}
    (h : ¬ Interview.UnderWay sessions nodeId) (hne : nodeId ≠ other)
    (habout : Interview.About other sessions result) (message : Message) :
    Undisturbed nodeId sessions message result where
  waits := by
    unfold Interview.UnderWay
    rw [habout.frame nodeId hne]
    exact h
  outputs out hout heq := hne (heq.symm.trans (habout.outputs out hout))
  deferred hdeferred := by
    unfold Interview.Deferred at hdeferred
    rw [habout.frame nodeId hne] at hdeferred
    exact Or.inl hdeferred

/-- The interview does nothing for the node, unless it is deferred and the message is its status. -/
theorem undisturbed_interviewStep {nodeId : NodeId} {sessions : NodeMap Interview.Session}
    {message : Message} (hwaits : ¬ Interview.UnderWay sessions nodeId)
    (hstatus : ∀ scheme, message = .nodeSecurityStatus nodeId scheme →
      ¬ Interview.Deferred sessions nodeId)
    (hlists : ∀ commandClasses, message = .nodeIncluded nodeId commandClasses →
      Interview.IsSecure commandClasses) :
    Undisturbed nodeId sessions message (System.interviewStep sessions message) := by
  cases message with
  | nodeIncluded node commandClasses =>
    by_cases hnode : nodeId = node
    · subst hnode
      unfold System.interviewStep
      dsimp only
      -- A node with a security class is put off, whatever session it had.
      rw [Interview.onNodeIncluded_of_isSecure (hlists commandClasses rfl)]
      refine ⟨?_, fun _ hout => (by cases hout), fun _ => Or.inr ⟨commandClasses, rfl⟩⟩
      rintro ⟨session, hsession, hstarted⟩
      dsimp only at hsession
      rw [Function.update_self] at hsession
      obtain rfl := Option.some.inj hsession
      cases hstarted
    · exact .of_about hwaits hnode (Interview.about_onNodeIncluded sessions node commandClasses) _
  | nodeSecurityStatus node scheme =>
    unfold System.interviewStep
    dsimp only
    split
    · exact .refl hwaits _
    · by_cases hnode : nodeId = node
      · subst hnode
        rw [Interview.onNodeSecurityStatus_of_not_deferred (hstatus scheme rfl)]
        exact .refl hwaits _
      · exact .of_about hwaits hnode (Interview.about_onNodeSecurityStatus sessions node) _
  | report node step =>
    by_cases hnode : nodeId = node
    · subst hnode
      unfold System.interviewStep
      dsimp only
      rw [Interview.advance_of_not_underWay hwaits]
      exact .refl hwaits _
    · exact .of_about hwaits hnode (Interview.about_advance sessions node step) _
  | applicationCommand | confirmDsk | dongleInfo | s2NetworkKeysReady | get | wakeUpNotification
  | sendData => exact .refl hwaits _

/-! ## The condition -/

/-- The bytes of an ApplicationCommand of the node. -/
def Message.command (nodeId : NodeId) : Message → Option Bytes
  | .applicationCommand node data _ => if node = nodeId then some data else none
  | _ => none

/-- The inner of an S0 frame. -/
def IsS0 : Origin → Prop
  | .s0 _ _ => True
  | .radio | .crc16 | .transportService | .s2 => False

instance : DecidablePred IsS0
  | .s0 _ _ => inferInstanceAs (Decidable True)
  | .radio | .crc16 | .transportService | .s2 => inferInstanceAs (Decidable False)

/-- The output is a NodeSecurityStatus of the node. -/
def IsStatus (nodeId : NodeId) : S2.BootstrapOutput → Prop
  | .nodeSecurityStatus node _ => node = nodeId
  | .sendPlaintext _ _ | .sendEncrypted _ _ _ | .setSecurityScheme _ _ | .dskPendingConfirmation _ _
  | .s2KeyAgreementComplete _ => False

instance (nodeId : NodeId) : DecidablePred (IsStatus nodeId)
  | .nodeSecurityStatus _ _ => inferInstanceAs (Decidable (_ = _))
  | .sendPlaintext _ _ | .sendEncrypted _ _ _ | .setSecurityScheme _ _ | .dskPendingConfirmation _ _
  | .s2KeyAgreementComplete _ => inferInstanceAs (Decidable False)

namespace System

variable (sys : System)

/-- What the registry must have of the node when the action is taken, for the status that the action
leads to to be true: a scheme when an S0 frame of the node is opened, and an entry to write the
scheme to when a bootstrap of the node is done. -/
def Ready (nodeId : NodeId) (w : World) (draws : Draws) : Action → Prop
  | .deliver .unwrap message =>
    (∃ data ∈ message.command nodeId, ∃ republished ∈ sys.republishes w nodeId data,
      IsS0 republished.1) → Secure nodeId w
  | .deliver .s0Bootstrap message =>
    (∃ ccData ∈ message.command nodeId, w.s0.Verifies nodeId ccData) →
      w.registry.nodes nodeId ≠ none
  | .deliver .s2Bootstrap message =>
    (∃ out ∈ (sys.s2Step w.s2 draws message).2, IsStatus nodeId out) →
      w.registry.nodes nodeId ≠ none
  | .deliver .nonceResponder _ | .deliver .interview _ | .deliver .wakeUp _ | .deliver .protocol _
  | .eraseS0 _ | .eraseInterview _ => True

/-- A step that goes well: while the interview of the node is deferred, what releases it finds the
registry ready; and a change of the registry leaves the node secure or finds its interview quiet. -/
def Orderly (nodeId : NodeId) (taken : Step) : Prop :=
  match taken.input with
  | .work draws => Interview.Deferred taken.before.state.interview nodeId →
    ∀ action ∈ taken.before.agenda.head?, sys.Ready nodeId taken.before.state draws action
  | .alter change => Secure nodeId (change.apply taken.before.state) ∨
    Quiet nodeId { taken.before with state := change.apply taken.before.state }
  | .enter _ | .nest _ => True

instance (nodeId : NodeId) (w : World) (draws : Draws) :
    DecidablePred (sys.Ready nodeId w draws)
  | .deliver .unwrap _ | .deliver .s0Bootstrap _ | .deliver .s2Bootstrap _ =>
    inferInstanceAs (Decidable (_ → _))
  | .deliver .nonceResponder _ | .deliver .interview _ | .deliver .wakeUp _ | .deliver .protocol _
  | .eraseS0 _ | .eraseInterview _ => inferInstanceAs (Decidable True)

instance (nodeId : NodeId) : DecidablePred (sys.Orderly nodeId)
  | ⟨_, .work _⟩ => inferInstanceAs (Decidable (_ → ∀ _ ∈ _, _))
  | ⟨_, .alter _⟩ => inferInstanceAs (Decidable (_ ∨ _))
  | ⟨_, .enter _⟩ | ⟨_, .nest _⟩ => inferInstanceAs (Decidable True)

/-! ## One action -/

variable {sys} {nodeId : NodeId} {w : World} {action : Action} {draws : Draws}

/-- No action makes a node insecure. -/
theorem secure_work (h : Secure nodeId w) (action : Action) (draws : Draws) :
    Secure nodeId (sys.work w action draws).1 := by
  unfold Secure
  rcases sys.registry_work w action draws with hregistry | hrecords
  · rw [hregistry]
    exact h
  · generalize (sys.work w action draws).1.registry = registry at hrecords
    cases hrecords with
    | verified => exact NodeRegistry.isSecure_set_of_isSecure _ (by decide) h
    | completed granted =>
      exact NodeRegistry.isSecure_set_of_isSecure _ (S2.schemeFor_isS2 granted).ne_none h

/-- A status that comes onto the agenda when the registry is ready is true. -/
theorem secure_of_announces {new : Action} (hcause : sys.Cause w draws action new)
    (hannounces : Announces nodeId new) (hready : sys.Ready nodeId w draws action) :
    Secure nodeId (sys.work w action draws).1 := by
  -- What announces that the node is secure is one of three causes, and each has recorded it by
  -- then.
  cases hcause with
  -- The frame was one under S0, and then the node is secure when it is opened.
  | unwrapped subscriber hunwraps =>
    obtain rfl := hannounces
    exact secure_work (hready ⟨_, if_pos rfl, _, hunwraps, trivial⟩) _ draws
  -- S0 has been verified, and the same work writes the scheme.
  | @verified subscriber node ccData origin hverifies =>
    obtain rfl := hannounces
    unfold Secure
    rw [registry_of_verifies hverifies]
    exact NodeRegistry.isSecure_set _ (by decide) (hready ⟨ccData, if_pos rfl, hverifies⟩)
  -- The S2 handshake is complete, and its scheme is a secure one whatever was granted.
  | @completed subscriber node ccData origin granted hrecords =>
    obtain rfl := hannounces
    unfold Secure
    rw [registry_of_completed hrecords]
    have hstatus : .nodeSecurityStatus node (S2.schemeFor granted) ∈
        (sys.s2Step w.s2 draws (.applicationCommand node ccData origin)).2 := by
      rw [hrecords]
      exact List.mem_cons_of_mem _ List.mem_cons_self
    exact NodeRegistry.isSecure_set _ (S2.schemeFor_isS2 granted).ne_none (hready ⟨_, hstatus, rfl⟩)
  | republished | erasesS0 | sent | drained | asked | erasesInterview => cases hannounces

/-- What publishes a status leaves the interview. -/
theorem interview_of_announces {new : Action} (hcause : sys.Cause w draws action new)
    (hannounces : Announces nodeId new) : (sys.work w action draws).1.interview = w.interview := by
  cases hcause with
  | unwrapped subscriber hunwraps =>
    obtain ⟨unwrap, nonces, hw⟩ := sys.onUnwrap_writes w _
    unfold work
    dsimp only
    rw [hw]
  | verified | completed => rfl
  | republished | erasesS0 | sent | drained | asked | erasesInterview => cases hannounces

/-- No action leads to a NodeIncluded. -/
theorem not_isInclusion_of_cause {new : Action} (hcause : sys.Cause w draws action new) :
    ¬ IsInclusion new := by
  cases hcause <;> exact id

variable {c : Config World Action} {rest : List Action}

/-- The interview of a quiet node takes a message. -/
theorem undisturbed_of_quiet {message : Message} (hquiet : Quiet nodeId c)
    (hagenda : c.agenda = .deliver .interview message :: rest)
    (hlists : ∀ subscriber commandClasses,
      .deliver subscriber (.nodeIncluded nodeId commandClasses) ∈ c.agenda →
        Interview.IsSecure commandClasses) :
    Undisturbed nodeId c.state.interview message (interviewStep c.state.interview message) := by
  have hhead : .deliver .interview message ∈ c.agenda := by
    rw [hagenda]
    exact List.mem_cons_self
  refine undisturbed_interviewStep hquiet.waits ?_ ?_
  · rintro scheme rfl hdeferred
    exact hquiet.unannounced hdeferred _ hhead rfl
  · rintro commandClasses rfl
    exact hlists .interview commandClasses hhead

/-- What comes onto the agenda of a quiet node asks it nothing. -/
theorem not_asks_of_cause (hquiet : Quiet nodeId c) (hagenda : c.agenda = action :: rest)
    (hlists : ∀ subscriber commandClasses,
      .deliver subscriber (.nodeIncluded nodeId commandClasses) ∈ c.agenda →
        Interview.IsSecure commandClasses) {new : Action}
    (hcause : sys.Cause c.state draws action new) : ¬ Asks nodeId new := by
  intro hasks
  cases hcause with
  | sent _ _ _ hsecurity => exact hasks.2 hsecurity
  | drained _ hqueued =>
    obtain ⟨rfl, -⟩ := hasks
    rw [hquiet.unqueued] at hqueued
    cases hqueued
  | asked _ hget =>
    obtain rfl := hasks
    exact (undisturbed_of_quiet hquiet hagenda hlists).outputs _ hget rfl
  | republished | unwrapped | verified | erasesS0 | completed | erasesInterview => cases hasks

/-- After an action the interview of a quiet node is not under way; and if it is deferred, it was,
or there are only deliveries of NodeIncluded below. -/
theorem interview_of_quiet (sys : System) (hquiet : Quiet nodeId c)
    (hagenda : c.agenda = action :: rest)
    (hlayered : Layered c.agenda)
    (hlists : ∀ subscriber commandClasses,
      .deliver subscriber (.nodeIncluded nodeId commandClasses) ∈ c.agenda →
        Interview.IsSecure commandClasses) (draws : Draws) :
    ¬ Interview.UnderWay (sys.work c.state action draws).1.interview nodeId ∧
      (Interview.Deferred (sys.work c.state action draws).1.interview nodeId →
        Interview.Deferred c.state.interview nodeId ∨ ∀ below ∈ rest, IsInclusion below) := by
  -- The interview's part is the same, or it has taken a message, or its session is erased.
  rcases sys.interview_work c.state action draws with hsame | ⟨message, rfl, hstep⟩ |
    ⟨node, rfl, herased⟩
  · rw [hsame]
    exact ⟨hquiet.waits, Or.inl⟩
  -- A message to the interview starts nothing while all is quiet, but may put the node off.
  · have hundisturbed := undisturbed_of_quiet hquiet hagenda hlists
    rw [hstep]
    refine ⟨hundisturbed.waits, fun hdeferred => ?_⟩
    -- The node is put off by its inclusion, and above an inclusion there are only inclusions.
    rcases hundisturbed.deferred hdeferred with hdeferred | ⟨commandClasses, rfl⟩
    · exact Or.inl hdeferred
    · unfold Layered at hlayered
      rw [hagenda, List.pairwise_cons] at hlayered
      exact Or.inr fun below hbelow => hlayered.1 below hbelow trivial
  · rw [herased]
    unfold Interview.UnderWay Interview.Deferred
    by_cases hnode : nodeId = node
    · subst hnode
      rw [Function.update_self]
      exact ⟨fun ⟨_, h, _⟩ => (by cases h), fun ⟨_, h, _⟩ => (by cases h)⟩
    -- The session of another node is erased.
    · rw [Function.update_of_ne hnode]
      exact ⟨hquiet.waits, Or.inl⟩

/-! ## The invariant -/

/-- No Get of the node can go out in the clear. -/
structure Guarded (nodeId : NodeId) (c : Config World Action) : Prop where
  /-- The node is secure, or its interview is quiet. -/
  guarded : Secure nodeId c.state ∨ Quiet nodeId c
  /-- NodeIncluded is at the bottom of the agenda. -/
  layered : Layered c.agenda
  /-- The node is included with a security class. -/
  lists : ∀ subscriber commandClasses,
    .deliver subscriber (.nodeIncluded nodeId commandClasses) ∈ c.agenda →
      Interview.IsSecure commandClasses

/-- At the start no interview is under way, and nothing is on the agenda. -/
theorem guarded_initial (nodeId : NodeId) : Guarded nodeId initial where
  guarded := Or.inr ⟨fun ⟨_, h, _⟩ => (by cases h), rfl, fun _ h => (by cases h),
    fun _ _ h => (by cases h)⟩
  layered := List.Pairwise.nil
  lists _ _ h := by cases h

/-- Actions above the rest that are no NodeIncluded keep the agenda in layers. -/
theorem Layered.append {actions agenda : List Action} (h : Layered agenda)
    (hactions : ∀ action ∈ actions, ¬ IsInclusion action) : Layered (actions ++ agenda) := by
  refine List.pairwise_append.mpr ⟨?_, h, fun above habove _ _ hinclusion => ?_⟩
  · exact List.pairwise_of_forall_mem_list fun above habove _ _ hinclusion =>
      absurd hinclusion (hactions above habove)
  · exact absurd hinclusion (hactions above habove)

/-- An orderly action keeps the node secure or its interview quiet. -/
theorem Guarded.work (h : Guarded nodeId c) (hagenda : c.agenda = action :: rest)
    (hready : Interview.Deferred c.state.interview nodeId → sys.Ready nodeId c.state draws action) :
    Secure nodeId (sys.work c.state action draws).1 ∨
      Quiet nodeId { state := (sys.work c.state action draws).1
                     agenda := (sys.work c.state action draws).2.1 ++ rest } := by
  rcases h.guarded with hsecure | hquiet
  · exact Or.inl (secure_work hsecure action draws)
  -- If the action announces the node while it is deferred, the node is secure from here on; if not, its
  -- interview is as quiet as it was.
  by_cases hreleased : Interview.Deferred c.state.interview nodeId ∧
      ∃ new ∈ (sys.work c.state action draws).2.1, Announces nodeId new
  · obtain ⟨hdeferred, new, hnew, hannounces⟩ := hreleased
    exact Or.inl (secure_of_announces (cause_of_mem_work hnew) hannounces (hready hdeferred))
  right
  obtain ⟨hwaits, hdefers⟩ := sys.interview_of_quiet hquiet hagenda h.layered h.lists draws
  have hrest : ∀ below ∈ rest, below ∈ c.agenda := by
    intro below hbelow
    rw [hagenda]
    exact List.mem_cons_of_mem _ hbelow
  refine ⟨hwaits, List.eq_nil_iff_forall_not_mem.mpr fun payload hpayload => ?_, ?_, ?_⟩
  · rcases mem_queued_work hpayload with hqueued | ⟨message, rfl, henqueue⟩
    · rw [hquiet.unqueued] at hqueued
      cases hqueued
    · exact (undisturbed_of_quiet hquiet hagenda h.lists).outputs _ henqueue rfl
  · intro later hlater
    rcases List.mem_append.mp hlater with hnew | hbelow
    · exact not_asks_of_cause hquiet hagenda h.lists (cause_of_mem_work hnew)
    · exact hquiet.unasked later (hrest later hbelow)
  · intro hdeferred later hlater hannounces
    rcases List.mem_append.mp hlater with hnew | hbelow
    · -- A status has just come up, so the interview is what it was, and not deferred.
      have hsame := interview_of_announces (cause_of_mem_work hnew) hannounces
      rw [hsame] at hdeferred
      exact hreleased ⟨hdeferred, later, hnew, hannounces⟩
    · rcases hdefers hdeferred with hdeferred | hinclusions
      · exact hquiet.unannounced hdeferred later (hrest later hbelow) hannounces
      · -- NodeIncluded has just been delivered, and what is below it is no status.
        have hinclusion := hinclusions later hbelow
        revert hannounces hinclusion
        cases later with
        | deliver subscriber message => cases message <;> simp [Announces, IsInclusion]
        | eraseS0 | eraseInterview => simp [Announces]

/-- The deliveries of one message are a layer. -/
theorem layered_publish (sys : System) (message : Message) : Layered (sys.publish message) := by
  refine List.pairwise_of_forall_mem_list fun above habove below hbelow hinclusion => ?_
  obtain ⟨_, rfl⟩ := mem_publish habove
  obtain ⟨_, rfl⟩ := mem_publish hbelow
  cases message <;> exact hinclusion

/-- Messages from outside, with nothing else on the agenda, leave an interview quiet. -/
theorem quiet_enter (hquiet : Quiet nodeId c) (event : External) :
    Quiet nodeId { c with agenda := sys.publish event.message } := by
  refine ⟨hquiet.waits, hquiet.unqueued, fun action haction => ?_, fun _ action haction => ?_⟩
  · obtain ⟨_, rfl⟩ := mem_publish haction
    cases event <;> exact id
  · obtain ⟨_, rfl⟩ := mem_publish haction
    cases event <;> exact id

/-- Nested messages leave an interview quiet. -/
theorem quiet_nest (hquiet : Quiet nodeId c) (message : Nested) :
    Quiet nodeId { c with agenda := sys.publish message.message ++ c.agenda } := by
  refine ⟨hquiet.waits, hquiet.unqueued, fun action haction => ?_,
    fun hdeferred action haction => ?_⟩
  · rcases List.mem_append.mp haction with haction | haction
    · obtain ⟨_, rfl⟩ := mem_publish haction
      cases message <;> exact id
    · exact hquiet.unasked action haction
  · rcases List.mem_append.mp haction with haction | haction
    · obtain ⟨_, rfl⟩ := mem_publish haction
      cases message <;> exact id
    · exact hquiet.unannounced hdeferred action haction

/-- An orderly step keeps the node's interview guarded, if every inclusion of the node lists a
security class. -/
theorem Guarded.step (h : Guarded nodeId c) {move : Move Draws External Nested Change}
    (horderly : sys.Orderly nodeId ⟨c, move⟩)
    (hlists : ∀ commandClasses, move = .enter (.nodeIncluded nodeId commandClasses) →
      Interview.IsSecure commandClasses) : Guarded nodeId (sys.dispatcher.step c move).1 := by
  have hmoved := sys.dispatcher.moved c move
  generalize sys.dispatcher.step c move = result at hmoved
  cases hmoved with
  | @worked action rest draws hagenda =>
    have hlayered := h.layered
    unfold Layered at hlayered
    rw [hagenda, List.pairwise_cons] at hlayered
    have hready : Interview.Deferred c.state.interview nodeId →
        sys.Ready nodeId c.state draws action := by
      intro hdeferred
      refine horderly hdeferred action ?_
      dsimp only
      rw [hagenda]
      rfl
    have hnew : ∀ new ∈ (sys.work c.state action draws).2.1, ¬ IsInclusion new :=
      fun new hnew => not_isInclusion_of_cause (cause_of_mem_work hnew)
    refine ⟨h.work hagenda hready, Layered.append hlayered.2 hnew, ?_⟩
    intro subscriber commandClasses hmem
    rcases List.mem_append.mp hmem with hmem | hmem
    · exact absurd trivial (hnew _ hmem)
    · refine h.lists subscriber commandClasses ?_
      rw [hagenda]
      exact List.mem_cons_of_mem _ hmem
  | entered event hempty =>
    refine ⟨h.guarded.imp_right fun hquiet => quiet_enter hquiet event, sys.layered_publish _, ?_⟩
    intro subscriber commandClasses hmem
    obtain ⟨_, heq⟩ := mem_publish hmem
    cases event with
    | nodeIncluded node listed =>
      cases heq
      exact hlists commandClasses rfl
    | applicationCommand | confirmDsk | dongleInfo | s2NetworkKeysReady => cases heq
  | nested message =>
    have hnested : ∀ action ∈ sys.publish message.message, ¬ IsInclusion action := by
      intro action haction
      obtain ⟨_, rfl⟩ := mem_publish haction
      cases message <;> exact id
    refine ⟨h.guarded.imp_right fun hquiet => quiet_nest hquiet message,
      Layered.append h.layered hnested, ?_⟩
    intro subscriber commandClasses hmem
    rcases List.mem_append.mp hmem with hmem | hmem
    · exact absurd trivial (hnested _ hmem)
    · exact h.lists subscriber commandClasses hmem
  -- The change of a registry is orderly if it leaves one of the two.
  | altered change => exact ⟨horderly, h.layered, h.lists⟩
  | idle => exact h

/-! ## The Gets -/

/-- Whenever an interview Get for the node is at `pushSendData`, the node is secure, and the Get
goes to one of the two orchestrators that encrypt. -/
def RidesEncrypted (sys : System) (moves : List (Move Draws External Nested Change))
    (nodeId : NodeId) : Prop :=
  ∀ pre message draws step,
    sys.dispatcher.TakesAt initial moves pre (.deliver .protocol message) draws →
    IsGet nodeId step message →
    let w := (exec sys.dispatcher.step initial pre).state
    w.registry.isSecure nodeId = true ∧
      (onProtocol w message = [.secureSend nodeId (Interview.payloadForStep step)] ∨
        onProtocol w message = [.secureS2Send nodeId (Interview.payloadForStep step)])

/-- A Get belongs to no security layer. -/
theorem not_isSecurityFrame_payloadForStep (step : Interview.Step) :
    ¬ IsSecurityFrame (Interview.payloadForStep step) := by
  cases step <;> decide

/-- The delivery of a step's Get is one that asks the node. -/
theorem asks_of_isGet {step : Interview.Step} {message : Message} (h : IsGet nodeId step message)
    (subscriber : Subscriber) : Asks nodeId (.deliver subscriber message) := by
  rcases h with rfl | rfl
  · rfl
  · exact ⟨rfl, not_isSecurityFrame_payloadForStep step⟩

/-- A Get for a secure node is encrypted. -/
theorem onProtocol_of_secure (h : Secure nodeId w) {step : Interview.Step} {message : Message}
    (hget : IsGet nodeId step message) :
    onProtocol w message = [.secureSend nodeId (Interview.payloadForStep step)] ∨
      onProtocol w message = [.secureS2Send nodeId (Interview.payloadForStep step)] := by
  have hpush : onProtocol w message =
      [pushSendData w.registry nodeId (Interview.payloadForStep step)] := by
    rcases hget with rfl | rfl
    · rfl
    · rfl
  -- The test that diverts a payload to one of the two orchestrators.
  have hdivert : Interview.payloadForStep step ≠ [] ∧
      (Interview.payloadForStep step).byte 0 ≠ 0x98 ∧
      (Interview.payloadForStep step).byte 0 ≠ 0x9F ∧ w.registry.isSecure nodeId := by
    refine ⟨?_, ?_, ?_, h⟩
    · cases step <;> decide
    · cases step <;> decide
    · cases step <;> decide
  rw [hpush]
  unfold pushSendData
  rw [if_pos hdivert]
  split
  · exact Or.inr rfl
  · exact Or.inl rfl

/-- In a run of orderly steps every interview Get of a node that is included with a security class
is encrypted. -/
theorem ridesEncrypted {sys : System} {moves : List (Move Draws External Nested Change)}
    {nodeId : NodeId}
    (hlists : ∀ commandClasses, .enter (.nodeIncluded nodeId commandClasses) ∈ moves →
      Interview.IsSecure commandClasses)
    (horderly : ∀ taken ∈ trace sys.dispatcher.step initial moves, sys.Orderly nodeId taken) :
    sys.RidesEncrypted moves nodeId := by
  rintro pre message draws step ⟨⟨post, rfl⟩, rest, hagenda⟩ hget
  -- Before the request the run has been guarded, step by step.
  have hguarded : Guarded nodeId (exec sys.dispatcher.step initial pre) := by
    refine trace_induction_of sys.dispatcher.step initial (I := fun _ c => Guarded nodeId c)
      (C := fun _ taken => sys.Orderly nodeId taken ∧
        ∀ commandClasses, taken.input = .enter (.nodeIncluded nodeId commandClasses) →
          Interview.IsSecure commandClasses)
      (guarded_initial nodeId) (fun _ c move h hC => h.step hC.1 hC.2) pre ?_
    rintro before move after rfl
    refine ⟨horderly _ ?_, ?_⟩
    · exact (mem_trace_iff ..).mpr ⟨before, after ++ .work draws :: post, by simp, rfl⟩
    · rintro commandClasses rfl
      exact hlists commandClasses (by simp)
  -- A Get on the agenda is not quiet, so the node is secure.
  have hsecure : Secure nodeId (exec sys.dispatcher.step initial pre).state := by
    refine hguarded.guarded.resolve_right fun hquiet => ?_
    refine hquiet.unasked (.deliver .protocol message) ?_ (asks_of_isGet hget .protocol)
    rw [hagenda]
    exact List.mem_cons_self
  exact ⟨hsecure, onProtocol_of_secure hsecure hget⟩

/-- What enters while an event happens is that event. -/
theorem eq_of_enter_mem_happens {event other : External} (h : .enter event ∈ happens other) :
    event = other := by
  rcases List.mem_cons.mp h with heq | hworks
  · exact Move.enter.inj heq
  · cases List.eq_of_mem_replicate hworks

/-- Node 7 is included once. -/
theorem eq_of_nodeIncluded_mem {nodeId : NodeId} {commandClasses listed : Bytes}
    (h : .enter (.nodeIncluded nodeId commandClasses) ∈ includes listed ++ exchangesS2) :
    commandClasses = listed := by
  rcases List.mem_append.mp h with hincludes | hexchanges
  · rcases List.mem_append.mp hincludes with hincludes | hincluded
    · rcases List.mem_append.mp hincludes with halters | hready
      · simp at halters
      · cases eq_of_enter_mem_happens hready
    · cases eq_of_enter_mem_happens hincluded
      rfl
  · obtain ⟨event, -, hevent⟩ := List.mem_flatMap.mp hexchanges
    cases event with
    | applicationCommand => cases eq_of_enter_mem_happens hevent
    | nodeIncluded | confirmDsk | dongleInfo | s2NetworkKeysReady => cases hevent

/-- Node 7 has S2 only. When its bootstrap is done it is asked for its manufacturer, encrypted. -/
theorem ridesEncrypted_sample :
    .secureS2Send 7 (Interview.payloadForStep .manufacturerSpecific) ∈
        emitted System.sample.dispatcher.step initial (includes [0x9F] ++ exchangesS2) ∧
      System.sample.RidesEncrypted (includes [0x9F] ++ exchangesS2) 7 := by
  have hrun : .secureS2Send 7 (Interview.payloadForStep .manufacturerSpecific) ∈
        emitted System.sample.dispatcher.step initial (includes [0x9F] ++ exchangesS2) ∧
      ∀ taken ∈ trace System.sample.dispatcher.step initial (includes [0x9F] ++ exchangesS2),
        System.sample.Orderly 7 taken := by
    decide +kernel
  obtain ⟨hemitted, horderly⟩ := hrun
  refine ⟨hemitted, ridesEncrypted (fun commandClasses hmem => ?_) horderly⟩
  rw [eq_of_nodeIncluded_mem hmem]
  decide

/-- Node 7 has S0. The unwrap layer opens its VERIFY, and node 7 is asked for its manufacturer
before the VERIFY is at the S0 bootstrap. -/
theorem asked_in_clear :
    ¬ System.sample.RidesEncrypted
      (includes [0x98] ++ exchangesS0 ++ happens (.applicationCommand 7 verifyFrame)) 7 := by
  intro h
  -- The frame has been at the protocol thread and the unwrap layer, and the status of node 7 at the
  -- first six modules, the last of which is the interview.
  have htakes : System.sample.dispatcher.TakesAt initial
      (includes [0x98] ++ exchangesS0 ++ happens (.applicationCommand 7 verifyFrame))
      (includes [0x98] ++ exchangesS0 ++ .enter (.applicationCommand 7 verifyFrame) :: works 8)
      (.deliver .protocol (.get 7 .manufacturerSpecific)) Draws.sample :=
    takesAt_happens (by decide) (by decide +kernel)
  have hinsecure : (exec System.sample.dispatcher.step initial (includes [0x98] ++ exchangesS0 ++
      .enter (.applicationCommand 7 verifyFrame) :: works 8)).state.registry.isSecure 7 = false := by
    decide +kernel
  have hsecure := (h _ _ Draws.sample .manufacturerSpecific htakes (Or.inl rfl)).1
  rw [hinsecure] at hsecure
  cases hsecure

end System

end Zwaved.Inclusion
