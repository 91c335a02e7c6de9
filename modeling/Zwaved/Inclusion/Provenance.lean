import Zwaved.Inclusion.Causes

/-!
# Whose word a VERIFY is

The S0 bootstrap takes NETWORK_KEY_VERIFY for the proof that a node has the network key, because the
node sends it inside of an S0 frame and the unwrap layer opens only frames that authenticate under
that key, with a nonce that this controller has issued to the node. But the inner of a frame comes
back on the topic that frames from the radio come on, and nothing on it says which of the two a
command is (`work_origin`).

So the history decides. `Traced` is the invariant: the nonces in the table were issued, and each
command on the agenda that claims to be the inner of an S0 frame has been decrypted after its nonce
was issued. One move keeps it (`Traced.step`), so it holds throughout (`traced`), and the records of
the S0 bootstrap rest on proof exactly if no VERIFY from anywhere else reaches it while it waits for
one (`recordsOnProof_iff`). The radio is all it takes for one to do so.
-/

namespace Zwaved.Inclusion

open CcTranslator Reactive

/-- The step issues the nonce to the node. -/
def Issues (nodeId : NodeId) (nonce : S0.Nonce) (taken : Step) : Prop :=
  ∃ data outer draws, Dispatcher.Takes taken
      (.deliver .nonceResponder (.applicationCommand nodeId data outer)) draws ∧
    S0.Security.commandByte data = some S0.Security.nonceGet ∧ draws.nonce = nonce

namespace System

variable (sys : System)

/-- In this step the unwrap layer has the frame of the node, and `decrypt` accepts it under the
network key with the nonce. -/
def Accepts (nodeId : NodeId) (frame : Bytes) (nonce : S0.Nonce) (inner : Bytes) (taken : Step) :
    Prop :=
  ∃ outer draws key, Dispatcher.Takes taken
      (.deliver .unwrap (.applicationCommand nodeId frame outer)) draws ∧
    sys.networkKey = some key ∧
    S0.Encapsulation.decrypt sys.s0Ssl frame nodeId taken.before.state.unwrap.controllerNodeId nonce
      key = some inner

/-- The nonce was issued to the node, and after that the frame was accepted with it. -/
def Proves (history : List Step) (nodeId : NodeId) (frame : Bytes) (nonce : S0.Nonce)
    (inner : Bytes) : Prop :=
  Precedes (Issues nodeId nonce) (sys.Accepts nodeId frame nonce inner) history

/-! ## The invariant -/

/-- What the state owes to the history. -/
structure Traced (history : List Step) (c : Config World Action) : Prop where
  /-- The nonces in the table were issued. -/
  issued : ∀ nodeId nonceId entry, c.state.nonces.entries nodeId nonceId = some entry →
    ∃ taken ∈ history, Issues nodeId entry.nonce taken
  /-- The inners of S0 frames on the agenda are proved. -/
  proved : ∀ subscriber nodeId inner frame nonce,
    .deliver subscriber (.applicationCommand nodeId inner (.s0 frame nonce)) ∈ c.agenda →
      sys.Proves history nodeId frame nonce inner

/-- At the start no nonce has been issued and nothing is on the agenda. -/
theorem traced_initial : sys.Traced [] initial where
  issued _ _ _ h := by cases h
  proved _ _ _ _ _ h := by cases h

variable {sys} {history : List Step} {c : Config World Action}

/-- The unwrap layer proves what it republishes as the inner of an S0 frame. -/
theorem Traced.proves_of_cause (h : sys.Traced history c) {action : Action} {rest : List Action}
    (hagenda : c.agenda = action :: rest) {draws : Draws} {subscriber : Subscriber} {nodeId : NodeId}
    {inner frame : Bytes} {nonce : S0.Nonce}
    (hcause : sys.Cause c.state draws action
      (.deliver subscriber (.applicationCommand nodeId inner (.s0 frame nonce)))) :
    sys.Proves (history ++ [⟨c, .work draws⟩]) nodeId frame nonce inner := by
  cases hcause with
  -- The nonce that the frame was opened with was taken out of the table, so it was issued.
  | republished _ hunwraps =>
    obtain ⟨rfl, ⟨nonceId, entry, hentry, rfl⟩, key, hkey, hdecrypt⟩ :=
      Unwrap.onApplicationCommand_s0 hunwraps
    refine Precedes.close (h.issued nodeId nonceId entry hentry) ?_
    exact ⟨_, draws, key, ⟨rfl, rest, hagenda⟩, hkey, hdecrypt⟩

/-- A step that issues nothing and puts no inner of an S0 frame on the agenda keeps the
invariant. -/
theorem Traced.concat (h : sys.Traced history c) (taken : Step) {c' : Config World Action}
    (hnonces : c'.state.nonces = c.state.nonces)
    (hagenda : ∀ subscriber nodeId inner frame nonce,
      .deliver subscriber (.applicationCommand nodeId inner (.s0 frame nonce)) ∈ c'.agenda →
        .deliver subscriber (.applicationCommand nodeId inner (.s0 frame nonce)) ∈ c.agenda) :
    sys.Traced (history ++ [taken]) c' where
  issued nodeId nonceId entry hentry := by
    rw [hnonces] at hentry
    exact exists_mem_concat (h.issued nodeId nonceId entry hentry) taken
  proved subscriber nodeId inner frame nonce hmem :=
    (h.proved subscriber nodeId inner frame nonce
      (hagenda subscriber nodeId inner frame nonce hmem)).concat taken

/-- One move of the dispatcher keeps all nonces and all S0 frames on the agenda traced to the
history. -/
theorem Traced.step (h : sys.Traced history c) (move : Move Draws External Nested Change) :
    sys.Traced (history ++ [⟨c, move⟩]) (sys.dispatcher.step c move).1 := by
  have hmoved := sys.dispatcher.moved c move
  generalize sys.dispatcher.step c move = result at hmoved
  cases hmoved with
  | @worked action rest draws hagenda =>
    constructor
    · -- A nonce in the table was there before, or the nonce responder has just drawn it.
      intro nodeId nonceId entry hentry
      rcases entries_work hentry with hentry | ⟨data, outer, rfl, hget, hnonce⟩
      · exact exists_mem_concat (h.issued nodeId nonceId entry hentry) _
      · exact exists_mem_close _ ⟨data, outer, draws, ⟨rfl, rest, hagenda⟩, hget, hnonce⟩
    · intro subscriber nodeId inner frame nonce hmem
      rcases List.mem_append.mp hmem with hmem | hmem
      · exact h.proves_of_cause hagenda (cause_of_mem_work hmem)
      · refine (h.proved subscriber nodeId inner frame nonce ?_).concat _
        rw [hagenda]
        exact List.mem_cons_of_mem _ hmem
  | entered event hempty =>
    refine h.concat _ rfl fun subscriber nodeId inner frame nonce hmem => ?_
    -- Nothing that comes in from outside claims to be the inner of an S0 frame.
    obtain ⟨other, heq⟩ := mem_publish hmem
    cases event <;> cases heq
  | nested message =>
    refine h.concat _ rfl fun subscriber nodeId inner frame nonce hmem => ?_
    rcases List.mem_append.mp hmem with hmem | hmem
    · obtain ⟨other, heq⟩ := mem_publish hmem
      cases message <;> cases heq
    · exact hmem
  | altered change =>
    have hnonces : (change.apply c.state).nonces = c.state.nonces := by
      cases change <;> rfl
    exact h.concat _ hnonces fun _ _ _ _ _ hmem => hmem
  | idle => exact h.concat _ rfl fun _ _ _ _ _ hmem => hmem

/-- After every run, all nonces in the table and all S0 frames on the agenda are traced to the
history. -/
theorem traced (sys : System) (moves : List (Move Draws External Nested Change)) :
    sys.Traced (trace sys.dispatcher.step initial moves) (exec sys.dispatcher.step initial moves) :=
  trace_induction sys.dispatcher.step initial (I := fun history c => sys.Traced history c)
    sys.traced_initial (fun _ _ move h => h.step move) moves

/-! ## The records of the S0 bootstrap -/

/-- Whenever the S0 bootstrap records `S0` for the node, it does so on a VERIFY that was the inner
of an S0 frame of the node, accepted under the network key with a nonce issued to the node
before. -/
def RecordsOnProof (sys : System) (moves : List (Move Draws External Nested Change))
    (nodeId : NodeId) : Prop :=
  ∀ pre message draws,
    sys.dispatcher.TakesAt initial moves pre (.deliver .s0Bootstrap message) draws →
    .setSecurityScheme nodeId ∈
      (sys.s0Step (exec sys.dispatcher.step initial pre).state.s0 draws message).2 →
    ∃ ccData frame nonce, message = .applicationCommand nodeId ccData (.s0 frame nonce) ∧
      S0.Security.commandByte ccData = some S0.Security.networkKeyVerify ∧
      sys.Proves (trace sys.dispatcher.step initial pre) nodeId frame nonce ccData

/-- No VERIFY of the node reaches the S0 bootstrap while it waits for one, other than as the inner
of an S0 frame: none straight from the radio, and none out of a CRC-16, Transport Service or S2
frame. -/
def NoBareVerify (sys : System) (moves : List (Move Draws External Nested Change))
    (nodeId : NodeId) : Prop :=
  ∀ pre ccData origin draws,
    sys.dispatcher.TakesAt initial moves pre
      (.deliver .s0Bootstrap (.applicationCommand nodeId ccData origin)) draws →
    (exec sys.dispatcher.step initial pre).state.s0.Verifies nodeId ccData →
    ∃ frame nonce, origin = .s0 frame nonce

/-- The S0 bootstrap records a scheme on an awaited VERIFY of the node, and on nothing else. -/
theorem setSecurityScheme_mem_s0Step (sys : System) (s0 : S0.Bootstrap) (draws : Draws)
    (message : Message) (nodeId : NodeId) :
    .setSecurityScheme nodeId ∈ (sys.s0Step s0 draws message).2 ↔
      ∃ ccData origin, message = .applicationCommand nodeId ccData origin ∧
        s0.Verifies nodeId ccData := by
  unfold s0Step
  constructor
  · intro h
    -- Of the messages only a frame can make S0 record a node.
    cases message with
    | applicationCommand node ccData origin =>
      by_cases hverifies : s0.Verifies node ccData
      · dsimp only at h
        rw [S0.Bootstrap.onApplicationCommand_of_verifies _ _ hverifies] at h
        simp only [List.mem_cons, S0.BootstrapOutput.setSecurityScheme.injEq, reduceCtorEq,
          List.not_mem_nil, or_false] at h
        subst h
        exact ⟨ccData, origin, rfl, hverifies⟩
      -- A frame that does not verify sends at most.
      · obtain ⟨payload, heq, -⟩ := S0.Bootstrap.onApplicationCommand_of_not_verifies
          sys.s0Ssl sys.networkKey hverifies draws.nonce _ h
        cases heq
    -- An inclusion sends one frame, or nothing.
    | nodeIncluded node commandClasses =>
      unfold S0.Bootstrap.onNodeIncluded at h
      dsimp only at h
      split at h
      · cases h
      split at h
      · cases h
      · cases List.mem_singleton.mp h
    | nodeSecurityStatus | confirmDsk | dongleInfo | s2NetworkKeysReady | get | report
    | wakeUpNotification | sendData => cases h
  · rintro ⟨ccData, origin, rfl, hverifies⟩
    dsimp only
    rw [S0.Bootstrap.onApplicationCommand_of_verifies _ _ hverifies]
    exact List.mem_cons_self

/-- The records rest on proof exactly if no bare VERIFY gets through. -/
theorem recordsOnProof_iff (sys : System) (moves : List (Move Draws External Nested Change))
    (nodeId : NodeId) : sys.RecordsOnProof moves nodeId ↔ sys.NoBareVerify moves nodeId := by
  constructor
  · intro h pre ccData origin draws htakes hverifies
    have hrecords := (sys.setSecurityScheme_mem_s0Step _ draws _ nodeId).mpr
      ⟨ccData, origin, rfl, hverifies⟩
    obtain ⟨_, frame, nonce, heq, -⟩ := h pre _ draws htakes hrecords
    cases heq
    exact ⟨frame, nonce, rfl⟩
  · intro h pre message draws htakes hrecords
    obtain ⟨ccData, origin, rfl, hverifies⟩ :=
      (sys.setSecurityScheme_mem_s0Step _ draws message nodeId).mp hrecords
    obtain ⟨frame, nonce, rfl⟩ := h pre ccData origin draws htakes hverifies
    -- That the VERIFY is proved is the invariant, for the delivery at the top of the agenda.
    obtain ⟨-, rest, hagenda⟩ := htakes
    refine ⟨ccData, frame, nonce, rfl, hverifies.2, ?_⟩
    refine (sys.traced pre).proved .s0Bootstrap nodeId ccData frame nonce ?_
    rw [hagenda]
    exact List.mem_cons_self

/-- A VERIFY that node 7 sends in the clear is recorded. -/
theorem recorded_on_bare_verify :
    ¬ System.sample.RecordsOnProof
      (includes [0x98] ++ exchangesS0 ++ happens (.applicationCommand 7 [0x98, 0x07])) 7 := by
  intro h
  -- The protocol thread, the unwrap layer and the nonce responder have seen the VERIFY.
  have htakes : System.sample.dispatcher.TakesAt initial
      (includes [0x98] ++ exchangesS0 ++ happens (.applicationCommand 7 [0x98, 0x07]))
      (includes [0x98] ++ exchangesS0 ++ .enter (.applicationCommand 7 [0x98, 0x07]) :: works 3)
      (.deliver .s0Bootstrap (.applicationCommand 7 [0x98, 0x07] .radio)) Draws.sample :=
    takesAt_happens (by decide) (by decide +kernel)
  have hrecords : .setSecurityScheme 7 ∈ (System.sample.s0Step
      (exec System.sample.dispatcher.step initial (includes [0x98] ++ exchangesS0 ++
        .enter (.applicationCommand 7 [0x98, 0x07]) :: works 3)).state.s0 Draws.sample
      (.applicationCommand 7 [0x98, 0x07] .radio)).2 := by
    decide +kernel
  obtain ⟨ccData, frame, nonce, heq, -⟩ := h _ _ Draws.sample htakes hrecords
  cases heq

end System

end Zwaved.Inclusion
