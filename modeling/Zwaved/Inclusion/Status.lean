import Zwaved.Inclusion.Downgrade

/-!
# What NodeSecurityStatus says

Three modules publish NodeSecurityStatus. The bootstraps write the scheme to the registry and then
publish it. The unwrap layer publishes what it observes, S0 for the sender of a frame that it has
opened, and writes nothing; the registry, which `pushSendData` reads, may say otherwise. And what a
bootstrap writes for a node without an entry is not kept.

A status is judged in the state after the action that publishes it, which is the one that its first
subscriber finds (`status_agrees_iff`).
-/

namespace Zwaved.Inclusion.System

open CcTranslator Reactive

/-- In a run, the move after `pre` takes the action, whose handler publishes NodeSecurityStatus. -/
structure Publication (sys : System) (moves pre : List (Move Draws External Nested Change))
    (action : Action) (draws : Draws) (nodeId : NodeId) (scheme : SecurityScheme) : Prop where
  /-- The action is taken. -/
  taken : sys.dispatcher.TakesAt initial moves pre action draws
  /-- The status goes to a subscriber. -/
  published : ∃ subscriber, .deliver subscriber (.nodeSecurityStatus nodeId scheme) ∈
    (sys.work (exec sys.dispatcher.step initial pre).state action draws).2.1

/-- The registry has the scheme when the status comes out. -/
def Agrees (sys : System) (pre : List (Move Draws External Nested Change)) (draws : Draws)
    (nodeId : NodeId) (scheme : SecurityScheme) : Prop :=
  (exec sys.dispatcher.step initial (pre ++ [.work draws])).state.registry.securityScheme nodeId =
    scheme

/-- Every status that is published in a run agrees with the registry. -/
def StatusAgrees (sys : System) (moves : List (Move Draws External Nested Change)) : Prop :=
  ∀ pre action draws nodeId scheme, sys.Publication moves pre action draws nodeId scheme →
    sys.Agrees pre draws nodeId scheme

/-- A frame of the node is delivered to the unwrap layer. -/
def Unwraps (nodeId : NodeId) (action : Action) : Prop :=
  ∃ data origin, action = .deliver .unwrap (.applicationCommand nodeId data origin)

/-- A frame of the node is delivered to one of the bootstraps. -/
def Bootstraps (nodeId : NodeId) (action : Action) : Prop :=
  ∃ data origin, action = .deliver .s0Bootstrap (.applicationCommand nodeId data origin) ∨
    action = .deliver .s2Bootstrap (.applicationCommand nodeId data origin)

/-- An action of the unwrap layer is none of a bootstrap. -/
theorem Unwraps.not_bootstraps {nodeId other : NodeId} {action : Action}
    (h : Unwraps nodeId action) : ¬ Bootstraps other action := by
  obtain ⟨data, origin, rfl⟩ := h
  rintro ⟨data', origin', h | h⟩
  · cases h
  · cases h

variable {sys : System} {w : World} {draws : Draws} {action : Action} {nodeId : NodeId}
  {scheme : SecurityScheme}

/-- Where a status comes from: the unwrap layer, which leaves the registry, or a bootstrap, which
records the scheme. -/
theorem status_work {subscriber : Subscriber}
    (h : .deliver subscriber (.nodeSecurityStatus nodeId scheme) ∈ (sys.work w action draws).2.1) :
    (Unwraps nodeId action ∧ scheme = .s0 ∧ (sys.work w action draws).1.registry = w.registry) ∨
      (Bootstraps nodeId action ∧ scheme ≠ .none ∧
        (sys.work w action draws).1.registry = w.registry.setSecurityScheme nodeId scheme) := by
  have hcause := cause_of_mem_work h
  cases hcause with
  | unwrapped _ hunwraps =>
    refine Or.inl ⟨⟨_, _, rfl⟩, rfl, ?_⟩
    obtain ⟨unwrap, nonces, hw⟩ := sys.onUnwrap_writes w _
    dsimp only [work]
    rw [hw]
  | verified _ hverifies =>
    exact Or.inr ⟨⟨_, _, Or.inl rfl⟩, SecurityScheme.noConfusion, registry_of_verifies hverifies _⟩
  | completed _ hrecords =>
    exact Or.inr ⟨⟨_, _, Or.inr rfl⟩, (S2.schemeFor_isS2 _).ne_none, registry_of_completed hrecords⟩

/-- A status agrees with the registry exactly if a bootstrap publishes it for a node that has an
entry, or the unwrap layer for a node whose scheme is S0. -/
theorem status_agrees_iff {moves pre : List (Move Draws External Nested Change)}
    (h : sys.Publication moves pre action draws nodeId scheme) :
    sys.Agrees pre draws nodeId scheme ↔
      (Bootstraps nodeId action ∧
        (exec sys.dispatcher.step initial pre).state.registry.nodes nodeId ≠ none) ∨
      (Unwraps nodeId action ∧ scheme = .s0 ∧
        (exec sys.dispatcher.step initial pre).state.registry.securityScheme nodeId = .s0) := by
  obtain ⟨⟨-, rest, hagenda⟩, subscriber, hpublished⟩ := h
  -- The registry is asked right after the work that publishes the status.
  have hafter : (exec sys.dispatcher.step initial (pre ++ [.work draws])).state =
      (sys.work (exec sys.dispatcher.step initial pre).state action draws).1 := by
    rw [exec_concat, sys.dispatcher.step_work hagenda]
    rfl
  rw [Agrees, hafter]
  rcases status_work hpublished with ⟨hunwraps, rfl, hregistry⟩ | ⟨hboots, hscheme, hregistry⟩
  -- A status that comes from unwrapping is published without a look at the registry.
  · rw [hregistry]
    constructor
    · exact fun hsame => Or.inr ⟨hunwraps, rfl, hsame⟩
    · rintro (⟨hboots, -⟩ | ⟨-, -, hsame⟩)
      · exact absurd hboots hunwraps.not_bootstraps
      · exact hsame
  -- A bootstrap writes the scheme, which takes if the node has an entry.
  · rw [hregistry, NodeRegistry.securityScheme_set_iff _ hscheme]
    constructor
    · exact fun hknown => Or.inl ⟨hboots, hknown⟩
    · rintro (⟨-, hknown⟩ | ⟨hunwraps, -⟩)
      · exact hknown
      · exact absurd hboots hunwraps.not_bootstraps

/-- Node 7 is bootstrapped by S0, and the status that its VERIFY leads to agrees. -/
theorem status_agrees_verified :
    System.sample.Agrees (includes [0x98] ++ exchangesS0 ++
      .enter (.applicationCommand 7 [0x98, 0x07]) :: works 3) Draws.sample 7 .s0 := by
  have hpublication : System.sample.Publication
      (includes [0x98] ++ exchangesS0 ++ happens (.applicationCommand 7 [0x98, 0x07]))
      (includes [0x98] ++ exchangesS0 ++ .enter (.applicationCommand 7 [0x98, 0x07]) :: works 3)
      (.deliver .s0Bootstrap (.applicationCommand 7 [0x98, 0x07] .radio)) Draws.sample 7 .s0 :=
    ⟨takesAt_happens (by decide) (by decide +kernel), .interview, by decide +kernel⟩
  exact (status_agrees_iff hpublication).mpr (Or.inl ⟨⟨_, _, Or.inl rfl⟩, by decide +kernel⟩)

/-- A status S0 that the unwrap layer publishes, in a run at whose end the registry says
otherwise. -/
theorem not_statusAgrees_of_unwrap {sys : System} {pre : List (Move Draws External Nested Change)}
    {data : Bytes}
    (h : (exec sys.dispatcher.step initial
        (pre ++ .enter (.applicationCommand 7 data) :: works 1)).agenda.head? =
          some (.deliver .unwrap (.applicationCommand 7 data .radio)) ∧
      .deliver .interview (.nodeSecurityStatus 7 .s0) ∈
        (sys.work (exec sys.dispatcher.step initial
          (pre ++ .enter (.applicationCommand 7 data) :: works 1)).state
          (.deliver .unwrap (.applicationCommand 7 data .radio)) Draws.sample).2.1 ∧
      ¬ sys.Agrees (pre ++ .enter (.applicationCommand 7 data) :: works 1) Draws.sample 7 .s0) :
    ¬ sys.StatusAgrees (pre ++ happens (.applicationCommand 7 data)) := by
  obtain ⟨htakes, hpublished, hother⟩ := h
  intro hagrees
  exact hother (hagrees _ _ _ _ _ ⟨takesAt_happens (by decide) htakes, .interview, hpublished⟩)

instance (sys : System) (pre : List (Move Draws External Nested Change)) (draws : Draws)
    (nodeId : NodeId) (scheme : SecurityScheme) : Decidable (sys.Agrees pre draws nodeId scheme) :=
  inferInstanceAs (Decidable (_ = _))

/-- Node 7 sends an S0 frame, under the network key and a nonce that it has asked for: once when it
was included without security, and once when it was included with S2. -/
theorem not_statusAgrees :
    ¬ System.sample.StatusAgrees (includes [] ++
        happens (.applicationCommand 7 S0.Security.encodeNonceGet) ++
        happens (.applicationCommand 7 verifyFrame)) ∧
      ¬ System.sample.StatusAgrees (includes [0x9F] ++ exchangesS2 ++
        happens (.applicationCommand 7 S0.Security.encodeNonceGet) ++
        happens (.applicationCommand 7 verifyFrame)) := by
  constructor
  · exact not_statusAgrees_of_unwrap (by decide +kernel)
  · exact not_statusAgrees_of_unwrap (by decide +kernel)

end Zwaved.Inclusion.System
