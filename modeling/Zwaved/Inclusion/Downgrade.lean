import Zwaved.Inclusion.Causes
import Zwaved.S2.KeyVerified

/-!
# The S2 scheme of a node that has both

A node with both security classes is bootstrapped by both orchestrators at once, and each of them
writes the scheme that it ends with over whatever is there. The registry says of the field that it
holds the highest class, and for the S2 bootstrap this is no risk, since all that it records is an
S2 class (`S2.schemeFor_isS2`). It is the S0 bootstrap that can take an S2 class away.

`isS2_step` says what one move does to a scheme, and `keepsS2_iff` that an S2 class stays for the
rest of an inclusion exactly if no VERIFY that the S0 bootstrap waits for comes after it.
-/

namespace Zwaved.Inclusion

open CcTranslator Reactive

/-- The change is to the entry of the node, in the network `home`: an inclusion of it begins or
ends. -/
def Change.Touches (home : Option Bytes) (nodeId : NodeId) : Change → Prop
  | add node => node = nodeId
  | remove node => node = nodeId
  | setHomeId homeId _ => home ≠ some homeId
  | seed _ | tick _ => False

/-- Other changes leave the network and the node's scheme. -/
theorem Change.apply_of_not_touches {nodeId : NodeId} {change : Change} {w : World}
    (h : ¬ change.Touches w.registry.homeId nodeId) :
    (change.apply w).registry.homeId = w.registry.homeId ∧
      (change.apply w).registry.securityScheme nodeId = w.registry.securityScheme nodeId := by
  cases change with
  | add node =>
    have hne : nodeId ≠ node := fun heq => h heq.symm
    exact ⟨w.registry.homeId_setEntry _ _, w.registry.securityScheme_setEntry_of_ne hne _⟩
  | remove node =>
    have hne : nodeId ≠ node := fun heq => h heq.symm
    exact ⟨w.registry.homeId_setEntry _ _, w.registry.securityScheme_setEntry_of_ne hne _⟩
  | seed node =>
    exact ⟨w.registry.homeId_seed node, w.registry.securityScheme_seed node nodeId⟩
  | setHomeId homeId nodes =>
    have hhome : w.registry.homeId = some homeId := not_not.mp h
    unfold Change.apply NodeRegistry.setHomeId
    dsimp only
    rw [if_pos hhome]
    exact ⟨rfl, rfl⟩
  | tick => exact ⟨rfl, rfl⟩

namespace System

/-- The node's scheme is an S2 class. -/
def HasS2 (nodeId : NodeId) (c : Config World Action) : Prop :=
  (c.state.registry.securityScheme nodeId).IsS2

instance (nodeId : NodeId) (c : Config World Action) : Decidable (HasS2 nodeId c) :=
  inferInstanceAs (Decidable (SecurityScheme.IsS2 _))

/-- Once the node's scheme is an S2 class, it stays one for the rest of the inclusion. -/
def KeepsS2 (sys : System) (moves : List (Move Draws External Nested Change)) (nodeId : NodeId) :
    Prop :=
  ∀ pre mid post, moves = pre ++ mid ++ post →
    HasS2 nodeId (exec sys.dispatcher.step initial pre) →
    (∀ change, .alter change ∈ mid →
      ¬ change.Touches (exec sys.dispatcher.step initial pre).state.registry.homeId nodeId) →
    HasS2 nodeId (exec sys.dispatcher.step initial (pre ++ mid))

/-- No VERIFY that the S0 bootstrap waits for reaches it when the node's scheme is an S2 class. -/
def NoLateVerify (sys : System) (moves : List (Move Draws External Nested Change))
    (nodeId : NodeId) : Prop :=
  ∀ pre ccData origin draws,
    sys.dispatcher.TakesAt initial moves pre
      (.deliver .s0Bootstrap (.applicationCommand nodeId ccData origin)) draws →
    HasS2 nodeId (exec sys.dispatcher.step initial pre) →
    ¬ (exec sys.dispatcher.step initial pre).state.s0.Verifies nodeId ccData

variable {sys : System} {nodeId : NodeId} {c : Config World Action}

/-- A node with a scheme has an entry. -/
theorem HasS2.known (h : HasS2 nodeId c) : c.state.registry.nodes nodeId ≠ none := by
  intro hunknown
  unfold HasS2 at h
  rw [NodeRegistry.securityScheme_of_unknown _ hunknown] at h
  exact h

/-- What the bootstraps record leaves an S2 class, but for an awaited VERIFY of the node. -/
theorem isS2_of_records {w : World} {draws : Draws} {action : Action} {registry : NodeRegistry}
    (hrecords : Records w draws action registry) (h : (w.registry.securityScheme nodeId).IsS2)
    (hknown : w.registry.nodes nodeId ≠ none)
    (hlate : ∀ ccData origin,
      action = .deliver .s0Bootstrap (.applicationCommand nodeId ccData origin) →
      ¬ w.s0.Verifies nodeId ccData) : (registry.securityScheme nodeId).IsS2 := by
  cases hrecords with
  | @verified node ccData origin hverifies =>
    by_cases hnode : nodeId = node
    · subst hnode
      -- The S0 bootstrap would write over the class.
      exact absurd hverifies (hlate ccData origin rfl)
    · rwa [NodeRegistry.securityScheme_set_of_ne _ hnode]
  | @completed node ccData origin granted =>
    by_cases hnode : nodeId = node
    · subst hnode
      -- The S2 bootstrap writes another S2 class at worst.
      rw [NodeRegistry.securityScheme_set _ hknown]
      exact S2.schemeFor_isS2 granted
    · rwa [NodeRegistry.securityScheme_set_of_ne _ hnode]

/-- The bootstraps stay in the network. -/
theorem homeId_of_records {w : World} {draws : Draws} {action : Action} {registry : NodeRegistry}
    (hrecords : Records w draws action registry) : registry.homeId = w.registry.homeId := by
  cases hrecords with
  | verified | completed => exact NodeRegistry.homeId_setSecurityScheme _ _ _

/-- A move leaves the network and an S2 class in it, unless the node's entry is changed or its
VERIFY taken. -/
theorem isS2_step (h : HasS2 nodeId c) {move : Move Draws External Nested Change}
    (htouches : ∀ change, move = .alter change → ¬ change.Touches c.state.registry.homeId nodeId)
    (hlate : ∀ ccData origin draws rest, move = .work draws →
      c.agenda = .deliver .s0Bootstrap (.applicationCommand nodeId ccData origin) :: rest →
      ¬ c.state.s0.Verifies nodeId ccData) :
    (sys.dispatcher.step c move).1.state.registry.homeId = c.state.registry.homeId ∧
      HasS2 nodeId (sys.dispatcher.step c move).1 := by
  have hmoved := sys.dispatcher.moved c move
  generalize sys.dispatcher.step c move = result at hmoved
  cases hmoved with
  | @worked action rest draws hagenda =>
    -- The action does not verify S0 for the node, which is all that would downgrade it.
    have hverify : ∀ ccData origin,
        action = .deliver .s0Bootstrap (.applicationCommand nodeId ccData origin) →
        ¬ c.state.s0.Verifies nodeId ccData := by
      rintro ccData origin rfl
      exact hlate ccData origin draws rest rfl hagenda
    unfold HasS2
    -- Any other record leaves the S2 scheme in place.
    rcases sys.registry_work c.state action draws with hregistry | hrecords
    · rw [show (sys.dispatcher.work c.state action draws).1.registry = c.state.registry from
        hregistry]
      exact ⟨rfl, h⟩
    · exact ⟨homeId_of_records hrecords, isS2_of_records hrecords h h.known hverify⟩
  -- The change from outside is not one of this node.
  | altered change =>
    obtain ⟨hhome, hscheme⟩ := Change.apply_of_not_touches (htouches change rfl)
    unfold HasS2
    rw [show (sys.dispatcher.alter c.state change).registry.securityScheme nodeId =
      c.state.registry.securityScheme nodeId from hscheme]
    exact ⟨hhome, h⟩
  | entered | nested | idle => exact ⟨rfl, h⟩

/-- An awaited VERIFY takes the S2 class away. -/
theorem not_isS2_of_verifies {ccData : Bytes} {origin : Origin} {rest : List Action}
    (hagenda : c.agenda = .deliver .s0Bootstrap (.applicationCommand nodeId ccData origin) :: rest)
    (hknown : c.state.registry.nodes nodeId ≠ none) (hverifies : c.state.s0.Verifies nodeId ccData)
    (draws : Draws) : ¬ HasS2 nodeId (sys.dispatcher.step c (.work draws)).1 := by
  have hregistry : (sys.dispatcher.step c (.work draws)).1.state.registry =
      c.state.registry.setSecurityScheme nodeId .s0 := by
    unfold Dispatcher.step
    rw [hagenda]
    exact registry_of_verifies hverifies origin
  unfold HasS2
  rw [hregistry, NodeRegistry.securityScheme_set _ hknown]
  exact id

/-- An S2 class stays exactly if no awaited VERIFY comes after it. -/
theorem keepsS2_iff (sys : System) (moves : List (Move Draws External Nested Change))
    (nodeId : NodeId) : sys.KeepsS2 moves nodeId ↔ sys.NoLateVerify moves nodeId := by
  constructor
  · rintro h pre ccData origin draws ⟨⟨post, rfl⟩, rest, hagenda⟩ hs2 hverifies
    -- The move that takes the VERIFY is a stretch without changes, and the class is gone after it.
    have hkept : HasS2 nodeId (exec sys.dispatcher.step initial (pre ++ [.work draws])) := by
      refine h pre [.work draws] post (by simp) hs2 fun change hmem => ?_
      cases List.mem_singleton.mp hmem
    rw [exec_concat] at hkept
    exact not_isS2_of_verifies hagenda hs2.known hverifies draws hkept
  · intro h pre mid post hsplit hs2 hquiet
    -- The inclusion goes on by one move at a time, in the network that it began in.
    have hstays : (exec sys.dispatcher.step initial (pre ++ mid)).state.registry.homeId =
        (exec sys.dispatcher.step initial pre).state.registry.homeId ∧
        HasS2 nodeId (exec sys.dispatcher.step initial (pre ++ mid)) := by
      induction mid using List.reverseRecOn generalizing post with
      | nil => rw [List.append_nil]; exact ⟨rfl, hs2⟩
      | append_singleton mid move ih =>
        obtain ⟨hhome, hmid⟩ := ih (move :: post) (by rw [hsplit]; simp) fun change hmem =>
          hquiet change (List.mem_append_left _ hmem)
        rw [← List.append_assoc, exec_concat, ← hhome]
        refine isS2_step hmid ?_ ?_
        · rintro change rfl
          rw [hhome]
          exact hquiet change (by simp)
        · rintro ccData origin draws rest rfl hagenda
          exact h (pre ++ mid) ccData origin draws ⟨⟨post, by rw [hsplit]; simp⟩, rest, hagenda⟩ hmid
    exact hstays.2

/-- Nothing is changed behind the back of the handlers while an event is dealt with. -/
theorem alter_notMem_happens (event : External) (change : Change) :
    .alter change ∉ happens event := by
  intro hmem
  rcases List.mem_cons.mp hmem with hmem | hmem
  · cases hmem
  · cases List.eq_of_mem_replicate hmem

/-- Node 7 has both classes: its S2 bootstrap, from KEX_REPORT to the end of the transfer. -/
def exchangesS2 : List (Move Draws External Nested Change) :=
  (S2.Bootstrap.sampleHandshake ++ S2.Bootstrap.sampleInstall ++ [S2.Bootstrap.sampleEnd 4]).flatMap
    fun
    | .applicationCommand nodeId ccData _ => happens (.applicationCommand nodeId ccData)
    | _ => []

/-- If a node has its S2 class before an event and not after it, the run with that event does not
keep the class. -/
theorem not_keepsS2 {pre : List (Move Draws External Nested Change)} {event : External}
    (h : HasS2 nodeId (exec sys.dispatcher.step initial pre) ∧
      ¬ HasS2 nodeId (exec sys.dispatcher.step (exec sys.dispatcher.step initial pre)
        (happens event))) :
    ¬ sys.KeepsS2 (pre ++ happens event) nodeId := by
  intro hkeeps
  obtain ⟨hs2, hlost⟩ := h
  rw [← exec_append] at hlost
  refine hlost (hkeeps pre (happens event) [] (by rw [List.append_nil]) hs2 fun change hmem => ?_)
  exact absurd hmem (alter_notMem_happens event change)

/-- The VERIFY of node 7 comes last, encrypted as it should be, and takes its S2 class away. -/
theorem downgraded_by_verify :
    ¬ System.sample.KeepsS2 (includes [0x98, 0x9F] ++ exchangesS0 ++ exchangesS2 ++
      happens (.applicationCommand 7 verifyFrame)) 7 := by
  refine not_keepsS2 ?_
  -- One evaluation of the run up to the VERIFY serves both.
  decide +kernel

end System

end Zwaved.Inclusion
