import Zwaved.Bytes

/-!
# The node registry

`NodeRegistry.cpp` keeps what is known of each node. The security code reads and writes one field of
an entry, the security scheme, and whether there is an entry at all; the model keeps these. Entries
can be written only while a home id is bound, except for the scheme of an entry that exists. What
the database has of a network is not modelled: `setHomeId` is given the entries that it loads.
-/

namespace Zwaved

/-- `NodeRegistry::SecurityScheme`. -/
inductive SecurityScheme
  /-- Not secure. -/
  | none
  /-- Security S0. -/
  | s0
  /-- Security S2, included without DSK confirmation. -/
  | s2Unauthenticated
  /-- Security S2, DSK confirmed. -/
  | s2Authenticated
  /-- Security S2, for locks. -/
  | s2AccessControl
  deriving DecidableEq, Repr

/-- One of the S2 classes. -/
def SecurityScheme.IsS2 : SecurityScheme → Prop
  | none | s0 => False
  | s2Unauthenticated | s2Authenticated | s2AccessControl => True

instance : DecidablePred SecurityScheme.IsS2
  | .none | .s0 => inferInstanceAs (Decidable False)
  | .s2Unauthenticated | .s2Authenticated | .s2AccessControl => inferInstanceAs (Decidable True)

/-- An S2 scheme is not the absence of one. -/
theorem SecurityScheme.IsS2.ne_none {scheme : SecurityScheme} (h : scheme.IsS2) :
    scheme ≠ .none := by
  rintro rfl
  exact h

/-- The registry's entries, each by its security scheme. -/
structure NodeRegistry where
  /-- `currentHomeId`. -/
  homeId : Option Bytes := none
  /-- `nodes`. -/
  nodes : NodeMap SecurityScheme := fun _ => none

namespace NodeRegistry

/-- `setHomeId`, with the entries that are loaded; nothing for the home id that is bound. -/
def setHomeId (r : NodeRegistry) (homeId : Bytes) (nodes : NodeMap SecurityScheme) : NodeRegistry :=
  if r.homeId = some homeId then r else { homeId := some homeId, nodes }

/-- The node's entry replaced, in a bound network. -/
def setEntry (r : NodeRegistry) (nodeId : NodeId) (entry : Option SecurityScheme) : NodeRegistry :=
  if r.homeId = none then r else { r with nodes := Function.update r.nodes nodeId entry }

/-- `add`: a new entry, which starts out with no security. -/
def add (r : NodeRegistry) (nodeId : NodeId) : NodeRegistry := r.setEntry nodeId (some .none)

/-- `remove`. -/
def remove (r : NodeRegistry) (nodeId : NodeId) : NodeRegistry := r.setEntry nodeId none

/-- `seed`: an entry for a node that has none. -/
def seed (r : NodeRegistry) (nodeId : NodeId) : NodeRegistry :=
  if (r.nodes nodeId).isSome then r else r.setEntry nodeId (some .none)

/-- `setSecurityScheme`: an unknown node is left alone. -/
def setSecurityScheme (r : NodeRegistry) (nodeId : NodeId) (scheme : SecurityScheme) :
    NodeRegistry :=
  match r.nodes nodeId with
  | none => r
  | some _ => { r with nodes := Function.update r.nodes nodeId (some scheme) }

/-- `securityScheme`. -/
def securityScheme (r : NodeRegistry) (nodeId : NodeId) : SecurityScheme :=
  (r.nodes nodeId).getD .none

/-- `isSecure`. -/
def isSecure (r : NodeRegistry) (nodeId : NodeId) : Bool :=
  r.securityScheme nodeId != .none

/-- Replacing an entry leaves the other nodes. -/
theorem securityScheme_setEntry_of_ne (r : NodeRegistry) {nodeId other : NodeId}
    (h : other ≠ nodeId) (entry : Option SecurityScheme) :
    (r.setEntry nodeId entry).securityScheme other = r.securityScheme other := by
  unfold setEntry securityScheme
  split
  · rfl
  · dsimp only
    rw [Function.update_of_ne h]

/-- Storing an entry leaves the home. -/
@[simp] theorem homeId_setEntry (r : NodeRegistry) (nodeId : NodeId)
    (entry : Option SecurityScheme) : (r.setEntry nodeId entry).homeId = r.homeId := by
  unfold setEntry
  split <;> rfl

/-- Seeding a node leaves the home. -/
@[simp] theorem homeId_seed (r : NodeRegistry) (nodeId : NodeId) :
    (r.seed nodeId).homeId = r.homeId := by
  unfold seed
  split
  · rfl
  · exact homeId_setEntry r nodeId _

/-- Seeding changes no scheme: the node that gets an entry had none. -/
theorem securityScheme_seed (r : NodeRegistry) (nodeId other : NodeId) :
    (r.seed nodeId).securityScheme other = r.securityScheme other := by
  unfold seed
  split
  · rfl
  · next hunknown =>
    by_cases hnode : other = nodeId
    · subst hnode
      have hnone : r.nodes other = none := Option.not_isSome_iff_eq_none.mp hunknown
      unfold setEntry securityScheme
      split
      · rfl
      · dsimp only
        rw [Function.update_self, hnone]
        rfl
    · exact securityScheme_setEntry_of_ne r hnode _

/-- Setting a scheme leaves the home. -/
@[simp] theorem homeId_setSecurityScheme (r : NodeRegistry) (nodeId : NodeId)
    (scheme : SecurityScheme) : (r.setSecurityScheme nodeId scheme).homeId = r.homeId := by
  unfold setSecurityScheme
  cases r.nodes nodeId <;> rfl

/-- Recording a scheme leaves the other nodes. -/
theorem securityScheme_set_of_ne (r : NodeRegistry) {nodeId other : NodeId} (h : other ≠ nodeId)
    (scheme : SecurityScheme) :
    (r.setSecurityScheme nodeId scheme).securityScheme other = r.securityScheme other := by
  unfold setSecurityScheme securityScheme
  cases r.nodes nodeId with
  | none => rfl
  | some old =>
    dsimp only
    rw [Function.update_of_ne h]

/-- A scheme is recorded for a node that is known. -/
theorem securityScheme_set (r : NodeRegistry) {nodeId : NodeId} (h : r.nodes nodeId ≠ none)
    (scheme : SecurityScheme) :
    (r.setSecurityScheme nodeId scheme).securityScheme nodeId = scheme := by
  unfold setSecurityScheme securityScheme
  cases hnode : r.nodes nodeId with
  | none => exact absurd hnode h
  | some old =>
    dsimp only
    rw [Function.update_self]
    rfl

/-- A node without an entry has no security. -/
theorem securityScheme_of_unknown (r : NodeRegistry) {nodeId : NodeId} (h : r.nodes nodeId = none) :
    r.securityScheme nodeId = .none := by
  unfold securityScheme
  rw [h]
  rfl

/-- A scheme that is recorded is there afterwards exactly for a node with an entry. -/
theorem securityScheme_set_iff (r : NodeRegistry) {nodeId : NodeId} {scheme : SecurityScheme}
    (hscheme : scheme ≠ .none) :
    (r.setSecurityScheme nodeId scheme).securityScheme nodeId = scheme ↔ r.nodes nodeId ≠ none := by
  constructor
  · intro hset hunknown
    unfold setSecurityScheme at hset
    rw [hunknown] at hset
    exact hscheme (hset.symm.trans (r.securityScheme_of_unknown hunknown))
  · exact fun hknown => r.securityScheme_set hknown scheme

/-- A node is secure exactly when a scheme is recorded for it. -/
theorem isSecure_iff (r : NodeRegistry) (nodeId : NodeId) :
    r.isSecure nodeId = true ↔ r.securityScheme nodeId ≠ .none := bne_iff_ne

/-- Recording a scheme makes a node secure that is known. -/
theorem isSecure_set (r : NodeRegistry) {nodeId : NodeId} {scheme : SecurityScheme}
    (hscheme : scheme ≠ .none) (hknown : r.nodes nodeId ≠ none) :
    (r.setSecurityScheme nodeId scheme).isSecure nodeId = true := by
  rw [isSecure_iff, securityScheme_set r hknown]
  exact hscheme

/-- Recording a scheme takes no security away. -/
theorem isSecure_set_of_isSecure (r : NodeRegistry) {nodeId other : NodeId} {scheme : SecurityScheme}
    (hscheme : scheme ≠ .none) (h : r.isSecure other = true) :
    (r.setSecurityScheme nodeId scheme).isSecure other = true := by
  by_cases hnode : other = nodeId
  · subst hnode
    refine isSecure_set r hscheme fun hunknown => ?_
    exact (isSecure_iff r other).mp h (securityScheme_of_unknown r hunknown)
  · rw [isSecure_iff, securityScheme_set_of_ne r hnode]
    exact (isSecure_iff r other).mp h

end NodeRegistry

end Zwaved
