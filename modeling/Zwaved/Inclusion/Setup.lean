import Zwaved.Policy.Merge

/-!
# The setup of an included node

`InclusionOrchestrator.cpp`: when a node has been included its lifeline is set, and when its
interview is complete the effective policy is sent to it, entry by entry, as far as the node
supports what an entry is about. What the node then holds is what `PolicyRegister.applied` says of
the policy (`settings_onNodeInterviewComplete`).
-/

namespace Zwaved.InclusionOrchestrator

open PolicyRegister

/-- `CC_CONFIGURATION`. -/
def ccConfiguration : UInt8 := 0x70

/-- `CC_WAKE_UP`. -/
def ccWakeUp : UInt8 := 0x84

/-- `CC_ASSOCIATION`. -/
def ccAssociation : UInt8 := 0x85

/-- `CC_MARK`: what comes after it in the list is controlled, not supported. -/
def ccMark : UInt8 := 0xEF

/-- `LIFELINE_GROUP_ID`. -/
def lifelineGroupId : UInt8 := 1

/-- `NO_CALLBACK`. -/
def noCallback : UInt8 := 0x00

/-- `SupportedCcs`. -/
structure SupportedCcs where
  /-- `association`. -/
  association : Bool := false
  /-- `configuration`. -/
  configuration : Bool := false
  /-- `wakeUp`. -/
  wakeUp : Bool := false
  deriving DecidableEq, Repr

/-- The loop of `scanSupported`, with what has been found. -/
def scanFrom (found : SupportedCcs) : Bytes → SupportedCcs
  | [] => found
  | cls :: commandClasses =>
    if cls = ccMark then found
    else if cls = ccAssociation then scanFrom { found with association := true } commandClasses
    else if cls = ccConfiguration then scanFrom { found with configuration := true } commandClasses
    else if cls = ccWakeUp then scanFrom { found with wakeUp := true } commandClasses
    else scanFrom found commandClasses

/-- `scanSupported`. -/
def scanSupported (commandClasses : Bytes) : SupportedCcs := scanFrom {} commandClasses

/-- What the orchestrator publishes. -/
inductive Output
  /-- SetConfigurationCommand. -/
  | setConfiguration (nodeId : NodeId) (parameter size : UInt8) (isSigned : Bool) (value : Int32)
      (callbackId : UInt8)
  /-- SetAssociationCommand. -/
  | setAssociation (nodeId : NodeId) (groupId : UInt8) (members : Bytes) (callbackId : UInt8)
  /-- SetWakeUpIntervalCommand. -/
  | setWakeUpInterval (nodeId : NodeId) (seconds : UInt32) (controllerNodeId : NodeId)
      (callbackId : UInt8)
  /-- InclusionLifelineSet. -/
  | lifelineSet (nodeId : NodeId)
  /-- DaemonError. -/
  | daemonError (severity : UInt8) (source : String) (code : UInt8) (message : String)
  /-- InclusionPolicyApplied. -/
  | policyApplied (nodeId : NodeId) (entriesApplied : UInt32)
  /-- InclusionComplete. -/
  | complete (nodeId : NodeId)
  deriving DecidableEq, Repr

/-- `State`. -/
structure State where
  /-- `controllerNodeId`. -/
  controllerNodeId : Option NodeId := none
  /-- `autoLifeline`. -/
  autoLifeline : Bool := true
  /-- `pendingPolicy`. -/
  pendingPolicy : NodeMap SupportedCcs := fun _ => none

namespace State

/-- `applyPolicyEntry`: the command that it publishes, if the node supports it. -/
def applyPolicyEntry (s : State) (nodeId : NodeId) (supported : SupportedCcs) :
    PolicyEntry → Option Output
  | .configuration entry =>
    if ¬ supported.configuration then none
    else some (.setConfiguration nodeId entry.parameter entry.size entry.isSigned entry.value
      noCallback)
  | .association entry =>
    if ¬ supported.association then none
    else some (.setAssociation nodeId entry.groupId entry.members noCallback)
  | .wakeUp entry =>
    if ¬ supported.wakeUp then none
    else
      let notify := if entry.notificationNodeId ≠ 0 then entry.notificationNodeId
        else s.controllerNodeId.getD 0
      some (.setWakeUpInterval nodeId entry.intervalSeconds notify noCallback)

/-- `onNodeIncluded`. -/
def onNodeIncluded (s : State) (nodeId : NodeId) (commandClasses : Bytes) : State × List Output :=
  let supported := scanSupported commandClasses
  let lifeline :=
    if supported.association ∧ s.autoLifeline then
      match s.controllerNodeId with
      | some controller =>
        [.setAssociation nodeId lifelineGroupId [controller] noCallback, .lifelineSet nodeId]
      | none =>
        [.daemonError 2 "orchestrator" 0x50
          "inclusion lifeline skipped — controller node id unknown"]
    else []
  ({ s with pendingPolicy := Function.update s.pendingPolicy nodeId (some supported) }, lifeline)

/-- `onNodeInterviewComplete`, with what `effectivePolicy` returns. -/
def onNodeInterviewComplete (s : State) (nodeId : NodeId) (policy : Policy) :
    State × List Output :=
  let supported := (s.pendingPolicy nodeId).getD {}
  let sent := policy.filterMap (s.applyPolicyEntry nodeId supported)
  ({ s with pendingPolicy := Function.update s.pendingPolicy nodeId none },
    sent ++ [.policyApplied nodeId sent.length.toUInt32, .complete nodeId])

end State

/-! ## What the node holds -/

/-- The slot that a command sets, and the node. -/
def Output.target : Output → Option (NodeId × Slot)
  | .setConfiguration nodeId parameter _ _ _ _ => some (nodeId, .configuration parameter)
  | .setAssociation nodeId groupId _ _ => some (nodeId, .association groupId)
  | .setWakeUpInterval nodeId _ _ _ => some (nodeId, .wakeUp)
  | _ => none

/-- A node that receives a command keeps it as the setting of its slot. -/
def receive (nodeId : NodeId) (settings : Slot → Option Output) (output : Output) :
    Slot → Option Output :=
  match output.target with
  | some (target, slot) =>
    if target = nodeId then Function.update settings slot (some output) else settings
  | none => settings

/-- The settings of a node that has received what was published. -/
def settings (nodeId : NodeId) (before : Slot → Option Output) (outputs : List Output) :
    Slot → Option Output :=
  outputs.foldl (receive nodeId) before

/-- The node supports all that a policy can be about. -/
def SupportedCcs.all : SupportedCcs where
  association := true
  configuration := true
  wakeUp := true

/-- The command for an entry, to a node that supports it. -/
def State.commandOf (s : State) (nodeId : NodeId) : PolicyEntry → Output
  | .configuration entry =>
    .setConfiguration nodeId entry.parameter entry.size entry.isSigned entry.value noCallback
  | .association entry => .setAssociation nodeId entry.groupId entry.members noCallback
  | .wakeUp entry =>
    .setWakeUpInterval nodeId entry.intervalSeconds
      (if entry.notificationNodeId ≠ 0 then entry.notificationNodeId
        else s.controllerNodeId.getD 0) noCallback

variable (s : State) (nodeId : NodeId)

/-- To a node that supports everything an entry goes out as its command. -/
theorem State.applyPolicyEntry_all (entry : PolicyEntry) :
    s.applyPolicyEntry nodeId .all entry = some (s.commandOf nodeId entry) := by
  cases entry <;> rfl

/-- The command made of an entry is for its node and its slot. -/
theorem State.target_commandOf (entry : PolicyEntry) :
    (s.commandOf nodeId entry).target = some (nodeId, entry.slot) := by
  cases entry <;> rfl

/-- One command after the other, the node holds what is applied to it entry by entry. -/
theorem settings_commands (held : Slot → Option PolicyEntry) (policy : Policy) :
    settings nodeId (fun slot => (held slot).map (s.commandOf nodeId))
        (policy.map (s.commandOf nodeId)) =
      fun slot => (applied held policy slot).map (s.commandOf nodeId) := by
  induction policy generalizing held with
  | nil => rfl
  | cons entry policy ih =>
    have hstep : receive nodeId (fun slot => (held slot).map (s.commandOf nodeId))
        (s.commandOf nodeId entry) = fun slot =>
          (Function.update held entry.slot (some entry) slot).map (s.commandOf nodeId) := by
      rw [receive, s.target_commandOf nodeId entry]
      dsimp only
      rw [if_pos rfl]
      funext slot
      by_cases hslot : slot = entry.slot
      · subst hslot
        simp only [Function.update_self, Option.map_some]
      · simp only [Function.update_of_ne hslot]
    rw [List.map_cons, settings, List.foldl_cons, hstep]
    exact ih _

/-- After the interview of a node that supports everything, the node holds what the effective policy
leaves when its entries are applied one after the other. -/
theorem settings_onNodeInterviewComplete (held : Slot → Option PolicyEntry) (policy : Policy)
    (hsupported : s.pendingPolicy nodeId = some .all) :
    settings nodeId (fun slot => (held slot).map (s.commandOf nodeId))
        (s.onNodeInterviewComplete nodeId policy).2 =
      fun slot => (applied held policy slot).map (s.commandOf nodeId) := by
  have hsent : policy.filterMap (s.applyPolicyEntry nodeId .all) =
      policy.map (s.commandOf nodeId) := by
    rw [← List.filterMap_eq_map]
    exact List.filterMap_congr fun entry _ => s.applyPolicyEntry_all nodeId entry
  have hrest : ∀ settings', [Output.policyApplied nodeId
        (policy.map (s.commandOf nodeId)).length.toUInt32, .complete nodeId].foldl
      (receive nodeId) settings' = settings' := fun _ => rfl
  rw [← settings_commands, settings, State.onNodeInterviewComplete]
  simp only [hsupported, Option.getD_some, hsent, List.foldl_append, hrest]
  rfl

end Zwaved.InclusionOrchestrator
