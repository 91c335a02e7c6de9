import Mathlib.Data.List.Sort
import Zwaved.Storage.Registry

/-!
# Logical thermostats

`ThermostatOrchestrator.cpp`: the nodes that share a metadata tag are one logical thermostat. A
command to it goes out to the members that support it, and the members' reports are mirrored: for
every group that a client has addressed, the aggregate of what its members last reported is
published when it has changed. Changes are told by a text, the group's signature.

The group's members and the registry's entries are asked for when a message is handled. Here the
answers are two fields of the state, and `metadataChanged` and `registryChanged` are the changes
that others make.
-/

namespace Zwaved.Thermostat

open Storage (NodeInfo)

/-- `CC_THERMOSTAT_MODE`. -/
def ccThermostatMode : UInt8 := 0x40

/-- `CC_THERMOSTAT_SETPOINT`. -/
def ccThermostatSetpoint : UInt8 := 0x43

/-- `OP_STATE_IDLE`. -/
def opStateIdle : UInt8 := 0

/-- `OP_STATE_HEATING`. -/
def opStateHeating : UInt8 := 1

/-- `OP_STATE_COOLING`. -/
def opStateCooling : UInt8 := 2

/-- `NO_CALLBACK`. -/
def noCallback : UInt8 := 0x00

/-- `LogicalThermostatState::MODE_MIXED`. -/
def modeMixed : UInt8 := 0xFF

/-- `GroupKey`: a metadata key and its value. -/
abbrev GroupKey := String × String

/-- `Setpoint`. -/
structure Setpoint where
  /-- `type`. -/
  type : UInt8 := 0
  /-- `scale`. -/
  scale : UInt8 := 0
  /-- `precision`. -/
  precision : UInt8 := 0
  /-- `value`. -/
  value : Int32 := 0
  deriving DecidableEq, Repr

/-- `NodeClimate`. -/
structure NodeClimate where
  /-- `mode`. -/
  mode : Option UInt8 := none
  /-- `operatingState`. -/
  operatingState : Option UInt8 := none
  /-- `fanMode`. -/
  fanMode : Option UInt8 := none
  /-- `setpoint`. -/
  setpoint : Option Setpoint := none
  /-- `setpointSeq`: a 64-bit counter, which no run exhausts. -/
  setpointSeq : ℕ := 0
  deriving DecidableEq, Repr

/-- `LogicalThermostatState`. -/
structure LogicalState where
  /-- `groupKey`. -/
  groupKey : String
  /-- `groupValue`. -/
  groupValue : String
  /-- `memberCount`. -/
  memberCount : UInt8
  /-- `mode`. -/
  mode : UInt8
  /-- `operatingState`. -/
  operatingState : UInt8
  /-- `fanMode`. -/
  fanMode : UInt8
  /-- `setpointType`. -/
  setpointType : UInt8
  /-- `setpointScale`. -/
  setpointScale : UInt8
  /-- `setpointPrecision`. -/
  setpointPrecision : UInt8
  /-- `setpointValue`. -/
  setpointValue : Int32
  deriving DecidableEq, Repr

/-- The group that a state is about. -/
def LogicalState.group (st : LogicalState) : GroupKey := (st.groupKey, st.groupValue)

/-- `signature`, the text that tells whether a state has changed. -/
def LogicalState.signature (st : LogicalState) : String :=
  toString st.memberCount.toNat ++ ":" ++ toString st.mode.toNat ++ ":" ++
    toString st.operatingState.toNat ++ ":" ++ toString st.fanMode.toNat ++ ":" ++
    toString st.setpointType.toNat ++ ":" ++ toString st.setpointScale.toNat ++ ":" ++
    toString st.setpointPrecision.toNat ++ ":" ++ toString st.setpointValue.toInt

/-- What the orchestrator publishes. -/
inductive Output
  /-- LogicalThermostatState. -/
  | logicalState (st : LogicalState)
  /-- SetThermostatModeCommand. -/
  | setMode (nodeId : NodeId) (mode callbackId : UInt8)
  /-- SetThermostatSetpointCommand. -/
  | setSetpoint (nodeId : NodeId) (setpointType precision scale : UInt8) (value : Int32)
      (callbackId : UInt8)
  deriving DecidableEq

/-- What happens to the orchestrator and around it. -/
inductive Event
  /-- LogicalThermostatModeCommand. -/
  | modeCommand (group : GroupKey) (mode : UInt8)
  /-- LogicalThermostatSetpointCommand. -/
  | setpointCommand (group : GroupKey) (setpointType precision scale : UInt8) (value : Int32)
  /-- ThermostatModeReport. -/
  | modeReport (sourceNodeId : NodeId) (mode : UInt8)
  /-- ThermostatOperatingStateReport. -/
  | operatingStateReport (sourceNodeId : NodeId) (state : UInt8)
  /-- ThermostatFanModeReport. -/
  | fanModeReport (sourceNodeId : NodeId) (mode : UInt8)
  /-- ThermostatSetpointReport. -/
  | setpointReport (sourceNodeId : NodeId) (setpoint : Setpoint)
  /-- The metadata change. -/
  | metadataChanged (nodesWith : GroupKey → List NodeId)
  /-- The registry changes. -/
  | registryChanged (nodes : List NodeInfo)

/-- `State`, and what the orchestrator asks others for. -/
structure State where
  /-- `perNode`. -/
  perNode : NodeMap NodeClimate := fun _ => none
  /-- `knownGroups`, in order. -/
  knownGroups : List GroupKey := []
  /-- `lastSignature`: a group without one has the empty text. -/
  lastSignature : GroupKey → String := fun _ => ""
  /-- `setpointCounter`: a 64-bit counter, which no run exhausts. -/
  setpointCounter : ℕ := 0
  /-- What `NodeMetadata::nodesWith` returns. -/
  nodesWith : GroupKey → List NodeId
  /-- What `NodeRegistry::snapshot` returns. -/
  nodes : List NodeInfo

/-- `supportsCc`: the first entry of the node decides. -/
def supportsCc (nodes : List NodeInfo) (nodeId : NodeId) (classByte : UInt8) : Bool :=
  match nodes with
  | [] => false
  | info :: nodes =>
    if info.nodeId = nodeId then info.commandClasses.contains classByte
    else supportsCc nodes nodeId classByte

/-! ## Aggregation -/

section Aggregation

variable (perNode : NodeMap NodeClimate)

/-- The loop of `aggregateByte`. -/
def aggregateByteFrom (pick : NodeClimate → Option UInt8) :
    List NodeId → Option UInt8 → Bool → UInt8
  | [], common, mixed => if mixed then modeMixed else common.getD 0
  | member :: members, common, mixed =>
    match perNode member with
    | none => aggregateByteFrom pick members common mixed
    | some entry =>
      match pick entry with
      | none => aggregateByteFrom pick members common mixed
      | some value =>
        match common with
        | none => aggregateByteFrom pick members (some value) mixed
        | some first => aggregateByteFrom pick members (some first) (mixed || first != value)

/-- `aggregateByte`. -/
def aggregateByte (members : List NodeId) (pick : NodeClimate → Option UInt8) : UInt8 :=
  aggregateByteFrom perNode pick members none false

/-- The loop of `aggregateOperatingState`. -/
def aggregateOperatingStateFrom : List NodeId → Bool → UInt8
  | [], anyCooling => if anyCooling then opStateCooling else opStateIdle
  | member :: members, anyCooling =>
    match perNode member with
    | none => aggregateOperatingStateFrom members anyCooling
    | some entry =>
      match entry.operatingState with
      | none => aggregateOperatingStateFrom members anyCooling
      | some opState =>
        if opState = opStateHeating then opStateHeating
        else if opState = opStateCooling then aggregateOperatingStateFrom members true
        else aggregateOperatingStateFrom members anyCooling

/-- `aggregateOperatingState`. -/
def aggregateOperatingState (members : List NodeId) : UInt8 :=
  aggregateOperatingStateFrom perNode members false

/-- The loop of `aggregateSetpoint`. -/
def aggregateSetpointFrom : List NodeId → Setpoint → ℕ → Setpoint
  | [], best, _ => best
  | member :: members, best, bestSeq =>
    match perNode member with
    | none => aggregateSetpointFrom members best bestSeq
    | some entry =>
      match entry.setpoint with
      | none => aggregateSetpointFrom members best bestSeq
      | some setpoint =>
        if entry.setpointSeq ≥ bestSeq then
          aggregateSetpointFrom members setpoint entry.setpointSeq
        else aggregateSetpointFrom members best bestSeq

/-- `aggregateSetpoint`. -/
def aggregateSetpoint (members : List NodeId) : Setpoint :=
  aggregateSetpointFrom perNode members {} 0

/-- The state of a group with these members. -/
def aggregateState (group : GroupKey) (members : List NodeId) : LogicalState where
  groupKey := group.1
  groupValue := group.2
  memberCount := members.length.toUInt8
  mode := aggregateByte perNode members (·.mode)
  operatingState := aggregateOperatingState perNode members
  fanMode := aggregateByte perNode members (·.fanMode)
  setpointType := (aggregateSetpoint perNode members).type
  setpointScale := (aggregateSetpoint perNode members).scale
  setpointPrecision := (aggregateSetpoint perNode members).precision
  setpointValue := (aggregateSetpoint perNode members).value

end Aggregation

namespace State

/-- `publishGroupState`. -/
def publishGroupState (s : State) (group : GroupKey) : State × List Output :=
  let event := aggregateState s.perNode group (s.nodesWith group)
  if s.lastSignature group = event.signature then (s, [])
  else
    ({ s with lastSignature := Function.update s.lastSignature group event.signature },
      [.logicalState event])

/-- The loop of `refreshGroupsForNode`. -/
def refreshGroups (s : State) (nodeId : NodeId) : List GroupKey → State × List Output
  | [] => (s, [])
  | group :: groups =>
    if nodeId ∈ s.nodesWith group then
      let (s, published) := s.publishGroupState group
      let (s, rest) := s.refreshGroups nodeId groups
      (s, published ++ rest)
    else s.refreshGroups nodeId groups

/-- `refreshGroupsForNode`. -/
def refreshGroupsForNode (s : State) (nodeId : NodeId) : State × List Output :=
  s.refreshGroups nodeId s.knownGroups

/-- `knownGroups.insert`: the set is ordered by key and value. -/
def insertGroup (s : State) (group : GroupKey) : State :=
  if group ∈ s.knownGroups then s
  else
    { s with
      knownGroups := s.knownGroups.orderedInsert
        (fun a b => a.1 < b.1 ∨ (a.1 = b.1 ∧ a.2 ≤ b.2)) group }

/-- `onModeCommand`. -/
def onModeCommand (s : State) (group : GroupKey) (mode : UInt8) : State × List Output :=
  let s := s.insertGroup group
  let members := (s.nodesWith group).filter fun member =>
    supportsCc s.nodes member ccThermostatMode
  (s, members.map fun member => .setMode member mode noCallback)

/-- `onSetpointCommand`. -/
def onSetpointCommand (s : State) (group : GroupKey) (setpointType precision scale : UInt8)
    (value : Int32) : State × List Output :=
  let s := s.insertGroup group
  let members := (s.nodesWith group).filter fun member =>
    supportsCc s.nodes member ccThermostatSetpoint
  (s, members.map fun member =>
    .setSetpoint member setpointType precision scale value noCallback)

/-- `perNode[nodeId]`. -/
def climate (s : State) (nodeId : NodeId) : NodeClimate := (s.perNode nodeId).getD {}

/-- `perNode[nodeId]`, written. -/
def setClimate (s : State) (nodeId : NodeId) (climate : NodeClimate) : State :=
  { s with perNode := Function.update s.perNode nodeId (some climate) }

/-- `onModeReport`. -/
def onModeReport (s : State) (sourceNodeId : NodeId) (mode : UInt8) : State × List Output :=
  let s := s.setClimate sourceNodeId { s.climate sourceNodeId with mode := some mode }
  s.refreshGroupsForNode sourceNodeId

/-- `onOperatingStateReport`. -/
def onOperatingStateReport (s : State) (sourceNodeId : NodeId) (state : UInt8) :
    State × List Output :=
  let s := s.setClimate sourceNodeId { s.climate sourceNodeId with operatingState := some state }
  s.refreshGroupsForNode sourceNodeId

/-- `onFanModeReport`. -/
def onFanModeReport (s : State) (sourceNodeId : NodeId) (mode : UInt8) : State × List Output :=
  let s := s.setClimate sourceNodeId { s.climate sourceNodeId with fanMode := some mode }
  s.refreshGroupsForNode sourceNodeId

/-- `onSetpointReport`. -/
def onSetpointReport (s : State) (sourceNodeId : NodeId) (setpoint : Setpoint) :
    State × List Output :=
  let setpointSeq := s.setpointCounter + 1
  let s := { s.setClimate sourceNodeId
    { s.climate sourceNodeId with setpoint := some setpoint, setpointSeq } with
    setpointCounter := setpointSeq }
  s.refreshGroupsForNode sourceNodeId

/-- One event. -/
def step (s : State) : Event → State × List Output
  | .modeCommand group mode => s.onModeCommand group mode
  | .setpointCommand group setpointType precision scale value =>
    s.onSetpointCommand group setpointType precision scale value
  | .modeReport sourceNodeId mode => s.onModeReport sourceNodeId mode
  | .operatingStateReport sourceNodeId state => s.onOperatingStateReport sourceNodeId state
  | .fanModeReport sourceNodeId mode => s.onFanModeReport sourceNodeId mode
  | .setpointReport sourceNodeId setpoint => s.onSetpointReport sourceNodeId setpoint
  | .metadataChanged nodesWith => ({ s with nodesWith }, [])
  | .registryChanged nodes => ({ s with nodes }, [])

end State

end Zwaved.Thermostat
