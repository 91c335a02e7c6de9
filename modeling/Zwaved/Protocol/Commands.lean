import Zwaved.Inclusion.System
import Zwaved.Protocol.Encoders

/-!
# The commands of the protocol thread

`ProtocolThread.cpp` subscribes to some fifty commands of the bus. Those that manage the network put
a request of their own on its queue. Those that are for a node are encoded and go through
`pushSendData`, which queues a SendDataRequest, or hands the payload to one of the two orchestrators
that encrypt. A multicast cannot be encrypted and has a handler of its own.

`payload_class` is what the encoders have in common: none of their payloads is one of the security
layer, so for a secure node every command but the raw SendDataCommand is diverted.
-/

namespace Zwaved.Protocol

/-! ## Requests -/

/-- The requests that manage the network. The command of each carries the same fields. -/
inductive NetworkRequest
  /-- AddNodeRequest. -/
  | addNode (mode : UInt8) (power nwi protocolLongRange skipFlNeighbors : Bool) (sessionId : UInt8)
    (includeHomeIds : Bool) (nwiHomeId authHomeId : HomeId)
  /-- RemoveNodeRequest. -/
  | removeNode (mode : UInt8) (power nwe : Bool) (sessionId : UInt8)
  /-- RemoveFailedNodeRequest. -/
  | removeFailedNode (nodeId : NodeId) (sessionId : UInt8)
  /-- RequestNodeInfoRequest. -/
  | requestNodeInfo (nodeId : NodeId) (sessionId : UInt8)
  deriving DecidableEq

/-- SendDataRequest. -/
structure SendDataRequest where
  /-- `nodeId`. -/
  nodeId : NodeId
  /-- `data`. -/
  data : Bytes
  /-- `txOptions`. -/
  txOptions : UInt8
  /-- `callbackId`. -/
  callbackId : UInt8
  deriving DecidableEq, Repr

/-- SendDataMultiRequest. -/
structure SendDataMultiRequest where
  /-- `nodeIds`. -/
  nodeIds : Bytes
  /-- `data`. -/
  data : Bytes
  /-- `txOptions`. -/
  txOptions : UInt8
  /-- `callbackId`. -/
  callbackId : UInt8
  deriving DecidableEq, Repr

/-- `Request`. -/
inductive Request
  /-- One that manages the network. -/
  | network (request : NetworkRequest)
  /-- One for a node. -/
  | sendData (request : SendDataRequest)
  /-- One for several nodes. -/
  | sendDataMulti (request : SendDataMultiRequest)
  deriving DecidableEq

/-- `TRANSMIT_OPTION_DEFAULT`: acknowledged, routed, and explored for. -/
def transmitOptionDefault : UInt8 := 0x01 ||| 0x04 ||| 0x20

/-- `TRANSMIT_COMPLETE_FAIL`. -/
def transmitCompleteFail : UInt8 := 0x02

/-! ## Commands -/

/-- What a command asks of one node. -/
inductive NodeCommand
  /-- SetSwitchBinaryCommand. -/
  | setSwitchBinary (turnOn : Bool)
  /-- GetSwitchBinaryCommand. -/
  | getSwitchBinary
  /-- SetIndicatorCommand. -/
  | setIndicator (value : UInt8)
  /-- GetIndicatorCommand. -/
  | getIndicator
  /-- SetBasicCommand. -/
  | setBasic (value : UInt8)
  /-- GetBasicCommand. -/
  | getBasic
  /-- SendSupervisedCommand. -/
  | sendSupervised (sessionId : UInt8) (ccData : Bytes)
  /-- SendDataToEndpointCommand. -/
  | sendDataToEndpoint (endpoint : UInt8) (ccData : Bytes)
  /-- GetMultiChannelEndpointsCommand. -/
  | getMultiChannelEndpoints
  /-- GetMultiChannelCapabilityCommand. -/
  | getMultiChannelCapability (endpoint : UInt8)
  /-- SetMultilevelSwitchCommand. -/
  | setMultilevelSwitch (value duration : UInt8)
  /-- GetMultilevelSwitchCommand. -/
  | getMultilevelSwitch
  /-- GetBatteryCommand. -/
  | getBattery
  /-- GetSensorMultilevelCommand. -/
  | getSensorMultilevel
  /-- GetSensorBinaryCommand. -/
  | getSensorBinary
  /-- GetNotificationCommand. -/
  | getNotification (notificationType : UInt8)
  /-- GetMeterCommand. -/
  | getMeter (scale : UInt8)
  /-- SetColorSwitchCommand. -/
  | setColorSwitch (components : Bytes) (duration : UInt8)
  /-- GetColorSwitchCommand. -/
  | getColorSwitch (componentId : UInt8)
  /-- SetDoorLockCommand. -/
  | setDoorLock (mode : UInt8)
  /-- GetDoorLockCommand. -/
  | getDoorLock
  /-- SetUserCodeCommand. -/
  | setUserCode (userIdentifier userIdStatus : UInt8) (userCode : Bytes)
  /-- GetUserCodeCommand. -/
  | getUserCode (userIdentifier : UInt8)
  /-- GetUserCodeCountCommand. -/
  | getUserCodeCount
  /-- SetThermostatModeCommand. -/
  | setThermostatMode (mode : UInt8)
  /-- GetThermostatModeCommand. -/
  | getThermostatMode
  /-- SetThermostatSetpointCommand. -/
  | setThermostatSetpoint (setpointType precision scale : UInt8) (value : Int32)
  /-- GetThermostatSetpointCommand. -/
  | getThermostatSetpoint (setpointType : UInt8)
  /-- GetThermostatOperatingStateCommand. -/
  | getThermostatOperatingState
  /-- SetThermostatFanModeCommand. -/
  | setThermostatFanMode (mode : UInt8) (off : Bool)
  /-- GetThermostatFanModeCommand. -/
  | getThermostatFanMode
  /-- GetManufacturerSpecificCommand. -/
  | getManufacturerSpecific
  /-- GetZWavePlusInfoCommand. -/
  | getZWavePlusInfo
  /-- GetNodeVersionCommand. -/
  | getNodeVersion
  /-- SetWakeUpIntervalCommand. -/
  | setWakeUpInterval (seconds : UInt32) (controllerNodeId : NodeId)
  /-- GetWakeUpIntervalCommand. -/
  | getWakeUpInterval
  /-- SendWakeUpNoMoreInformationCommand. -/
  | sendWakeUpNoMoreInformation
  /-- SetConfigurationCommand; `isSigned` is not on the wire. -/
  | setConfiguration (parameter size : UInt8) (isSigned : Bool) (value : Int32)
  /-- GetConfigurationCommand. -/
  | getConfiguration (parameter : UInt8)
  /-- SetAssociationCommand. -/
  | setAssociation (groupId : UInt8) (members : Bytes)
  /-- RemoveAssociationCommand. -/
  | removeAssociation (groupId : UInt8) (members : Bytes)
  /-- GetAssociationCommand. -/
  | getAssociation (groupId : UInt8)
  /-- GetAssociationGroupingsCommand. -/
  | getAssociationGroupings
  /-- SetMultichannelAssociationCommand. -/
  | setMultichannelAssociation (groupId : UInt8) (nodeMembers : Bytes)
    (endpointMembers : List EndpointMember)
  /-- RemoveMultichannelAssociationCommand. -/
  | removeMultichannelAssociation (groupId : UInt8) (nodeMembers : Bytes)
    (endpointMembers : List EndpointMember)
  /-- GetMultichannelAssociationCommand. -/
  | getMultichannelAssociation (groupId : UInt8)
  /-- GetMultichannelAssociationGroupingsCommand. -/
  | getMultichannelAssociationGroupings
  deriving DecidableEq

/-- The payload that the command's handler encodes. -/
def NodeCommand.payload : NodeCommand → Bytes
  | setSwitchBinary turnOn => BinarySwitch.encodeSet turnOn
  | getSwitchBinary => BinarySwitch.encodeGet
  | setIndicator value => Indicator.encodeSet value
  | getIndicator => Indicator.encodeGet
  | setBasic value => Basic.encodeSet value
  | getBasic => Basic.encodeGet
  | sendSupervised sessionId ccData => Supervision.encodeGet sessionId false ccData
  -- From the root of the controller.
  | sendDataToEndpoint endpoint ccData => MultiChannel.encodeEncap 0 endpoint ccData
  | getMultiChannelEndpoints => MultiChannel.encodeEndpointGet
  | getMultiChannelCapability endpoint => MultiChannel.encodeCapabilityGet endpoint
  | setMultilevelSwitch value duration => MultilevelSwitch.encodeSet value duration
  | getMultilevelSwitch => MultilevelSwitch.encodeGet
  | getBattery => Battery.encodeGet
  | getSensorMultilevel => SensorMultilevel.encodeGet
  | getSensorBinary => SensorBinary.encodeGet
  | getNotification notificationType => Notification.encodeGet notificationType
  | getMeter scale => Meter.encodeGet scale
  | setColorSwitch components duration => ColorSwitch.encodeSet components duration
  | getColorSwitch componentId => ColorSwitch.encodeGet componentId
  | setDoorLock mode => DoorLock.encodeSet mode
  | getDoorLock => DoorLock.encodeGet
  | setUserCode userIdentifier userIdStatus userCode =>
    UserCode.encodeSet userIdentifier userIdStatus userCode
  | getUserCode userIdentifier => UserCode.encodeGet userIdentifier
  | getUserCodeCount => UserCode.encodeUsersNumberGet
  | setThermostatMode mode => ThermostatMode.encodeSet mode
  | getThermostatMode => ThermostatMode.encodeGet
  | setThermostatSetpoint setpointType precision scale value =>
    ThermostatSetpoint.encodeSet setpointType precision scale value
  | getThermostatSetpoint setpointType => ThermostatSetpoint.encodeGet setpointType
  | getThermostatOperatingState => ThermostatOperatingState.encodeGet
  | setThermostatFanMode mode off => ThermostatFanMode.encodeSet mode off
  | getThermostatFanMode => ThermostatFanMode.encodeGet
  | getManufacturerSpecific => ManufacturerSpecific.encodeGet
  | getZWavePlusInfo => ZWavePlusInfo.encodeGet
  | getNodeVersion => NodeVersion.encodeGet
  | setWakeUpInterval seconds controllerNodeId => WakeUp.encodeIntervalSet seconds controllerNodeId
  | getWakeUpInterval => WakeUp.encodeGet
  | sendWakeUpNoMoreInformation => WakeUp.encodeNoMoreInformation
  | setConfiguration parameter size _ value => Configuration.encodeSet parameter size value
  | getConfiguration parameter => Configuration.encodeGet parameter
  | setAssociation groupId members => Association.encodeSet groupId members
  | removeAssociation groupId members => Association.encodeRemove groupId members
  | getAssociation groupId => Association.encodeGet groupId
  | getAssociationGroupings => Association.encodeGroupingsGet
  | setMultichannelAssociation groupId nodeMembers endpointMembers =>
    MultichannelAssociation.encodeSet groupId nodeMembers endpointMembers
  | removeMultichannelAssociation groupId nodeMembers endpointMembers =>
    MultichannelAssociation.encodeRemove groupId nodeMembers endpointMembers
  | getMultichannelAssociation groupId => MultichannelAssociation.encodeGet groupId
  | getMultichannelAssociationGroupings => MultichannelAssociation.encodeGroupingsGet

/-- A command of the bus that the protocol thread subscribes to. -/
inductive Command
  /-- One that manages the network. -/
  | network (request : NetworkRequest)
  /-- One for a node. -/
  | node (nodeId : NodeId) (callbackId : UInt8) (command : NodeCommand)
  /-- SendDataCommand, with a payload that is encoded already. -/
  | sendData (nodeId : NodeId) (payload : Bytes) (callbackId : UInt8)
  /-- SendDataMulticastCommand. -/
  | sendDataMulticast (nodeIds payload : Bytes) (callbackId : UInt8)
  deriving DecidableEq

/-! ## Handlers -/

/-- What a handler does. -/
inductive Effect
  /-- A request is put on the queue. -/
  | pushRequest (request : Request)
  /-- SendDataCallback is published. -/
  | sendDataCallback (callbackId txStatus : UInt8)
  /-- SecureSendRequest is published. -/
  | secureSend (nodeId : NodeId) (payload : Bytes) (callbackId : UInt8)
  /-- SecureS2SendRequest is published. -/
  | secureS2Send (nodeId : NodeId) (payload : Bytes) (callbackId : UInt8)
  deriving DecidableEq

variable (registry : NodeRegistry)

/-- `pushSendData`. -/
def pushSendData (nodeId : NodeId) (callbackId : UInt8) (data : Bytes) : Effect :=
  match Inclusion.System.pushSendData registry nodeId data with
  | .secureS2Send nodeId payload => .secureS2Send nodeId payload callbackId
  | .secureSend nodeId payload => .secureSend nodeId payload callbackId
  | .queued nodeId data =>
    .pushRequest (.sendData { nodeId, data, txOptions := transmitOptionDefault, callbackId })

/-- `onSendDataMulticast`: refused as a whole if one of the nodes is secure. -/
def onSendDataMulticast (nodeIds payload : Bytes) (callbackId : UInt8) : Effect :=
  if nodeIds.isEmpty ∨ payload.isEmpty then .sendDataCallback callbackId transmitCompleteFail
  else
    let secure := nodeIds.filter (registry.isSecure ·)
    if !secure.isEmpty then .sendDataCallback callbackId transmitCompleteFail
    else
      .pushRequest (.sendDataMulti
        { nodeIds, data := payload, txOptions := transmitOptionDefault, callbackId })

/-- The handler of a command. Each does one thing. -/
def onCommand : Command → Effect
  | .network request => .pushRequest (.network request)
  | .node nodeId callbackId command => pushSendData registry nodeId callbackId command.payload
  | .sendData nodeId payload callbackId => pushSendData registry nodeId callbackId payload
  | .sendDataMulticast nodeIds payload callbackId =>
    onSendDataMulticast registry nodeIds payload callbackId

/-! ## What is queued as it is -/

/-- A payload that may go out as it is: there is nothing in it, or it belongs to the security layer
itself. -/
def Encapsulated (payload : Bytes) : Prop :=
  payload = [] ∨ payload.byte 0 = 0x98 ∨ payload.byte 0 = 0x9F

instance : DecidablePred Encapsulated := fun _ => inferInstanceAs (Decidable (_ ∨ _))

variable {registry} {nodeId : NodeId} {callbackId : UInt8} {data : Bytes}

/-- `pushSendData` diverts exactly the payloads that are not encapsulated and go to a secure
node. -/
theorem diverts_iff :
    (data ≠ [] ∧ data.byte 0 ≠ 0x98 ∧ data.byte 0 ≠ 0x9F ∧ registry.isSecure nodeId) ↔
      ¬ Encapsulated data ∧ registry.isSecure nodeId := by
  unfold Encapsulated
  rw [not_or, not_or, and_assoc, and_assoc]

/-- A payload that may go out as it is, or is for a node that is not secure, is queued. -/
theorem pushSendData_queues (h : Encapsulated data ∨ ¬ registry.isSecure nodeId) :
    pushSendData registry nodeId callbackId data = .pushRequest
      (.sendData { nodeId, data, txOptions := transmitOptionDefault, callbackId }) := by
  have hnot : ¬ (¬ Encapsulated data ∧ registry.isSecure nodeId) := by
    rwa [not_and_or, not_not]
  unfold pushSendData Inclusion.System.pushSendData
  rw [if_neg (mt diverts_iff.mp hnot)]

/-- Any other is handed to the orchestrator of the node's class. -/
theorem pushSendData_diverts (hdata : ¬ Encapsulated data) (hsecure : registry.isSecure nodeId) :
    pushSendData registry nodeId callbackId data =
      if (registry.securityScheme nodeId).IsS2 then .secureS2Send nodeId data callbackId
      else .secureSend nodeId data callbackId := by
  unfold pushSendData Inclusion.System.pushSendData
  rw [if_pos (diverts_iff.mpr ⟨hdata, hsecure⟩)]
  split_ifs <;> rfl

/-- What `pushSendData` queues for a secure node may go out as it is. -/
theorem encapsulated_of_pushSendData {request : SendDataRequest}
    (h : pushSendData registry nodeId callbackId data = .pushRequest (.sendData request))
    (hsecure : registry.isSecure request.nodeId) : Encapsulated request.data := by
  by_cases hqueues : Encapsulated data ∨ ¬ registry.isSecure nodeId
  · rw [pushSendData_queues hqueues] at h
    injection h with h
    injection h with h
    subst h
    exact hqueues.resolve_right (not_not.mpr hsecure)
  · rw [not_or, not_not] at hqueues
    rw [pushSendData_diverts hqueues.1 hqueues.2] at h
    split_ifs at h

/-- Whatever the command, what is queued for a secure node may go out as it is. -/
theorem encapsulated_of_onCommand {command : Command} {request : SendDataRequest}
    (h : onCommand registry command = .pushRequest (.sendData request))
    (hsecure : registry.isSecure request.nodeId) : Encapsulated request.data := by
  cases command with
  | network network => cases h
  | node nodeId callbackId command => exact encapsulated_of_pushSendData h hsecure
  | sendData nodeId payload callbackId => exact encapsulated_of_pushSendData h hsecure
  | sendDataMulticast nodeIds payload callbackId =>
    unfold onCommand onSendDataMulticast at h
    dsimp only at h
    split_ifs at h
    cases h

/-- A multicast to a secure node is refused. -/
theorem onSendDataMulticast_secure {nodeIds payload : Bytes}
    (h : ∃ nodeId ∈ nodeIds, registry.isSecure nodeId) :
    onSendDataMulticast registry nodeIds payload callbackId =
      .sendDataCallback callbackId transmitCompleteFail := by
  obtain ⟨nodeId, hmem, hsecure⟩ := h
  have hsome : nodeIds.filter (registry.isSecure ·) ≠ [] :=
    List.ne_nil_of_mem (List.mem_filter.mpr ⟨hmem, hsecure⟩)
  unfold onSendDataMulticast
  by_cases hempty : nodeIds.isEmpty ∨ payload.isEmpty
  · rw [if_pos hempty]
  · rw [if_neg hempty]
    dsimp only
    rw [if_pos (by simpa using hsome)]

/-! ## What is diverted -/

/-- A frame of any other class is not an encapsulated one. -/
theorem not_encapsulated_cons {commandClass : UInt8} {rest : Bytes}
    (h : commandClass ≠ 0x98 ∧ commandClass ≠ 0x9F) : ¬ Encapsulated (commandClass :: rest) := by
  rintro (hnil | hfirst | hfirst)
  · cases hnil
  · exact h.1 hfirst
  · exact h.2 hfirst

/-- None of the commands is one of the security layer. A Configuration Set whose size there is not
has no payload. -/
theorem payload_class (command : NodeCommand) :
    command.payload = [] ∨ ¬ Encapsulated command.payload := by
  cases command with
  | setConfiguration parameter size isSigned value =>
    have hpayload : (NodeCommand.setConfiguration parameter size isSigned value).payload =
        Configuration.encodeSet parameter size value := rfl
    rw [hpayload, Configuration.encodeSet]
    split_ifs
    · exact Or.inr (not_encapsulated_cons (by decide))
    · exact Or.inl rfl
  | _ => exact Or.inr (not_encapsulated_cons (by decide))

/-- A command with a payload is encrypted for a secure node. -/
theorem onCommand_diverts {command : NodeCommand} (hpayload : command.payload ≠ [])
    (hsecure : registry.isSecure nodeId) :
    onCommand registry (.node nodeId callbackId command) =
      if (registry.securityScheme nodeId).IsS2 then
        .secureS2Send nodeId command.payload callbackId
      else .secureSend nodeId command.payload callbackId :=
  pushSendData_diverts ((payload_class command).resolve_left hpayload) hsecure

end Zwaved.Protocol
