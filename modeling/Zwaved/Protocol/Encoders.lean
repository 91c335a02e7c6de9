import Zwaved.Bytes

/-!
# The payloads of the command classes

Each module of `application/` makes the payloads of one command class: a byte for the class, one for
the command, and what the command carries. Where `InterfaceManifest.yml` says all there is to say,
the code generator writes the encoder; the others are written by hand, since they carry lists,
scaled values or inner frames.
-/

namespace Zwaved.Protocol

/-- A generated encoder: the class, the command and the bytes that follow. -/
def encode (commandClass command : UInt8) (payload : Bytes) : Bytes :=
  commandClass :: command :: payload

/-- The low `size` bytes of a word, the highest first. -/
def bigEndian (size : ℕ) (bits : UInt32) : Bytes :=
  (List.range size).map fun i => (bits >>> UInt32.ofNat ((size - 1 - i) * 8)).toUInt8

namespace BinarySwitch

/-- `COMMAND_CLASS`. -/
def commandClass : UInt8 := 0x25

/-- `encodeSet`. -/
def encodeSet (turnOn : Bool) : Bytes := encode commandClass 0x01 [if turnOn then 0xFF else 0x00]

/-- `encodeGet`. -/
def encodeGet : Bytes := encode commandClass 0x02 []

end BinarySwitch

namespace Indicator

/-- `COMMAND_CLASS`. -/
def commandClass : UInt8 := 0x87

/-- `encodeSet`. -/
def encodeSet (value : UInt8) : Bytes := encode commandClass 0x01 [value]

/-- `encodeGet`. -/
def encodeGet : Bytes := encode commandClass 0x02 []

end Indicator

namespace Basic

/-- `COMMAND_CLASS`. -/
def commandClass : UInt8 := 0x20

/-- `encodeSet`. -/
def encodeSet (value : UInt8) : Bytes := encode commandClass 0x01 [value]

/-- `encodeGet`. -/
def encodeGet : Bytes := encode commandClass 0x02 []

end Basic

namespace Supervision

/-- `COMMAND_CLASS`. -/
def commandClass : UInt8 := 0x6C

/-- `encodeGet`: the inner command, with its length in one byte. -/
def encodeGet (sessionId : UInt8) (requestUpdates : Bool) (innerCommand : Bytes) : Bytes :=
  let properties := (if requestUpdates then 0x80 else 0) ||| (sessionId &&& 0x3F)
  [commandClass, 0x01, properties, UInt8.ofNat innerCommand.length] ++ innerCommand

end Supervision

namespace MultiChannel

/-- `COMMAND_CLASS`. -/
def commandClass : UInt8 := 0x60

/-- `ENDPOINT_MASK`. -/
def endpointMask : UInt8 := 0x7F

/-- `encodeEncap`. -/
def encodeEncap (sourceEndpoint destinationEndpoint : UInt8) (innerCommand : Bytes) : Bytes :=
  [commandClass, 0x0D, sourceEndpoint &&& endpointMask, destinationEndpoint &&& endpointMask] ++
    innerCommand

/-- `encodeEndpointGet`. -/
def encodeEndpointGet : Bytes := [commandClass, 0x07]

/-- `encodeCapabilityGet`. -/
def encodeCapabilityGet (endpoint : UInt8) : Bytes :=
  [commandClass, 0x09, endpoint &&& endpointMask]

end MultiChannel

namespace MultilevelSwitch

/-- `COMMAND_CLASS`. -/
def commandClass : UInt8 := 0x26

/-- `encodeSet`. -/
def encodeSet (value duration : UInt8) : Bytes := encode commandClass 0x01 [value, duration]

/-- `encodeGet`. -/
def encodeGet : Bytes := encode commandClass 0x02 []

end MultilevelSwitch

namespace Battery

/-- `COMMAND_CLASS`. -/
def commandClass : UInt8 := 0x80

/-- `encodeGet`. -/
def encodeGet : Bytes := encode commandClass 0x02 []

end Battery

namespace SensorMultilevel

/-- `COMMAND_CLASS`. -/
def commandClass : UInt8 := 0x31

/-- `encodeGet`. -/
def encodeGet : Bytes := encode commandClass 0x04 []

end SensorMultilevel

namespace SensorBinary

/-- `COMMAND_CLASS`. -/
def commandClass : UInt8 := 0x30

/-- `encodeGet`. -/
def encodeGet : Bytes := encode commandClass 0x02 []

end SensorBinary

namespace Notification

/-- `COMMAND_CLASS`. -/
def commandClass : UInt8 := 0x71

/-- `encodeGet`: no alarm type of version one, and any event. -/
def encodeGet (notificationType : UInt8) : Bytes :=
  [commandClass, 0x04, 0x00, notificationType, 0x00]

end Notification

namespace Meter

/-- `COMMAND_CLASS`. -/
def commandClass : UInt8 := 0x32

/-- `encodeGet`. -/
def encodeGet (scale : UInt8) : Bytes := [commandClass, 0x01, (scale &&& 0x03) <<< 3]

end Meter

namespace ColorSwitch

/-- `COMMAND_CLASS`. -/
def commandClass : UInt8 := 0x33

/-- The loop of `encodeSet`: whole pairs only. -/
def pairs : Bytes → Bytes
  | componentId :: value :: components => componentId :: value :: pairs components
  | _ => []

/-- `encodeSet`. -/
def encodeSet (components : Bytes) (duration : UInt8) : Bytes :=
  [commandClass, 0x05, UInt8.ofNat (components.length / 2)] ++ pairs components ++ [duration]

/-- `encodeGet`. -/
def encodeGet (componentId : UInt8) : Bytes := [commandClass, 0x03, componentId]

end ColorSwitch

namespace DoorLock

/-- `COMMAND_CLASS`. -/
def commandClass : UInt8 := 0x62

/-- `encodeSet`. -/
def encodeSet (mode : UInt8) : Bytes := encode commandClass 0x01 [mode]

/-- `encodeGet`. -/
def encodeGet : Bytes := encode commandClass 0x02 []

end DoorLock

namespace UserCode

/-- `COMMAND_CLASS`. -/
def commandClass : UInt8 := 0x63

/-- `encodeSet`. -/
def encodeSet (userIdentifier userIdStatus : UInt8) (code : Bytes) : Bytes :=
  [commandClass, 0x01, userIdentifier, userIdStatus] ++ code

/-- `encodeGet`. -/
def encodeGet (userIdentifier : UInt8) : Bytes := encode commandClass 0x02 [userIdentifier]

/-- `encodeUsersNumberGet`. -/
def encodeUsersNumberGet : Bytes := encode commandClass 0x04 []

end UserCode

namespace EncodedValue

/-- `encode`: the smallest size that holds the value, the flags that say so, and the value. -/
def encode (precision scale : UInt8) (value : Int32) : Bytes :=
  let size : ℕ :=
    if -128 ≤ value ∧ value ≤ 127 then 1
    else if -32768 ≤ value ∧ value ≤ 32767 then 2
    else 4
  let flags := ((precision &&& 0x07) <<< 5) ||| ((scale &&& 0x03) <<< 3) ||| UInt8.ofNat size
  flags :: bigEndian size value.toUInt32

end EncodedValue

namespace ThermostatMode

/-- `COMMAND_CLASS`. -/
def commandClass : UInt8 := 0x40

/-- `encodeSet`. -/
def encodeSet (mode : UInt8) : Bytes := encode commandClass 0x01 [mode]

/-- `encodeGet`. -/
def encodeGet : Bytes := encode commandClass 0x02 []

end ThermostatMode

namespace ThermostatSetpoint

/-- `COMMAND_CLASS`. -/
def commandClass : UInt8 := 0x43

/-- `encodeSet`. -/
def encodeSet (setpointType precision scale : UInt8) (value : Int32) : Bytes :=
  [commandClass, 0x01, setpointType &&& 0x0F] ++ EncodedValue.encode precision scale value

/-- `encodeGet`. -/
def encodeGet (setpointType : UInt8) : Bytes := [commandClass, 0x02, setpointType &&& 0x0F]

end ThermostatSetpoint

namespace ThermostatOperatingState

/-- `COMMAND_CLASS`. -/
def commandClass : UInt8 := 0x42

/-- `encodeGet`. -/
def encodeGet : Bytes := encode commandClass 0x02 []

end ThermostatOperatingState

namespace ThermostatFanMode

/-- `COMMAND_CLASS`. -/
def commandClass : UInt8 := 0x44

/-- `encodeSet`. -/
def encodeSet (mode : UInt8) (off : Bool) : Bytes :=
  encode commandClass 0x01 [(if off then 0x80 else 0x00) ||| (mode &&& 0x0F)]

/-- `encodeGet`. -/
def encodeGet : Bytes := encode commandClass 0x02 []

end ThermostatFanMode

namespace ManufacturerSpecific

/-- `COMMAND_CLASS`. -/
def commandClass : UInt8 := 0x72

/-- `encodeGet`. -/
def encodeGet : Bytes := encode commandClass 0x04 []

end ManufacturerSpecific

namespace ZWavePlusInfo

/-- `COMMAND_CLASS`. -/
def commandClass : UInt8 := 0x5E

/-- `encodeGet`. -/
def encodeGet : Bytes := encode commandClass 0x01 []

end ZWavePlusInfo

namespace NodeVersion

/-- `COMMAND_CLASS`. -/
def commandClass : UInt8 := 0x86

/-- `encodeGet`. -/
def encodeGet : Bytes := encode commandClass 0x11 []

end NodeVersion

namespace WakeUp

/-- `COMMAND_CLASS`. -/
def commandClass : UInt8 := 0x84

/-- `encodeIntervalSet`: an interval that does not fit in three bytes is the longest that does. -/
def encodeIntervalSet (seconds : UInt32) (controllerNodeId : NodeId) : Bytes :=
  [commandClass, 0x04] ++ bigEndian 3 (min seconds 0x00FFFFFF) ++ [controllerNodeId]

/-- `encodeGet`. -/
def encodeGet : Bytes := encode commandClass 0x05 []

/-- `encodeNoMoreInformation`. -/
def encodeNoMoreInformation : Bytes := encode commandClass 0x08 []

end WakeUp

namespace Configuration

/-- `COMMAND_CLASS`. -/
def commandClass : UInt8 := 0x70

/-- `encodeSet`: nothing at all for a size that there is not. -/
def encodeSet (parameter size : UInt8) (value : Int32) : Bytes :=
  if size = 1 ∨ size = 2 ∨ size = 4 then
    [commandClass, 0x04, parameter, size] ++ bigEndian size.toNat value.toUInt32
  else []

/-- `encodeGet`. -/
def encodeGet (parameter : UInt8) : Bytes := [commandClass, 0x05, parameter]

end Configuration

namespace Association

/-- `COMMAND_CLASS`. -/
def commandClass : UInt8 := 0x85

/-- `encodeMemberList`. -/
def encodeMemberList (command groupId : UInt8) (members : Bytes) : Bytes :=
  [commandClass, command, groupId] ++ members

/-- `encodeSet`. -/
def encodeSet (groupId : UInt8) (members : Bytes) : Bytes := encodeMemberList 0x01 groupId members

/-- `encodeRemove`. -/
def encodeRemove (groupId : UInt8) (members : Bytes) : Bytes :=
  encodeMemberList 0x04 groupId members

/-- `encodeGet`. -/
def encodeGet (groupId : UInt8) : Bytes := [commandClass, 0x02, groupId]

/-- `encodeGroupingsGet`. -/
def encodeGroupingsGet : Bytes := [commandClass, 0x05]

end Association

/-- `EndpointMember`. -/
structure EndpointMember where
  /-- `nodeId`. -/
  nodeId : NodeId
  /-- `endpoint`. -/
  endpoint : UInt8
  deriving DecidableEq, Repr

namespace MultichannelAssociation

/-- `COMMAND_CLASS`. -/
def commandClass : UInt8 := 0x8E

/-- `encodeMembers`: the nodes, and after a marker the endpoints. -/
def encodeMembers (command groupId : UInt8) (nodeMembers : Bytes)
    (endpointMembers : List EndpointMember) (emitMarker : Bool) : Bytes :=
  [commandClass, command, groupId] ++ nodeMembers ++
    if emitMarker then
      0x00 :: endpointMembers.flatMap fun member => [member.nodeId, member.endpoint]
    else []

/-- `encodeSet`. -/
def encodeSet (groupId : UInt8) (nodeMembers : Bytes) (endpointMembers : List EndpointMember) :
    Bytes := encodeMembers 0x01 groupId nodeMembers endpointMembers true

/-- `encodeRemove`: without members and marker, all are removed. -/
def encodeRemove (groupId : UInt8) (nodeMembers : Bytes) (endpointMembers : List EndpointMember) :
    Bytes :=
  let removeAll := nodeMembers.isEmpty && endpointMembers.isEmpty
  encodeMembers 0x04 groupId nodeMembers endpointMembers !removeAll

/-- `encodeGet`. -/
def encodeGet (groupId : UInt8) : Bytes := [commandClass, 0x02, groupId]

/-- `encodeGroupingsGet`. -/
def encodeGroupingsGet : Bytes := [commandClass, 0x05]

end MultichannelAssociation

end Zwaved.Protocol
