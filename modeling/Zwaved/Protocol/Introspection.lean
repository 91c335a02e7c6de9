import Zwaved.Protocol.HostApi
import Zwaved.Reactive.Run

/-!
# The introspection of the dongle

`introspectDongle` in `ProtocolThread.cpp`, with the decoders of `HostApi.cpp` that it uses: before
the daemon runs, it asks the dongle for its version, for its identity and for the nodes of the
network, and then for the protocol information of each node.

An answer of the dongle says which command it answers, and nothing more: the answers to
`GET_NODE_PROTOCOL_INFO` do not name their node. The introspection sends such a request, empties the
slot, and takes what the slot holds when it stops waiting to be the answer. `attributed_iff` says
when that is right: whenever the last answer to come in for a node is the one to the node's own
request, or could be. Nothing ensures it (`not_attributed`): the slot is emptied, but an answer that
is still on its way fills it again. It is right as long as no turn leaves a request behind whose
answer is still to come (`attributed_of_settled`).

What the port does is an input, as in `FrameTransport`: which answers come in, and during which
wait.
-/

namespace Zwaved.Protocol

open Serial Reactive

namespace HostApi

/-! ## What the dongle says of itself -/

/-- `CMD_SERIAL_API_GET_INIT_DATA`. -/
def cmdSerialApiGetInitData : UInt8 := 0x02

/-- `CMD_GET_VERSION`. -/
def cmdGetVersion : UInt8 := 0x15

/-- `CMD_MEMORY_GET_ID`. -/
def cmdMemoryGetId : UInt8 := 0x20

/-- `CMD_GET_NODE_PROTOCOL_INFO`. -/
def cmdGetNodeProtocolInfo : UInt8 := 0x41

/-- `encodeGetNodeProtocolInfo`. -/
def encodeGetNodeProtocolInfo (nodeId : NodeId) : ZwaveDataFrame :=
  requestFrame cmdGetNodeProtocolInfo [nodeId]

/-- A decoder of the responses to one command, which reads their payload. -/
def decodeResponse {α : Type} (commandId : UInt8) (read : Bytes → Option α)
    (frame : ZwaveDataFrame) : Option α :=
  if frame.valid = false ∨ frame.commandId ≠ commandId ∨ frame.frameType ≠ .response then none
  else read frame.payload

/-- `VersionResponse`. -/
structure VersionResponse where
  /-- `version`. -/
  version : Bytes
  /-- `libraryType`. -/
  libraryType : UInt8
  deriving DecidableEq, Repr

/-- `VERSION_STRING_LEN`. -/
def versionStringLen : ℕ := 12

/-- `decodeVersion`: the string ends at its first zero. -/
def decodeVersion : ZwaveDataFrame → Option VersionResponse :=
  decodeResponse cmdGetVersion fun payload =>
  if payload.length < versionStringLen + 1 then none
  else some
    { version := (payload.take versionStringLen).takeWhile (· ≠ 0)
      libraryType := payload.byte versionStringLen }

/-- `MemoryIdResponse`. -/
structure MemoryIdResponse where
  /-- `homeId`. -/
  homeId : Bytes
  /-- `controllerNodeId`. -/
  controllerNodeId : NodeId
  deriving DecidableEq, Repr

/-- `HOMEID_LEN`. -/
def homeIdLen : ℕ := 4

/-- `decodeMemoryId`. -/
def decodeMemoryId : ZwaveDataFrame → Option MemoryIdResponse :=
  decodeResponse cmdMemoryGetId fun payload =>
  if payload.length < homeIdLen + 1 then none
  else some { homeId := payload.take homeIdLen, controllerNodeId := payload.byte homeIdLen }

/-- `InitDataResponse`. -/
structure InitDataResponse where
  /-- `serialApiVersion`. -/
  serialApiVersion : UInt8
  /-- `capabilities`. -/
  capabilities : UInt8
  /-- `chipType`. -/
  chipType : UInt8
  /-- `chipVersion`. -/
  chipVersion : UInt8
  /-- `nodeIds`. -/
  nodeIds : List NodeId
  deriving DecidableEq, Repr

/-- `INIT_DATA_HEADER`. -/
def initDataHeader : ℕ := 3

/-- `INIT_DATA_TRAILER`. -/
def initDataTrailer : ℕ := 2

/-- `BITS_PER_BYTE`. -/
def bitsPerByte : ℕ := 8

/-- `MAX_VALID_NODE_ID`. -/
def maxValidNodeId : ℕ := 232

/-- The nodes of a bitmap, whose first bit is node 1. -/
def bitmapNodeIds (bitmap : Bytes) : List NodeId :=
  bitmap.zipIdx.flatMap fun (bits, byteIdx) =>
    (List.range bitsPerByte).filterMap fun bit =>
      let nodeId := byteIdx * bitsPerByte + bit + 1
      if bits &&& 1 <<< UInt8.ofNat bit = 0 then none
      else if nodeId ≤ maxValidNodeId then some (UInt8.ofNat nodeId)
      else none

/-- `decodeInitData`. -/
def decodeInitData : ZwaveDataFrame → Option InitDataResponse :=
  decodeResponse cmdSerialApiGetInitData fun payload =>
  if payload.length < initDataHeader then none
  else
    let bitmapLen := (payload.byte 2).toNat
    if payload.length < initDataHeader + bitmapLen + initDataTrailer then none
    else some
      { serialApiVersion := payload.byte 0
        capabilities := payload.byte 1
        chipType := payload.byte (initDataHeader + bitmapLen)
        chipVersion := payload.byte (initDataHeader + bitmapLen + 1)
        nodeIds := bitmapNodeIds (payload.subspan initDataHeader bitmapLen) }

/-- `NodeProtocolInfoResponse`. -/
structure NodeProtocolInfoResponse where
  /-- `capabilities`. -/
  capabilities : UInt8
  /-- `security`. -/
  security : UInt8
  /-- `reserved`. -/
  reserved : UInt8
  /-- `basicDeviceType`. -/
  basicDeviceType : UInt8
  /-- `genericDeviceType`. -/
  genericDeviceType : UInt8
  /-- `specificDeviceType`. -/
  specificDeviceType : UInt8
  deriving DecidableEq, Repr

/-- `NPI_PAYLOAD_BYTES`. -/
def npiPayloadBytes : ℕ := 6

/-- `decodeNodeProtocolInfo`. -/
def decodeNodeProtocolInfo : ZwaveDataFrame → Option NodeProtocolInfoResponse :=
  decodeResponse cmdGetNodeProtocolInfo fun payload =>
  if payload.length < npiPayloadBytes then none
  else some
    { capabilities := payload.byte 0
      security := payload.byte 1
      reserved := payload.byte 2
      basicDeviceType := payload.byte 3
      genericDeviceType := payload.byte 4
      specificDeviceType := payload.byte 5 }

/-- The device types are all zero: the controller knows nothing of the node. -/
def NodeProtocolInfoResponse.isBlank (info : NodeProtocolInfoResponse) : Bool :=
  info.basicDeviceType = 0 ∧ info.genericDeviceType = 0 ∧ info.specificDeviceType = 0

variable {frame : ZwaveDataFrame}

/-- A decoder of the responses to a command takes no other frame. -/
theorem commandId_of_decodeResponse {α : Type} {commandId : UInt8} {read : Bytes → Option α}
    (h : (decodeResponse commandId read frame).isSome) : frame.commandId = commandId := by
  unfold decodeResponse at h
  split at h
  · cases h
  · rename_i hasks
    simp only [not_or, ne_eq, not_not] at hasks
    exact hasks.2.1

/-- A frame that is a request decodes as no response. -/
theorem decodeResponse_request {α : Type} {commandId : UInt8} {read : Bytes → Option α}
    (h : frame.frameType = .request) : decodeResponse commandId read frame = none := by
  unfold decodeResponse
  rw [if_pos]
  rw [h]
  exact .inr (.inr FrameType.noConfusion)

/-- A frame that decodes as the response to one command decodes as none to another. -/
theorem decodeResponse_eq_none {α β : Type} {commandId commandId' : UInt8}
    {read : Bytes → Option α} {read' : Bytes → Option β}
    (h : (decodeResponse commandId read frame).isSome) (hne : commandId ≠ commandId') :
    decodeResponse commandId' read' frame = none := by
  unfold decodeResponse
  rw [if_pos]
  rw [commandId_of_decodeResponse h]
  exact .inr (.inl hne)

end HostApi

namespace Introspection

open HostApi

/-! ## The slots -/

/-- What the handler of the introspection has captured. -/
structure Slots where
  /-- `version`. -/
  version : Option VersionResponse := none
  /-- `identity`. -/
  identity : Option MemoryIdResponse := none
  /-- `initData`. -/
  initData : Option InitDataResponse := none
  /-- `nodeProtocolInfo`. -/
  nodeProtocolInfo : Option NodeProtocolInfoResponse := none
  deriving DecidableEq, Repr

/-- The handler of the introspection. -/
def Slots.onFrame (slots : Slots) (frame : ZwaveDataFrame) : Slots :=
  if let some response := decodeVersion frame then { slots with version := some response }
  else if let some response := decodeMemoryId frame then { slots with identity := some response }
  else if let some response := decodeInitData frame then { slots with initData := some response }
  else if let some response := decodeNodeProtocolInfo frame then
    { slots with nodeProtocolInfo := some response }
  else slots

/-- No decoder before it takes a frame that says what a node is. -/
theorem Slots.onFrame_nodeProtocolInfo (slots : Slots) (frame : ZwaveDataFrame) :
    (slots.onFrame frame).nodeProtocolInfo =
      (decodeNodeProtocolInfo frame).or slots.nodeProtocolInfo := by
  by_cases hinfo : (decodeNodeProtocolInfo frame).isSome
  · have hversion : decodeVersion frame = none := decodeResponse_eq_none hinfo (by decide)
    have hidentity : decodeMemoryId frame = none := decodeResponse_eq_none hinfo (by decide)
    have hinitData : decodeInitData frame = none := decodeResponse_eq_none hinfo (by decide)
    obtain ⟨info, hinfo⟩ := Option.isSome_iff_exists.mp hinfo
    simp only [onFrame, hversion, hidentity, hinitData, hinfo, Option.some_or]
  · have hnone : decodeNodeProtocolInfo frame = none := by simpa using hinfo
    rw [hnone, Option.none_or, onFrame]
    split
    · rfl
    · split
      · rfl
      · split
        · rfl
        · simp only [hnone]

/-! ## The link -/

/-- The dongle answers a request with a frame of the same command. -/
structure Dongle where
  /-- The answer to a request. -/
  answer : ZwaveDataFrame → ZwaveDataFrame
  /-- An answer is to the command that was asked. -/
  commandId_answer (request : ZwaveDataFrame) : (answer request).commandId = request.commandId

/-- What comes in over the link. -/
inductive Arrival
  /-- The next answer of the dongle comes in and is handled. -/
  | answer
  /-- The next answer is lost: the transport drops a frame that it cannot parse, and what it reads
  behind the ACK of a request. -/
  | lost
  /-- A frame that answers nothing. -/
  | unsolicited (frame : ZwaveDataFrame) (request : frame.frameType = .request)

/-- What happens on the link. -/
inductive Event
  /-- The dongle takes a request. -/
  | accepted (request : ZwaveDataFrame)
  /-- Something comes in. -/
  | arrival (arrival : Arrival)

/-- The slots, and the requests that the dongle has taken and whose answers are still on their
way. -/
structure Link where
  /-- The slots. -/
  slots : Slots := {}
  /-- The requests, oldest first. The dongle answers them in order. -/
  outstanding : List ZwaveDataFrame := []
  deriving DecidableEq, Repr

/-- One event of the link, with the request whose answer it brings in. -/
def Dongle.event (dongle : Dongle) (link : Link) : Event → Link × List ZwaveDataFrame
  | .accepted request => ({ link with outstanding := link.outstanding ++ [request] }, [])
  | .arrival .answer =>
    match link.outstanding with
    | [] => (link, [])
    | request :: rest =>
      ({ slots := link.slots.onFrame (dongle.answer request), outstanding := rest }, [request])
  | .arrival .lost => ({ link with outstanding := link.outstanding.tail }, [])
  | .arrival (.unsolicited frame _) => ({ link with slots := link.slots.onFrame frame }, [])

/-- What the port does while a request is sent and its answer awaited. -/
structure Exchange where
  /-- What comes in while `sendRequest` waits for the ACK, before the dongle takes the request. -/
  before : List Arrival := []
  /-- Whether the dongle takes the request. -/
  accepted : Bool := true
  /-- What comes in after that, still before the ACK. -/
  meanwhile : List Arrival := []
  /-- Whether the ACK comes. -/
  sent : Bool := true
  /-- What each call of `pumpOnce` brings in, until the deadline passes. -/
  pumps : List (List Arrival) := []

/-- The events while a request is sent. -/
def Exchange.events (exchange : Exchange) (request : ZwaveDataFrame) : List Event :=
  exchange.before.map .arrival ++ (if exchange.accepted then [.accepted request] else []) ++
    exchange.meanwhile.map .arrival

/-- The request of `sendAndAwait`, which is only a command. -/
def bareRequest (commandId : UInt8) : ZwaveDataFrame :=
  ({} : ZwaveDataFrame).setHeader .request commandId

section Dongle

variable (dongle : Dongle)

/-- `transport.sendRequest`. -/
def sendRequest (link : Link) (request : ZwaveDataFrame) (exchange : Exchange) : Link × Bool :=
  (exec dongle.event link (exchange.events request), exchange.sent)

/-- The loop that pumps until the slot is filled or the deadline passes. -/
def await (filled : Slots → Bool) : Link → List (List Arrival) → Link
  | link, [] => link
  | link, pump :: pumps =>
    if filled link.slots then link
    else await filled (exec dongle.event link (pump.map .arrival)) pumps

/-- `sendAndAwait`, for the slot that `filled` looks at. -/
def sendAndAwait (commandId : UInt8) (filled : Slots → Bool) (link : Link) (exchange : Exchange) :
    Link × Bool :=
  match sendRequest dongle link (bareRequest commandId) exchange with
  | (link, false) => (link, false)
  | (link, true) =>
    let link := await dongle filled link exchange.pumps
    (link, filled link.slots)

/-- The slot of the nodes is emptied. -/
def Link.reset (link : Link) : Link :=
  { link with slots := { link.slots with nodeProtocolInfo := none } }

/-- `fetchNodeProtocolInfo`. -/
def fetchNodeProtocolInfo (link : Link) (nodeId : NodeId) (exchange : Exchange) :
    Link × Option NodeProtocolInfoResponse :=
  match sendRequest dongle link.reset (encodeGetNodeProtocolInfo nodeId) exchange with
  | (link, false) => (link, none)
  | (link, true) =>
    let link := await dongle (·.nodeProtocolInfo.isSome) link exchange.pumps
    (link, link.slots.nodeProtocolInfo)

/-- The identity names the node as the controller itself. -/
def Link.isController (link : Link) (nodeId : NodeId) : Bool :=
  link.slots.identity.map (·.controllerNodeId) == some nodeId

/-- The turn of a node in the loop of `introspectDongle`, with what it adds to the result. -/
def visit (link : Link) : NodeId × Exchange → Link × List (NodeId × NodeProtocolInfoResponse)
  | (nodeId, exchange) =>
    if link.isController nodeId then (link, [])
    else
      match fetchNodeProtocolInfo dongle link nodeId exchange with
      | (link, none) => (link, [])
      | (link, some info) => (link, if info.isBlank then [] else [(nodeId, info)])

end Dongle

/-! ## The introspection -/

/-- `DaemonError`. -/
structure DaemonError where
  /-- `severity`. -/
  severity : UInt8
  /-- `source`. -/
  source : String
  /-- `code`. -/
  code : UInt8
  /-- `message`. -/
  message : String
  deriving DecidableEq, Repr

/-- `SEVERITY_ERROR`. -/
def severityError : UInt8 := 3

/-- `CODE_DONGLE_INTROSPECTION_FAILED`. -/
def codeDongleIntrospectionFailed : UInt8 := 0x11

/-- The error that a failed introspection publishes. -/
def introspectionFailed (message : String) : DaemonError where
  severity := severityError
  source := "zwave-protocol"
  code := codeDongleIntrospectionFailed
  message := message

/-- `DongleInfo`. -/
structure DongleInfo where
  /-- `libraryVersion`. -/
  libraryVersion : Bytes
  /-- `libraryType`. -/
  libraryType : UInt8
  /-- `homeId`. -/
  homeId : Bytes
  /-- `controllerNodeId`. -/
  controllerNodeId : NodeId
  deriving DecidableEq, Repr

/-- `IntrospectionResult`. The `InitData` of the bus has the fields of the response. -/
structure IntrospectionResult where
  /-- `dongleInfo`. -/
  dongleInfo : Option DongleInfo := none
  /-- `initData`. -/
  initData : Option InitDataResponse := none
  /-- `nodeProtocolInfo`. -/
  nodeProtocolInfo : List (NodeId × NodeProtocolInfoResponse) := []
  deriving DecidableEq, Repr

/-- What the port does during an introspection. -/
structure Schedule where
  /-- While the version is asked for. -/
  version : Exchange
  /-- While the identity is asked for. -/
  identity : Exchange
  /-- While the nodes of the network are asked for. -/
  initData : Exchange
  /-- While the node at a place of the bitmap is asked for. -/
  node : ℕ → Exchange

/-- The inputs of the loop over the nodes. -/
def Schedule.turns (schedule : Schedule) (nodeIds : List NodeId) : List (NodeId × Exchange) :=
  nodeIds.mapIdx fun index nodeId => (nodeId, schedule.node index)

section Introspect

variable (dongle : Dongle) (schedule : Schedule)

/-- `introspectDongle`, up to the nodes. Only the first two requests have to be answered. -/
def introduce : Except DaemonError Link :=
  match sendAndAwait dongle cmdGetVersion (·.version.isSome) {} schedule.version with
  | (_, false) => .error (introspectionFailed "GET_VERSION introspection failed")
  | (link, true) =>
    match sendAndAwait dongle cmdMemoryGetId (·.identity.isSome) link schedule.identity with
    | (_, false) => .error (introspectionFailed "MEMORY_GET_ID introspection failed")
    | (link, true) =>
      .ok (sendAndAwait dongle cmdSerialApiGetInitData (·.initData.isSome) link
        schedule.initData).1

/-- `introspectDongle`: the result, and the errors that are published. -/
def introspectDongle : IntrospectionResult × List DaemonError :=
  match introduce dongle schedule with
  | .error error => ({}, [error])
  | .ok link =>
    match link.slots.version, link.slots.identity with
    | some version, some identity =>
      ({ dongleInfo := some
          { libraryVersion := version.version
            libraryType := version.libraryType
            homeId := identity.homeId
            controllerNodeId := identity.controllerNodeId }
         initData := link.slots.initData
         nodeProtocolInfo :=
          match link.slots.initData with
          | none => []
          | some initData => emitted (visit dongle) link (schedule.turns initData.nodeIds) }, [])
    | _, _ => ({}, [])

/-- The turns of the nodes, each with the link that it starts from. -/
def turns : List (Taken Link (NodeId × Exchange)) :=
  match introduce dongle schedule with
  | .error _ => []
  | .ok link =>
    match link.slots.version, link.slots.identity, link.slots.initData with
    | some _, some _, some initData =>
      trace (visit dongle) link (schedule.turns initData.nodeIds)
    | _, _, _ => []

end Introspect

/-! ## Which answers a turn takes -/

/-- What the dongle answers a request for a node with. -/
def Dongle.info (dongle : Dongle) (request : ZwaveDataFrame) : Option NodeProtocolInfoResponse :=
  decodeNodeProtocolInfo (dongle.answer request)

/-- Of the requests that are answered, the last whose answer says what a node is. -/
def Dongle.filler (dongle : Dongle) (requests : List ZwaveDataFrame) : Option ZwaveDataFrame :=
  (requests.filter fun request => (dongle.info request).isSome).getLast?

section Turns

variable (dongle : Dongle)

/-- What comes in while the loop of `await` pumps. -/
def pumped (filled : Slots → Bool) : Link → List (List Arrival) → List Event
  | _, [] => []
  | link, pump :: pumps =>
    if filled link.slots then []
    else pump.map .arrival ++ pumped filled (exec dongle.event link (pump.map .arrival)) pumps

/-- The loop of `await` runs what it pumps, by induction on the pumps. -/
theorem await_eq_exec (filled : Slots → Bool) (link : Link) (pumps : List (List Arrival)) :
    await dongle filled link pumps = exec dongle.event link (pumped dongle filled link pumps) := by
  induction pumps generalizing link with
  | nil => rfl
  | cons pump pumps ih =>
    unfold await pumped
    split
    · rfl
    · rw [exec_append, ih]

/-- The events of the turn of a node. -/
def fetchEvents (link : Link) (nodeId : NodeId) (exchange : Exchange) : List Event :=
  let events := exchange.events (encodeGetNodeProtocolInfo nodeId)
  events ++ pumped dongle (·.nodeProtocolInfo.isSome) (exec dongle.event link.reset events)
    exchange.pumps

/-- The requests whose answers come in during the turn of a node. -/
def heard (link : Link) (nodeId : NodeId) (exchange : Exchange) : List ZwaveDataFrame :=
  emitted dongle.event link.reset (fetchEvents dongle link nodeId exchange)

/-- Of two lists of answered requests the filler is that of the second, unless no answer there says
what a node is. -/
theorem filler_append (requests requests' : List ZwaveDataFrame) :
    dongle.filler (requests ++ requests') =
      (dongle.filler requests').or (dongle.filler requests) := by
  unfold Dongle.filler
  rw [List.filter_append, List.getLast?_append]

/-- The answer to the filler says what a node is. -/
theorem isSome_info_filler {requests : List ZwaveDataFrame} {request : ZwaveDataFrame}
    (h : dongle.filler requests = some request) : (dongle.info request).isSome :=
  (List.mem_filter.mp (List.mem_of_getLast? h)).2

/-- The filler is one of the requests. -/
theorem mem_of_filler {requests : List ZwaveDataFrame} {request : ZwaveDataFrame}
    (h : dongle.filler requests = some request) : request ∈ requests :=
  (List.mem_filter.mp (List.mem_of_getLast? h)).1

/-- A single answered request leaves what its own answer says of a node. -/
theorem filler_singleton (request : ZwaveDataFrame) :
    (dongle.filler [request]).bind dongle.info = dongle.info request := by
  unfold Dongle.filler
  cases hinfo : dongle.info request with
  | none => simp [hinfo]
  | some info => simp [hinfo]

/-- One event fills the slot of the nodes with the answer that it brings in, if that is one. -/
theorem nodeProtocolInfo_event (link : Link) (event : Event) :
    (dongle.event link event).1.slots.nodeProtocolInfo =
      ((dongle.filler (dongle.event link event).2).bind dongle.info).or
        link.slots.nodeProtocolInfo := by
  cases event with
  | accepted request => rfl
  | arrival arrival =>
    cases arrival with
    -- An answer is handed to the handlers, which fill the slot if it has the information.
    | answer =>
      unfold Dongle.event
      cases link.outstanding with
      | nil => rfl
      | cons request rest =>
        dsimp only
        rw [Slots.onFrame_nodeProtocolInfo, filler_singleton]
        rfl
    | lost => rfl
    -- A frame that no one asked for is a request, which fills no slot of an answer.
    | unsolicited frame request =>
      unfold Dongle.event
      dsimp only
      have hnone : decodeNodeProtocolInfo frame = none := decodeResponse_request request
      rw [Slots.onFrame_nodeProtocolInfo, hnone]
      rfl

/-- The slot of the nodes holds the last answer that came in for a node. -/
theorem nodeProtocolInfo_exec (link : Link) (events : List Event) :
    (exec dongle.event link events).slots.nodeProtocolInfo =
      ((dongle.filler (emitted dongle.event link events)).bind dongle.info).or
        link.slots.nodeProtocolInfo := by
  induction events generalizing link with
  | nil => rfl
  | cons event events ih =>
    rw [exec_cons, ih, nodeProtocolInfo_event, emitted, filler_append]
    cases hfiller : dongle.filler (emitted dongle.event (dongle.event link event).1 events) with
    | none => rfl
    | some request =>
      -- An answer that fills the slot hides all that came before it.
      obtain ⟨info, hinfo⟩ := Option.isSome_iff_exists.mp (isSome_info_filler dongle hfiller)
      simp only [Option.bind_some, hinfo, Option.some_or]

/-- What a turn fetches is the last answer that came in for a node. -/
theorem fetchNodeProtocolInfo_eq (link : Link) (nodeId : NodeId) {exchange : Exchange}
    (hsent : exchange.sent = true) :
    (fetchNodeProtocolInfo dongle link nodeId exchange).2 =
      (dongle.filler (heard dongle link nodeId exchange)).bind dongle.info := by
  simp only [fetchNodeProtocolInfo, sendRequest, hsent, await_eq_exec, ← exec_append]
  rw [nodeProtocolInfo_exec]
  exact Option.or_none

/-- The answer to a request can stand for the answer to the node's own: they are the same, or it is
blank and the turn drops it. -/
def Harmless (nodeId : NodeId) (request : ZwaveDataFrame) : Prop :=
  dongle.info request = dongle.info (encodeGetNodeProtocolInfo nodeId) ∨
    ∃ info, dongle.info request = some info ∧ info.isBlank

/-- A turn is on time: the last answer that comes in for a node while this one is asked for is the
answer to its own request, or can stand for it. -/
def OnTime (link : Link) : NodeId × Exchange → Prop
  | (nodeId, exchange) =>
    link.isController nodeId = false → exchange.sent = true →
      ∀ request, dongle.filler (heard dongle link nodeId exchange) = some request →
        request = encodeGetNodeProtocolInfo nodeId ∨ Harmless dongle nodeId request

/-- A turn adds what it fetches, unless that is blank. -/
theorem visit_added (link : Link) (nodeId : NodeId) (exchange : Exchange) :
    (visit dongle link (nodeId, exchange)).2 =
      if link.isController nodeId = false ∧ exchange.sent = true then
        (((dongle.filler (heard dongle link nodeId exchange)).bind dongle.info).toList.filter
          fun info => !info.isBlank).map fun info => (nodeId, info)
      else [] := by
  unfold visit
  dsimp only
  cases hcontroller : link.isController nodeId with
  | true => rfl
  | false =>
    cases hsent : exchange.sent with
    | false => simp [fetchNodeProtocolInfo, sendRequest, hsent]
    | true =>
      rw [← fetchNodeProtocolInfo_eq dongle link nodeId hsent, if_neg Bool.false_ne_true,
        if_pos ⟨rfl, rfl⟩]
      rcases fetchNodeProtocolInfo dongle link nodeId exchange with ⟨link', _ | info⟩
      · rfl
      · cases hblank : info.isBlank with
        | true => simp [hblank]
        | false => simp [hblank]

/-- A turn adds an entry exactly when its request is sent to a node other than the controller and
the last answer that came in meanwhile says something of a node: it is entered for this one. -/
theorem mem_visit_iff (link : Link) (nodeId : NodeId) (exchange : Exchange)
    (entry : NodeId × NodeProtocolInfoResponse) :
    entry ∈ (visit dongle link (nodeId, exchange)).2 ↔
      link.isController nodeId = false ∧ exchange.sent = true ∧ entry.1 = nodeId ∧
        entry.2.isBlank = false ∧
        ∃ request, dongle.filler (heard dongle link nodeId exchange) = some request ∧
          dongle.info request = some entry.2 := by
  rw [visit_added, ← Option.bind_eq_some_iff]
  split
  · rename_i hturn
    simp only [List.mem_map, List.mem_filter, Option.mem_toList,
      Bool.not_eq_true', hturn, true_and]
    constructor
    · rintro ⟨info, ⟨hfetched, hblank⟩, rfl⟩
      exact ⟨rfl, hblank, hfetched⟩
    · rintro ⟨rfl, hblank, hfetched⟩
      exact ⟨entry.2, ⟨hfetched, hblank⟩, rfl⟩
  · rename_i hturn
    refine iff_of_false List.not_mem_nil ?_
    rintro ⟨hcontroller, hsent, -⟩
    exact hturn ⟨hcontroller, hsent⟩

/-- A turn adds only what the dongle answers for its node exactly when it is on time. -/
theorem attributed_visit_iff (link : Link) (turn : NodeId × Exchange) :
    (∀ entry ∈ (visit dongle link turn).2,
      dongle.info (encodeGetNodeProtocolInfo entry.1) = some entry.2) ↔
      OnTime dongle link turn := by
  obtain ⟨nodeId, exchange⟩ := turn
  constructor
  -- What filled the slot came in during the wait. An entry is made of it unless it is blank, and
  -- then it is the node's own.
  · intro hattributed hcontroller hsent request hfiller
    refine .inr ?_
    obtain ⟨info, hinfo⟩ := Option.isSome_iff_exists.mp (isSome_info_filler dongle hfiller)
    cases hblank : info.isBlank with
    | true => exact .inr ⟨info, hinfo, hblank⟩
    | false =>
      have hown := hattributed (nodeId, info)
        ((mem_visit_iff dongle link nodeId exchange _).mpr
          ⟨hcontroller, hsent, rfl, hblank, request, hfiller, hinfo⟩)
      exact .inl (hinfo.trans hown.symm)
  -- An entry has been made, so the slot was filled, by the node's own answer or by one that says
  -- the same.
  · rintro honTime ⟨_, info⟩ hentry
    obtain ⟨hcontroller, hsent, rfl, hblank, request, hfiller, hinfo⟩ :=
      (mem_visit_iff dongle link nodeId exchange _).mp hentry
    rcases honTime hcontroller hsent request hfiller with rfl | hsame | ⟨info', hinfo', hblank'⟩
    · exact hinfo
    · exact hsame.symm.trans hinfo
    · obtain rfl := Option.some.inj (hinfo'.symm.trans hinfo)
      exact absurd hblank' (by rw [hblank]; exact Bool.false_ne_true)

end Turns

section Attribution

variable (dongle : Dongle) (schedule : Schedule)

/-- The entries of the result are what the turns add. -/
theorem mem_nodeProtocolInfo_iff (entry : NodeId × NodeProtocolInfoResponse) :
    entry ∈ (introspectDongle dongle schedule).1.nodeProtocolInfo ↔
      ∃ turn ∈ turns dongle schedule, entry ∈ (visit dongle turn.before turn.input).2 := by
  unfold introspectDongle turns
  cases introduce dongle schedule with
  | error error => simp
  | ok link =>
    dsimp only
    cases link.slots.version with
    | none => simp
    | some version =>
      cases link.slots.identity with
      | none => simp
      | some identity =>
        cases link.slots.initData with
        | none => simp
        | some initData => exact mem_emitted_iff _ _ _ _

/-- Every entry of the result holds what the dongle answers for its node. -/
def Attributed : Prop :=
  ∀ entry ∈ (introspectDongle dongle schedule).1.nodeProtocolInfo,
    dongle.info (encodeGetNodeProtocolInfo entry.1) = some entry.2

/-- If every turn is on time, every entry of the result holds the dongle's answer for its own
node. -/
theorem attributed_of_onTime
    (h : ∀ turn ∈ turns dongle schedule, OnTime dongle turn.before turn.input) :
    Attributed dongle schedule := by
  intro entry hentry
  obtain ⟨turn, hturn, hentry⟩ := (mem_nodeProtocolInfo_iff dongle schedule entry).mp hentry
  exact (attributed_visit_iff dongle turn.before turn.input).mpr (h turn hturn) entry hentry

/-- Every entry of the result holds what the dongle answers for its node exactly when every turn is
on time. -/
theorem attributed_iff :
    Attributed dongle schedule ↔
      ∀ turn ∈ turns dongle schedule, OnTime dongle turn.before turn.input := by
  constructor
  · intro hattributed turn hturn
    refine (attributed_visit_iff dongle turn.before turn.input).mp fun entry hentry => ?_
    exact hattributed entry ((mem_nodeProtocolInfo_iff dongle schedule entry).mpr
      ⟨turn, hturn, hentry⟩)
  · exact attributed_of_onTime dongle schedule

instance : Decidable (Attributed dongle schedule) :=
  inferInstanceAs (Decidable (∀ entry ∈ (introspectDongle dongle schedule).1.nodeProtocolInfo,
    dongle.info (encodeGetNodeProtocolInfo entry.1) = some entry.2))

end Attribution

/-- A dongle with the nodes 1 to 4, of which 1 is the dongle itself. The generic type of a node is
its number. -/
def sampleDongle : Dongle where
  answer request :=
    { frameType := .response
      commandId := request.commandId
      payload :=
        if request.commandId = cmdGetVersion then
          [0x5A, 0x2D, 0x57, 0x61, 0x76, 0x65, 0x20, 0x36, 0x2E, 0x30, 0x37, 0, 1]
        else if request.commandId = cmdMemoryGetId then [0xC0, 0xFF, 0xEE, 0x01, 1]
        else if request.commandId = cmdSerialApiGetInitData then [5, 8, 1, 0x0F, 7, 0]
        else [0xD3, 0x16, 0, 4, request.payload.byte 0, 1]
      valid := true }
  commandId_answer _ := rfl

/-- Every answer comes in at once, but the one for node 2, which the dongle takes its time for: it
comes in while node 3 is asked for, and the one for node 3 while node 4 is. -/
def slowSchedule : Schedule where
  version := { pumps := [[.answer]] }
  identity := { pumps := [[.answer]] }
  initData := { pumps := [[.answer]] }
  node index := if index = 1 then {} else { pumps := [[.answer]] }

/-- Node 3 is given the type of node 2, and node 4 the type of node 3. -/
theorem not_attributed : ¬ Attributed sampleDongle slowSchedule := by decide

/-! ## When no answer is outstanding -/

/-- The requests that the dongle takes. -/
def requests : List Event → List ZwaveDataFrame
  | [] => []
  | .accepted request :: events => request :: requests events
  | .arrival _ :: events => requests events

/-- The requests that the dongle takes are taken in the order of the events. -/
theorem requests_append (events events' : List Event) :
    requests (events ++ events') = requests events ++ requests events' := by
  induction events with
  | nil => rfl
  | cons event events ih =>
    cases event with
    | accepted request => simp only [List.cons_append, requests, ih]
    | arrival arrival => simp only [List.cons_append, requests, ih]

/-- Arrivals bring the dongle no request. -/
@[simp] theorem requests_arrivals (arrivals : List Arrival) :
    requests (arrivals.map .arrival) = [] := by
  induction arrivals with
  | nil => rfl
  | cons arrival arrivals ih => exact ih

/-- Sending a request gives the dongle that request, or nothing. -/
theorem requests_events (exchange : Exchange) (request : ZwaveDataFrame) :
    (requests (exchange.events request)).Sublist [request] := by
  simp only [Exchange.events, requests_append, requests_arrivals, List.nil_append, List.append_nil]
  split
  · exact List.Sublist.refl _
  · exact List.nil_sublist _

section Outstanding

variable (dongle : Dongle)

/-- While the loop of `await` pumps, the dongle takes no request. -/
theorem requests_pumped (filled : Slots → Bool) (link : Link) (pumps : List (List Arrival)) :
    requests (pumped dongle filled link pumps) = [] := by
  induction pumps generalizing link with
  | nil => rfl
  | cons pump pumps ih =>
    unfold pumped
    split
    · rfl
    · rw [requests_append, requests_arrivals, List.nil_append, ih]

/-- One event moves the oldest of the outstanding requests on, if any, and brings in no other
answer. -/
theorem conservation_event (link : Link) (event : Event) :
    ∃ gone, link.outstanding ++ requests [event] =
        gone ++ (dongle.event link event).1.outstanding ∧
      (dongle.event link event).2.Sublist gone := by
  cases event with
  | accepted request => exact ⟨[], rfl, List.Sublist.refl []⟩
  | arrival arrival =>
    have hnothing : link.outstanding ++ requests [.arrival arrival] = link.outstanding :=
      List.append_nil _
    rw [hnothing]
    cases arrival with
    | answer =>
      unfold Dongle.event
      cases houtstanding : link.outstanding with
      | nil => exact ⟨[], houtstanding.symm, List.Sublist.refl []⟩
      | cons request rest => exact ⟨[request], rfl, List.Sublist.refl _⟩
    | lost =>
      refine ⟨link.outstanding.take 1, ?_, List.nil_sublist _⟩
      exact (List.take_append_drop 1 _).symm.trans (by rw [List.drop_one]; rfl)
    | unsolicited frame request => exact ⟨[], rfl, List.Sublist.refl []⟩

/-- The dongle answers what it has taken in order, and each request once: those that are no longer
outstanding are the oldest, and the answers that came in are to some of these. -/
theorem conservation (link : Link) (events : List Event) :
    ∃ gone, link.outstanding ++ requests events =
        gone ++ (exec dongle.event link events).outstanding ∧
      (emitted dongle.event link events).Sublist gone := by
  induction events generalizing link with
  | nil => exact ⟨[], List.append_nil _, List.Sublist.refl []⟩
  | cons event events ih =>
    obtain ⟨first, hfirst, hbrought⟩ := conservation_event dongle link event
    obtain ⟨gone, hgone, hanswered⟩ := ih (dongle.event link event).1
    refine ⟨first ++ gone, ?_, hbrought.append hanswered⟩
    calc link.outstanding ++ requests (event :: events)
        = link.outstanding ++ requests [event] ++ requests events := by
          rw [List.append_assoc, ← requests_append, List.singleton_append]
      _ = first ++ ((dongle.event link event).1.outstanding ++ requests events) := by
          rw [hfirst, List.append_assoc]
      _ = first ++ gone ++ (exec dongle.event link (event :: events)).outstanding := by
          rw [hgone, exec_cons, List.append_assoc]

/-- If no answer is outstanding when the turn of a node starts, then it is on time. -/
theorem onTime_of_prompt {link : Link} (h : link.outstanding = []) (turn : NodeId × Exchange) :
    OnTime dongle link turn := by
  obtain ⟨nodeId, exchange⟩ := turn
  intro hcontroller hsent request hfiller
  obtain ⟨gone, hgone, hanswered⟩ := conservation dongle link.reset
    (fetchEvents dongle link nodeId exchange)
  have htaken : (requests (fetchEvents dongle link nodeId exchange)).Sublist
      [encodeGetNodeProtocolInfo nodeId] := by
    rw [fetchEvents, requests_append, requests_pumped, List.append_nil]
    exact requests_events exchange _
  have hreset : link.reset.outstanding = [] := h
  rw [hreset, List.nil_append] at hgone
  have hmem : request ∈ requests (fetchEvents dongle link nodeId exchange) := by
    rw [hgone]
    exact List.mem_append_left _ (hanswered.subset (mem_of_filler dongle hfiller))
  exact .inl (List.mem_singleton.mp (htaken.subset hmem))

/-- Init data is in its slot after a frame only if it was there before or the frame decodes as
such. -/
theorem Slots.onFrame_initData {slots : Slots} {frame : ZwaveDataFrame}
    (h : (slots.onFrame frame).initData.isSome) :
    slots.initData.isSome ∨ (decodeInitData frame).isSome := by
  unfold onFrame at h
  split at h
  · exact .inl h
  · split at h
    · exact .inl h
    · split at h
      · rename_i hinitData
        exact .inr (by rw [hinitData]; rfl)
      · split at h
        · exact .inl h
        · exact .inl h

/-- Init data is in its slot after an event only if it was there before or a request is answered
with it in that event. -/
theorem initData_event {link : Link} {event : Event}
    (h : (dongle.event link event).1.slots.initData.isSome) :
    link.slots.initData.isSome ∨
      ∃ request ∈ (dongle.event link event).2, (decodeInitData (dongle.answer request)).isSome := by
  cases event with
  | accepted request => exact .inl h
  | arrival arrival =>
    cases arrival with
    -- The oldest request is answered, and may be the one that asks for the list.
    | answer =>
      unfold Dongle.event at h ⊢
      cases houtstanding : link.outstanding with
      | nil =>
        rw [houtstanding] at h
        exact .inl h
      | cons request rest =>
        rw [houtstanding] at h
        exact (Slots.onFrame_initData h).imp_right fun hanswer => ⟨request, by simp, hanswer⟩
    | lost => exact .inl h
    -- A frame that no one asked for is none of the answers.
    | unsolicited frame request =>
      have hnone : decodeInitData frame = none := decodeResponse_request request
      refine (Slots.onFrame_initData h).imp_right fun hinitData => ?_
      rw [hnone] at hinitData
      cases hinitData

/-- The nodes of the network are known only from an answer that said so. -/
theorem initData_exec (events : List Event)
    (h : (exec dongle.event {} events).slots.initData.isSome) :
    ∃ request ∈ emitted dongle.event {} events, request.commandId = cmdSerialApiGetInitData := by
  have hanswered := emitted_induction dongle.event {}
    (I := fun answered link => link.slots.initData.isSome →
      ∃ request ∈ answered, (decodeInitData (dongle.answer request)).isSome)
    (by simp)
    (fun answered link event ih hfilled => by
      rcases initData_event dongle hfilled with hbefore | ⟨request, hmem, hinitData⟩
      · obtain ⟨request, hmem, hinitData⟩ := ih hbefore
        exact ⟨request, List.mem_append_left _ hmem, hinitData⟩
      · exact ⟨request, List.mem_append_right _ hmem, hinitData⟩) events
  obtain ⟨request, hmem, hinitData⟩ := hanswered h
  have hcommand := commandId_of_decodeResponse hinitData
  exact ⟨request, hmem, (dongle.commandId_answer request).symm.trans hcommand⟩

/-- An exchange is a run of the link, in which the dongle is given one request at most. -/
theorem sendAndAwait_eq_exec (commandId : UInt8) (filled : Slots → Bool) (link : Link)
    (exchange : Exchange) :
    ∃ events, (sendAndAwait dongle commandId filled link exchange).1 =
        exec dongle.event link events ∧
      (requests events).Sublist [bareRequest commandId] := by
  cases hsent : exchange.sent with
  | false =>
    refine ⟨exchange.events (bareRequest commandId), ?_, requests_events exchange _⟩
    simp [sendAndAwait, sendRequest, hsent]
  | true =>
    refine ⟨exchange.events (bareRequest commandId) ++ pumped dongle filled
      (exec dongle.event link (exchange.events (bareRequest commandId))) exchange.pumps, ?_, ?_⟩
    · simp [sendAndAwait, sendRequest, hsent, await_eq_exec, exec_append]
    · rw [requests_append, requests_pumped, List.append_nil]
      exact requests_events exchange _

variable (schedule : Schedule)

/-- The exchanges before the nodes are a run of the link, in which the dongle is asked for the nodes
of the network last. -/
theorem introduce_eq_exec {link : Link} (h : introduce dongle schedule = .ok link) :
    ∃ events, link = exec dongle.event {} events ∧
      (requests events).Sublist [bareRequest cmdGetVersion, bareRequest cmdMemoryGetId,
        bareRequest cmdSerialApiGetInitData] := by
  -- The three requests of the introduction, each on the link that the one before has left.
  obtain ⟨events₁, hexec₁, hrequests₁⟩ := sendAndAwait_eq_exec dongle cmdGetVersion
    (·.version.isSome) {} schedule.version
  unfold introduce at h
  rcases hversion : sendAndAwait dongle cmdGetVersion (·.version.isSome) {} schedule.version
    -- Without the version the introduction ends, and so it does without the identity.
    with ⟨link₁, _ | _⟩
  · rw [hversion] at h
    cases h
  · rw [hversion] at h hexec₁
    dsimp only at h hexec₁
    obtain ⟨events₂, hexec₂, hrequests₂⟩ := sendAndAwait_eq_exec dongle cmdMemoryGetId
      (·.identity.isSome) link₁ schedule.identity
    rcases hidentity : sendAndAwait dongle cmdMemoryGetId (·.identity.isSome) link₁
      schedule.identity with ⟨link₂, _ | _⟩
    · rw [hidentity] at h
      cases h
    · rw [hidentity] at h hexec₂
      dsimp only at h hexec₂
      obtain ⟨events₃, hexec₃, hrequests₃⟩ := sendAndAwait_eq_exec dongle cmdSerialApiGetInitData
        (·.initData.isSome) link₂ schedule.initData
      -- The events of the three are one run from the link at the start.
      refine ⟨events₁ ++ events₂ ++ events₃, ?_, ?_⟩
      · rw [exec_append, exec_append, ← hexec₁, ← hexec₂, ← hexec₃]
        exact (Except.ok.inj h).symm
      · rw [requests_append, requests_append]
        exact (hrequests₁.append hrequests₂).append hrequests₃

/-- Nothing is outstanding when the turn of the first node starts. -/
theorem outstanding_introduce {link : Link} (h : introduce dongle schedule = .ok link)
    (hnodes : link.slots.initData.isSome) : link.outstanding = [] := by
  obtain ⟨events, rfl, hrequests⟩ := introduce_eq_exec dongle schedule h
  obtain ⟨request, hmem, hcommand⟩ := initData_exec dongle events hnodes
  obtain ⟨gone, hgone, hanswered⟩ := conservation dongle {} events
  -- The request for the nodes comes last, and the answer to it has come in.
  have hlast : (requests events).Pairwise fun request _ =>
      request.commandId ≠ cmdSerialApiGetInitData := by
    refine List.Pairwise.sublist hrequests ?_
    simp only [List.pairwise_cons, List.not_mem_nil, false_imp_iff, implies_true,
      List.Pairwise.nil, and_true, List.mem_cons, forall_eq_or_imp, forall_eq, or_false]
    decide
  rw [List.nil_append] at hgone
  rw [hgone, List.pairwise_append] at hlast
  refine List.eq_nil_iff_forall_not_mem.mpr fun later hlater => ?_
  exact hlast.2.2 request (hanswered.subset hmem) later hlater hcommand

/-- If no turn leaves a request behind whose answer is still to come, then every entry of the result
holds what the dongle answers for its node. -/
theorem attributed_of_settled
    (h : ∀ turn ∈ turns dongle schedule,
      (visit dongle turn.before turn.input).1.outstanding = []) :
    Attributed dongle schedule := by
  refine attributed_of_onTime dongle schedule fun turn hturn => ?_
  -- Nothing is left outstanding by a turn, so the next one starts without, as the first one does.
  refine onTime_of_prompt dongle ?_ turn.input
  unfold turns at h hturn
  cases hintroduce : introduce dongle schedule with
  | error error =>
    rw [hintroduce] at hturn
    cases hturn
  | ok link =>
    rw [hintroduce] at h hturn
    dsimp only at h hturn
    -- Only after an introduction with all three answers are there turns.
    split at hturn
    · rename_i initData hversion hidentity hinitData
      rw [hversion, hidentity, hinitData] at h
      have hstart : link.outstanding = [] :=
        outstanding_introduce dongle schedule hintroduce (by rw [hinitData]; rfl)
      exact before_of_trace (visit dongle) link (P := fun link => link.outstanding = []) hstart _
        (fun turn hturn _ => h turn hturn) turn hturn
    · cases hturn

end Outstanding

end Introspection

end Zwaved.Protocol
