import Zwaved.S0.Encapsulation
import Zwaved.TransportService.Assembler

/-!
# The unwrap layer

`src/cc-translator/Encapsulation.cpp`: frames that arrive wrapped in CRC-16 Encapsulation, in
Transport Service segments or in S0 MESSAGE_ENCAPSULATION are unwrapped here, and the inner command
goes out as one more ApplicationCommand, in which nothing says where it came from. The model keeps
that beside the command, in `Origin`, which no handler reads.
-/

namespace Zwaved.CcTranslator

open TransportService (Assembler)

namespace Crc16Encap

/-- `COMMAND_CLASS`. -/
def commandClass : UInt8 := 0x56

/-- `CRC16_ENCAP`. -/
def crc16Encap : UInt8 := 0x01

/-- `MIN_BYTES`. -/
def minBytes : ℕ := 5

/-- `TRAILER_LEN`. -/
def trailerLen : ℕ := 2

/-- `CRC_INIT`. -/
def crcInit : UInt16 := 0x1D0F

/-- `CRC_POLY`. -/
def crcPoly : UInt16 := 0x1021

/-- `MSB_MASK`. -/
def msbMask : UInt16 := 0x8000

/-- The bits of a byte, one after the other. -/
def crcBits (crc : UInt16) : ℕ → UInt16
  | 0 => crc
  | bits + 1 =>
    if crc &&& msbMask ≠ 0 then crcBits ((crc <<< 1) ^^^ crcPoly) bits else crcBits (crc <<< 1) bits

/-- `checksum`: CRC-16/AUG-CCITT. -/
def checksum (data : Bytes) : UInt16 :=
  data.foldl (fun crc byte => crcBits (crc ^^^ (byte.toUInt16 <<< (8 : UInt16))) 8) crcInit

/-- `verifyAndUnwrap`. -/
def verifyAndUnwrap (payload : Bytes) : Option Bytes :=
  if payload.length < minBytes ∨ payload.byte 0 ≠ commandClass ∨ payload.byte 1 ≠ crc16Encap then
    none
  else
    let bodyLen := payload.length - trailerLen
    let actual := (payload.byte bodyLen).toUInt16 <<< 8 ||| (payload.byte (bodyLen + 1)).toUInt16
    if checksum (payload.take bodyLen) ≠ actual then none
    else some (payload.subspan 2 (bodyLen - 2))

/-- `encode`. -/
def encode (innerCommand : Bytes) : Bytes :=
  let out := commandClass :: crc16Encap :: innerCommand
  let crc := checksum out
  out ++ [((crc >>> 8) &&& 0x00FF).toUInt8, (crc &&& 0x00FF).toUInt8]

/-- The inner command is shorter than the frame. -/
theorem length_verifyAndUnwrap {data inner : Bytes} (h : verifyAndUnwrap data = some inner) :
    inner.length < data.length := by
  unfold verifyAndUnwrap at h
  split at h
  · cases h
  next hshort =>
  have hlen : ¬ data.length < minBytes := fun hlt => hshort (Or.inl hlt)
  dsimp only at h
  split at h
  · cases h
  · obtain rfl := Option.some.inj h
    have hle := Bytes.length_subspan_le data 2 (data.length - trailerLen - 2)
    have hmin : minBytes = 5 := rfl
    omega

end Crc16Encap

/-- Where an ApplicationCommand comes from. -/
inductive Origin
  /-- From the radio, as it was received. -/
  | radio
  /-- The inner of a CRC-16 Encapsulation. -/
  | crc16
  /-- A datagram of the Transport Service. -/
  | transportService
  /-- The inner of an S0 frame, which was opened with a nonce. -/
  | s0 (frame : Bytes) (nonce : S0.Nonce)
  /-- The inner of an S2 frame. -/
  | s2
  deriving DecidableEq

/-- The layer's `State`. -/
structure Unwrap where
  /-- `assemblers`: a node that was never named has an idle one. -/
  assemblers : NodeId → Assembler := fun _ => {}
  /-- `controllerNodeId`. -/
  controllerNodeId : NodeId := 0

namespace Unwrap

variable (ssl : S0.OpenSsl) (networkKey : Option S0.Key)

/-- The Transport Service branch. A segment that overruns the datagram's buffer is undefined
behaviour in the source (`TransportService.Invariant`); here it is dropped. -/
def feedSegment (u : Unwrap) (nodeId : NodeId) (data : Bytes) : Unwrap × Option (Origin × Bytes) :=
  match (u.assemblers nodeId).feedSegment data with
  | .error _ => (u, none)
  | .ok (assembler, inner) =>
    ({ u with assemblers := Function.update u.assemblers nodeId assembler },
      inner.map fun inner => (.transportService, inner))

/-- `minFrame`. -/
def minFrame : ℕ := 20

/-- The S0 branch: the nonce that the frame names is consumed, and the frame opened with it. -/
def openS0 (u : Unwrap) (nonces : S0.NonceTable) (nodeId : NodeId) (data : Bytes) (now : S0.Time) :
    S0.NonceTable × Option (Origin × Bytes) :=
  if data.length < minFrame then (nonces, none)
  else
    match networkKey with
    | none => (nonces, none)
    | some key =>
      match nonces.take nodeId (data.byte (data.length - 9)) now with
      | (none, nonces) => (nonces, none)
      | (some ourNonce, nonces) =>
        (nonces, (S0.Encapsulation.decrypt ssl data nodeId u.controllerNodeId ourNonce key).map
          fun inner => (.s0 data ourNonce, inner))

/-- `onApplicationCommand`: what is republished, and from where. -/
def onApplicationCommand (u : Unwrap) (nonces : S0.NonceTable) (nodeId : NodeId) (data : Bytes)
    (now : S0.Time) : (Unwrap × S0.NonceTable) × Option (Origin × Bytes) :=
  if data.length < 2 then ((u, nonces), none)
  else if data.byte 0 = Crc16Encap.commandClass ∧ data.byte 1 = Crc16Encap.crc16Encap then
    ((u, nonces), (Crc16Encap.verifyAndUnwrap data).map fun inner => (.crc16, inner))
  else if data.byte 0 = TransportService.commandClass then
    let (u, inner) := u.feedSegment nodeId data
    ((u, nonces), inner)
  else if data.byte 0 = S0.Security.commandClass ∧
      data.byte 1 = S0.Security.messageEncapsulation then
    let (nonces, inner) := u.openS0 ssl networkKey nonces nodeId data now
    ((u, nonces), inner)
  else ((u, nonces), none)

/-- The frame opens, under the network key and with a nonce of the node, to `inner`. -/
def Opens (u : Unwrap) (nonces : S0.NonceTable) (nodeId : NodeId) (frame : Bytes) (nonce : S0.Nonce)
    (inner : Bytes) : Prop :=
  (∃ nonceId entry, nonces.entries nodeId nonceId = some entry ∧ entry.nonce = nonce) ∧
    ∃ key, networkKey = some key ∧
      S0.Encapsulation.decrypt ssl frame nodeId u.controllerNodeId nonce key = some inner

variable {ssl networkKey} {u : Unwrap} {nonces : S0.NonceTable} {nodeId : NodeId} {data : Bytes}
  {now : S0.Time}

/-- Only what opens is republished as the inner of an S0 frame. -/
theorem openS0_eq_some {origin : Origin} {inner : Bytes}
    (h : (u.openS0 ssl networkKey nonces nodeId data now).2 = some (origin, inner)) :
    ∃ nonce, origin = .s0 data nonce ∧ u.Opens ssl networkKey nonces nodeId data nonce inner := by
  unfold openS0 at h
  split at h
  · cases h
  · cases networkKey with
    | none => cases h
    | some key =>
      rcases htake : nonces.take nodeId (data.byte (data.length - 9)) now with ⟨_ | nonce, nonces'⟩
      · rw [htake] at h
        cases h
      · rw [htake] at h
        obtain ⟨plain, hdecrypt, heq⟩ := Option.map_eq_some_iff.mp h
        obtain ⟨rfl, rfl⟩ := Prod.mk.inj heq
        have htaken : (nonces.take nodeId (data.byte (data.length - 9)) now).1 = some nonce := by
          rw [htake]
        obtain ⟨entry, hentry, hnonce⟩ := S0.NonceTable.take_eq_some htaken
        exact ⟨nonce, rfl, ⟨_, entry, hentry, hnonce⟩, key, rfl, hdecrypt⟩

/-- Opening an S0 frame puts no nonce into the table: one that is there afterwards was there
before. -/
theorem entries_openS0 {other : NodeId} {nonceId : UInt8} {entry : S0.NonceEntry}
    (h : (u.openS0 ssl networkKey nonces nodeId data now).1.entries other nonceId = some entry) :
    nonces.entries other nonceId = some entry := by
  unfold openS0 at h
  split at h
  · exact h
  · cases networkKey with
    | none => exact h
    | some key =>
      have hentries := @S0.NonceTable.entries_take nonces nodeId other
        (data.byte (data.length - 9)) nonceId now entry
      rcases htake : nonces.take nodeId (data.byte (data.length - 9)) now with ⟨_ | nonce, nonces'⟩
      · rw [htake] at h hentries
        exact hentries h
      · rw [htake] at h hentries
        exact hentries h

/-- What the layer republishes as the inner of an S0 frame was opened. -/
theorem onApplicationCommand_s0 {frame inner : Bytes} {nonce : S0.Nonce}
    (h : (u.onApplicationCommand ssl networkKey nonces nodeId data now).2 =
      some (.s0 frame nonce, inner)) :
    frame = data ∧ u.Opens ssl networkKey nonces nodeId data nonce inner := by
  unfold onApplicationCommand at h
  split at h
  · cases h
  split at h
  · obtain ⟨plain, -, heq⟩ := Option.map_eq_some_iff.mp h
    cases heq
  split at h
  · unfold feedSegment at h
    cases hfeed : (u.assemblers nodeId).feedSegment data with
    | error fault => rw [hfeed] at h; cases h
    | ok result =>
      rw [hfeed] at h
      obtain ⟨plain, -, heq⟩ := Option.map_eq_some_iff.mp h
      cases heq
  split at h
  · obtain ⟨nonce', horigin, hopens⟩ := openS0_eq_some h
    cases horigin
    exact ⟨rfl, hopens⟩
  · cases h

/-- The unwrap layer puts no nonce into the table: one that is there afterwards was there before. -/
theorem entries_onApplicationCommand {other : NodeId} {nonceId : UInt8} {entry : S0.NonceEntry}
    (h : (u.onApplicationCommand ssl networkKey nonces nodeId data now).1.2.entries other nonceId =
      some entry) : nonces.entries other nonceId = some entry := by
  unfold onApplicationCommand at h
  split at h
  · exact h
  split at h
  · exact h
  split at h
  · exact h
  split at h
  · exact entries_openS0 h
  · exact h

end Unwrap

end Zwaved.CcTranslator
