import Zwaved.Protocol.HostApi

/-!
# The node-info block of a callback

The callback of an inclusion or exclusion ends with a block: a length, the three bytes of the device
class, and the command classes. `decodeNodeCallback` skips the device class only where all three
bytes are there, but looks for the command classes in any case. In a payload that ends within the
device class, a short list is therefore taken from the bytes of the device class
(`infoFaithful_iff`).
-/

namespace Zwaved.Protocol.HostApi

/-- Where the block of a callback begins: behind the session, the status and the node. -/
def blockOffset (nodeId16Bit : Bool) : ℕ := if nodeId16Bit then 4 else 3

/-- What is reported of a node is what its block says. -/
structure InfoFaithful (payload : Bytes) (offset : ℕ) (info : NodeInfo) : Prop where
  /-- There are no command classes, or they are the bytes from behind the device class to the end of
  the block, all of which are there. -/
  commandClasses : info.commandClasses = [] ∨
    3 ≤ (payload.byte offset).toNat ∧
      offset + 1 + (payload.byte offset).toNat ≤ payload.length ∧
      info.commandClasses = payload.subspan (offset + 4) ((payload.byte offset).toNat - 3)
  /-- There are device types only where the device class is there. -/
  deviceTypes : info.basicDeviceType ≠ 0 ∨ info.genericDeviceType ≠ 0 ∨
      info.specificDeviceType ≠ 0 →
    3 ≤ (payload.byte offset).toNat ∧ offset + 4 ≤ payload.length ∧
      info.basicDeviceType = payload.byte (offset + 1) ∧
      info.genericDeviceType = payload.byte (offset + 2) ∧
      info.specificDeviceType = payload.byte (offset + 3)

/-- The payload ends within the device class, and has as many bytes of it as the block has command
classes, of which there are some. -/
def CutShort (payload : Bytes) (offset : ℕ) : Prop :=
  payload.length < offset + 4 ∧ 3 < (payload.byte offset).toNat ∧
    offset + 1 + ((payload.byte offset).toNat - 3) ≤ payload.length

instance (payload : Bytes) (offset : ℕ) : Decidable (CutShort payload offset) :=
  inferInstanceAs (Decidable (_ ∧ _ ∧ _))

variable {payload : Bytes} {offset : ℕ}

/-- Empty node information says nothing that the block does not. -/
theorem infoFaithful_empty (payload : Bytes) (offset : ℕ) : InfoFaithful payload offset {} :=
  ⟨Or.inl rfl, fun h => by simp at h⟩

/-- With the device class there, the block is read as it is. -/
theorem decodeNodeInfo_of_present (hlength : 3 ≤ (payload.byte offset).toNat)
    (hpresent : offset + 4 ≤ payload.length) :
    InfoFaithful payload offset (decodeNodeInfo payload offset) := by
  have htypes : (payload.byte offset).toNat ≥ 3 ∧ payload.length ≥ offset + 1 + 3 :=
    ⟨hlength, hpresent⟩
  unfold decodeNodeInfo
  dsimp only
  rw [if_neg (by omega), if_pos htypes]
  dsimp only
  by_cases hlist : (payload.byte offset).toNat - 3 > 0 ∧
      payload.length ≥ offset + 1 + 3 + ((payload.byte offset).toNat - 3)
  · rw [if_pos hlist]
    exact ⟨Or.inr ⟨hlength, by omega, rfl⟩, fun _ => ⟨hlength, hpresent, rfl, rfl, rfl⟩⟩
  · rw [if_neg hlist]
    exact ⟨Or.inl rfl, fun _ => ⟨hlength, hpresent, rfl, rfl, rfl⟩⟩

/-- Without it, there are no device types, and a class list that still fits is read in its place. -/
theorem decodeNodeInfo_of_absent
    (h : (payload.byte offset).toNat < 3 ∨ payload.length < offset + 4) :
    decodeNodeInfo payload offset =
      if CutShort payload offset then
        { commandClasses := payload.subspan (offset + 1) ((payload.byte offset).toNat - 3) }
      else {} := by
  have htypes : ¬ ((payload.byte offset).toNat ≥ 3 ∧ payload.length ≥ offset + 1 + 3) := by omega
  have hcut : ((payload.byte offset).toNat - 3 > 0 ∧
      payload.length ≥ offset + 1 + ((payload.byte offset).toNat - 3)) ↔
        CutShort payload offset := by
    unfold CutShort
    omega
  unfold decodeNodeInfo
  dsimp only
  by_cases hend : payload.length ≤ offset
  · have hnone : ¬ CutShort payload offset := by
      unfold CutShort
      omega
    rw [if_pos hend, if_neg hnone]
  · rw [if_neg hend, if_neg htypes]
    dsimp only
    simp only [hcut]

/-- What is decoded of a block is what the block says exactly when the payload does not cut it short
within the device class. -/
theorem infoFaithful_decodeNodeInfo_iff (payload : Bytes) (offset : ℕ) :
    InfoFaithful payload offset (decodeNodeInfo payload offset) ↔ ¬ CutShort payload offset := by
  by_cases hpresent : 3 ≤ (payload.byte offset).toNat ∧ offset + 4 ≤ payload.length
  · refine iff_of_true (decodeNodeInfo_of_present hpresent.1 hpresent.2) fun hcut => ?_
    exact absurd hpresent.2 (Nat.not_le.mpr hcut.1)
  rw [decodeNodeInfo_of_absent (by omega)]
  by_cases hcut : CutShort payload offset
  · rw [if_pos hcut]
    refine iff_of_false (fun hfaithful => ?_) (not_not.mpr hcut)
    obtain ⟨hshort, hlist, hfits⟩ := hcut
    -- The list that is read is neither empty nor behind the device class.
    rcases hfaithful.commandClasses with hnil | ⟨-, hblock, -⟩
    · have hlength := congrArg List.length hnil
      simp only [Bytes.subspan, List.length_take, List.length_drop, List.length_nil] at hlength
      omega
    · omega
  · rw [if_neg hcut]
    exact iff_of_true (infoFaithful_empty payload offset) hcut

/-- What a callback says of the node is what its block says, in whole, exactly if the payload does
not end within the device class with a list of command classes as long as what is left of it. -/
theorem infoFaithful_iff {frame : Serial.ZwaveDataFrame} {nodeId16Bit : Bool}
    {callback : NodeStatusCallback} (h : decodeNodeCallback frame nodeId16Bit = some callback) :
    InfoFaithful frame.payload (blockOffset nodeId16Bit) callback.info ↔
      ¬ CutShort frame.payload (blockOffset nodeId16Bit) := by
  obtain ⟨-, -, -, hinfo⟩ := decodeNodeCallback_spec h
  rw [hinfo]
  by_cases hshort : nodeId16Bit = true ∧ frame.payload.length < 4
  · -- With node ids of two bytes, the payload may end within the id, and has no block then.
    rw [if_pos hshort, hshort.1]
    refine iff_of_true (infoFaithful_empty _ _) fun hcut => ?_
    have hfits : 4 + 1 + ((frame.payload.byte 4).toNat - 3) ≤ frame.payload.length := hcut.2.2
    omega
  · rw [if_neg hshort]
    exact infoFaithful_decodeNodeInfo_iff frame.payload (blockOffset nodeId16Bit)

/-- A callback with the whole of its block, which is reported. -/
theorem infoFaithful_iff_whole : InfoFaithful [1, 3, 7, 5, 4, 0x10, 1, 0x25, 0x27] 3
    { basicDeviceType := 4, genericDeviceType := 0x10, specificDeviceType := 1,
      commandClasses := [0x25, 0x27] } :=
  have h : decodeNodeCallback
      { commandId := cmdAddNodeToNetwork
        payload := [1, 3, 7, 5, 4, 0x10, 1, 0x25, 0x27]
        valid := true } =
    some
      { commandId := cmdAddNodeToNetwork
        sessionId := 1
        status := 3
        nodeId := 7
        info := { basicDeviceType := 4, genericDeviceType := 0x10, specificDeviceType := 1,
                  commandClasses := [0x25, 0x27] } } := rfl
  (infoFaithful_iff h).mpr (by decide)

/-- The block says that there is one command class, and the payload ends with the first byte of the
device class. This byte is reported as the class, here as Security 2. -/
theorem not_infoFaithful_cutShort :
    decodeNodeCallback
        { commandId := cmdAddNodeToNetwork, payload := [1, 3, 7, 4, 0x9F], valid := true } =
      some
        { commandId := cmdAddNodeToNetwork
          sessionId := 1
          status := 3
          nodeId := 7
          info := { commandClasses := [0x9F] } } ∧
      ¬ InfoFaithful [1, 3, 7, 4, 0x9F] 3 { commandClasses := [0x9F] } := by
  refine ⟨rfl, fun h => ?_⟩
  rcases h.commandClasses with hnil | ⟨-, hblock, -⟩
  · cases hnil
  · exact absurd hblock (by decide)

end Zwaved.Protocol.HostApi
