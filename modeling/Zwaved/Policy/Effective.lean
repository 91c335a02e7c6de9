import Zwaved.Policy.Merge
import Zwaved.Storage.Registry

/-!
# The effective policy

`PolicyRegister::Register` keeps the blobs of the device defaults and of the node overrides in the
database, and which device a node is in memory. `effectivePolicy` merges the two that apply to a
node, and the D-Bus methods set the blobs and hand out the effective policy as one more blob. That
one need not fit: `effectivePolicy_served_iff` says when it does.

Statements of the database succeed, as in a database that is valid.
-/

namespace Zwaved.PolicyRegister

/-- `DeviceId`. -/
structure DeviceId where
  /-- `manufacturerId`. -/
  manufacturerId : UInt16
  /-- `productTypeId`. -/
  productTypeId : UInt16
  /-- `productId`. -/
  productId : UInt16
  deriving DecidableEq, Repr

/-- `Register`, with its two tables. -/
structure Register where
  /-- `db.valid()`. -/
  valid : Bool
  /-- The table `device_policies`. -/
  devicePolicies : DeviceId → Option Bytes := fun _ => none
  /-- The table `node_policy_overrides`. -/
  nodePolicyOverrides : String → NodeMap Bytes := fun _ _ => none
  /-- `currentHomeId`. -/
  currentHomeId : Option String := none
  /-- `identityCache`. -/
  identityCache : String → NodeMap DeviceId := fun _ _ => none

namespace Register

/-- `setHomeId`. -/
def setHomeId (r : Register) (homeIdBytes : Bytes) : Register :=
  { r with currentHomeId := some (Storage.formatHomeId homeIdBytes) }

/-- `setDevicePolicy`. -/
def setDevicePolicy (r : Register) (device : DeviceId) (policy : Policy) : Register :=
  if ¬ r.valid then r
  else
    { r with devicePolicies := Function.update r.devicePolicies device (some (serialize policy)) }

/-- `setNodeOverride`. -/
def setNodeOverride (r : Register) (nodeId : NodeId) (policy : Policy) : Register :=
  match r.valid, r.currentHomeId with
  | true, some home =>
    { r with
      nodePolicyOverrides := Function.update r.nodePolicyOverrides home
        (Function.update (r.nodePolicyOverrides home) nodeId (some (serialize policy))) }
  | _, _ => r

/-- `devicePolicy`. -/
def devicePolicy (r : Register) (device : DeviceId) : Read (Option Policy) :=
  if ¬ r.valid then return none
  else
    match r.devicePolicies device with
    | none => return none
    | some blob => deserialize blob

/-- `nodeOverride`. -/
def nodeOverride (r : Register) (nodeId : NodeId) : Read (Option Policy) :=
  match r.valid, r.currentHomeId with
  | true, some home =>
    match r.nodePolicyOverrides home nodeId with
    | none => return none
    | some blob => deserialize blob
  | _, _ => return none

/-- `noteDeviceIdentity`. -/
def noteDeviceIdentity (r : Register) (nodeId : NodeId) (device : DeviceId) : Register :=
  match r.currentHomeId with
  | none => r
  | some home =>
    { r with
      identityCache := Function.update r.identityCache home
        (Function.update (r.identityCache home) nodeId (some device)) }

/-- The device that a node is known to be. -/
def identity (r : Register) (nodeId : NodeId) : Option DeviceId :=
  r.currentHomeId.bind fun home => r.identityCache home nodeId

/-- `effectivePolicy`. -/
def effectivePolicy (r : Register) (nodeId : NodeId) : Read Policy := do
  let override ← r.nodeOverride nodeId
  let deviceDefault ← match r.identity nodeId with
    | some device => r.devicePolicy device
    | none => pure none
  match deviceDefault, override with
  | some deviceDefault, some override => return merge deviceDefault override
  | _, some override => return override
  | some deviceDefault, _ => return deviceDefault
  | none, none => return []

/-! ## The D-Bus methods -/

/-- `emitSetDevicePolicy`: a malformed blob is ignored. -/
def emitSetDevicePolicy (r : Register) (device : DeviceId) (policy : Bytes) : Read Register := do
  match ← deserialize policy with
  | none => return r
  | some decoded => return r.setDevicePolicy device decoded

/-- `emitSetNodeOverride`: a malformed blob is ignored. -/
def emitSetNodeOverride (r : Register) (nodeId : NodeId) (policy : Bytes) : Read Register := do
  match ← deserialize policy with
  | none => return r
  | some decoded => return r.setNodeOverride nodeId decoded

/-- `emitGetEffectivePolicy`. -/
def emitGetEffectivePolicy (r : Register) (nodeId : NodeId) : Read Bytes := do
  return serialize (← r.effectivePolicy nodeId)

/-! ## What is served -/

/-- What `emitGetEffectivePolicy` returns for a node deserializes to its effective policy. -/
def Served (r : Register) (nodeId : NodeId) : Prop :=
  ∃ policy blob, r.effectivePolicy nodeId = .ok policy ∧
    r.emitGetEffectivePolicy nodeId = .ok blob ∧ deserialize blob = .ok (some policy)

/-- The effective policy is served if and only if its entries can be counted by a byte. -/
theorem served_iff_length {r : Register} {nodeId : NodeId} {policy : Policy}
    (hpolicy : r.effectivePolicy nodeId = .ok policy) (hmembers : MembersFit policy) :
    r.Served nodeId ↔ policy.length ≤ 255 := by
  have hblob : r.emitGetEffectivePolicy nodeId = .ok (serialize policy) := by
    rw [emitGetEffectivePolicy, hpolicy]
    rfl
  constructor
  · rintro ⟨policy', blob, hpolicy', hblob', hread⟩
    obtain rfl := Except.ok.inj (hpolicy.symm.trans hpolicy')
    obtain rfl := Except.ok.inj (hblob.symm.trans hblob')
    exact (fits_of_deserialize hread).1
  · intro hlength
    exact ⟨policy, serialize policy, hpolicy, hblob, deserialize_serialize ⟨hlength, hmembers⟩⟩

/-- Merged entries have members that fit when those of both policies do: each is an entry of one of
the two. -/
theorem membersFit_merge {deviceDefault nodeOverride : Policy} (hdevice : MembersFit deviceDefault)
    (hoverride : MembersFit nodeOverride) : MembersFit (merge deviceDefault nodeOverride) := by
  intro entry hentry
  rw [merge_eq] at hentry
  rcases KeyedList.mem_of_mem_placeAll hentry with hentry | hentry
  · exact hdevice entry hentry
  · exact hoverride entry hentry

variable {r : Register} {device : DeviceId} {nodeId : NodeId}

/-- A device's policy and a node's override that have been set are merged when the node's effective
policy is served. -/
theorem effectivePolicy_set {home : String} {deviceDefault nodeOverride : Policy}
    (hvalid : r.valid = true) (hhome : r.currentHomeId = some home)
    (hidentity : r.identityCache home nodeId = some device) (hdevice : Fits deviceDefault)
    (hoverride : Fits nodeOverride) :
    ((r.setDevicePolicy device deviceDefault).setNodeOverride nodeId nodeOverride).effectivePolicy
      nodeId = .ok (merge deviceDefault nodeOverride) := by
  obtain ⟨valid, devicePolicies, nodePolicyOverrides, currentHomeId, identityCache⟩ := r
  dsimp only at hvalid hhome hidentity
  subst hvalid hhome
  have hset : (setDevicePolicy ⟨true, devicePolicies, nodePolicyOverrides, some home,
      identityCache⟩ device deviceDefault).setNodeOverride nodeId nodeOverride =
      ⟨true, Function.update devicePolicies device (some (serialize deviceDefault)),
        Function.update nodePolicyOverrides home
          (Function.update (nodePolicyOverrides home) nodeId (some (serialize nodeOverride))),
        some home, identityCache⟩ := rfl
  rw [hset, effectivePolicy]
  simp only [Register.nodeOverride, Register.devicePolicy, identity, Option.bind_some, hidentity,
    Function.update_self, deserialize_serialize hdevice, deserialize_serialize hoverride,
    Read.ok_bind, not_true_eq_false, if_false]
  rfl

/-- After two blobs have been accepted for a node and for the device that it is, the effective
policy is served if and only if the entries of the device default, and the slots that the override
adds to them, are 255 at most. -/
theorem effectivePolicy_served_iff {home : String} {deviceBlob overrideBlob : Bytes}
    {deviceDefault nodeOverride : Policy} (hvalid : r.valid = true)
    (hhome : r.currentHomeId = some home) (hidentity : r.identityCache home nodeId = some device)
    (hdevice : deserialize deviceBlob = .ok (some deviceDefault))
    (hoverride : deserialize overrideBlob = .ok (some nodeOverride)) :
    ∃ r₁ r₂, r.emitSetDevicePolicy device deviceBlob = .ok r₁ ∧
      r₁.emitSetNodeOverride nodeId overrideBlob = .ok r₂ ∧
      (r₂.Served nodeId ↔ deviceDefault.length + ((nodeOverride.map PolicyEntry.slot).toFinset \
        (deviceDefault.map PolicyEntry.slot).toFinset).card ≤ 255) := by
  have hdeviceFits := fits_of_deserialize hdevice
  have hoverrideFits := fits_of_deserialize hoverride
  refine ⟨r.setDevicePolicy device deviceDefault,
    (r.setDevicePolicy device deviceDefault).setNodeOverride nodeId nodeOverride, ?_, ?_, ?_⟩
  · rw [emitSetDevicePolicy, hdevice]
    rfl
  · rw [emitSetNodeOverride, hoverride]
    rfl
  · rw [served_iff_length
      (effectivePolicy_set hvalid hhome hidentity hdeviceFits hoverrideFits)
      (membersFit_merge hdeviceFits.2 hoverrideFits.2), length_merge]

/-- A device. -/
def sampleDevice : DeviceId where
  manufacturerId := 0x0086
  productTypeId := 0x0002
  productId := 0x0064

/-- A register in a home in which node 5 is that device. -/
def sample : Register where
  valid := true
  currentHomeId := some "C0FFEE01"
  identityCache := fun _ => Function.update (fun _ => none) 5 (some sampleDevice)

/-- A device default with one parameter, and an override for the wake-up interval, are served. -/
theorem effectivePolicy_served_sample : ∃ r₁ r₂,
    sample.emitSetDevicePolicy sampleDevice (serialize [.configuration { parameter := 1 }]) =
        .ok r₁ ∧
      r₁.emitSetNodeOverride 5 (serialize [.wakeUp { intervalSeconds := 600 }]) = .ok r₂ ∧
      r₂.Served 5 := by
  obtain ⟨r₁, r₂, hdevice, hoverride, hserved⟩ := @effectivePolicy_served_iff sample sampleDevice 5
    "C0FFEE01" (serialize [.configuration { parameter := 1 }])
    (serialize [.wakeUp { intervalSeconds := 600 }]) [.configuration { parameter := 1 }]
    [.wakeUp { intervalSeconds := 600 }] rfl rfl (by decide) (by decide) (by decide)
  exact ⟨r₁, r₂, hdevice, hoverride, hserved.mpr (by decide)⟩

/-- As many parameters as a blob can count. -/
def manyParameters : Policy :=
  (List.range 255).map fun parameter => .configuration { parameter := parameter.toUInt8, value := 1 }

/-- The sample policy fits a blob. -/
theorem fits_manyParameters : Fits manyParameters := by
  refine ⟨by rw [manyParameters, List.length_map, List.length_range], fun entry hentry => ?_⟩
  obtain ⟨parameter, -, hparameter⟩ := List.mem_map.mp hentry
  cases hparameter

/-- A device default that sets 255 parameters, and an override that sets one more, are accepted, but
the effective policy of 256 entries is served as a blob that counts none. -/
theorem effectivePolicy_not_served :
    deserialize (serialize manyParameters) = .ok (some manyParameters) ∧
      deserialize (serialize [.configuration { parameter := 255 }]) =
        .ok (some [.configuration { parameter := 255 }]) ∧
      ∃ r₁ r₂, sample.emitSetDevicePolicy sampleDevice (serialize manyParameters) = .ok r₁ ∧
        r₁.emitSetNodeOverride 5 (serialize [.configuration { parameter := 255 }]) = .ok r₂ ∧
        ¬ r₂.Served 5 := by
  -- Both blobs are of the form that the register itself writes.
  have hdevice := deserialize_serialize fits_manyParameters
  have hone : Fits [.configuration { parameter := 255 }] := ⟨by decide, by simp⟩
  have hoverride := deserialize_serialize hone
  have hidentity : sample.identityCache "C0FFEE01" 5 = some sampleDevice := by decide
  refine ⟨hdevice, hoverride, sample.setDevicePolicy sampleDevice manyParameters,
    (sample.setDevicePolicy sampleDevice manyParameters).setNodeOverride 5
      [.configuration { parameter := 255 }], ?_, ?_, ?_⟩
  · rw [emitSetDevicePolicy, hdevice]
    rfl
  · rw [emitSetNodeOverride, hoverride]
    rfl
  -- The override names a parameter that the device does not, and the merged policy has one more
  -- entry than fits.
  · rw [served_iff_length (effectivePolicy_set rfl rfl hidentity fits_manyParameters hone)
      (membersFit_merge fits_manyParameters.2 hone.2)]
    have hlength : (merge manyParameters [.configuration { parameter := 255 }]).length = 256 := by
      decide +kernel
    omega

end Register

end Zwaved.PolicyRegister
