import Zwaved.KeyedList
import Zwaved.Policy.Register

/-!
# The merge of two policies

`PolicyRegister::merge` puts the entries of a node's override into the device default, each in the
place of the first entry of its slot. A policy is a list with keys, the slots, and `merge` is
`KeyedList.placeAll`. It makes the override win as long as the device default names a slot once:
`overrideWins_iff` has the exact condition.
-/

namespace Zwaved.PolicyRegister

/-- What an entry sets: a configuration parameter, an association group, or the wake-up interval. -/
inductive Slot
  /-- Configuration is keyed by `parameter`. -/
  | configuration (parameter : UInt8)
  /-- Association is keyed by `groupId`. -/
  | association (groupId : UInt8)
  /-- Wake-Up is a singleton. -/
  | wakeUp
  deriving DecidableEq, Repr

/-- The slot of an entry. -/
def PolicyEntry.slot : PolicyEntry → Slot
  | .configuration entry => .configuration entry.parameter
  | .association entry => .association entry.groupId
  | .wakeUp _ => .wakeUp

/-- `sameSlot`. -/
def sameSlot : PolicyEntry → PolicyEntry → Bool
  | .configuration lhs, .configuration rhs => lhs.parameter == rhs.parameter
  | .association lhs, .association rhs => lhs.groupId == rhs.groupId
  | .wakeUp _, .wakeUp _ => true
  | _, _ => false

/-- `sameSlot` compares the slots. -/
theorem sameSlot_iff (lhs rhs : PolicyEntry) : sameSlot lhs rhs = true ↔ lhs.slot = rhs.slot := by
  cases lhs <;> cases rhs <;> simp [sameSlot, PolicyEntry.slot]

/-- The body of the loop of `merge`: the first entry of the slot is replaced, and an entry of a new
slot goes to the end. -/
def replaceFirst (override : PolicyEntry) : Policy → Policy
  | [] => [override]
  | existing :: result =>
    if sameSlot existing override then override :: result
    else existing :: replaceFirst override result

/-- `merge`. -/
def merge (deviceDefault nodeOverride : Policy) : Policy :=
  nodeOverride.foldl (fun result override => replaceFirst override result) deviceDefault

/-- The loop places an entry by its slot. -/
theorem replaceFirst_eq (override : PolicyEntry) (result : Policy) :
    replaceFirst override result = KeyedList.place PolicyEntry.slot override result := by
  induction result with
  | nil => rfl
  | cons existing result ih => simp only [replaceFirst, KeyedList.place, sameSlot_iff, ih]

/-- `merge` places the override's entries among the device's, one after the other. -/
theorem merge_eq (deviceDefault nodeOverride : Policy) :
    merge deviceDefault nodeOverride =
      KeyedList.placeAll PolicyEntry.slot deviceDefault nodeOverride := by
  unfold merge KeyedList.placeAll
  congr 1
  funext result override
  exact replaceFirst_eq override result

/-! ## Who wins -/

/-- The last entry of a policy for a slot. -/
def lastEntry (slot : Slot) (policy : Policy) : Option PolicyEntry :=
  KeyedList.last PolicyEntry.slot slot policy

/-- What a node holds in its slots when the entries of a policy have been applied to it, one after
the other. -/
def applied (held : Slot → Option PolicyEntry) (policy : Policy) : Slot → Option PolicyEntry :=
  KeyedList.settle PolicyEntry.slot held policy

/-- Applying the merged policy leaves, in every slot that the override names, its last entry, and in
every other slot that the device default names the last entry of that. -/
def OverrideWins (deviceDefault nodeOverride : Policy) : Prop :=
  ∀ held slot,
    (slot ∈ nodeOverride.map PolicyEntry.slot →
      applied held (merge deviceDefault nodeOverride) slot = lastEntry slot nodeOverride) ∧
    (slot ∉ nodeOverride.map PolicyEntry.slot → slot ∈ deviceDefault.map PolicyEntry.slot →
      applied held (merge deviceDefault nodeOverride) slot = lastEntry slot deviceDefault)

/-- What is applied to a slot that the policy names does not depend on what was there. -/
theorem applied_eq_lastEntry (held : Slot → Option PolicyEntry) {policy : Policy} {slot : Slot}
    (h : slot ∈ policy.map PolicyEntry.slot) : applied held policy slot = lastEntry slot policy := by
  obtain ⟨entry, hlast⟩ := KeyedList.exists_last h
  rw [applied, KeyedList.settle_eq, lastEntry, hlast, Option.some_or]

/-- The merged policy has the slots of both and no others. -/
theorem mem_slots_merge {deviceDefault nodeOverride : Policy} {slot : Slot} :
    slot ∈ (merge deviceDefault nodeOverride).map PolicyEntry.slot ↔
      slot ∈ deviceDefault.map PolicyEntry.slot ∨ slot ∈ nodeOverride.map PolicyEntry.slot := by
  rw [merge_eq, KeyedList.mem_keys_placeAll]

/-- A slot that the override does not name keeps the device's last entry. -/
theorem lastEntry_merge_of_notMem {deviceDefault nodeOverride : Policy} {slot : Slot}
    (h : slot ∉ nodeOverride.map PolicyEntry.slot) :
    lastEntry slot (merge deviceDefault nodeOverride) = lastEntry slot deviceDefault := by
  rw [lastEntry, merge_eq]
  exact KeyedList.last_placeAll_of_none (KeyedList.last_eq_none_iff.mpr h)

/-- A slot that the override names gets the override's last entry if the device default names it at
most once, and otherwise keeps the device's last entry. -/
theorem lastEntry_merge_of_mem {deviceDefault nodeOverride : Policy} {slot : Slot}
    (h : slot ∈ nodeOverride.map PolicyEntry.slot) :
    lastEntry slot (merge deviceDefault nodeOverride) =
      if (deviceDefault.filter fun entry => entry.slot = slot).length ≤ 1 then
        lastEntry slot nodeOverride
      else lastEntry slot deviceDefault := by
  obtain ⟨entry, hlast⟩ := KeyedList.exists_last h
  rw [lastEntry, merge_eq, KeyedList.last_placeAll_of_some hlast, lastEntry, hlast]
  rfl

/-- The override wins exactly if every slot that it names stands at most once in the device default,
or has the same last entry there. -/
theorem overrideWins_iff (deviceDefault nodeOverride : Policy) :
    OverrideWins deviceDefault nodeOverride ↔ ∀ slot ∈ nodeOverride.map PolicyEntry.slot,
      (deviceDefault.filter fun entry => entry.slot = slot).length ≤ 1 ∨
        lastEntry slot deviceDefault = lastEntry slot nodeOverride := by
  -- In a merged slot the device's last entry counts if there are several, and the override's
  -- otherwise.
  have hmerged : ∀ held slot, slot ∈ nodeOverride.map PolicyEntry.slot →
      applied held (merge deviceDefault nodeOverride) slot =
        if (deviceDefault.filter fun entry => entry.slot = slot).length ≤ 1 then
          lastEntry slot nodeOverride
        else lastEntry slot deviceDefault := by
    intro held slot hslot
    rw [applied_eq_lastEntry held (mem_slots_merge.mpr (Or.inr hslot)),
      lastEntry_merge_of_mem hslot]
  constructor
  -- With several entries of the device the slot must have agreed before.
  · intro hwins slot hslot
    have hslotWins := (hwins (fun _ => none) slot).1 hslot
    rw [hmerged _ slot hslot] at hslotWins
    by_cases hone : (deviceDefault.filter fun entry => entry.slot = slot).length ≤ 1
    · exact Or.inl hone
    · rw [if_neg hone] at hslotWins
      exact Or.inr hslotWins
  · intro hslots held slot
    constructor
    · intro hslot
      rw [hmerged held slot hslot]
      rcases hslots slot hslot with hone | hsame
      · rw [if_pos hone]
      · rw [hsame, ite_self]
    -- A slot without an override has the device's entries.
    · intro hnot hslot
      rw [applied_eq_lastEntry held (mem_slots_merge.mpr (Or.inl hslot)),
        lastEntry_merge_of_notMem hnot]

/-- A device default that names parameter 1 twice keeps its second value. -/
theorem override_loses : ¬ OverrideWins
    [.configuration { parameter := 1, value := 1 }, .configuration { parameter := 1, value := 2 }]
    [.configuration { parameter := 1, value := 9 }] := by
  intro hwins
  have hslot := (hwins (fun _ => none) (.configuration 1)).1 (by decide)
  exact absurd hslot (by decide)

/-- The merge adds an entry for each slot that the device default does not name. -/
theorem length_merge (deviceDefault nodeOverride : Policy) :
    (merge deviceDefault nodeOverride).length = deviceDefault.length +
      ((nodeOverride.map PolicyEntry.slot).toFinset \
        (deviceDefault.map PolicyEntry.slot).toFinset).card := by
  rw [merge_eq, KeyedList.length_placeAll]

end Zwaved.PolicyRegister
