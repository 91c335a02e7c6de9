import Zwaved.Policy.Merge
import Zwaved.Policy.Terminal

/-!
# A policy edited from the terminal

`applyEntryToBlob` of zwave-terminal decodes a blob, puts an entry in the place of the first entry
of its slot or at the end, and encodes the list again. To the daemon, which reads the result, this
is `KeyedList.place` (`deserialize_edit`), cut off at what the one byte of the count says. So the edit
does what it should unless the slot stands in the blob twice, or the table is full, or the entry is
none that the daemon can read (`editsOneSlot_iff`).
-/

namespace Zwaved.Zwt

open PolicyRegister (Policy lastEntry)

/-- `sameSlot`. -/
def sameSlot (lhs rhs : PolicyEntry) : Bool :=
  if lhs.kind ≠ rhs.kind then false
  else if lhs.kind = policyKindConfig then lhs.parameter == rhs.parameter
  else if lhs.kind = policyKindAssoc then lhs.groupId == rhs.groupId
  else true

/-- The loop of `applyEntryToBlob`: the entries with the first of the slot replaced, and whether
there was one. -/
def replaceFirst (entry : PolicyEntry) : List PolicyEntry → List PolicyEntry × Bool
  | [] => ([], false)
  | existing :: policy =>
    if sameSlot existing entry then (entry :: policy, true)
    else
      let (policy, replaced) := replaceFirst entry policy
      (existing :: policy, replaced)

/-- The entries after the edit. -/
def edit (entry : PolicyEntry) (policy : List PolicyEntry) : List PolicyEntry :=
  let (policy, replaced) := replaceFirst entry policy
  if replaced then policy else policy ++ [entry]

/-- `applyEntryToBlob`, with `replaced`. -/
def applyEntryToBlob (existing : Bytes) (entry : PolicyEntry) : Read (Option (Bytes × Bool)) := do
  match ← if existing = [] then .ok (some []) else decodePolicy existing with
  | none => return none
  | some policy => return some (encodePolicy (edit entry policy), (replaceFirst entry policy).2)

/-! ## What an edit should do -/

/-- The policy that the daemon reads from a blob; without a blob there is none. -/
def storedPolicy (blob : Bytes) : Read (Option Policy) :=
  if blob = [] then .ok (some []) else PolicyRegister.deserialize blob

/-- The daemon reads the blob as the existing policy with the entry in its slot. -/
def Edited (existing : Bytes) (entry : PolicyEntry) (blob : Bytes) : Prop :=
  ∃ before after other, storedPolicy existing = .ok (some before) ∧
    PolicyRegister.deserialize blob = .ok (some after) ∧ Corresponds entry other ∧
    lastEntry other.slot after = some other ∧
    ∀ slot, slot ≠ other.slot → lastEntry slot after = lastEntry slot before

/-- The edit changes one slot, or there is no blob. -/
structure EditsOneSlot (existing : Bytes) (entry : PolicyEntry) : Prop where
  /-- A blob that is returned has been edited. -/
  edited : ∀ blob replaced, applyEntryToBlob existing entry = .ok (some (blob, replaced)) →
    Edited existing entry blob
  /-- If there is no such blob, none is returned. -/
  refused : (∀ blob, ¬ Edited existing entry blob) → applyEntryToBlob existing entry = .ok none

/-- The entry is one of the daemon's and its members can be counted by a byte, there is room for it,
and its slot has one place at most or holds the entry already. -/
def Room (policy : Policy) (entry : PolicyEntry) : Prop :=
  ∃ other, Corresponds entry other ∧ PolicyRegister.MembersFit [other] ∧
    (other.slot ∉ policy.map PolicyRegister.PolicyEntry.slot → policy.length < 255) ∧
    ((policy.filter fun held => held.slot = other.slot).length ≤ 1 ∨
      lastEntry other.slot policy = some other)

/-! ## The daemon's view -/

variable {existing : Bytes} {entry held : PolicyEntry} {other other' : PolicyRegister.PolicyEntry}
  {entries : List PolicyEntry} {policy : Policy}

/-- Entries that correspond to two of the daemon's are of one slot when these are. -/
theorem sameSlot_iff (h : Corresponds held other') (hentry : Corresponds entry other) :
    sameSlot held entry = true ↔ other'.slot = other.slot := by
  -- Two entries of one kind are compared by its key, and two of different kinds never agree.
  unfold sameSlot
  cases other' with
  | configuration =>
    cases other with
    | configuration => simp [h.1, hentry.1, h.2.1, hentry.2.1, PolicyRegister.PolicyEntry.slot]
    | association | wakeUp =>
      simp [h.1, hentry.1, PolicyRegister.PolicyEntry.slot, policyKindConfig, policyKindAssoc,
        policyKindWakeUp]
  | association =>
    cases other with
    | association =>
      simp [h.1, hentry.1, h.2.1, hentry.2.1, PolicyRegister.PolicyEntry.slot, policyKindConfig,
        policyKindAssoc]
    | configuration | wakeUp =>
      simp [h.1, hentry.1, PolicyRegister.PolicyEntry.slot, policyKindConfig, policyKindAssoc,
        policyKindWakeUp]
  | wakeUp =>
    cases other with
    | wakeUp =>
      simp [h.1, hentry.1, PolicyRegister.PolicyEntry.slot, policyKindConfig, policyKindAssoc,
        policyKindWakeUp]
    | configuration | association =>
      simp [h.1, hentry.1, PolicyRegister.PolicyEntry.slot, policyKindConfig, policyKindAssoc,
        policyKindWakeUp]

/-- The first entry of the same slot is replaced. -/
theorem edit_cons_of_sameSlot (h : sameSlot held entry = true) :
    edit entry (held :: entries) = entry :: entries := by
  simp [edit, replaceFirst, h]

/-- An entry of another slot is kept, and the edit goes on behind it. -/
theorem edit_cons_of_not (h : ¬ sameSlot held entry = true) :
    edit entry (held :: entries) = held :: edit entry entries := by
  unfold edit
  rw [replaceFirst, if_neg h]
  dsimp only
  split <;> rfl

/-- The edit places the entry by its slot. -/
theorem forall₂_edit (hentry : Corresponds entry other)
    (h : List.Forall₂ Corresponds entries policy) :
    List.Forall₂ Corresponds (edit entry entries)
      (KeyedList.place PolicyRegister.PolicyEntry.slot other policy) := by
  induction h with
  | nil => exact .cons hentry .nil
  | @cons held other' entries policy hheld hrest ih =>
    rw [KeyedList.place]
    by_cases hsame : sameSlot held entry = true
    · rw [edit_cons_of_sameSlot hsame, if_pos ((sameSlot_iff hheld hentry).mp hsame)]
      exact .cons hentry hrest
    · rw [edit_cons_of_not hsame, if_neg fun hslot => hsame ((sameSlot_iff hheld hentry).mpr hslot)]
      exact .cons hheld ih

/-- The terminal reads what the daemon has stored, and answers when that can be read. -/
theorem applyEntryToBlob_of_stored (entry : PolicyEntry)
    (h : storedPolicy existing = .ok (some policy)) :
    ∃ replaced, applyEntryToBlob existing entry =
      .ok (some (encodePolicy (edit entry (policy.map ofPolicyEntry)), replaced)) := by
  unfold applyEntryToBlob
  unfold storedPolicy at h
  split at h
  · next hempty =>
    obtain rfl := Option.some.inj (Except.ok.inj h)
    rw [if_pos hempty]
    exact ⟨_, rfl⟩
  · next hblob =>
    rw [if_neg hblob, decodePolicy_eq, h]
    exact ⟨_, rfl⟩

/-- A blob that does not read as a policy is not edited. -/
theorem applyEntryToBlob_of_not_stored (h : ∀ policy, storedPolicy existing ≠ .ok (some policy)) :
    applyEntryToBlob existing entry = .ok none := by
  unfold applyEntryToBlob
  unfold storedPolicy at h
  split at h
  · exact absurd rfl (h [])
  · next hblob =>
    rcases PolicyRegister.deserialize_cases existing with hnone | ⟨_, policy, _, _, -, -, hread⟩
    · rw [if_neg hblob, decodePolicy_eq, hnone]
      rfl
    · exact absurd hread (h policy)

/-- A policy that is read from a blob fits one. -/
theorem fits_of_stored (h : storedPolicy existing = .ok (some policy)) :
    PolicyRegister.Fits policy := by
  unfold storedPolicy at h
  split at h
  · obtain rfl := Option.some.inj (Except.ok.inj h)
    exact ⟨Nat.zero_le _, fun _ hmem => absurd hmem List.not_mem_nil⟩
  · exact PolicyRegister.fits_of_deserialize h

/-- What the daemon reads after the edit: the policy with the entry placed, as far as the count
goes. -/
theorem deserialize_edit (hstored : storedPolicy existing = .ok (some policy))
    (hentry : Corresponds entry other) (hmembers : PolicyRegister.MembersFit [other]) :
    PolicyRegister.deserialize (encodePolicy (edit entry (policy.map ofPolicyEntry))) =
      .ok (some ((KeyedList.place PolicyRegister.PolicyEntry.slot other policy).take
        ((KeyedList.place PolicyRegister.PolicyEntry.slot other policy).length % 256))) := by
  rw [encodePolicy_eq (forall₂_edit hentry (forall₂_corresponds policy))]
  refine PolicyRegister.deserialize_serialize_take fun association hmem => ?_
  rcases KeyedList.mem_of_mem_place hmem with heq | hheld
  · exact hmembers association (List.mem_singleton.mpr heq)
  · exact (fits_of_stored hstored).2 association hheld

/-! ## When it changes one slot -/

/-- The last entry of a slot is one of the policy's. -/
theorem mem_of_lastEntry (h : lastEntry other.slot policy = some other) : other ∈ policy :=
  List.mem_of_mem_filter (List.mem_of_getLast? h)

/-- If the slot is in the policy or there is room for one entry more, the daemon reads the edited
blob as the policy with the entry placed. -/
theorem deserialize_edit_of_length (hstored : storedPolicy existing = .ok (some policy))
    (hentry : Corresponds entry other) (hmembers : PolicyRegister.MembersFit [other])
    (hlength : other.slot ∉ policy.map PolicyRegister.PolicyEntry.slot → policy.length < 255) :
    PolicyRegister.deserialize (encodePolicy (edit entry (policy.map ofPolicyEntry))) =
      .ok (some (KeyedList.place PolicyRegister.PolicyEntry.slot other policy)) := by
  have hle : (KeyedList.place PolicyRegister.PolicyEntry.slot other policy).length ≤ 255 := by
    have hbefore : policy.length ≤ 255 := (fits_of_stored hstored).1
    rw [KeyedList.length_place]
    split
    · exact hbefore
    · next hnew => exact hlength hnew
  rw [deserialize_edit hstored hentry hmembers, Nat.mod_eq_of_lt (Nat.lt_succ_of_le hle),
    List.take_length]

/-- If there is room for the entry, the edited blob meets the specification of an edit. -/
theorem edited_of_room (hstored : storedPolicy existing = .ok (some policy))
    (hroom : Room policy entry) :
    Edited existing entry (encodePolicy (edit entry (policy.map ofPolicyEntry))) := by
  obtain ⟨other, hentry, hmembers, hlength, hplaces⟩ := hroom
  refine ⟨policy, _, other, hstored,
    deserialize_edit_of_length hstored hentry hmembers hlength, hentry, ?_, fun slot hslot =>
      KeyedList.last_place_of_ne policy (Ne.symm hslot)⟩
  rw [lastEntry, KeyedList.last_place_self]
  rcases hplaces with hone | hholds
  · exact if_pos hone
  · rw [show KeyedList.last _ other.slot policy = some other from hholds, ite_self]

/-- If the edited blob meets the specification of an edit, there was room for the entry. -/
theorem room_of_edited (hstored : storedPolicy existing = .ok (some policy))
    (h : Edited existing entry (encodePolicy (edit entry (policy.map ofPolicyEntry)))) :
    Room policy entry := by
  obtain ⟨before, after, other, -, hread, hentry, hholds, -⟩ := h
  -- The daemon has read the entry out of a blob, so its members can be counted.
  have hmembers : PolicyRegister.MembersFit [other] := fun association hmem =>
    (PolicyRegister.fits_of_deserialize hread).2 association
      (List.mem_singleton.mp hmem ▸ mem_of_lastEntry hholds)
  have hafter := Option.some.inj (Except.ok.inj
    (hread.symm.trans (deserialize_edit hstored hentry hmembers)))
  have hlength : other.slot ∉ policy.map PolicyRegister.PolicyEntry.slot →
      policy.length < 255 := by
    intro hnew
    refine Nat.lt_of_le_of_ne (fits_of_stored hstored).1 fun hfull => ?_
    -- One entry more than 255 is a count of zero.
    rw [KeyedList.length_place, if_neg hnew, hfull] at hafter
    rw [hafter] at hholds
    exact absurd hholds (by simp [lastEntry, KeyedList.last, KeyedList.under])
  refine ⟨other, hentry, hmembers, hlength, ?_⟩
  have hplaced := Option.some.inj (Except.ok.inj
    (hread.symm.trans (deserialize_edit_of_length hstored hentry hmembers hlength)))
  rw [hplaced, lastEntry, KeyedList.last_place_self] at hholds
  by_cases hone : (policy.filter fun held => held.slot = other.slot).length ≤ 1
  · exact Or.inl hone
  · exact Or.inr ((if_neg hone).symm.trans hholds)

/-- The edit changes one slot, or gives no blob, exactly if there is room for the entry in what is
stored. -/
theorem editsOneSlot_iff (existing : Bytes) (entry : PolicyEntry) :
    EditsOneSlot existing entry ↔
      ∀ policy, storedPolicy existing = .ok (some policy) → Room policy entry := by
  constructor
  · intro h policy hstored
    obtain ⟨replaced, hblob⟩ := applyEntryToBlob_of_stored entry hstored
    exact room_of_edited hstored (h.edited _ replaced hblob)
  · intro hroom
    constructor
    · intro blob replaced hblob
      by_cases hstored : ∃ policy, storedPolicy existing = .ok (some policy)
      · obtain ⟨policy, hpolicy⟩ := hstored
        obtain ⟨_, hedit⟩ := applyEntryToBlob_of_stored entry hpolicy
        obtain rfl := (Prod.mk.inj (Option.some.inj (Except.ok.inj (hblob.symm.trans hedit)))).1
        exact edited_of_room hpolicy (hroom policy hpolicy)
      · rw [applyEntryToBlob_of_not_stored fun policy hpolicy => hstored ⟨policy, hpolicy⟩] at hblob
        cases hblob
    · intro hnone
      refine applyEntryToBlob_of_not_stored fun policy hpolicy => ?_
      exact hnone _ (edited_of_room hpolicy (hroom policy hpolicy))

/-- A blob with parameter 5 twice. The edit replaces the first, and the daemon still applies the
second. -/
theorem editsOneSlot_repeated : ¬ EditsOneSlot
    [1, 2, 1, 5, 1, 0, 0, 0, 0, 1, 1, 5, 1, 0, 0, 0, 0, 2]
    { kind := 1, parameter := 5, value := 9 } := by
  intro h
  obtain ⟨_, after, other, -, hread, hentry, hholds, -⟩ := h.edited
    [1, 2, 1, 5, 1, 0, 0, 0, 0, 9, 1, 5, 1, 0, 0, 0, 0, 2] true (by rfl)
  have hafter : after = [.configuration { parameter := 5, value := 9 },
      .configuration { parameter := 5, value := 2 }] :=
    Option.some.inj (Except.ok.inj (hread.symm.trans (by rfl)))
  cases other with
  | configuration other =>
    obtain ⟨-, hparameter, -, -, hvalue⟩ := hentry
    have hslot : PolicyRegister.PolicyEntry.slot (.configuration other) = .configuration 5 :=
      congrArg _ hparameter.symm
    rw [hslot, hafter] at hholds
    have hlast := PolicyRegister.PolicyEntry.configuration.inj (Option.some.inj hholds)
    rw [← hlast] at hvalue
    exact absurd hvalue (by decide)
  | association => exact absurd hentry.1 (by decide)
  | wakeUp => exact absurd hentry.1 (by decide)

end Zwaved.Zwt
