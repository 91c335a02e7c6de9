import Zwaved.Policy.Register

/-!
# The terminal's policy codec

`policy_blob.cpp` of zwave-terminal: the client reads and writes the blobs of `PolicyRegister` by
code of its own. Its entry is one record with the fields of all kinds, of which those of its `kind`
mean something (`Corresponds`). `decodePolicy_agrees` says that the two codecs are the same format.
-/

namespace Zwaved.Zwt

/-- `zwt::PolicyEntry`. -/
structure PolicyEntry where
  /-- `kind`. -/
  kind : UInt8 := 0
  /-- `parameter`. -/
  parameter : UInt8 := 0
  /-- `size`. -/
  size : UInt8 := 1
  /-- `isSigned`. -/
  isSigned : Bool := false
  /-- `value`. -/
  value : Int32 := 0
  /-- `groupId`. -/
  groupId : UInt8 := 0
  /-- `members`. -/
  members : Bytes := []
  /-- `intervalSeconds`. -/
  intervalSeconds : UInt32 := 0
  /-- `notificationNodeId`. -/
  notificationNodeId : UInt8 := 0
  deriving DecidableEq, Repr

/-- `POLICY_BLOB_VERSION`. -/
def policyBlobVersion : UInt8 := 1

/-- `POLICY_KIND_CONFIG`. -/
def policyKindConfig : UInt8 := 1

/-- `POLICY_KIND_ASSOC`. -/
def policyKindAssoc : UInt8 := 2

/-- `POLICY_KIND_WAKEUP`. -/
def policyKindWakeUp : UInt8 := 3

/-- `POLICY_CONFIG_BODY_LEN`. -/
def policyConfigBodyLen : ℕ := 7

/-- `POLICY_ASSOC_HEADER_LEN`. -/
def policyAssocHeaderLen : ℕ := 2

/-- `POLICY_WAKEUP_BODY_LEN`. -/
def policyWakeUpBodyLen : ℕ := 5

/-- `appendU32Be`: the four bytes that it appends. -/
def u32Be (value : UInt32) : Bytes :=
  [(value >>> 24 &&& 0xFF).toUInt8, (value >>> 16 &&& 0xFF).toUInt8, (value >>> 8 &&& 0xFF).toUInt8,
    (value &&& 0xFF).toUInt8]

/-- `readU32Be`; the caller moves the position on. -/
def readU32Be (bytes : Bytes) (pos : ℕ) : Read UInt32 := do
  let b0 ← bytes.readAt pos
  let b1 ← bytes.readAt (pos + 1)
  let b2 ← bytes.readAt (pos + 2)
  let b3 ← bytes.readAt (pos + 3)
  return b0.toUInt32 <<< 24 ||| b1.toUInt32 <<< 16 ||| b2.toUInt32 <<< 8 ||| b3.toUInt32

/-- The loop over the members of an association. -/
def readMembers (bytes : Bytes) (pos : ℕ) : ℕ → Read Bytes
  | 0 => return []
  | count + 1 => do
    let member ← bytes.readAt pos
    return member :: (← readMembers bytes (pos + 1) count)

/-- The body of the loop of `decodePolicy`: an entry and the position after it. -/
def decodeEntry : Codec.Reader PastEnd UInt8 PolicyEntry := fun (bytes : Bytes) pos =>
  if pos ≥ bytes.length then return none
  else do
    let kind ← bytes.readAt pos
    let pos := pos + 1
    if kind = policyKindConfig then
      if pos + policyConfigBodyLen > bytes.length then return none
      else
        let parameter ← bytes.readAt pos
        let size ← bytes.readAt (pos + 1)
        let isSigned := (← bytes.readAt (pos + 2)) != 0
        let value := (← readU32Be bytes (pos + 3)).toInt32
        return some ({ kind, parameter, size, isSigned, value }, pos + 7)
    else if kind = policyKindAssoc then
      if pos + policyAssocHeaderLen > bytes.length then return none
      else
        let groupId ← bytes.readAt pos
        let memberCt := (← bytes.readAt (pos + 1)).toNat
        if pos + 2 + memberCt > bytes.length then return none
        else
          let members ← readMembers bytes (pos + 2) memberCt
          return some ({ kind, groupId, members }, pos + 2 + memberCt)
    else if kind = policyKindWakeUp then
      if pos + policyWakeUpBodyLen > bytes.length then return none
      else
        let intervalSeconds ← readU32Be bytes pos
        let notificationNodeId ← bytes.readAt (pos + 4)
        return some ({ kind, intervalSeconds, notificationNodeId }, pos + 5)
    else return none

/-- `decodePolicy`. -/
def decodePolicy (bytes : Bytes) : Read (Option (List PolicyEntry)) :=
  if bytes.length < 2 then return none
  else do
    if (← bytes.readAt 0) ≠ policyBlobVersion then return none
    else
      let count ← bytes.readAt 1
      return (← Codec.times decodeEntry count.toNat bytes 2).map Prod.fst

/-- What `encodePolicy` appends for an entry. -/
def encodeEntry (entry : PolicyEntry) : Bytes :=
  entry.kind ::
    (if entry.kind = policyKindConfig then
      [entry.parameter, entry.size, if entry.isSigned then 1 else 0] ++ u32Be entry.value.toUInt32
    else if entry.kind = policyKindAssoc then
      [entry.groupId, entry.members.length.toUInt8] ++ entry.members
    else if entry.kind = policyKindWakeUp then
      u32Be entry.intervalSeconds ++ [entry.notificationNodeId]
    else [])

/-- `encodePolicy`. -/
def encodePolicy (policy : List PolicyEntry) : Bytes :=
  [policyBlobVersion, policy.length.toUInt8] ++ policy.flatMap encodeEntry

/-! ## One format -/

/-- The terminal's entry and the daemon's agree in the fields of their kind. -/
def Corresponds (entry : PolicyEntry) : PolicyRegister.PolicyEntry → Prop
  | .configuration other => entry.kind = policyKindConfig ∧ entry.parameter = other.parameter ∧
      entry.size = other.size ∧ entry.isSigned = other.isSigned ∧ entry.value = other.value
  | .association other => entry.kind = policyKindAssoc ∧ entry.groupId = other.groupId ∧
      entry.members = other.members
  | .wakeUp other => entry.kind = policyKindWakeUp ∧
      entry.intervalSeconds = other.intervalSeconds ∧
      entry.notificationNodeId = other.notificationNodeId

/-- The daemon's entry with the terminal's defaults in the fields of the other kinds. -/
def ofPolicyEntry : PolicyRegister.PolicyEntry → PolicyEntry
  | .configuration other =>
    { kind := policyKindConfig, parameter := other.parameter, size := other.size,
      isSigned := other.isSigned, value := other.value }
  | .association other =>
    { kind := policyKindAssoc, groupId := other.groupId, members := other.members }
  | .wakeUp other =>
    { kind := policyKindWakeUp, intervalSeconds := other.intervalSeconds,
      notificationNodeId := other.notificationNodeId }

/-- An entry of the register corresponds to its translation. -/
theorem corresponds_ofPolicyEntry (other : PolicyRegister.PolicyEntry) :
    Corresponds (ofPolicyEntry other) other := by
  cases other with
  | configuration => exact ⟨rfl, rfl, rfl, rfl, rfl⟩
  | association => exact ⟨rfl, rfl, rfl⟩
  | wakeUp => exact ⟨rfl, rfl, rfl⟩

/-- The terminal joins four bytes as the register does. -/
theorem readU32Be_eq (bytes : Bytes) (pos : ℕ) :
    readU32Be bytes pos = PolicyRegister.readU32Be bytes pos := rfl

/-- The terminal reads members as the register does. -/
theorem readMembers_eq (bytes : Bytes) (pos count : ℕ) :
    readMembers bytes pos count = PolicyRegister.readMembers bytes pos count := by
  induction count generalizing pos with
  | zero => rfl
  | succ count ih => simp only [readMembers, PolicyRegister.readMembers, ih]

/-- The terminal reads an entry as the daemon does. -/
theorem decodeEntry_eq : decodeEntry = PolicyRegister.deserializeEntry.map ofPolicyEntry := by
  funext bytes pos
  -- A view of what is read after a byte is one of what is read, byte or no byte.
  have hbind {α : Type} (read : Read α)
      (rest : α → Read (Option (PolicyRegister.PolicyEntry × ℕ))) :
      (read >>= rest).map (Option.map (Prod.map ofPolicyEntry id)) =
        read >>= fun a => (rest a).map (Option.map (Prod.map ofPolicyEntry id)) := by
    cases read <;> rfl
  have hite := @apply_ite (Read _) _ (Except.map (Option.map (Prod.map ofPolicyEntry (@id ℕ))))
  unfold Codec.Reader.map decodeEntry PolicyRegister.deserializeEntry
  by_cases hend : pos ≥ List.length bytes
  · rw [if_pos hend, if_pos hend]
    rfl
  rw [if_neg hend, if_neg hend, hbind]
  refine congrArg _ (funext fun kind => ?_)
  dsimp only
  by_cases hconfig : kind = policyKindConfig
  · rw [if_pos hconfig, if_pos (c := kind = PolicyRegister.kindConfiguration) hconfig]
    subst hconfig
    simp only [hbind, hite, readU32Be_eq]
    rfl
  rw [if_neg hconfig, if_neg (c := kind = PolicyRegister.kindConfiguration) hconfig]
  by_cases hassoc : kind = policyKindAssoc
  · rw [if_pos hassoc, if_pos (c := kind = PolicyRegister.kindAssociation) hassoc]
    subst hassoc
    simp only [hbind, hite, readMembers_eq]
    rfl
  rw [if_neg hassoc, if_neg (c := kind = PolicyRegister.kindAssociation) hassoc]
  by_cases hwakeUp : kind = policyKindWakeUp
  · rw [if_pos hwakeUp, if_pos (c := kind = PolicyRegister.kindWakeUp) hwakeUp]
    subst hwakeUp
    simp only [hbind, hite, readU32Be_eq]
    rfl
  · rw [if_neg hwakeUp, if_neg (c := kind = PolicyRegister.kindWakeUp) hwakeUp]
    rfl

/-- The terminal reads a blob as the daemon does. -/
theorem decodePolicy_eq (bytes : Bytes) : decodePolicy bytes =
    (PolicyRegister.deserialize bytes).map (Option.map (List.map ofPolicyEntry)) := by
  have hread : decodePolicy bytes = readCounted policyBlobVersion decodeEntry bytes := rfl
  rw [hread, decodeEntry_eq, readCounted_map]
  rfl

/-- An entry is laid down as the one that it corresponds to. -/
theorem encodeEntry_eq {entry : PolicyEntry} {other : PolicyRegister.PolicyEntry}
    (h : Corresponds entry other) : encodeEntry entry = PolicyRegister.serializeEntry other := by
  cases other with
  | configuration other =>
    obtain ⟨hkind, hparameter, hsize, hsigned, hvalue⟩ := h
    rw [encodeEntry, if_pos hkind, hkind, hparameter, hsize, hsigned, hvalue]
    rfl
  | association other =>
    obtain ⟨hkind, hgroup, hmembers⟩ := h
    rw [encodeEntry, if_neg (by rw [hkind]; decide), if_pos hkind, hkind, hgroup, hmembers]
    rfl
  | wakeUp other =>
    obtain ⟨hkind, hinterval, hnode⟩ := h
    rw [encodeEntry, if_neg (by rw [hkind]; decide), if_neg (by rw [hkind]; decide), if_pos hkind,
      hkind, hinterval, hnode]
    rfl

/-- Corresponding entries are laid down as the same bytes. -/
theorem encodePolicy_eq {entries : List PolicyEntry} {policy : PolicyRegister.Policy}
    (h : List.Forall₂ Corresponds entries policy) :
    encodePolicy entries = PolicyRegister.serialize policy := by
  have hentries : entries.flatMap encodeEntry = policy.flatMap PolicyRegister.serializeEntry := by
    induction h with
    | nil => rfl
    | cons hentry _ ih => rw [List.flatMap_cons, List.flatMap_cons, encodeEntry_eq hentry, ih]
  rw [encodePolicy, PolicyRegister.serialize, h.length_eq, hentries]
  rfl

/-- A policy of the register corresponds, entry by entry, to its translation. -/
theorem forall₂_corresponds (policy : PolicyRegister.Policy) :
    List.Forall₂ Corresponds (policy.map ofPolicyEntry) policy := by
  rw [List.forall₂_map_left_iff, List.forall₂_same]
  exact fun other _ => corresponds_ofPolicyEntry other

/-- The two codecs are the same format. They refuse the same bytes and read corresponding entries
from all others, and corresponding entries are laid down as the same bytes. -/
theorem decodePolicy_agrees :
    (∀ bytes, (decodePolicy bytes = .ok none ∧ PolicyRegister.deserialize bytes = .ok none) ∨
      ∃ entries policy, decodePolicy bytes = .ok (some entries) ∧
        PolicyRegister.deserialize bytes = .ok (some policy) ∧
        List.Forall₂ Corresponds entries policy) ∧
      ∀ entries policy, List.Forall₂ Corresponds entries policy →
        encodePolicy entries = PolicyRegister.serialize policy := by
  refine ⟨fun bytes => ?_, fun entries policy h => encodePolicy_eq h⟩
  rcases PolicyRegister.deserialize_cases bytes
    with hnone | ⟨count, policy, form, after, -, -, hread⟩
  · exact Or.inl ⟨by rw [decodePolicy_eq, hnone]; rfl, hnone⟩
  · refine Or.inr ⟨policy.map ofPolicyEntry, policy, ?_, hread, forall₂_corresponds policy⟩
    rw [decodePolicy_eq, hread]
    rfl

/-- So a blob with an entry of each kind is written by both alike. -/
theorem decodePolicy_agrees_allKinds :
    encodePolicy [{ kind := 1, parameter := 3, value := -5, groupId := 9 },
        { kind := 2, groupId := 1, members := [1, 5] }, { kind := 3, intervalSeconds := 3600 }] =
      PolicyRegister.serialize [.configuration { parameter := 3, value := -5 },
        .association { groupId := 1, members := [1, 5] }, .wakeUp { intervalSeconds := 3600 }] :=
  decodePolicy_agrees.2 _ _ (.cons ⟨rfl, rfl, rfl, rfl, rfl⟩
    (.cons ⟨rfl, rfl, rfl⟩ (.cons ⟨rfl, rfl, rfl⟩ .nil)))

end Zwaved.Zwt
