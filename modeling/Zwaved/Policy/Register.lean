import Mathlib.Tactic.NormNum
import Zwaved.Codec.Counted

/-!
# The policy blob

`PolicyRegister.cpp`: what is to be set on a node after its inclusion is a policy, a list of entries
of three kinds, and `serialize` lays it down as a blob for the database: a version, a count, and the
entries, each with its kind ahead of it. `deserialize` works its way through a blob by a position,
with the reads of `Reads`.

`EntryForm` is the format: the bytes that `deserialize` takes for an entry. They are those that
`serialize` writes, but the byte that says whether a configuration value is signed may be any byte
other than zero.
-/

namespace Zwaved.PolicyRegister

/-- `ConfigurationEntry`. -/
structure ConfigurationEntry where
  /-- `parameter`. -/
  parameter : UInt8 := 0
  /-- `size`. -/
  size : UInt8 := 1
  /-- `isSigned`. -/
  isSigned : Bool := false
  /-- `value`. -/
  value : Int32 := 0
  deriving DecidableEq, Repr

/-- `AssociationEntry`. -/
structure AssociationEntry where
  /-- `groupId`. -/
  groupId : UInt8 := 0
  /-- `members`. -/
  members : Bytes := []
  deriving DecidableEq, Repr

/-- `WakeUpEntry`. -/
structure WakeUpEntry where
  /-- `intervalSeconds`. -/
  intervalSeconds : UInt32 := 0
  /-- `notificationNodeId`. -/
  notificationNodeId : UInt8 := 0
  deriving DecidableEq, Repr

/-- `PolicyEntry`. -/
inductive PolicyEntry
  | configuration (entry : ConfigurationEntry)
  | association (entry : AssociationEntry)
  | wakeUp (entry : WakeUpEntry)
  deriving DecidableEq, Repr

/-- `Policy`. -/
abbrev Policy := List PolicyEntry

/-- `POLICY_BLOB_VERSION`. -/
def policyBlobVersion : UInt8 := 1

/-- `KIND_CONFIGURATION`. -/
def kindConfiguration : UInt8 := 1

/-- `KIND_ASSOCIATION`. -/
def kindAssociation : UInt8 := 2

/-- `KIND_WAKEUP`. -/
def kindWakeUp : UInt8 := 3

/-- `CONFIG_BODY_LEN`. -/
def configBodyLen : ℕ := 7

/-- `ASSOC_HEADER_LEN`. -/
def assocHeaderLen : ℕ := 2

/-- `WAKEUP_BODY_LEN`. -/
def wakeUpBodyLen : ℕ := 5

/-- `appendU32Be`: the four bytes that it appends. -/
def u32Be (value : UInt32) : Bytes :=
  [(value >>> 24 &&& 0xFF).toUInt8, (value >>> 16 &&& 0xFF).toUInt8, (value >>> 8 &&& 0xFF).toUInt8,
    (value &&& 0xFF).toUInt8]

/-- The number that four bytes are. -/
def joinU32Be (b0 b1 b2 b3 : UInt8) : UInt32 :=
  b0.toUInt32 <<< 24 ||| b1.toUInt32 <<< 16 ||| b2.toUInt32 <<< 8 ||| b3.toUInt32

/-- `readU32Be`; the caller moves the position on. -/
def readU32Be (bytes : Bytes) (pos : ℕ) : Read UInt32 := do
  return joinU32Be (← bytes.readAt pos) (← bytes.readAt (pos + 1)) (← bytes.readAt (pos + 2))
    (← bytes.readAt (pos + 3))

/-- What `serialize` appends for an entry. -/
def serializeEntry : PolicyEntry → Bytes
  | .configuration entry =>
    [kindConfiguration, entry.parameter, entry.size, if entry.isSigned then 1 else 0] ++
      u32Be entry.value.toUInt32
  | .association entry =>
    [kindAssociation, entry.groupId, entry.members.length.toUInt8] ++ entry.members
  | .wakeUp entry => kindWakeUp :: u32Be entry.intervalSeconds ++ [entry.notificationNodeId]

/-- `serialize`. -/
def serialize (policy : Policy) : Bytes :=
  [policyBlobVersion, policy.length.toUInt8] ++ policy.flatMap serializeEntry

/-- The loop over the members of an association. -/
def readMembers (bytes : Bytes) (pos : ℕ) : ℕ → Read Bytes
  | 0 => return []
  | count + 1 => do
    let member ← bytes.readAt pos
    return member :: (← readMembers bytes (pos + 1) count)

/-- The body of the loop of `deserialize`: an entry and the position after it. -/
def deserializeEntry : Codec.Reader PastEnd UInt8 PolicyEntry := fun (bytes : Bytes) pos =>
  if pos ≥ bytes.length then return none
  else do
    let kind ← bytes.readAt pos
    let pos := pos + 1
    if kind = kindConfiguration then
      if pos + configBodyLen > bytes.length then return none
      else
        let parameter ← bytes.readAt pos
        let size ← bytes.readAt (pos + 1)
        let isSigned := (← bytes.readAt (pos + 2)) != 0
        let value := (← readU32Be bytes (pos + 3)).toInt32
        return some (.configuration { parameter, size, isSigned, value }, pos + 7)
    else if kind = kindAssociation then
      if pos + assocHeaderLen > bytes.length then return none
      else
        let groupId ← bytes.readAt pos
        let memberCt := (← bytes.readAt (pos + 1)).toNat
        if pos + 2 + memberCt > bytes.length then return none
        else
          let members ← readMembers bytes (pos + 2) memberCt
          return some (.association { groupId, members }, pos + 2 + memberCt)
    else if kind = kindWakeUp then
      if pos + wakeUpBodyLen > bytes.length then return none
      else
        let intervalSeconds ← readU32Be bytes pos
        let notificationNodeId ← bytes.readAt (pos + 4)
        return some (.wakeUp { intervalSeconds, notificationNodeId }, pos + 5)
    else return none

/-- `deserialize`. -/
def deserialize (bytes : Bytes) : Read (Option Policy) :=
  if bytes.length < 2 then return none
  else do
    if (← bytes.readAt 0) ≠ policyBlobVersion then return none
    else
      let count ← bytes.readAt 1
      return (← Codec.times deserializeEntry count.toNat bytes 2).map Prod.fst

/-! ## Numbers -/

/-- Four bytes joined are their big-endian number: no shift overflows. -/
theorem toNat_joinU32Be (b0 b1 b2 b3 : UInt8) : (joinU32Be b0 b1 b2 b3).toNat =
    b0.toNat * 2 ^ 24 + b1.toNat * 2 ^ 16 + b2.toNat * 2 ^ 8 + b3.toNat := by
  -- The bits of a byte and of what is shifted above it do not overlap, so joining them is adding.
  have hor : ∀ high low : ℕ, low < 2 ^ 8 → (high <<< 8 ||| low) = high * 2 ^ 8 + low := by
    intro high low hlow
    rw [← Nat.shiftLeft_add_eq_or_of_lt hlow, Nat.shiftLeft_eq]
  -- No shift leaves the 32 bits.
  have hfits : ∀ (b : UInt8) (k : ℕ), k ≤ 24 → b.toNat <<< k % 2 ^ 32 = b.toNat <<< k := by
    intro b k hk
    apply Nat.mod_eq_of_lt
    calc b.toNat <<< k = b.toNat * 2 ^ k := Nat.shiftLeft_eq ..
      _ < 2 ^ 8 * 2 ^ k := Nat.mul_lt_mul_of_pos_right b.toNat_lt (Nat.two_pow_pos k)
      _ ≤ 2 ^ 8 * 2 ^ 24 := Nat.mul_le_mul_left _ (Nat.pow_le_pow_right (by omega) hk)
      _ = 2 ^ 32 := by norm_num
  have hjoin : (joinU32Be b0 b1 b2 b3).toNat =
      ((b0.toNat <<< 8 ||| b1.toNat) <<< 8 ||| b2.toNat) <<< 8 ||| b3.toNat := by
    have h24 := hfits b0 24 (by omega)
    have h16 := hfits b1 16 (by omega)
    have h8 := hfits b2 8 (by omega)
    simp only [joinU32Be, UInt32.toNat_or, UInt32.toNat_shiftLeft, UInt8.toNat_toUInt32,
      Nat.shiftLeft_or_distrib, ← Nat.shiftLeft_add]
    rw [show (24 : UInt32).toNat % 32 = 24 from rfl, show (16 : UInt32).toNat % 32 = 16 from rfl,
      show (8 : UInt32).toNat % 32 = 8 from rfl, h24, h16, h8]
  rw [hjoin, hor _ _ b3.toNat_lt, hor _ _ b2.toNat_lt, hor _ _ b1.toNat_lt]
  omega

/-- The bytes of a number are its digits to the base 256. -/
theorem toNat_mem_u32Be (value : UInt32) :
    (value >>> 24 &&& 0xFF).toUInt8.toNat = value.toNat / 2 ^ 24 % 2 ^ 8 ∧
      (value >>> 16 &&& 0xFF).toUInt8.toNat = value.toNat / 2 ^ 16 % 2 ^ 8 ∧
      (value >>> 8 &&& 0xFF).toUInt8.toNat = value.toNat / 2 ^ 8 % 2 ^ 8 ∧
      (value &&& 0xFF).toUInt8.toNat = value.toNat % 2 ^ 8 := by
  have hdigit (digits : UInt32) : (digits &&& 0xFF).toUInt8.toNat = digits.toNat % 2 ^ 8 := by
    rw [UInt32.toNat_toUInt8, UInt32.toNat_and, show (0xFF : UInt32).toNat = 2 ^ 8 - 1 from rfl,
      Nat.and_two_pow_sub_one_eq_mod, Nat.mod_mod]
  simp only [hdigit, UInt32.toNat_shiftRight, Nat.shiftRight_eq_div_pow, and_true]
  exact ⟨rfl, rfl, rfl⟩

/-- The four bytes of a joined value are those that were joined. -/
theorem u32Be_joinU32Be (b0 b1 b2 b3 : UInt8) :
    u32Be (joinU32Be b0 b1 b2 b3) = [b0, b1, b2, b3] := by
  have h0 := b0.toNat_lt
  have h1 := b1.toNat_lt
  have h2 := b2.toNat_lt
  have h3 := b3.toNat_lt
  have hjoin := toNat_joinU32Be b0 b1 b2 b3
  obtain ⟨d0, d1, d2, d3⟩ := toNat_mem_u32Be (joinU32Be b0 b1 b2 b3)
  simp only [u32Be, List.cons.injEq, and_true, ← UInt8.toNat_inj]
  omega

/-- Every 32-bit value is the join of its four bytes. -/
theorem exists_u32Be (value : UInt32) :
    ∃ b0 b1 b2 b3, u32Be value = [b0, b1, b2, b3] ∧ joinU32Be b0 b1 b2 b3 = value := by
  refine ⟨_, _, _, _, rfl, ?_⟩
  have hvalue := value.toNat_lt
  obtain ⟨d0, d1, d2, d3⟩ := toNat_mem_u32Be value
  rw [← UInt32.toNat_inj, toNat_joinU32Be]
  omega

/-! ## Entries -/

/-- The entry of a kind that the bytes after the kind begin with, and how many of them it takes. -/
def entryOf (kind : UInt8) (body : Bytes) : Option (PolicyEntry × ℕ) :=
  if kind = kindConfiguration then
    if body.length < configBodyLen then none
    else some (.configuration
      { parameter := body.byte 0
        size := body.byte 1
        isSigned := body.byte 2 != 0
        value := (joinU32Be (body.byte 3) (body.byte 4) (body.byte 5) (body.byte 6)).toInt32 }, 7)
  else if kind = kindAssociation then
    if body.length < assocHeaderLen ∨ body.length < 2 + (body.byte 1).toNat then none
    else some (.association
      { groupId := body.byte 0, members := body.subspan 2 (body.byte 1).toNat },
      2 + (body.byte 1).toNat)
  else if kind = kindWakeUp then
    if body.length < wakeUpBodyLen then none
    else some (.wakeUp
      { intervalSeconds := joinU32Be (body.byte 0) (body.byte 1) (body.byte 2) (body.byte 3)
        notificationNodeId := body.byte 4 }, 5)
  else none

variable (before : Bytes) {tail : Bytes}

/-- Four bytes that lie behind some others are joined as they stand. -/
theorem readU32Be_append {i : ℕ} (h : i + 3 < tail.length) :
    readU32Be (before ++ tail) (before.length + i) =
      .ok (joinU32Be (tail.byte i) (tail.byte (i + 1)) (tail.byte (i + 2))
        (tail.byte (i + 3))) := by
  unfold readU32Be
  rw [Bytes.readAt_append before (by omega), Nat.add_assoc, Bytes.readAt_append before (by omega),
    Nat.add_assoc, Bytes.readAt_append before (by omega), Nat.add_assoc,
    Bytes.readAt_append before (by omega)]
  rfl

/-- Members that lie behind some other bytes are read as they stand. -/
theorem readMembers_append {i count : ℕ} (h : i + count ≤ tail.length) :
    readMembers (before ++ tail) (before.length + i) count = .ok (tail.subspan i count) := by
  induction count generalizing i with
  | zero => rfl
  | succ count ih =>
    have hspan : tail.subspan i (count + 1) = tail.byte i :: tail.subspan (i + 1) count := by
      rw [Bytes.subspan, List.drop_eq_getElem_cons (by omega), List.take_succ_cons]
      simp [Bytes.byte, Bytes.subspan, List.getElem?_eq_getElem (show i < tail.length by omega)]
    rw [readMembers, Bytes.readAt_append before (by omega), Nat.add_assoc, ih (by omega), hspan]
    rfl

/-- An entry is read from what follows the position, and never past the end. -/
theorem deserializeEntry_append (kind : UInt8) (body : Bytes) :
    deserializeEntry (before ++ kind :: body) before.length =
      .ok ((entryOf kind body).map fun read => (read.1, before.length + 1 + read.2)) := by
  -- The version is one more byte in front, so that the body starts at a place of its own.
  obtain ⟨pre, hpre⟩ : ∃ pre, pre = before ++ [kind] := ⟨_, rfl⟩
  have hbytes : before ++ kind :: body = pre ++ body := by simp [hpre]
  have hpos : before.length + 1 = pre.length := by simp [hpre]
  have hlength : (pre ++ body).length = pre.length + body.length := List.length_append
  have hkind : Bytes.readAt (before ++ kind :: body) before.length = .ok kind :=
    Bytes.readAt_append before (i := 0) (by simp)
  have hread (i : ℕ) (h : i < body.length) := Bytes.readAt_append pre h
  have hfirst (h : 0 < body.length) : Bytes.readAt (pre ++ body) pre.length = .ok (body.byte 0) :=
    hread 0 h
  rw [deserializeEntry, if_neg (by simp), hkind, hbytes, hpos]
  simp only [Read.ok_bind, Read.pure_eq_ok]
  unfold entryOf
  -- The kinds are asked for in the order of the source. The guard of each body refuses what is too
  -- short for it, so no read is past the end.
  by_cases hconfiguration : kind = kindConfiguration
  · rw [if_pos hconfiguration, if_pos hconfiguration, hlength]
    have hbody : configBodyLen = 7 := rfl
    by_cases hshort : body.length < configBodyLen
    · rw [if_pos hshort, if_pos (by omega)]
      rfl
    · rw [if_neg hshort, if_neg (by omega), hfirst (by omega), hread 1 (by omega),
        hread 2 (by omega), readU32Be_append pre (by omega)]
      rfl
  rw [if_neg hconfiguration, if_neg hconfiguration]
  by_cases hassociation : kind = kindAssociation
  · rw [if_pos hassociation, if_pos hassociation, hlength]
    have hheader : assocHeaderLen = 2 := rfl
    by_cases hshort : body.length < assocHeaderLen
    · rw [if_pos (Or.inl hshort), if_pos (by omega)]
      rfl
    · rw [if_neg (show ¬ pre.length + assocHeaderLen > _ by omega), hfirst (by omega),
        hread 1 (by omega)]
      simp only [Read.ok_bind]
      -- The count of the members is read before it is known that they are there.
      by_cases hmembers : body.length < 2 + (body.byte 1).toNat
      · rw [if_pos (Or.inr hmembers), if_pos (by omega)]
        rfl
      · rw [if_neg (by omega), if_neg (by omega), readMembers_append pre (by omega)]
        simp [Nat.add_assoc]
  rw [if_neg hassociation, if_neg hassociation]
  by_cases hwakeUp : kind = kindWakeUp
  · rw [if_pos hwakeUp, if_pos hwakeUp, hlength]
    have hbody : wakeUpBodyLen = 5 := rfl
    by_cases hshort : body.length < wakeUpBodyLen
    · rw [if_pos hshort, if_pos (by omega)]
      rfl
    · have hinterval := @readU32Be_append pre body 0 (by omega)
      rw [Nat.add_zero] at hinterval
      rw [if_neg hshort, if_neg (by omega), hinterval, hread 4 (by omega)]
      rfl
  · rw [if_neg hwakeUp, if_neg hwakeUp]
    rfl

/-! ## The format -/

/-- The forms of an entry in a blob. -/
def EntryForm : PolicyEntry → Bytes → Prop
  | .configuration entry, form => ∃ signed : UInt8, entry.isSigned = (signed != 0) ∧
      form = [kindConfiguration, entry.parameter, entry.size, signed] ++ u32Be entry.value.toUInt32
  | .association entry, form =>
      entry.members.length ≤ 255 ∧ form = serializeEntry (.association entry)
  | .wakeUp entry, form => form = serializeEntry (.wakeUp entry)

variable {entry : PolicyEntry} {kind : UInt8} {body : Bytes}

/-- A form of an entry is read as the entry, whatever follows it. -/
theorem entryOf_form (h : EntryForm entry (kind :: body)) (after : Bytes) :
    entryOf kind (body ++ after) = some (entry, body.length) := by
  cases entry with
  | configuration entry =>
    -- The signed byte is taken as it is, since the form leaves it open.
    obtain ⟨signed, hsigned, hform⟩ := h
    obtain ⟨b0, b1, b2, b3, hvalue, hjoin⟩ := exists_u32Be entry.value.toUInt32
    rw [hvalue] at hform
    obtain ⟨rfl, rfl⟩ := List.cons.inj hform
    simp [entryOf, configBodyLen, Bytes.byte, hjoin, ← hsigned]
  | association entry =>
    obtain ⟨hcount, hform⟩ := h
    obtain ⟨rfl, rfl⟩ := List.cons.inj hform
    -- The count fits its byte, so the byte says how many members there are.
    have hmembers : entry.members.length.toUInt8.toNat = entry.members.length := by
      rw [Nat.toUInt8_eq, UInt8.toNat_ofNat']
      omega
    have hother : ¬ kindAssociation = kindConfiguration := by decide
    simp [entryOf, hother, assocHeaderLen, Bytes.byte, Bytes.subspan, hmembers]
    omega
  | wakeUp entry =>
    obtain ⟨b0, b1, b2, b3, hvalue, hjoin⟩ := exists_u32Be entry.intervalSeconds
    simp only [EntryForm, serializeEntry, hvalue] at h
    obtain ⟨rfl, rfl⟩ := List.cons.inj h
    have hother : ¬ kindWakeUp = kindConfiguration ∧ ¬ kindWakeUp = kindAssociation := by decide
    simp [entryOf, hother, wakeUpBodyLen, Bytes.byte, hjoin]

/-- A body that is read as an entry begins with a form of the entry, as long as the count says. -/
theorem form_entryOf {count : ℕ} (h : entryOf kind body = some (entry, count)) :
    ∃ form after, body = form ++ after ∧ form.length = count ∧ EntryForm entry (kind :: form) := by
  unfold entryOf at h
  split at h
  -- The body is cut where the entry ends, and the bytes read are written back.
  · next hkind =>
    split at h
    · cases h
    next hlength =>
    obtain ⟨rfl, rfl⟩ := Prod.mk.inj (Option.some.inj h)
    have hbody : 7 ≤ body.length := Nat.le_of_not_lt hlength
    refine ⟨body.take 7, body.drop 7, (List.take_append_drop 7 body).symm, by simp [hbody],
      body.byte 2, rfl, ?_⟩
    rw [Bytes.take_eq_map_byte hbody, hkind, UInt32.toUInt32_toInt32, u32Be_joinU32Be]
    rfl
  split at h
  · next hkind =>
    split at h
    · cases h
    next hlength =>
    obtain ⟨rfl, rfl⟩ := Prod.mk.inj (Option.some.inj h)
    -- An association is as long as its own count says.
    obtain ⟨hheader, hmembers⟩ := not_or.mp hlength
    have hcount := (body.byte 1).toNat_lt
    have hspan : (body.subspan 2 (body.byte 1).toNat).length = (body.byte 1).toNat := by
      simp only [Bytes.subspan, List.length_take, List.length_drop]
      omega
    refine ⟨body.take (2 + (body.byte 1).toNat), _, (List.take_append_drop _ body).symm,
      by simp only [List.length_take]; omega, ?_, ?_⟩
    · dsimp only
      omega
    · rw [List.take_add, Bytes.take_eq_map_byte (show 2 ≤ body.length by omega), hkind]
      simp only [serializeEntry, hspan]
      simp [List.range_succ, Bytes.subspan]
  split at h
  -- The interval is written back byte for byte, and the node follows it.
  · next hkind =>
    split at h
    · cases h
    next hlength =>
    obtain ⟨rfl, rfl⟩ := Prod.mk.inj (Option.some.inj h)
    have hbody : 5 ≤ body.length := Nat.le_of_not_lt hlength
    refine ⟨body.take 5, body.drop 5, (List.take_append_drop 5 body).symm, by simp [hbody], ?_⟩
    rw [EntryForm, serializeEntry, Bytes.take_eq_map_byte hbody, hkind, u32Be_joinU32Be]
    rfl
  · cases h

/-- `deserializeEntry` parses the entries in their forms. -/
theorem parses_deserializeEntry : Codec.Parses deserializeEntry EntryForm := by
  constructor
  -- The form of an entry is read as that entry, wherever it stands.
  · intro entry form hform before after
    cases form with
    | nil => cases entry <;> simp [EntryForm, serializeEntry] at hform
    | cons kind body =>
      rw [List.cons_append, deserializeEntry_append, entryOf_form hform]
      simp only [Option.map_some, List.length_cons]
      rw [Nat.add_assoc, Nat.add_comm 1]
  -- What is read was a form, and the rest is left for the next entry.
  · intro before tail
    cases tail with
    | nil => exact Or.inl (by simp [deserializeEntry])
    | cons kind body =>
      rw [deserializeEntry_append]
      cases hentry : entryOf kind body with
      | none => exact Or.inl rfl
      | some read =>
        obtain ⟨entry, count⟩ := read
        obtain ⟨form, after, rfl, rfl, hform⟩ := form_entryOf hentry
        refine Or.inr ⟨entry, kind :: form, after, rfl, hform, ?_⟩
        simp only [Option.map_some, List.length_cons]
        rw [Nat.add_assoc, Nat.add_comm 1]

/-! ## The blob -/

/-- `deserialize` is the reader of counted entries behind a version. -/
theorem deserialize_eq : deserialize = readCounted policyBlobVersion deserializeEntry := rfl

/-- `serialize` is the writer of counted entries behind a version. -/
theorem serialize_eq : serialize = writeCounted policyBlobVersion serializeEntry := rfl

/-- `deserialize` never reads past the end, and what it reads stands in the blob entry by entry. -/
theorem deserialize_cases (bytes : Bytes) : deserialize bytes = .ok none ∨
    ∃ count policy form after, bytes = policyBlobVersion :: count :: (form ++ after) ∧
      Codec.Counted EntryForm count.toNat policy form ∧ deserialize bytes = .ok (some policy) :=
  readCounted_cases parses_deserializeEntry bytes

/-- Where the serialized policy has the byte that says whether a configuration value is signed. -/
def SignedByteAt (policy : Policy) (i : ℕ) : Prop :=
  ∃ before entry after, policy = before ++ .configuration entry :: after ∧
    i = (serialize before).length + 3

/-- The blob is what `serialize` writes, but for signed bytes other than zero and one. -/
def Normalises (policy : Policy) (blob : Bytes) : Prop :=
  blob.length = (serialize policy).length ∧
    ∀ i, blob.byte i = (serialize policy).byte i ∨
      (SignedByteAt policy i ∧ blob.byte i ≠ 0 ∧ (serialize policy).byte i = 1)

/-- What `serialize` writes can be read back: its counts are bytes. -/
def Fits (policy : Policy) : Prop :=
  policy.length ≤ 255 ∧ ∀ entry, .association entry ∈ policy → entry.members.length ≤ 255

/-- The associations of a policy have no more members than a byte can count. -/
def MembersFit (policy : Policy) : Prop :=
  ∀ entry, .association entry ∈ policy → entry.members.length ≤ 255

/-- What `serialize` writes for an entry is a form of it. -/
theorem entryForm_serializeEntry {policy : Policy} (hmembers : MembersFit policy)
    (h : entry ∈ policy) : EntryForm entry (serializeEntry entry) := by
  cases entry with
  | configuration entry =>
    refine ⟨if entry.isSigned then 1 else 0, ?_, rfl⟩
    cases entry.isSigned <;> rfl
  | association entry => exact ⟨hmembers entry h, rfl⟩
  | wakeUp entry => rfl

/-- What `serialize` writes is read back as far as the count goes, which is one byte. -/
theorem deserialize_serialize_take {policy : Policy} (hmembers : MembersFit policy) :
    deserialize (serialize policy) = .ok (some (policy.take (policy.length % 256))) := by
  rw [deserialize_eq, serialize_eq]
  exact readCounted_writeCounted parses_deserializeEntry fun entry hentry =>
    entryForm_serializeEntry hmembers hentry

/-- A policy that fits a blob is read back whole from its blob. -/
theorem deserialize_serialize {policy : Policy} (hfits : Fits policy) :
    deserialize (serialize policy) = .ok (some policy) := by
  have hlength : policy.length % 256 = policy.length :=
    Nat.mod_eq_of_lt (Nat.lt_succ_of_le hfits.1)
  rw [deserialize_serialize_take hfits.2, hlength, List.take_length]

/-- What is read from a blob fits into one. -/
theorem fits_of_deserialize {bytes : Bytes} {policy : Policy}
    (h : deserialize bytes = .ok (some policy)) : Fits policy := by
  obtain ⟨hlength, hforms⟩ := forms_of_readCounted parses_deserializeEntry h
  refine ⟨hlength, fun entry hentry => ?_⟩
  obtain ⟨form, hform⟩ := hforms _ hentry
  exact hform.1

/-- A form of an entry is what `serialize` writes for it, but for a signed byte. -/
theorem entryForm_byte {form : Bytes} (h : EntryForm entry form) :
    form.length = (serializeEntry entry).length ∧
      ∀ i, form.byte i = (serializeEntry entry).byte i ∨
        ((∃ configuration, entry = .configuration configuration) ∧ i = 3 ∧ form.byte i ≠ 0 ∧
          (serializeEntry entry).byte i = 1) := by
  cases entry with
  | configuration entry =>
    obtain ⟨signed, hsigned, rfl⟩ := h
    refine ⟨rfl, fun i => ?_⟩
    match i with
    | 0 => exact Or.inl rfl
    | 1 => exact Or.inl rfl
    | 2 => exact Or.inl rfl
    | 3 =>
      by_cases hzero : signed = 0
      · exact Or.inl (by simp [Bytes.byte, serializeEntry, hsigned, hzero])
      · refine Or.inr ⟨⟨entry, rfl⟩, rfl, hzero, ?_⟩
        simp [Bytes.byte, serializeEntry, hsigned, hzero]
    | i + 4 => exact Or.inl rfl
  | association entry => exact ⟨congrArg List.length h.2, fun i => Or.inl (by rw [h.2])⟩
  | wakeUp entry => exact ⟨congrArg List.length h, fun i => Or.inl (by rw [h])⟩

/-- The signed byte of a configuration entry that comes first is the fifth one. -/
theorem signedByteAt_head (entry : ConfigurationEntry) (policy : Policy) :
    SignedByteAt (.configuration entry :: policy) 5 := ⟨[], entry, policy, rfl, rfl⟩

/-- With one more entry in front, a signed byte stands as much further back as that entry is
long. -/
theorem SignedByteAt.cons {policy : Policy} {i : ℕ} (h : SignedByteAt policy i)
    (entry : PolicyEntry) : SignedByteAt (entry :: policy) ((serializeEntry entry).length + i) := by
  obtain ⟨before, configuration, after, rfl, rfl⟩ := h
  refine ⟨entry :: before, configuration, after, rfl, ?_⟩
  simp only [serialize, List.flatMap_cons, List.length_append, List.length_cons, List.length_nil]
  omega

/-- The forms of a policy's entries are as long as what is serialised, and differ from it only in
signed bytes, which read as set when they are not zero. -/
theorem forms_byte {policy : Policy} {forms : List Bytes}
    (h : List.Forall₂ EntryForm policy forms) :
    forms.flatten.length = (policy.flatMap serializeEntry).length ∧
      ∀ i, Bytes.byte forms.flatten i = Bytes.byte (policy.flatMap serializeEntry) i ∨
        (SignedByteAt policy (i + 2) ∧ Bytes.byte forms.flatten i ≠ 0 ∧
          Bytes.byte (policy.flatMap serializeEntry) i = 1) := by
  -- The entries are written one behind another, and so are their forms, of the same lengths.
  induction h with
  | nil => exact ⟨rfl, fun i => Or.inl rfl⟩
  | @cons entry form policy forms hform _ ih =>
    obtain ⟨hlength, hbyte⟩ := entryForm_byte hform
    rw [List.flatten_cons, List.flatMap_cons]
    refine ⟨by rw [List.length_append, List.length_append, hlength, ih.1], fun i => ?_⟩
    by_cases hi : i < form.length
    · -- The byte is one of the first entry.
      rw [Bytes.byte_append_left _ hi, Bytes.byte_append_left _ (hlength ▸ hi)]
      rcases hbyte i with heq | ⟨⟨configuration, rfl⟩, rfl, hsigned⟩
      · exact Or.inl heq
      · exact Or.inr ⟨signedByteAt_head configuration policy, hsigned⟩
    -- The byte is one of the others, at its place behind the first entry.
    · obtain ⟨j, rfl⟩ := Nat.exists_eq_add_of_le (Nat.le_of_not_lt hi)
      rw [Bytes.byte_append_right, hlength, Bytes.byte_append_right]
      rcases ih.2 j with heq | ⟨hat, hsigned⟩
      · exact Or.inl heq
      · exact Or.inr ⟨hat.cons entry, hsigned⟩

/-- The format of the blob. What `serialize` writes is read back; what is read has a blob at the
head of the bytes, as `serialize` writes it but for signed bytes; and no read is past the end. -/
theorem deserialize_exact :
    (∀ policy, Fits policy → deserialize (serialize policy) = .ok (some policy)) ∧
      (∀ bytes policy, deserialize bytes = .ok (some policy) →
        ∃ blob after, bytes = blob ++ after ∧ Normalises policy blob) ∧
      ∀ bytes, ∃ result, deserialize bytes = .ok result := by
  refine ⟨fun policy => deserialize_serialize, fun bytes policy h => ?_, fun bytes => ?_⟩
  -- What is read back has a form, and the blob of its policy differs from that at most in signed
  -- bytes.
  · rcases deserialize_cases bytes with hnone | ⟨count, found, form, after, rfl, hform, hread⟩
    · cases hnone.symm.trans h
    · obtain rfl := Option.some.inj (Except.ok.inj (hread.symm.trans h))
      obtain ⟨hlength, forms, hforms, rfl⟩ := hform
      obtain ⟨hsame, hbyte⟩ := forms_byte hforms
      -- The count that `serialize` writes is the one that was read.
      have hwritten : found.length.toUInt8 = count := by
        rw [hlength, Nat.toUInt8_eq, UInt8.ofNat_toNat]
      refine ⟨policyBlobVersion :: count :: forms.flatten, after, rfl, ?_, fun i => ?_⟩
      · simp [serialize, hsame]
      · match i with
        | 0 => exact Or.inl rfl
        | 1 => exact Or.inl hwritten.symm
        | i + 2 => exact hbyte i
  -- No read is past the end, so there is a result for any bytes.
  · rcases deserialize_cases bytes with hnone | ⟨count, policy, form, after, -, -, hread⟩
    · exact ⟨none, hnone⟩
    · exact ⟨some policy, hread⟩

/-- It is so of a policy with an entry of each kind, and of a blob whose signed byte is seven, with
a byte left over. -/
theorem deserialize_exact_allKinds :
    deserialize (serialize
      [.configuration { parameter := 3, size := 2, isSigned := true, value := -1234 },
      .association { groupId := 1, members := [1, 5, 7] },
      .wakeUp { intervalSeconds := 3600, notificationNodeId := 1 }]) =
      .ok (some [.configuration { parameter := 3, size := 2, isSigned := true, value := -1234 },
        .association { groupId := 1, members := [1, 5, 7] },
        .wakeUp { intervalSeconds := 3600, notificationNodeId := 1 }]) ∧
      ∃ blob after, [1, 1, 1, 3, 2, 7, 0, 0, 0, 5, 9] = blob ++ after ∧
        Normalises [.configuration { parameter := 3, size := 2, isSigned := true, value := 5 }]
          blob :=
  ⟨deserialize_exact.1 _ (by refine ⟨by decide, ?_⟩; simp),
    deserialize_exact.2.1 _ _ (by decide)⟩

end Zwaved.PolicyRegister
