import Zwaved.Codec.Decimal
import Zwaved.S2.Bootstrap

/-!
# The DSK PIN

A joining node that is granted an authenticated class sends its public key with the first two bytes
zeroed. They are the first group of the DSK on the label of the device, and the operator types them
in as five digits. `parsePin` reads just what `dskPin` writes (`parsePin_eq_some_iff`), and
`applyPin` puts the bytes back where `encode` has blanked them (`applyPin_blanked`), so that the key
agreement goes on with the key of the device (`onConfirmDsk_restored`).
-/

namespace Zwaved.S2

open Codec

namespace PublicKey

/-- A text of ASCII characters as it stands in a `std::string`. -/
def ascii (text : String) : Bytes := text.toList.map fun c => c.toNat.toUInt8

/-! ## The PIN -/

section Pin

variable {c : Char} {digits : List Char} {pin : Bytes} {value n : ℕ}

/-- The byte of a digit is its character, between `0` and `9`. -/
theorem toNat_digit (h : c.isDigit = true) :
    c.toNat.toUInt8.toNat = c.toNat ∧ 48 ≤ c.toNat ∧ c.toNat ≤ 57 := by
  obtain ⟨hge, hle⟩ := Char.isDigit_iff_toNat.mp h
  have hzero : '0'.toNat = 48 := rfl
  have hnine : '9'.toNat = 57 := rfl
  refine ⟨?_, by omega, by omega⟩
  rw [Nat.toUInt8, UInt8.toNat_ofNat']
  omega

/-- A text of digits is read as its decimal value, behind what was read before. -/
theorem pinValue_digits (h : AllDigits digits) (n : ℕ) :
    pinValue n (ascii (String.ofList digits)) = some (n * 10 ^ digits.length + decimal digits) := by
  unfold ascii
  rw [String.toList_ofList]
  induction digits generalizing n with
  | nil => simp [pinValue, decimal]
  | cons c digits ih =>
    obtain ⟨hc, hdigits⟩ := AllDigits.cons_iff.mp h
    obtain ⟨hbyte, hge, hle⟩ := toNat_digit hc
    have hrange : ¬ (c.toNat.toUInt8 < 0x30 ∨ c.toNat.toUInt8 > 0x39) := by
      rw [UInt8.lt_iff_toNat_lt, gt_iff_lt, UInt8.lt_iff_toNat_lt, hbyte]
      simp
      omega
    have hzero : '0'.toNat = 48 := rfl
    rw [List.map_cons, pinValue, if_neg hrange, ih hdigits, hbyte, decimal_cons, List.length_cons,
      hzero]
    refine congrArg some ?_
    ring

/-- A text that is read as a PIN value is all digits. -/
theorem digits_of_pinValue (h : pinValue n pin = some value) :
    ∃ digits, AllDigits digits ∧ pin = ascii (String.ofList digits) := by
  induction pin generalizing n with
  | nil => exact ⟨[], fun c hc => absurd hc List.not_mem_nil, rfl⟩
  | cons digit pin ih =>
    rw [pinValue] at h
    split at h
    · cases h
    · next hrange =>
      obtain ⟨digits, hdigits, rfl⟩ := ih h
      obtain ⟨hge, hle⟩ := not_or.mp hrange
      rw [UInt8.lt_iff_toNat_lt] at hge
      rw [gt_iff_lt, UInt8.lt_iff_toNat_lt] at hle
      have hge : 48 ≤ digit.toNat := Nat.le_of_not_lt hge
      have hle : digit.toNat ≤ 57 := Nat.le_of_not_lt hle
      have hchar : (Char.ofUInt8 digit).toNat = digit.toNat := UInt8.toNat_toUInt32 digit
      refine ⟨Char.ofUInt8 digit :: digits, AllDigits.cons_iff.mpr ⟨?_, hdigits⟩, ?_⟩
      · exact Char.isDigit_iff_toNat.mpr (by rw [hchar]; exact ⟨hge, hle⟩)
      · unfold ascii
        rw [String.toList_ofList, String.toList_ofList, List.map_cons, hchar]
        exact congrArg (· :: _) (UInt8.toNat_inj.mp (by simp))

/-- A text has as many ASCII bytes as characters. -/
theorem length_ascii (text : String) : (ascii text).length = text.toList.length := List.length_map _

/-- A PIN is accepted exactly if it is five digits of a number of sixteen bits, which it is read as.
-/
theorem parsePin_eq_some_iff : parsePin pin = some value ↔
    ∃ digits, AllDigits digits ∧ digits.length = 5 ∧ pin = ascii (String.ofList digits) ∧
      value = decimal digits ∧ value ≤ 65535 := by
  unfold parsePin
  constructor
  -- What is accepted has five digits, and their number has passed the last check.
  · intro h
    split at h
    · cases h
    · next hlength =>
      obtain ⟨number, hnumber, hfits⟩ := Option.bind_eq_some_iff.mp h
      obtain ⟨digits, hdigits, rfl⟩ := digits_of_pinValue hnumber
      rw [pinValue_digits hdigits, Nat.zero_mul, Nat.zero_add] at hnumber
      cases hnumber
      split at hfits
      · cases hfits
      · next hle =>
        cases hfits
        rw [length_ascii, String.toList_ofList] at hlength
        exact ⟨digits, hdigits, not_not.mp hlength, rfl, rfl, Nat.le_of_not_lt hle⟩
  -- The digits of such a number are read as the number.
  · rintro ⟨digits, hdigits, hlength, rfl, rfl, hle⟩
    rw [if_neg (by rw [length_ascii, String.toList_ofList]; exact not_not.mpr hlength),
      pinValue_digits hdigits, Nat.zero_mul, Nat.zero_add, Option.bind_some,
      if_neg (Nat.not_lt.mpr hle)]

/-- `fiveDigits` pads with zeros to five digits. -/
theorem fiveDigits_eq (value : ℕ) : fiveDigits value = String.ofList (padded 5 value) := rfl

/-- Every number of sixteen bits is read back from its five digits. -/
theorem parsePin_fiveDigits (h : value ≤ 65535) : parsePin (ascii (fiveDigits value)) = some value :=
  parsePin_eq_some_iff.mpr ⟨padded 5 value, allDigits_padded _ _,
    length_padded (by decide) (by omega), rfl, (decimal_padded _ _).symm, h⟩

/-- A PIN that is accepted is how its number is written. -/
theorem fiveDigits_of_parsePin (h : parsePin pin = some value) : ascii (fiveDigits value) = pin := by
  obtain ⟨digits, hdigits, hlength, rfl, rfl, -⟩ := parsePin_eq_some_iff.mp h
  rw [fiveDigits_eq, ← hlength, padded_decimal hdigits (by omega)]

end Pin

/-! ## The key -/

section Key

variable {key key' : PublicKey}

/-- The key as it goes out, with its first bytes zeroed. -/
def blanked (key : PublicKey) (obfuscateLeading : ℕ) : PublicKey :=
  key.mapFinIdx fun i byte _ => if i < obfuscateLeading then 0x00 else byte

/-- What is decoded is the key without the bytes that were zeroed. -/
theorem decode_encode (includingNode : Bool) (key : PublicKey) (obfuscateLeading : ℕ) :
    decode (encode includingNode key obfuscateLeading) =
      some { includingNode, key := blanked key obfuscateLeading } := by
  have hkey := Bytes.copyN_append
    [securityTwo, publicKeyReport, if includingNode then propIncludingNode else 0x00]
    (blanked key obfuscateLeading) []
  rw [List.append_nil] at hkey
  unfold decode
  rw [if_neg (by simp [encode, Bytes.byte])]
  have hprops : (encode includingNode key obfuscateLeading).byte 2 =
      if includingNode then propIncludingNode else 0x00 := by
    simp [encode, Bytes.byte]
  refine congrArg some (Report.mk.injEq .. ▸ ⟨?_, hkey⟩)
  rw [hprops]
  cases includingNode <;> decide

/-- A group of the key is a 16-bit value. -/
theorem groupValue_lt (key : PublicKey) (index : ℕ) : groupValue key index < 65536 := by
  have hhigh := (Bytes.byte key.toList (index * 2)).toNat_lt
  have hlow := (Bytes.byte key.toList (index * 2 + 1)).toNat_lt
  unfold groupValue
  omega

/-- A byte of the key is the one at its place. -/
theorem byte_toList {i : ℕ} (hi : i < 32) : Bytes.byte key.toList i = key[i] := by
  simp [Bytes.byte, hi]

/-- Putting the first group of a key back into the key with that group blanked gives the key. -/
theorem applyPin_blanked (key : PublicKey) :
    applyPin (blanked key obfuscateDsk) (groupValue key 0) = key := by
  have hhigh := (key[0]).toNat_lt
  have hlow := (key[1]).toNat_lt
  -- The number that is typed is made of the first two bytes.
  have hgroup : groupValue key 0 = key[0].toNat * 256 + key[1].toNat := by
    rw [groupValue, byte_toList (by decide), byte_toList (by decide)]
  -- So its halves are those bytes.
  have hfirst : (groupValue key 0 >>> 8).toUInt8 = key[0] := by
    rw [← UInt8.toNat_inj, hgroup, Nat.shiftRight_eq_div_pow, Nat.toUInt8, UInt8.toNat_ofNat']
    omega
  have hsecond : (groupValue key 0).toUInt8 = key[1] := by
    rw [← UInt8.toNat_inj, hgroup, Nat.toUInt8, UInt8.toNat_ofNat']
    omega
  ext i hi
  unfold applyPin
  rw [hfirst, hsecond, Vector.getElem_set, Vector.getElem_set]
  -- The two places are filled in, and behind them nothing had been blanked.
  split
  · next h => subst h; rfl
  · split
    · next h => subst h; rfl
    · have hblanked : (blanked key obfuscateDsk)[i] = if i < obfuscateDsk then 0x00 else key[i] :=
        Vector.getElem_mapFinIdx hi
      have hbehind : ¬ i < obfuscateDsk := by
        unfold obfuscateDsk
        omega
      rw [hblanked, if_neg hbehind]

/-- The PIN is read as the first group. -/
theorem parsePin_dskPin (key : PublicKey) :
    parsePin (ascii (dskPin key)) = some (groupValue key 0) :=
  parsePin_fiveDigits (Nat.le_of_lt_succ (groupValue_lt key 0))

/-- The groups of the DSK tell the first sixteen bytes. -/
theorem take_of_groupValue (h : ∀ group < 8, groupValue key group = groupValue key' group) :
    key.toList.take 16 = key'.toList.take 16 := by
  rw [Bytes.take_eq_map_byte (by simp), Bytes.take_eq_map_byte (by simp)]
  refine List.map_congr_left fun i hi => ?_
  have hi : i < 16 := List.mem_range.mp hi
  have hgroup := h (i / 2) (by omega)
  unfold groupValue at hgroup
  have hlow := (Bytes.byte key.toList (i / 2 * 2 + 1)).toNat_lt
  have hlow' := (Bytes.byte key'.toList (i / 2 * 2 + 1)).toNat_lt
  -- The byte at an even place is the high one of its group, the one at an odd place the low one.
  rcases Nat.mod_two_eq_zero_or_one i with heven | hodd
  · have hindex : i / 2 * 2 = i := by omega
    rw [hindex] at hgroup hlow hlow'
    exact UInt8.toNat_inj.mp (by omega)
  · have hindex : i / 2 * 2 + 1 = i := by omega
    have hhigh := (Bytes.byte key.toList (i / 2 * 2)).toNat_lt
    rw [hindex] at hgroup hlow hlow'
    exact UInt8.toNat_inj.mp (by omega)

/-- Different values have different digits, since padded digits read back as the value. -/
theorem fiveDigits_injective : Function.Injective fiveDigits := by
  intro m n h
  rw [fiveDigits_eq, fiveDigits_eq] at h
  rw [← decimal_padded 5 m, String.ofList_injective h, decimal_padded]

/-- Keys with the same DSK text have the same groups, as the hyphens tell the groups apart. -/
theorem groups_of_dskString (h : dskString key = dskString key') :
    (List.range 8).map (fun group => fiveDigits (groupValue key group)) =
      (List.range 8).map fun group => fiveDigits (groupValue key' group) := by
  have hhyphen : ∀ (key : PublicKey),
      ∀ group ∈ ((List.range 8).map fun group => fiveDigits (groupValue key group)).map String.toList,
        '-' ∉ group := by
    intro key group hgroup hmem
    obtain ⟨text, htext, rfl⟩ := List.mem_map.mp hgroup
    obtain ⟨i, -, rfl⟩ := List.mem_map.mp htext
    rw [fiveDigits_eq, String.toList_ofList] at hmem
    exact absurd (allDigits_padded _ _ _ hmem) (by decide)
  have hchars := congrArg String.toList h
  unfold dskString at hchars
  rw [String.toList_intercalate, String.toList_intercalate,
    show "-".toList = ['-'] from rfl] at hchars
  have hsplit := congrArg (List.splitOn '-') hchars
  rw [List.splitOn_intercalate '-' (hhyphen key) (by simp),
    List.splitOn_intercalate '-' (hhyphen key') (by simp)] at hsplit
  exact List.map_injective_iff.mpr (fun _ _ => String.toList_injective) hsplit

/-- The DSK tells the first sixteen bytes of a key, and nothing else. -/
theorem dskString_eq_iff : dskString key = dskString key' ↔
    key.toList.take 16 = key'.toList.take 16 := by
  constructor
  · intro h
    have hgroups := List.map_inj_left.mp (groups_of_dskString h)
    exact take_of_groupValue fun group hgroup =>
      fiveDigits_injective (hgroups group (List.mem_range.mpr hgroup))
  · intro h
    have hbyte : ∀ i < 16, Bytes.byte key.toList i = Bytes.byte key'.toList i := by
      intro i hi
      have htake : ∀ key : PublicKey,
          Bytes.byte (key.toList.take 16) i = Bytes.byte key.toList i := fun key => by
        rw [Bytes.byte, Bytes.byte, List.getD_eq_getElem?_getD, List.getD_eq_getElem?_getD,
          List.getElem?_take_of_lt hi]
      rw [← htake key, h, htake key']
    unfold dskString
    refine congrArg _ (List.map_congr_left fun group hgroup => ?_)
    have hgroup : group < 8 := List.mem_range.mp hgroup
    rw [groupValue, groupValue, hbyte _ (by omega), hbyte _ (by omega)]

/-- The PIN of the DSK completes a key that came obfuscated; a PIN is five digits of a number of
sixteen bits, and the numbers and their PINs determine each other; and the DSK tells the first
sixteen bytes. -/
theorem dskPin_restores :
    (∀ (includingNode : Bool) (key : PublicKey), ∃ report pin,
      decode (encode includingNode key obfuscateDsk) = some report ∧
      parsePin (ascii (dskPin key)) = some pin ∧ applyPin report.key pin = key) ∧
    (∀ pin value, parsePin pin = some value ↔
      ∃ digits, AllDigits digits ∧ digits.length = 5 ∧ pin = ascii (String.ofList digits) ∧
        value = decimal digits ∧ value ≤ 65535) ∧
    ((∀ value ≤ 65535, parsePin (ascii (fiveDigits value)) = some value) ∧
      ∀ pin value, parsePin pin = some value → ascii (fiveDigits value) = pin) ∧
    ∀ key key', dskString key = dskString key' ↔ key.toList.take 16 = key'.toList.take 16 := by
  refine ⟨fun includingNode key => ?_, fun _ _ => parsePin_eq_some_iff,
    ⟨fun _ => parsePin_fiveDigits, fun _ _ => fiveDigits_of_parsePin⟩, fun _ _ => dskString_eq_iff⟩
  exact ⟨_, _, decode_encode includingNode key obfuscateDsk, parsePin_dskPin key,
    applyPin_blanked key⟩

end Key

end PublicKey

namespace Bootstrap

variable (ssl : OpenSsl) {s : Bootstrap} {nodeId : NodeId} {session : Session}

/-- After the report of an obfuscated key the PIN of the device goes on to agree on keys with the
device's own key. -/
theorem onConfirmDsk_restored (includingNode : Bool) (key : PublicKey)
    (hgranted : session.grantedKeys &&& dskRequiredKeys ≠ 0) :
    let parked := (s.onPublicKeyReport ssl nodeId session
      (PublicKey.encode includingNode key PublicKey.obfuscateDsk)).1
    let agreed := parked.finishKeyAgreement ssl nodeId
      { session with phase := .awaitDsk, nodePublicKey := key }
    parked.onConfirmDsk ssl nodeId (PublicKey.ascii (PublicKey.dskPin key)) =
      (agreed.1, .dskPendingConfirmation 0 "" :: agreed.2) := by
  intro parked agreed
  -- The session has been parked with its key blanked.
  have hparked : parked = s.setSession nodeId
      { session with
        nodePublicKey := PublicKey.blanked key PublicKey.obfuscateDsk
        phase := .awaitDsk } := by
    dsimp only [parked]
    unfold onPublicKeyReport
    rw [PublicKey.decode_encode]
    dsimp only
    rw [if_pos hgranted]
  have hsession : parked.sessions nodeId = some
      { session with
        nodePublicKey := PublicKey.blanked key PublicKey.obfuscateDsk
        phase := .awaitDsk } := by
    rw [hparked]
    exact Function.update_self ..
  -- The PIN is read back, and put into the places that were blanked.
  unfold onConfirmDsk
  rw [hsession]
  dsimp only
  rw [if_neg (not_not.mpr rfl), PublicKey.parsePin_dskPin]
  dsimp only
  rw [PublicKey.applyPin_blanked]

end Bootstrap

end Zwaved.S2
