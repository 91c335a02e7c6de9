import Zwaved.Codec.BigEndian
import Zwaved.S2.AuthenticatedFrame

/-!
# Multicast nonces

`Mpan.cpp`: the nonce generator of a multicast group, which its sender and all its members advance
in step, and the two extension objects about it, MPAN with the whole inner state and MGRP with the
group's id. The inner state is a 128-bit big-endian counter (`toNat`), and `incrementCounter` adds
one to it, modulo `2 ^ 128` (`toNat_incrementCounter`).
-/

namespace Zwaved.S2

open Codec

namespace MPAN

/-- `MPAN_EXTENSION_TYPE`. -/
def mpanExtensionType : UInt8 := 0x02

/-- `MPAN_EXTENSION_LENGTH`: length byte, flags byte, group id and 16 bytes of state. -/
def mpanExtensionLength : UInt8 := 19

/-- `MPAN_EXTENSION_FLAGS`: critical, of type MPAN, and nothing follows. -/
def mpanExtensionFlags : UInt8 := 0x42

/-- `MGRP_EXTENSION_TYPE`. -/
def mgrpExtensionType : UInt8 := 0x03

/-- `MGRP_EXTENSION_LENGTH`: length byte, flags byte and group id. -/
def mgrpExtensionLength : UInt8 := 3

/-- `MGRP_EXTENSION_FLAGS`: critical, of type MGRP, and nothing follows. -/
def mgrpExtensionFlags : UInt8 := 0x43

/-! ## Extensions -/

/-- The loop of `forEachExtension`, from `offset` on: what `visit` makes of the first object that it
accepts. -/
def forEachExtensionFrom {α : Type} (extensions : Bytes) (visit : UInt8 → Bytes → Option α)
    (offset : ℕ) : Option α :=
  if offset + 2 ≤ extensions.length then
    let length := (extensions.byte offset).toNat
    if _h : length < 2 ∨ offset + length > extensions.length then none
    else
      let flags := extensions.byte (offset + 1)
      match visit flags (extensions.subspan (offset + 2) (length - 2)) with
      | some result => some result
      | none =>
        if flags &&& NonceSync.extMoreFollowBit = 0 then none
        else forEachExtensionFrom extensions visit (offset + length)
  else none
termination_by extensions.length - offset

/-- `forEachExtension`. -/
def forEachExtension {α : Type} (extensions : Bytes) (visit : UInt8 → Bytes → Option α) :
    Option α :=
  forEachExtensionFrom extensions visit 0

/-- `encodeMpanExtension`. -/
def encodeMpanExtension (groupId : UInt8) (state : Block) : Bytes :=
  [mpanExtensionLength, mpanExtensionFlags, groupId] ++ state.toList

/-- What `findMpanExtension` makes of an object. -/
def visitMpan (flags : UInt8) (body : Bytes) : Option (UInt8 × Block) :=
  if flags &&& NonceSync.extTypeMask ≠ mpanExtensionType then none
  else if body.length ≠ 1 + 16 then none
  else some (body.byte 0, body.copyN 1 16)

/-- `findMpanExtension`. -/
def findMpanExtension (extensions : Bytes) : Option (UInt8 × Block) :=
  forEachExtension extensions visitMpan

/-- `encodeMgrpExtension`. -/
def encodeMgrpExtension (groupId : UInt8) : Bytes :=
  [mgrpExtensionLength, mgrpExtensionFlags, groupId]

/-- What `findMgrpExtension` makes of an object. -/
def visitMgrp (flags : UInt8) (body : Bytes) : Option UInt8 :=
  if flags &&& NonceSync.extTypeMask ≠ mgrpExtensionType ∨ body.length ≠ 1 then none
  else some (body.byte 0)

/-- `findMgrpExtension`. -/
def findMgrpExtension (extensions : Bytes) : Option UInt8 :=
  forEachExtension extensions visitMgrp

/-- At an extension object the loop visits its body, and goes on behind it if nothing was found and
More-to-Follow is set. -/
theorem forEachExtensionFrom_object {α : Type} (visit : UInt8 → Bytes → Option α)
    {length flags : UInt8} {body : Bytes} (hlength : length.toNat = 2 + body.length)
    (before after : Bytes) :
    forEachExtensionFrom (before ++ length :: flags :: (body ++ after)) visit before.length =
      (visit flags body).or (if flags &&& NonceSync.extMoreFollowBit = 0 then none
        else forEachExtensionFrom (before ++ length :: flags :: (body ++ after)) visit
          (before.length + length.toNat)) := by
  -- The two bytes of the header are where the object starts, and the object fits.
  have hbytes := Bytes.byte_append_right before (length :: flags :: (body ++ after))
  have hfirst : Bytes.byte (before ++ length :: flags :: (body ++ after)) before.length = length :=
    hbytes 0
  have hsecond : Bytes.byte (before ++ length :: flags :: (body ++ after)) (before.length + 1) =
      flags := hbytes 1
  have hsize : (before ++ length :: flags :: (body ++ after)).length =
      before.length + length.toNat + after.length := by
    simp only [List.length_append, List.length_cons]
    omega
  have hbody : Bytes.subspan (before ++ length :: flags :: (body ++ after)) (before.length + 2)
      (length.toNat - 2) = body := by
    rw [Bytes.subspan, ← List.drop_drop, List.drop_left, hlength, Nat.add_sub_cancel_left]
    exact List.take_left
  rw [forEachExtensionFrom, if_pos (by omega), hfirst, hsecond]
  dsimp only
  rw [dif_neg (by omega), hbody]
  -- The visitor has what it looks for, or it is asked again behind the object if one follows.
  cases visit flags body with
  | none => rw [Option.none_or]
  | some result => rw [Option.some_or]

/-- Visiting an encoded MPAN extension gives its group and its state. -/
theorem visitMpan_encode (groupId : UInt8) (state : Block) :
    visitMpan mpanExtensionFlags (groupId :: state.toList) = some (groupId, state) := by
  have hstate := Bytes.copyN_append [groupId] state []
  rw [List.append_nil, List.singleton_append, List.length_singleton] at hstate
  have htype : mpanExtensionFlags &&& NonceSync.extTypeMask = mpanExtensionType := by decide
  have hlength : (groupId :: state.toList).length = 1 + 16 := by
    rw [List.length_cons, Vector.length_toList]
  unfold visitMpan
  rw [if_neg (not_not.mpr htype), if_neg (not_not.mpr hlength), hstate]
  rfl

/-- The MPAN extension of a group is found, whatever follows it. -/
theorem findMpanExtension_encodeMpanExtension (groupId : UInt8) (state : Block) (rest : Bytes) :
    findMpanExtension (encodeMpanExtension groupId state ++ rest) = some (groupId, state) := by
  have hlength : mpanExtensionLength.toNat = 2 + (groupId :: state.toList).length := by
    rw [List.length_cons, Vector.length_toList, mpanExtensionLength]
    decide
  have hobject := @forEachExtensionFrom_object _ visitMpan mpanExtensionLength mpanExtensionFlags
    (groupId :: state.toList) hlength [] rest
  rw [visitMpan_encode, Option.some_or] at hobject
  exact hobject

/-- The MGRP extension is a chain of one. -/
theorem wellFormed_encodeMgrpExtension (groupId : UInt8) :
    Encapsulation.WellFormed (encodeMgrpExtension groupId) :=
  Encapsulation.wellFormed_of_chain
    (@Encapsulation.Chain.last mgrpExtensionLength mgrpExtensionFlags [groupId] rfl (by decide))

/-! ## The generator -/

/-- `MPAN::Generator`. -/
structure Generator where
  /-- `state_`. -/
  state : Block
  deriving DecidableEq, Repr

namespace Generator

/-- `nextNonce`: the 13 most significant bytes of the encrypted state, which moves on. -/
def nextNonce (ssl : OpenSsl) (g : Generator) (keyMpan : Key) : CcmNonce × Generator :=
  (Bytes.copyN (ssl.aesEcb keyMpan g.state).toList 0 13, { state := Span.incrementCounter g.state })

/-- `advance`. -/
def advance (g : Generator) : Generator where
  state := Span.incrementCounter g.state

end Generator

/-- An inner state as a number. -/
def toNat (state : Block) : ℕ := bigEndian state.toList

/-- The state of an MPAN is a 128-bit number. -/
theorem toNat_lt (state : Block) : toNat state < 2 ^ 128 := by
  have hlt := bigEndian_lt state.toList
  rw [Vector.length_toList] at hlt
  exact hlt

/-- A byte of a state that is replaced counts by its weight. -/
theorem toNat_set (state : Block) {i : ℕ} (hi : i < 16) (byte : UInt8) :
    toNat (state.setIfInBounds i byte) + (Bytes.byte state.toList i).toNat * 256 ^ (15 - i) =
      toNat state + byte.toNat * 256 ^ (15 - i) := by
  have hlength : i < state.toList.length := by rwa [Vector.length_toList]
  have hset := bigEndian_set hlength byte
  rw [Vector.length_toList] at hset
  have hbyte : Bytes.byte state.toList i = state.toList[i] := by
    rw [Bytes.byte, List.getD_eq_getElem?_getD, List.getElem?_eq_getElem hlength, Option.getD_some]
  rw [hbyte, toNat, Vector.toList_setIfInBounds]
  exact hset

/-- The loop of `incrementCounter` adds one at its byte, with the carry, modulo `2 ^ 128`. -/
theorem toNat_incrementFrom (state : Block) {i : ℕ} (hi : i ≤ 16) :
    toNat (Span.incrementFrom state i) = (toNat state + 256 ^ (16 - i)) % 2 ^ 128 := by
  induction i generalizing state with
  | zero =>
    -- A carry out of the first byte is lost.
    have hlt := toNat_lt state
    have hweight : 256 ^ (16 - 0) = 2 ^ 128 := by decide
    rw [hweight, Nat.add_mod_right, Nat.mod_eq_of_lt hlt]
    rfl
  | succ i ih =>
    have hset := toNat_set state (show i < 16 by omega) (Bytes.byte state.toList i + 1)
    have hweight : 256 ^ (16 - i) = 256 * 256 ^ (15 - i) := by
      rw [show 16 - i = 15 - i + 1 by omega, pow_succ, mul_comm]
    have hexp : 16 - (i + 1) = 15 - i := by omega
    generalize hb : Bytes.byte state.toList i = byte at hset
    simp only [Span.incrementFrom, hb, hexp]
    have hadd : (byte + 1).toNat = (byte.toNat + 1) % 256 := UInt8.toNat_add byte 1
    have hlt256 := byte.toNat_lt
    by_cases hcarry : byte + 1 ≠ 0
    · -- No carry: the byte grows by one.
      have hpos : (byte + 1).toNat ≠ 0 := fun hzero => hcarry (UInt8.toNat_inj.mp hzero)
      have hbyte : (byte + 1).toNat = byte.toNat + 1 := by omega
      rw [if_pos hcarry]
      rw [hbyte, Nat.add_mul, Nat.one_mul] at hset
      have hlt := toNat_lt (state.setIfInBounds i (byte + 1))
      rw [Nat.mod_eq_of_lt (by omega)]
      omega
    · -- The byte was `0xFF`: what it loses is one less than the weight of the byte above it.
      have hzero : byte + 1 = 0 := not_not.mp hcarry
      have hbyte : byte.toNat = 255 := by
        rw [hzero, UInt8.toNat_zero] at hadd
        omega
      rw [if_neg hcarry, ih _ (by omega), hweight]
      rw [hzero, hbyte] at hset
      congr 1
      simp only [UInt8.toNat_zero] at hset
      rw [hzero]
      omega

/-- `incrementCounter` adds one. -/
theorem toNat_incrementCounter (state : Block) :
    toNat (Span.incrementCounter state) = (toNat state + 1) % 2 ^ 128 :=
  toNat_incrementFrom state (le_refl 16)

end MPAN

end Zwaved.S2
