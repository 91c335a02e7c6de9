import Zwaved.S2.CheckedReads
import Zwaved.S2.Mpan

/-!
# Chains of extensions, scanned

Three loops walk a chain of extension objects: `extensionsLength` to find where the ciphertext
begins, `findSpanExtension`, and `forEachExtension` for the MPAN and the MGRP extension. The second
is the third with another visitor (`findSpanExtensionFrom_eq`), so that one lemma says of all the
scanners that they see exactly the objects of a chain, in order, whatever comes after it
(`forEachExtension_encodeChain`). The loops are written with checked reads too, and read nothing
past the end of any byte string.
-/

namespace Zwaved.S2

open NonceSync (extTypeMask extMoreFollowBit)

/-- An extension object, as it goes into a chain. -/
structure ExtensionObject where
  /-- The flags byte: six bits of type and the critical bit. -/
  flags : UInt8
  /-- What comes after the flags byte. -/
  body : Bytes
  /-- More-to-Follow is for the chain to say. -/
  noMore : flags &&& extMoreFollowBit = 0
  /-- The length byte can tell the length. -/
  fits : body.length ≤ 253

namespace ExtensionObject

/-- The object's length, with the length byte and the flags byte. -/
def length (o : ExtensionObject) : UInt8 := UInt8.ofNat (2 + o.body.length)

/-- The object on the wire, with More-to-Follow or without. -/
def encode (more : Bool) (o : ExtensionObject) : Bytes :=
  o.length :: (if more then o.flags ||| extMoreFollowBit else o.flags) :: o.body

/-- A chain on the wire: More-to-Follow on all but the last. -/
def encodeChain : List ExtensionObject → Bytes
  | [] => []
  | [o] => o.encode false
  | o :: next :: rest => o.encode true ++ encodeChain (next :: rest)

/-- The length byte of an extension counts its two header bytes and its body. -/
theorem toNat_length (o : ExtensionObject) : o.length.toNat = 2 + o.body.length := by
  have hfits := o.fits
  rw [length, UInt8.toNat_ofNat']
  exact Nat.mod_eq_of_lt (show 2 + o.body.length < 256 by omega)

/-- Setting More-to-Follow leaves the type of an extension. -/
theorem type_more (flags : UInt8) :
    (flags ||| extMoreFollowBit) &&& extTypeMask = flags &&& extTypeMask := by
  apply UInt8.toBitVec_inj.mp
  simp only [UInt8.toBitVec_and, UInt8.toBitVec_or]
  ext i hi
  simp only [BitVec.getElem_and, BitVec.getElem_or, extMoreFollowBit, extTypeMask]
  interval_cases i <;> simp

/-- Setting More-to-Follow sets it. -/
theorem more_more (flags : UInt8) : (flags ||| extMoreFollowBit) &&& extMoreFollowBit ≠ 0 := by
  have hmore : (flags ||| extMoreFollowBit) &&& extMoreFollowBit = extMoreFollowBit := by
    apply UInt8.toBitVec_inj.mp
    simp only [UInt8.toBitVec_and, UInt8.toBitVec_or]
    ext i hi
    simp only [BitVec.getElem_and, BitVec.getElem_or]
    cases (extMoreFollowBit.toBitVec[i]) <;> simp
  rw [hmore]
  decide

/-- A chain on the wire is one in the sense of `extensionsLength`. -/
theorem chain_encodeChain {objects : List ExtensionObject} (h : objects ≠ []) :
    Encapsulation.Chain (encodeChain objects) := by
  induction objects with
  | nil => exact absurd rfl h
  | cons o rest ih =>
    cases rest with
    | nil => exact Encapsulation.Chain.last o.toNat_length o.noMore
    | cons next rest =>
      exact Encapsulation.Chain.more o.toNat_length (more_more o.flags) (ih (List.cons_ne_nil _ _))

end ExtensionObject

/-! ## The scanners -/

/-- What `findSpanExtension` makes of an object. -/
def NonceSync.visitSpan (flags : UInt8) (body : Bytes) : Option EntropyInput :=
  if flags &&& extTypeMask = spanExtensionType ∧ body.length = 16 then some (body.copyN 0 16)
  else none

open MPAN ExtensionObject

/-- Sixteen bytes of a span, copied out of it or out of the whole. -/
theorem copyN_subspan (data : Bytes) (offset n : ℕ) :
    Bytes.copyN (data.subspan offset n) 0 n = data.copyN offset n := by
  ext i hi
  simp [Bytes.copyN, Bytes.subspan, Bytes.byte]

/-- The loop of `findSpanExtension` is the one of `forEachExtension`. -/
theorem NonceSync.findSpanExtensionFrom_eq (extensions : Bytes) (offset : ℕ) :
    findSpanExtensionFrom extensions offset =
      forEachExtensionFrom extensions visitSpan offset := by
  -- The two walk through the bytes in the same steps, with fewer of them left each time.
  induction hleft : extensions.length - offset using Nat.strongRecOn generalizing offset with
  | _ left ih =>
    rw [findSpanExtensionFrom, forEachExtensionFrom]
    by_cases hfits : offset + 2 ≤ extensions.length
    · rw [if_pos hfits, if_pos hfits]
      dsimp only
      generalize hlength : (extensions.byte offset).toNat = length
      generalize hflags : extensions.byte (offset + 1) = flags
      -- Both end at an object that does not fit.
      by_cases hmalformed : length < 2 ∨ offset + length > extensions.length
      · rw [dif_pos hmalformed, dif_pos hmalformed]
      · rw [dif_neg hmalformed, dif_neg hmalformed]
        have hbody : (extensions.subspan (offset + 2) (length - 2)).length = length - 2 := by
          rw [Bytes.subspan, List.length_take, List.length_drop]
          omega
        by_cases hspan : flags &&& extTypeMask = spanExtensionType ∧
            length = spanExtensionLength.toNat
        · -- The object is 18 bytes long, and its body 16.
          have hsize : length = 18 := hspan.2
          subst hsize
          rw [if_pos hspan, visitSpan, if_pos ⟨hspan.1, hbody⟩]
          exact congrArg some (copyN_subspan extensions (offset + 2) 16).symm
        -- An object of another kind is passed over by both.
        · have hvisit : visitSpan flags (extensions.subspan (offset + 2) (length - 2)) = none := by
            refine if_neg fun hmatch => hspan ⟨hmatch.1, ?_⟩
            rw [hbody] at hmatch
            show length = 18
            omega
          rw [if_neg hspan, hvisit]
          dsimp only
          split
          · rfl
          · exact ih _ (by omega) _ rfl
    · rw [if_neg hfits, if_neg hfits]

/-- A visitor that does not look at More-to-Follow. -/
def IgnoresMore {α : Type} (visit : UInt8 → Bytes → Option α) : Prop :=
  ∀ flags body, visit (flags ||| extMoreFollowBit) body = visit flags body

/-- The search for a SPAN extension does not look at More-to-Follow. -/
theorem ignoresMore_visitSpan : IgnoresMore NonceSync.visitSpan := by
  intro flags body
  rw [NonceSync.visitSpan, type_more]
  rfl

/-- The search for an MPAN extension does not look at More-to-Follow. -/
theorem ignoresMore_visitMpan : IgnoresMore visitMpan := by
  intro flags body
  rw [visitMpan, type_more]
  rfl

/-- The search for an MGRP extension does not look at More-to-Follow. -/
theorem ignoresMore_visitMgrp : IgnoresMore visitMgrp := by
  intro flags body
  rw [visitMgrp, type_more]
  rfl

/-- From the first object of a chain on, the loop sees the objects of the chain in order and then
stops. -/
theorem forEachExtensionFrom_encodeChain {α : Type} {visit : UInt8 → Bytes → Option α}
    (hvisit : IgnoresMore visit) {objects : List ExtensionObject} (h : objects ≠ [])
    (before after : Bytes) :
    forEachExtensionFrom (before ++ (encodeChain objects ++ after)) visit before.length =
      objects.findSome? fun o => visit o.flags o.body := by
  induction objects generalizing before with
  | nil => exact absurd rfl h
  | cons o rest ih =>
    cases rest with
    | nil =>
      have hobject := @forEachExtensionFrom_object _ visit o.length o.flags o.body o.toNat_length
        before after
      rw [if_pos o.noMore, Option.or_none] at hobject
      simp only [List.findSome?_cons, List.findSome?_nil]
      rw [show encodeChain [o] ++ after = o.length :: o.flags :: (o.body ++ after) from rfl, hobject]
      cases visit o.flags o.body <;> rfl
    | cons next rest =>
      have hobject := @forEachExtensionFrom_object _ visit o.length (o.flags ||| extMoreFollowBit)
        o.body o.toNat_length before (encodeChain (next :: rest) ++ after)
      -- The next object begins where this one ends.
      have hnext := ih (List.cons_ne_nil _ _) (before ++ o.encode true)
      have hend : (before ++ o.encode true).length = before.length + o.length.toNat := by
        rw [List.length_append, o.toNat_length, encode, List.length_cons, List.length_cons]
        omega
      have hbytes : before ++ (encodeChain (o :: next :: rest) ++ after) =
          before ++ o.encode true ++ (encodeChain (next :: rest) ++ after) := by
        rw [encodeChain, List.append_assoc, List.append_assoc]
      have hhead : before ++ o.encode true ++ (encodeChain (next :: rest) ++ after) = before ++
          o.length :: (o.flags ||| extMoreFollowBit) ::
            (o.body ++ (encodeChain (next :: rest) ++ after)) := by
        rw [List.append_assoc]
        rfl
      rw [← hhead, if_neg (more_more o.flags), hvisit, ← hend, hnext] at hobject
      rw [hbytes, hobject]
      simp only [List.findSome?_cons (a := o)]
      cases visit o.flags o.body with
      | none => exact Option.none_or
      | some result => exact Option.some_or

/-- `forEachExtension` sees exactly the objects of a chain. -/
theorem forEachExtension_encodeChain {α : Type} {visit : UInt8 → Bytes → Option α}
    (hvisit : IgnoresMore visit) {objects : List ExtensionObject} (h : objects ≠ [])
    (after : Bytes) :
    forEachExtension (encodeChain objects ++ after) visit =
      objects.findSome? fun o => visit o.flags o.body :=
  forEachExtensionFrom_encodeChain hvisit h [] after

/-! ## What is found -/

/-- The type of an object, without the critical bit. -/
def ExtensionObject.type (o : ExtensionObject) : UInt8 := o.flags &&& extTypeMask

/-- The body of the first object of a type and size. -/
def firstBody (type : UInt8) (size : ℕ) (objects : List ExtensionObject) : Option Bytes :=
  (objects.find? fun o => decide (o.type = type ∧ o.body.length = size)).map (·.body)

/-- A scanner that accepts the objects of one type and size returns what it makes of the first. -/
theorem findSome?_eq_firstBody {α : Type} {type : UInt8} {size : ℕ}
    {visit : UInt8 → Bytes → Option α} {payload : Bytes → α}
    (hvisit : ∀ flags body, visit flags body =
      if flags &&& extTypeMask = type ∧ body.length = size then some (payload body) else none)
    (objects : List ExtensionObject) :
    (objects.findSome? fun o => visit o.flags o.body) =
      (firstBody type size objects).map payload := by
  unfold firstBody
  induction objects with
  | nil => rfl
  | cons o rest ih =>
    rw [List.findSome?_cons, List.find?_cons, hvisit]
    by_cases hmatch : o.flags &&& extTypeMask = type ∧ o.body.length = size
    · rw [if_pos hmatch, decide_eq_true (show o.type = type ∧ o.body.length = size from hmatch)]
      rfl
    · rw [if_neg hmatch, decide_eq_false (show ¬ (o.type = type ∧ o.body.length = size) from hmatch)]
      exact ih

/-- An MPAN extension gives its group and its sixteen bytes, if it has that length. -/
theorem visitMpan_eq (flags : UInt8) (body : Bytes) : visitMpan flags body =
    if flags &&& extTypeMask = mpanExtensionType ∧ body.length = 1 + 16 then
      some (body.byte 0, body.copyN 1 16) else none := by
  unfold visitMpan
  by_cases htype : flags &&& extTypeMask = mpanExtensionType
  · by_cases hlength : body.length = 1 + 16
    · rw [if_neg (not_not.mpr htype), if_neg (not_not.mpr hlength), if_pos ⟨htype, hlength⟩]
    · rw [if_neg (not_not.mpr htype), if_pos hlength, if_neg fun h => hlength h.2]
  · rw [if_pos htype, if_neg fun h => htype h.1]

/-- An MGRP extension gives its group, if it has that length. -/
theorem visitMgrp_eq (flags : UInt8) (body : Bytes) : visitMgrp flags body =
    if flags &&& extTypeMask = mgrpExtensionType ∧ body.length = 1 then some (body.byte 0)
    else none := by
  unfold visitMgrp
  by_cases hmatch : flags &&& extTypeMask = mgrpExtensionType ∧ body.length = 1
  · rw [if_pos hmatch, if_neg (by simp [hmatch])]
  · rw [if_neg hmatch, if_pos (not_and_or.mp hmatch)]

/-! ## The reads -/

namespace Checked

/-- The loop of `forEachExtension`. -/
def forEachExtensionFrom {α : Type} (extensions : Bytes)
    (visit : UInt8 → Bytes → Read (Option α)) (offset : ℕ) : Read (Option α) :=
  if offset + 2 ≤ extensions.length then do
    let length := (← extensions.readAt offset).toNat
    if _h : length < 2 ∨ offset + length > extensions.length then return none
    else
      let flags ← extensions.readAt (offset + 1)
      match ← visit flags (← extensions.readSpan (offset + 2) (length - 2)) with
      | some result => return some result
      | none =>
        if flags &&& extMoreFollowBit = 0 then return none
        else forEachExtensionFrom extensions visit (offset + length)
  else return none
termination_by extensions.length - offset

/-- What `findMpanExtension` makes of an object. -/
def visitMpan (flags : UInt8) (body : Bytes) : Read (Option (UInt8 × Block)) :=
  if flags &&& extTypeMask ≠ mpanExtensionType then return none
  else if body.length ≠ 1 + 16 then return none
  else do
    let state ← body.readN 1 16
    return some (← body.readAt 0, state)

/-- `findMpanExtension`. -/
def findMpanExtension (extensions : Bytes) : Read (Option (UInt8 × Block)) :=
  forEachExtensionFrom extensions visitMpan 0

/-- What `findMgrpExtension` makes of an object. -/
def visitMgrp (flags : UInt8) (body : Bytes) : Read (Option UInt8) :=
  if flags &&& extTypeMask ≠ mgrpExtensionType ∨ body.length ≠ 1 then return none
  else return some (← body.readAt 0)

/-- `findMgrpExtension`. -/
def findMgrpExtension (extensions : Bytes) : Read (Option UInt8) :=
  forEachExtensionFrom extensions visitMgrp 0

/-- The loop reads nothing past the end if its visitor does not. -/
theorem forEachExtensionFrom_eq {α : Type} {checked : UInt8 → Bytes → Read (Option α)}
    {visit : UInt8 → Bytes → Option α} (hvisit : ∀ flags body, checked flags body =
      .ok (visit flags body)) (extensions : Bytes) (offset : ℕ) :
    forEachExtensionFrom extensions checked offset =
      .ok (MPAN.forEachExtensionFrom extensions visit offset) := by
  -- The induction is on what is left of the span: each object ends within it.
  induction hleft : extensions.length - offset using Nat.strongRecOn generalizing offset with
  | _ left ih =>
    rw [forEachExtensionFrom, MPAN.forEachExtensionFrom]
    by_cases hfits : offset + 2 ≤ extensions.length
    · rw [if_pos hfits, if_pos hfits, Bytes.readAt_of_lt (by omega), Bytes.readAt_of_lt (by omega)]
      simp only [Read.ok_bind, Read.pure_eq_ok]
      generalize hlength : (extensions.byte offset).toNat = length
      by_cases hmalformed : length < 2 ∨ offset + length > extensions.length
      · rw [dif_pos hmalformed, dif_pos hmalformed]
      · rw [dif_neg hmalformed, dif_neg hmalformed, Bytes.readSpan_of_le (by omega)]
        simp only [Read.ok_bind, hvisit]
        cases visit (extensions.byte (offset + 1))
            (extensions.subspan (offset + 2) (length - 2)) with
        | some result => rfl
        | none =>
          dsimp only
          split
          · rfl
          · exact ih _ (by omega) _ rfl
    · rw [if_neg hfits, if_neg hfits]
      rfl

/-- With checked reads, an MPAN extension is read inside its body, with the same result. -/
theorem visitMpan_eq (flags : UInt8) (body : Bytes) :
    visitMpan flags body = .ok (MPAN.visitMpan flags body) := by
  unfold visitMpan MPAN.visitMpan
  split
  · rfl
  · by_cases hlength : body.length ≠ 1 + 16
    · rw [if_pos hlength, if_pos hlength]
      rfl
    · rw [if_neg hlength, if_neg hlength, Bytes.readN_of_le (by omega),
        Bytes.readAt_of_lt (by omega)]
      rfl

/-- With checked reads, an MGRP extension is read inside its body, with the same result. -/
theorem visitMgrp_eq (flags : UInt8) (body : Bytes) :
    visitMgrp flags body = .ok (MPAN.visitMgrp flags body) := by
  unfold visitMgrp MPAN.visitMgrp
  split
  · rfl
  next hmatch =>
    rw [Bytes.readAt_of_lt (by omega)]
    rfl

/-- With checked reads, the search for an MPAN extension stays inside every chain, with the same
result. -/
theorem findMpanExtension_eq (extensions : Bytes) :
    findMpanExtension extensions = .ok (MPAN.findMpanExtension extensions) :=
  forEachExtensionFrom_eq visitMpan_eq extensions 0

/-- With checked reads, the search for an MGRP extension stays inside every chain, with the same
result. -/
theorem findMgrpExtension_eq (extensions : Bytes) :
    findMgrpExtension extensions = .ok (MPAN.findMgrpExtension extensions) :=
  forEachExtensionFrom_eq visitMgrp_eq extensions 0

end Checked

/-- Chains are scanned exactly, whatever comes after them: `extensionsLength` returns the length of
the chain, and the others what is in the body of the first object of their type and size, if there
is one. On any byte string the scanners read nothing past the end. -/
theorem chains_scanned_exactly :
    (∀ (o : ExtensionObject) (rest : List ExtensionObject) (trailing : Bytes),
      Encapsulation.extensionsLength (encodeChain (o :: rest) ++ trailing) =
          some (encodeChain (o :: rest)).length ∧
        NonceSync.findSpanExtension (encodeChain (o :: rest) ++ trailing) =
          (firstBody NonceSync.spanExtensionType 16 (o :: rest)).map (Bytes.copyN · 0 16) ∧
        findMpanExtension (encodeChain (o :: rest) ++ trailing) =
          (firstBody mpanExtensionType (1 + 16) (o :: rest)).map
            (fun body => (body.byte 0, body.copyN 1 16)) ∧
        findMgrpExtension (encodeChain (o :: rest) ++ trailing) =
          (firstBody mgrpExtensionType 1 (o :: rest)).map (Bytes.byte · 0)) ∧
    ∀ data : Bytes,
      Checked.extensionsLength data = .ok (Encapsulation.extensionsLength data) ∧
        Checked.findSpanExtension data = .ok (NonceSync.findSpanExtension data) ∧
        Checked.findMpanExtension data = .ok (findMpanExtension data) ∧
        Checked.findMgrpExtension data = .ok (findMgrpExtension data) := by
  constructor
  -- A chain is passed over to its end, and each visitor stops at the first object that it is for.
  · intro o rest trailing
    have hne : o :: rest ≠ [] := List.cons_ne_nil o rest
    refine ⟨Encapsulation.wellFormed_of_chain (chain_encodeChain hne) trailing, ?_, ?_, ?_⟩
    · rw [NonceSync.findSpanExtension, NonceSync.findSpanExtensionFrom_eq]
      exact (forEachExtension_encodeChain ignoresMore_visitSpan hne trailing).trans
        (@findSome?_eq_firstBody _ _ _ NonceSync.visitSpan _ (fun _ _ => rfl) _)
    · exact (forEachExtension_encodeChain ignoresMore_visitMpan hne trailing).trans
        (findSome?_eq_firstBody visitMpan_eq _)
    · exact (forEachExtension_encodeChain ignoresMore_visitMgrp hne trailing).trans
        (findSome?_eq_firstBody visitMgrp_eq _)
  -- No scan reads past the bytes that it has, well formed or not.
  · intro data
    exact ⟨Checked.extensionsLength_eq data, Checked.findSpanExtension_eq data,
      Checked.findMpanExtension_eq data, Checked.findMgrpExtension_eq data⟩

end Zwaved.S2
