import Zwaved.Codec.Counted

/-!
# The actions of a scene

`SceneStore.cpp` lays the actions of a scene down as a blob: a version, a count, and for each action
its target, the length of its payload and the payload. Both the count and the length are one byte.
`setScene` checks the first; nothing checks the second. What is read back has no longer payloads
than a byte can say, so the actions are read back as they were exactly if theirs are no longer
(`decodeActions_encodeActions_iff`).
-/

namespace Zwaved.SceneStore

/-- `Action`. -/
structure Action where
  /-- `targetNodeId`. -/
  targetNodeId : NodeId := 0
  /-- `ccPayload`. -/
  ccPayload : Bytes := []
  deriving DecidableEq, Repr

/-- `BLOB_VERSION`. -/
def blobVersion : UInt8 := 1

/-- `MAX_BLOB_ITEMS`. -/
def maxBlobItems : ℕ := 255

/-- What `encodeActions` appends for an action. -/
def encodeAction (action : Action) : Bytes :=
  [action.targetNodeId, action.ccPayload.length.toUInt8] ++ action.ccPayload

/-- `encodeActions`. -/
def encodeActions (actions : List Action) : Bytes :=
  [blobVersion, actions.length.toUInt8] ++ actions.flatMap encodeAction

/-- The body of the loop of `decodeActions`: an action and the position after it. -/
def decodeAction : Codec.Reader PastEnd UInt8 Action := fun (data : Bytes) pos =>
  if pos + 2 > data.length then return none
  else do
    let targetNodeId ← data.readAt pos
    let length := (← data.readAt (pos + 1)).toNat
    if pos + 2 + length > data.length then return none
    else
      let ccPayload ← data.readSpan (pos + 2) length
      return some ({ targetNodeId, ccPayload }, pos + 2 + length)

/-- `decodeActions`. An empty blob has no `data`. -/
def decodeActions (data : Bytes) : Read (Option (List Action)) :=
  if data.length < 2 then return none
  else do
    if (← data.readAt 0) ≠ blobVersion then return none
    else
      let count ← data.readAt 1
      return (← Codec.times decodeAction count.toNat data 2).map Prod.fst

/-! ## The format -/

/-- The bytes that are read as an action. -/
def ActionForm (action : Action) (form : Bytes) : Prop :=
  action.ccPayload.length ≤ maxBlobItems ∧ form = encodeAction action

/-- `decodeActions` is the reader of counted actions behind a version. -/
theorem decodeActions_eq : decodeActions = readCounted blobVersion decodeAction := rfl

/-- `encodeActions` is the writer of counted actions behind a version. -/
theorem encodeActions_eq : encodeActions = writeCounted blobVersion encodeAction := rfl

/-- What `decodeAction` does behind a target and a length. -/
theorem decodeAction_append (before : Bytes) (targetNodeId length : UInt8) (body : Bytes) :
    decodeAction (before ++ targetNodeId :: length :: body) before.length =
      if body.length < length.toNat then .ok none
      else .ok (some ({ targetNodeId, ccPayload := body.take length.toNat },
        before.length + (2 + length.toNat))) := by
  -- The two bytes of the header are where the action starts.
  have htarget : Bytes.readAt (before ++ targetNodeId :: length :: body) before.length =
      .ok targetNodeId := Bytes.readAt_append (i := 0) before (Nat.succ_pos _)
  have hlength : Bytes.readAt (before ++ targetNodeId :: length :: body) (before.length + 1) =
      .ok length := Bytes.readAt_append (i := 1) before (Nat.succ_lt_succ (Nat.succ_pos _))
  have htotal : (before ++ targetNodeId :: length :: body).length =
      before.length + 2 + body.length := by
    simp only [List.length_append, List.length_cons]
    omega
  unfold decodeAction
  rw [if_neg (by omega), htarget]
  simp only [Read.ok_bind, hlength, Read.pure_eq_ok]
  change (if before.length + 2 + length.toNat > _ then _ else _) = _
  -- The payload is there, or it is cut short.
  by_cases hshort : body.length < length.toNat
  · rw [if_pos (by omega), if_pos hshort]
  · have hspan : Bytes.subspan (before ++ targetNodeId :: length :: body) (before.length + 2)
        length.toNat = body.take length.toNat := by
      rw [Bytes.subspan, List.drop_append, List.drop_of_length_le (by omega)]
      simp
    rw [if_neg (by omega), if_neg hshort, Bytes.readSpan_of_le (by omega), hspan, Nat.add_assoc]
    rfl

/-- `decodeAction` parses the actions in their forms. -/
theorem parses_decodeAction : Codec.Parses decodeAction ActionForm := by
  constructor
  -- The length has one byte, and a payload of the form has a length that fits.
  · rintro action form ⟨hlength, rfl⟩ before after
    have hbyte : action.ccPayload.length.toUInt8.toNat = action.ccPayload.length := by
      rw [Nat.toUInt8_eq, UInt8.toNat_ofNat']
      exact Nat.mod_eq_of_lt (Nat.lt_succ_of_le hlength)
    have hread := decodeAction_append before action.targetNodeId action.ccPayload.length.toUInt8
      (action.ccPayload ++ after)
    rw [hbyte, if_neg (by simp), List.take_left] at hread
    rw [encodeAction, List.append_assoc]
    simp only [List.length_append, List.length_cons, List.length_nil, Nat.zero_add]
    exact hread
  · intro before tail
    -- Without a whole header there is no action.
    match tail with
    | [] => exact Or.inl (if_pos (by simp))
    | [targetNodeId] => exact Or.inl (if_pos (by simp))
    | targetNodeId :: length :: body =>
      rw [decodeAction_append]
      by_cases hshort : body.length < length.toNat
      · exact Or.inl (if_pos hshort)
      · -- The form is what the loop has moved over.
        have htaken : (body.take length.toNat).length = length.toNat := by
          rw [List.length_take]
          omega
        rw [if_neg hshort]
        refine Or.inr ⟨{ targetNodeId, ccPayload := body.take length.toNat },
          targetNodeId :: length :: body.take length.toNat, body.drop length.toNat, ?_,
          ⟨?_, ?_⟩, ?_⟩
        · rw [List.cons_append, List.cons_append, List.take_append_drop]
        · rw [htaken]
          exact Nat.le_of_lt_succ length.toNat_lt
        · rw [encodeAction, htaken, Nat.toUInt8_eq, UInt8.ofNat_toNat]
          rfl
        · simp only [List.length_cons, htaken]
          rw [Nat.add_comm 2]

/-- What is stored is read back as it was exactly if no payload is longer than a byte can say. -/
theorem decodeActions_encodeActions_iff {actions : List Action}
    (hlength : actions.length ≤ maxBlobItems) :
    decodeActions (encodeActions actions) = .ok (some actions) ↔
      ∀ action ∈ actions, action.ccPayload.length ≤ maxBlobItems := by
  rw [decodeActions_eq, encodeActions_eq]
  constructor
  · intro h action haction
    obtain ⟨form, hform⟩ := (forms_of_readCounted parses_decodeAction h).2 action haction
    exact hform.1
  · intro hpayloads
    have hcount : actions.length % 256 = actions.length :=
      Nat.mod_eq_of_lt (Nat.lt_succ_of_le hlength)
    rw [readCounted_writeCounted parses_decodeAction fun action haction =>
      ⟨hpayloads action haction, rfl⟩, hcount, List.take_length]

end Zwaved.SceneStore
