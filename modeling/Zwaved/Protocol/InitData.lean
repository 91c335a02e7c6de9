import Mathlib.Data.Nat.Bitwise
import Zwaved.Protocol.Introspection

/-!
# The nodes of the network

The answer to `SERIAL_API_GET_INIT_DATA` has a bitmap of the nodes, of a length that it declares,
between a header and a trailer. `decodeInitData` goes through it byte by byte and bit by bit. The
numbers that it collects are those of the bits that are set, in order and up to the last node id
there is (`toNat_bitmapNodeIds`).
-/

namespace Zwaved.Protocol.HostApi

/-- The bit of the bitmap is set, and it is one of a node. -/
def isNodeBit (bitmap : Bytes) (i : ℕ) : Bool :=
  (bitmap.byte (i / bitsPerByte)).toNat.testBit (i % bitsPerByte) && i + 1 ≤ maxValidNodeId

/-- What `decodeInitData` should make of a payload. -/
structure InitDataOf (payload : Bytes) (response : InitDataResponse) : Prop where
  /-- The nodes ascend. -/
  sorted : (response.nodeIds.map UInt8.toNat).Pairwise (· < ·)
  /-- They are those whose bits are set, within the bitmap and up to the last node id. -/
  mem_iff : ∀ n, n ∈ response.nodeIds.map UInt8.toNat ↔
    1 ≤ n ∧ n ≤ maxValidNodeId ∧ (n - 1) / bitsPerByte < (payload.byte 2).toNat ∧
      (payload.byte (initDataHeader + (n - 1) / bitsPerByte)).toNat.testBit
        ((n - 1) % bitsPerByte) = true
  /-- The version and the capabilities are the header's. -/
  header : response.serialApiVersion = payload.byte 0 ∧ response.capabilities = payload.byte 1
  /-- The chip's type and version are the bytes behind the bitmap. -/
  chip : response.chipType = payload.byte (initDataHeader + (payload.byte 2).toNat) ∧
    response.chipVersion = payload.byte (initDataHeader + (payload.byte 2).toNat + 1)

/-- The payload holds the header, the bitmap that it declares, and the trailer. -/
def HoldsInitData (payload : Bytes) : Prop :=
  initDataHeader ≤ payload.length ∧
    initDataHeader + (payload.byte 2).toNat + initDataTrailer ≤ payload.length

/-! ## The bits of a byte -/

/-- Masking a byte with one bit gives zero exactly when that bit is not set. -/
theorem and_shiftLeft_eq_zero_iff (bits : UInt8) {bit : ℕ} (h : bit < bitsPerByte) :
    bits &&& 1 <<< UInt8.ofNat bit = 0 ↔ bits.toNat.testBit bit = false := by
  have hmasks : ∀ bit : Fin 8, (1 <<< UInt8.ofNat bit : UInt8).toNat = 2 ^ (bit : ℕ) := by decide
  have hmask : (1 <<< UInt8.ofNat bit : UInt8).toNat = 2 ^ bit := hmasks ⟨bit, h⟩
  have hpow : 2 ^ bit ≠ 0 := Nat.ne_of_gt (Nat.two_pow_pos bit)
  rw [← UInt8.toNat_inj, UInt8.toNat_and, hmask, Nat.and_two_pow]
  cases bits.toNat.testBit bit with
  | false => simp
  | true => simp

/-- The node ids that one byte of the bitmap gives are those of its set bits, in ascending order. -/
theorem toNat_filterMap_byte (bits : UInt8) (byteIdx : ℕ) :
    ((List.range bitsPerByte).filterMap fun bit =>
      let nodeId := byteIdx * bitsPerByte + bit + 1
      if bits &&& 1 <<< UInt8.ofNat bit = 0 then none
      else if nodeId ≤ maxValidNodeId then some (UInt8.ofNat nodeId)
      else none).map UInt8.toNat =
    ((List.range bitsPerByte).filter fun bit => bits.toNat.testBit bit &&
      byteIdx * bitsPerByte + bit + 1 ≤ maxValidNodeId).map
        fun bit => byteIdx * bitsPerByte + bit + 1 := by
  -- The bits of the byte go one by one to the ids that they stand for.
  rw [List.map_filterMap, ← List.filterMap_eq_filter, List.map_filterMap]
  refine List.filterMap_congr fun bit hbit => ?_
  have hmask := and_shiftLeft_eq_zero_iff bits (List.mem_range.mp hbit)
  unfold Option.guard
  beta_reduce
  -- A set bit is a node if its id is a valid one, and a clear bit is none.
  by_cases hset : bits.toNat.testBit bit = true
  · rw [if_neg (by rw [hmask, hset]; simp), hset]
    by_cases hvalid : byteIdx * bitsPerByte + bit + 1 ≤ maxValidNodeId
    · -- A node id fits into a byte.
      have hbyte : byteIdx * bitsPerByte + bit + 1 < 256 := Nat.lt_of_le_of_lt hvalid (by decide)
      simpa [hvalid] using hbyte
    · simp [hvalid]
  · have hclear : bits.toNat.testBit bit = false := Bool.not_eq_true _ ▸ hset
    rw [if_pos (hmask.mpr hclear), hclear]
    rfl

/-- The nodes of a bitmap are the places of its bits, counted from one. -/
theorem toNat_bitmapNodeIds (bitmap : Bytes) : (bitmapNodeIds bitmap).map UInt8.toNat =
    ((List.range (bitmap.length * bitsPerByte)).filter (isNodeBit bitmap)).map (· + 1) := by
  induction bitmap using List.reverseRecOn with
  | nil => rfl
  | append_singleton bitmap bits ih =>
    have hrange : List.range ((bitmap ++ [bits]).length * bitsPerByte) =
        List.range (bitmap.length * bitsPerByte) ++
          (List.range bitsPerByte).map (bitmap.length * bitsPerByte + ·) := by
      rw [List.length_append, List.length_singleton, Nat.add_mul, Nat.one_mul, List.range_add]
    -- A byte more leaves the bits before it.
    have hbefore : (List.range (bitmap.length * bitsPerByte)).filter
        (isNodeBit (bitmap ++ [bits])) =
          (List.range (bitmap.length * bitsPerByte)).filter (isNodeBit bitmap) := by
      refine List.filter_congr fun i hi => ?_
      have hbyte : i / bitsPerByte < bitmap.length :=
        Nat.div_lt_of_lt_mul (Nat.mul_comm .. ▸ List.mem_range.mp hi)
      rw [isNodeBit, isNodeBit, Bytes.byte_append_left _ hbyte]
    have hlast : ∀ bit ∈ List.range bitsPerByte,
        isNodeBit (bitmap ++ [bits]) (bitmap.length * bitsPerByte + bit) =
          (bits.toNat.testBit bit && bitmap.length * bitsPerByte + bit + 1 ≤ maxValidNodeId) := by
      intro bit hbit
      have hlt : bit < 8 := List.mem_range.mp hbit
      have hdiv : (bitmap.length * bitsPerByte + bit) / bitsPerByte = bitmap.length + 0 := by
        simp only [bitsPerByte]
        omega
      have hmod : (bitmap.length * bitsPerByte + bit) % bitsPerByte = bit := by
        simp only [bitsPerByte]
        omega
      rw [isNodeBit, hdiv, hmod, Bytes.byte_append_right]
      rfl
    have hsplit : bitmapNodeIds (bitmap ++ [bits]) = bitmapNodeIds bitmap ++
        (List.range bitsPerByte).filterMap fun bit =>
          let nodeId := bitmap.length * bitsPerByte + bit + 1
          if bits &&& 1 <<< UInt8.ofNat bit = 0 then none
          else if nodeId ≤ maxValidNodeId then some (UInt8.ofNat nodeId)
          else none := by
      simp [bitmapNodeIds, List.zipIdx_append]
    rw [hsplit, List.map_append, ih, toNat_filterMap_byte, hrange, List.filter_append,
      List.map_append, hbefore, List.filter_map, List.map_map]
    congr 2
    exact List.filter_congr fun bit hbit => (hlast bit hbit).symm

/-! ## The answer -/

variable {payload : Bytes} {frame : Serial.ZwaveDataFrame}

/-- A complete payload has as many bitmap bytes as it announces. -/
theorem length_bitmap (h : HoldsInitData payload) :
    (payload.subspan initDataHeader (payload.byte 2).toNat).length = (payload.byte 2).toNat := by
  obtain ⟨-, hlength⟩ := h
  rw [Bytes.subspan, List.length_take, List.length_drop]
  omega

/-- The bytes of the bitmap are those of the payload behind the header. -/
theorem byte_bitmap {i : ℕ} (h : i < (payload.byte 2).toNat) :
    (payload.subspan initDataHeader (payload.byte 2).toNat).byte i =
      payload.byte (initDataHeader + i) := by
  rw [Bytes.subspan, Bytes.byte, List.getD_eq_getElem?_getD, List.getElem?_take_of_lt h,
    List.getElem?_drop]
  exact (List.getD_eq_getElem?_getD ..).symm

/-- What is decoded of a payload that holds it all. -/
theorem initDataOf_response (h : HoldsInitData payload) : InitDataOf payload
    { serialApiVersion := payload.byte 0
      capabilities := payload.byte 1
      chipType := payload.byte (initDataHeader + (payload.byte 2).toNat)
      chipVersion := payload.byte (initDataHeader + (payload.byte 2).toNat + 1)
      nodeIds := bitmapNodeIds (payload.subspan initDataHeader (payload.byte 2).toNat) } := by
  have hnodes := toNat_bitmapNodeIds (payload.subspan initDataHeader (payload.byte 2).toNat)
  rw [length_bitmap h] at hnodes
  refine ⟨?_, fun n => ?_, ⟨rfl, rfl⟩, rfl, rfl⟩
  -- The bits are scanned upwards, so the ids ascend.
  · rw [hnodes, List.pairwise_map]
    exact (List.pairwise_lt_range.filter _).imp Nat.succ_lt_succ
  · rw [hnodes, List.mem_map]
    -- An id of the list comes from a bit of the bitmap, at the place that it has there.
    constructor
    · rintro ⟨i, hi, rfl⟩
      obtain ⟨hrange, hbit⟩ := List.mem_filter.mp hi
      have hbyte : i / bitsPerByte < (payload.byte 2).toNat :=
        Nat.div_lt_of_lt_mul (Nat.mul_comm .. ▸ List.mem_range.mp hrange)
      rw [isNodeBit, byte_bitmap hbyte, Bool.and_eq_true, decide_eq_true_eq] at hbit
      exact ⟨Nat.succ_pos i, hbit.2, hbyte, hbit.1⟩
    -- A set bit of the bitmap is scanned, and its id is on the list.
    · rintro ⟨hpos, hmax, hbyte, hbit⟩
      refine ⟨n - 1, List.mem_filter.mpr ⟨?_, ?_⟩, Nat.sub_add_cancel hpos⟩
      · refine List.mem_range.mpr ?_
        simp only [bitsPerByte] at hbyte ⊢
        omega
      · rw [isNodeBit, byte_bitmap hbyte, hbit, Bool.true_and, decide_eq_true_eq,
          Nat.sub_add_cancel hpos]
        exact hmax

/-- A response to `SERIAL_API_GET_INIT_DATA` is decoded exactly if it holds the header, the bitmap
that it declares and the trailer, and then the nodes ascend and are those whose bits are set. -/
theorem decodeInitData_exact (frame : Serial.ZwaveDataFrame) (hvalid : frame.valid = true)
    (hcommand : frame.commandId = cmdSerialApiGetInitData) (htype : frame.frameType = .response) :
    ((decodeInitData frame).isSome ↔ HoldsInitData frame.payload) ∧
      ∀ response, decodeInitData frame = some response → InitDataOf frame.payload response := by
  -- The frame is the response that was asked for, so only its payload decides.
  have hasks : ¬ (frame.valid = false ∨ frame.commandId ≠ cmdSerialApiGetInitData ∨
      frame.frameType ≠ .response) := by simp [hvalid, hcommand, htype]
  unfold decodeInitData decodeResponse
  rw [if_neg hasks]
  dsimp only
  -- Without the header the bitmap's length is not known; with it, the whole is as long as that
  -- says.
  by_cases hheader : frame.payload.length < initDataHeader
  · rw [if_pos hheader]
    refine ⟨iff_of_false Bool.false_ne_true fun h => ?_, fun _ hresponse => by cases hresponse⟩
    exact Nat.not_le.mpr hheader h.1
  rw [if_neg hheader]
  by_cases hlength : frame.payload.length <
      initDataHeader + (frame.payload.byte 2).toNat + initDataTrailer
  · rw [if_pos hlength]
    refine ⟨iff_of_false Bool.false_ne_true fun h => ?_, fun _ hresponse => by cases hresponse⟩
    exact Nat.not_le.mpr hlength h.2
  · have holds : HoldsInitData frame.payload := ⟨Nat.not_lt.mp hheader, Nat.not_lt.mp hlength⟩
    rw [if_neg hlength]
    refine ⟨iff_of_true rfl holds, fun response hresponse => ?_⟩
    obtain rfl := Option.some.inj hresponse
    exact initDataOf_response holds

/-- A dongle with two bytes of bitmap: nodes 1, 5 and 16. -/
theorem decodeInitData_exact_three : InitDataOf [8, 0, 2, 0x11, 0x80, 7, 1]
    { serialApiVersion := 8, capabilities := 0, chipType := 7, chipVersion := 1,
      nodeIds := [1, 5, 16] } :=
  (decodeInitData_exact
    { frameType := .response, commandId := cmdSerialApiGetInitData,
      payload := [8, 0, 2, 0x11, 0x80, 7, 1], valid := true } rfl rfl rfl).2 _ rfl

end Zwaved.Protocol.HostApi
