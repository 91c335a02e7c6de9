import Mathlib.Data.FinEnum
import Mathlib.Data.Nat.Bitwise
import Zwaved.Codec.BigEndian
import Zwaved.Protocol.Encoders
import Zwaved.Reads

/-!
# Scaled values

Sensors, meters and configuration parameters report signed values of one, two or four bytes. Three
modules of `application/` read such a value and extend its sign: `EncodedValue.cpp`, which also
writes it, `Configuration.cpp` and `Meter.cpp`. They read the same value from the same bytes
(`ReadsAlike`), and what is written is read back (`Survives`).

The readers are modelled with checked reads, and with checked shifts: a shift by the width of the
word is undefined behaviour, and one that pushes bits out loses a part of the value.
-/

namespace Zwaved.Protocol

namespace ScaledValue

/-- What a reader must not do. -/
inductive Fault
  /-- A read past the end of a span. -/
  | pastEnd (read : PastEnd)
  /-- A shift by the width of the word or more, or one that bits are lost in. -/
  | shift (word amount : UInt32)
  deriving DecidableEq, Repr

/-- What is computed by reads and shifts, or the first that fails. -/
abbrev Checked := Except Fault

/-- What follows a step that succeeds goes on with its value. -/
@[simp] theorem Checked.ok_bind {α β : Type} (a : α) (f : α → Checked β) :
    ((Except.ok a : Checked α) >>= f) = f a := rfl

/-- A value is a step that succeeds with it. -/
@[simp] theorem Checked.pure_eq_ok {α : Type} (a : α) : (pure a : Checked α) = .ok a := rfl

/-- `data[i]`. -/
def byteAt (data : Bytes) (i : ℕ) : Checked UInt8 := (data.readAt i).mapError .pastEnd

/-- `word << amount`. -/
def shiftLeft (word amount : UInt32) : Checked UInt32 :=
  if amount.toNat < 32 ∧ word.toNat <<< amount.toNat < 2 ^ 32 then .ok (word <<< amount)
  else .error (.shift word amount)

/-! ## The readers

`EncodedValue.cpp`, `Configuration.cpp` and `Meter.cpp` have each a copy of the functions of this
section. What is `readSigned` in `Meter.cpp` is a part of the decoder in the other two. -/

/-- `BITS_PER_BYTE`. -/
def bitsPerByte : UInt32 := 8

/-- `isValidSize`. -/
def ValidSize (size : UInt8) : Prop := size = 1 ∨ size = 2 ∨ size = 4

instance (size : UInt8) : Decidable (ValidSize size) := inferInstanceAs (Decidable (_ ∨ _))

/-- `signBit`. -/
def signBit (size : UInt8) : Checked UInt32 := shiftLeft 1 (size.toUInt32 * bitsPerByte - 1)

/-- `valueMask`. -/
def valueMask (size : UInt8) : Checked UInt32 :=
  if size = 4 then return ~~~0
  else return (← shiftLeft 1 (size.toUInt32 * bitsPerByte)) - 1

/-- The loop of `readSigned`. -/
def readRaw (payload : Bytes) (offset : ℕ) : ℕ → Checked UInt32
  | 0 => return 0
  | i + 1 => do
    let raw ← readRaw payload offset i
    return (← shiftLeft raw bitsPerByte) ||| (← byteAt payload (offset + i)).toUInt32

/-- `readSigned`. -/
def readSigned (payload : Bytes) (offset : ℕ) (size : UInt8) : Checked Int32 := do
  let raw ← readRaw payload offset size.toNat
  if raw &&& (← signBit size) ≠ 0 then return (raw ||| ~~~(← valueMask size)).toInt32
  else return raw.toInt32

/-- `REPORT_HEADER_BYTES`. -/
def reportHeaderBytes : ℕ := 4

/-- The test that a report starts with. -/
def startsReport (payload : Bytes) (commandClass command : UInt8) : Checked Bool :=
  if payload.length < reportHeaderBytes then return false
  else do
    if (← byteAt payload 0) ≠ commandClass then return false
    else return decide ((← byteAt payload 1) = command)

end ScaledValue

open ScaledValue

namespace EncodedValue

/-- `Decoded`. -/
structure Decoded where
  /-- `size`. -/
  size : UInt8
  /-- `scale`. -/
  scale : UInt8
  /-- `precision`. -/
  precision : UInt8
  /-- `value`. -/
  value : Int32
  deriving DecidableEq, Repr

/-- `decode`. -/
def decode (flags : UInt8) (valueBytes : Bytes) : Checked (Option Decoded) :=
  let size := flags &&& 0x07
  if ¬ ValidSize size ∨ valueBytes.length < size.toNat then return none
  else do
    let value ← readSigned valueBytes 0 size
    return some { size, scale := (flags &&& 0x18) >>> 3, precision := (flags &&& 0xE0) >>> 5, value }

end EncodedValue

namespace Configuration

/-- `Report`. -/
structure Report where
  /-- `parameter`. -/
  parameter : UInt8
  /-- `size`. -/
  size : UInt8
  /-- `value`. -/
  value : Int32
  deriving DecidableEq, Repr

/-- `decodeReport`. -/
def decodeReport (payload : Bytes) : Checked (Option Report) := do
  if ¬ (← startsReport payload commandClass 0x06) then return none
  else
    let parameter ← byteAt payload 2
    let size ← byteAt payload 3
    if ¬ ValidSize size then return none
    else if payload.length < reportHeaderBytes + size.toNat then return none
    else
      let value ← readSigned payload 4 size
      return some { parameter, size, value }

end Configuration

namespace Meter

/-- `Report`. -/
structure Report where
  /-- `meterType`. -/
  meterType : UInt8
  /-- `rateType`. -/
  rateType : UInt8
  /-- `scale`. -/
  scale : UInt8
  /-- `precision`. -/
  precision : UInt8
  /-- `value`. -/
  value : Int32
  /-- `deltaTime`. -/
  deltaTime : UInt16
  /-- `previousValue`. -/
  previousValue : Int32 := 0
  /-- `hasPrevious`. -/
  hasPrevious : Bool := false
  deriving DecidableEq, Repr

/-- `DELTA_TIME_BYTES`. -/
def deltaTimeBytes : ℕ := 2

/-- `decodeReport`. -/
def decodeReport (payload : Bytes) : Checked (Option Report) := do
  if ¬ (← startsReport payload commandClass 0x02) then return none
  else
    let properties1 ← byteAt payload 2
    let flags ← byteAt payload 3
    let size := flags &&& 0x07
    if ¬ ValidSize size ∨ payload.length < reportHeaderBytes + size.toNat + deltaTimeBytes then
      return none
    else
      let scaleLow := (flags &&& 0x18) >>> 3
      let scaleBit2 : UInt8 := if properties1 &&& 0x80 ≠ 0 then 1 else 0
      let value ← readSigned payload 4 size
      let deltaOffset := 4 + size.toNat
      let high ← byteAt payload deltaOffset
      let low ← byteAt payload (deltaOffset + 1)
      let out : Report :=
        { meterType := properties1 &&& 0x1F
          rateType := (properties1 &&& 0x60) >>> 5
          scale := (scaleBit2 <<< 2) ||| scaleLow
          precision := (flags &&& 0xE0) >>> 5
          value
          deltaTime := (high.toUInt16 <<< 8) ||| low.toUInt16 }
      if out.deltaTime ≠ 0 then
        let prevOffset := deltaOffset + deltaTimeBytes
        if payload.length < prevOffset + size.toNat then return none
        else
          let previousValue ← readSigned payload prevOffset size
          return some { out with previousValue, hasPrevious := true }
      else return some out

end Meter

/-! ## What is read -/

namespace ScaledValue

open Codec (twosComplement)

/-- The value that starts a byte string, if all its bytes are there. -/
def valueOf (size : UInt8) (bytes : Bytes) : Option ℤ :=
  if size.toNat ≤ bytes.length then some (twosComplement (bytes.take size.toNat)) else none

/-- Behind a meter's value are the time since the last one, and, if it is not zero, that value. -/
def Whole (size : UInt8) (bytes : Bytes) : Prop :=
  size.toNat + 2 ≤ bytes.length ∧
    ((bytes.byte size.toNat ≠ 0 ∨ bytes.byte (size.toNat + 1) ≠ 0) →
      size.toNat + 2 + size.toNat ≤ bytes.length)

instance (size : UInt8) (bytes : Bytes) : Decidable (Whole size bytes) :=
  inferInstanceAs (Decidable (_ ∧ _))

/-- The readers find the same value in the bytes behind their headers, or they refuse. -/
structure ReadsAlike (size : UInt8) (bytes : Bytes) : Prop where
  /-- `EncodedValue::decode`. -/
  encodedValue : ∀ flags, flags &&& 0x07 = size →
    (EncodedValue.decode flags bytes).map (Option.map fun decoded => decoded.value.toInt) =
      .ok (valueOf size bytes)
  /-- `Configuration::decodeReport`. -/
  configuration : ∀ parameter,
    (Configuration.decodeReport ([Configuration.commandClass, 0x06, parameter, size] ++ bytes)).map
      (Option.map fun report => report.value.toInt) = .ok (valueOf size bytes)
  /-- `Meter::decodeReport`, for which more bytes must be there. -/
  meter : ∀ properties1 flags, flags &&& 0x07 = size →
    (Meter.decodeReport ([Meter.commandClass, 0x02, properties1, flags] ++ bytes)).map
      (Option.map fun report => report.value.toInt) =
        .ok (if Whole size bytes then valueOf size bytes else none)

/-- The value can be written in so many bytes. -/
def Fits (size : UInt8) (value : Int32) : Prop :=
  -2 ^ (8 * size.toNat - 1) ≤ value.toInt ∧ value.toInt < 2 ^ (8 * size.toNat - 1)

/-- The value is written in as few bytes as possible, and read back. -/
def Survives (precision scale : UInt8) (value : Int32) : Prop :=
  ∃ size flags valueBytes, EncodedValue.encode precision scale value = flags :: valueBytes ∧
    valueBytes.length = size.toNat ∧
    (ValidSize size ∧ Fits size value ∧
      ∀ smaller, ValidSize smaller → Fits smaller value → size ≤ smaller) ∧
    EncodedValue.decode flags valueBytes =
      .ok (some { size, scale := scale % 4, precision := precision % 8, value })

/-! ## Sign extension -/

/-- A valid size is at most four bytes. -/
theorem ValidSize.toNat_le {size : UInt8} (h : ValidSize size) : size.toNat ≤ 4 := by
  obtain rfl | rfl | rfl := h <;> decide

/-- A shift by less than the width of a value that does not overflow is defined, and is the
machine's. -/
theorem shiftLeft_eq {word amount : UInt32} (hamount : amount.toNat < 32)
    (hfits : word.toNat <<< amount.toNat < 2 ^ 32) :
    shiftLeft word amount = .ok (word <<< amount) := if_pos ⟨hamount, hfits⟩

/-- Reading inside the data succeeds with the byte that is there. -/
theorem byteAt_of_lt {data : Bytes} {i : ℕ} (h : i < data.length) :
    byteAt data i = .ok (data.byte i) := by
  rw [byteAt, Bytes.readAt_of_lt h]
  rfl

/-- The bytes that have been read are those of the word, and no bit is lost. -/
theorem readRaw_eq {payload : Bytes} {offset n : ℕ} (hn : n ≤ 4)
    (h : offset + n ≤ payload.length) : ∃ raw, readRaw payload offset n = .ok raw ∧
      raw.toNat = Codec.bigEndian (payload.subspan offset n) := by
  induction n with
  | zero => exact ⟨0, rfl, rfl⟩
  | succ n ih =>
    obtain ⟨raw, hread, hraw⟩ := ih (by omega) (by omega)
    have hlength : (payload.subspan offset n).length ≤ n := Bytes.length_subspan_le ..
    -- Up to three bytes are behind, so the eight highest bits are free for the shift.
    have hlt : raw.toNat < 2 ^ 24 :=
      calc raw.toNat = Codec.bigEndian (payload.subspan offset n) := hraw
        _ < 256 ^ (payload.subspan offset n).length := Codec.bigEndian_lt _
        _ ≤ 256 ^ 3 := Nat.pow_le_pow_right (by decide) (by omega)
        _ = 2 ^ 24 := by norm_num
    have height : bitsPerByte.toNat = 8 := rfl
    have hshift : raw.toNat <<< 8 < 2 ^ 32 := by
      rw [Nat.shiftLeft_eq]
      omega
    have hbyte := (payload.byte (offset + n)).toNat_lt
    refine ⟨(raw <<< bitsPerByte) ||| (payload.byte (offset + n)).toUInt32, ?_, ?_⟩
    · rw [readRaw, hread, byteAt_of_lt (by omega)]
      simp only [Checked.ok_bind]
      rw [shiftLeft_eq (by rw [height]; decide) hshift]
      rfl
    · rw [Bytes.subspan_succ (by omega), Codec.bigEndian_append, ← hraw, UInt32.toNat_or,
        UInt32.toNat_shiftLeft, height, UInt8.toNat_toUInt32, Nat.mod_eq_of_lt hshift,
        ← Nat.shiftLeft_add_eq_or_of_lt hbyte, Nat.shiftLeft_eq]
      rfl

/-- A word taken as signed is its two's complement value. -/
theorem toInt_toInt32 (word : UInt32) : word.toInt32.toInt = Int.bmod word.toNat (2 ^ 32) :=
  BitVec.toInt_eq_toNat_bmod word.toBitVec

/-- The sign of a field of `k + 1` bits is extended over the bits above it. -/
theorem toInt_signExtend {raw bit high : UInt32} {k h : ℕ} (hraw : raw.toNat < 2 ^ (k + 1))
    (hbit : bit.toNat = 2 ^ k) (hhigh : high.toNat = h <<< (k + 1))
    (hwidth : (h + 1) <<< (k + 1) = 2 ^ 32) :
    (if raw &&& bit ≠ 0 then (raw ||| high).toInt32 else raw.toInt32).toInt =
      Int.bmod raw.toNat (2 ^ (k + 1)) := by
  have hpow : 2 ^ (k + 1) = 2 ^ k * 2 := Nat.pow_succ ..
  have hsign : raw &&& bit ≠ 0 ↔ 2 ^ k ≤ raw.toNat := by
    rw [ne_eq, ← UInt32.toNat_inj, UInt32.toNat_and, hbit, Nat.and_two_pow]
    constructor
    · intro hset
      by_contra hlow
      rw [Nat.testBit_lt_two_pow (Nat.lt_of_not_le hlow)] at hset
      exact hset (Nat.zero_mul _)
    · intro hhigh
      have hpos := Nat.two_pow_pos k
      rw [Nat.testBit_of_two_pow_le_and_two_pow_add_one_gt hhigh hraw, Bool.toNat_true, Nat.one_mul]
      exact Nat.ne_of_gt hpos
  have hor : (raw ||| high).toNat = h <<< (k + 1) + raw.toNat := by
    rw [UInt32.toNat_or, hhigh, Nat.or_comm, Nat.shiftLeft_add_eq_or_of_lt hraw]
  -- The bits above the field add up to the rest of the word, which is `-width` in 32 bits.
  rw [Nat.shiftLeft_eq, Nat.add_mul, Nat.one_mul] at hwidth
  rw [Nat.shiftLeft_eq] at hor
  generalize h * 2 ^ (k + 1) = upper at hwidth hor
  generalize 2 ^ (k + 1) = width at *
  by_cases hset : 2 ^ k ≤ raw.toNat
  · have hvalue : Int.bmod raw.toNat width = raw.toNat - width :=
      (Int.bmod_eq_iff (by omega)).mpr ⟨by omega, by omega, ⟨-1, by omega⟩⟩
    rw [if_pos (hsign.mpr hset), toInt_toInt32, hor, hvalue]
    exact (Int.bmod_eq_iff (by omega)).mpr ⟨by omega, by omega, ⟨-1, by omega⟩⟩
  · have hvalue : Int.bmod raw.toNat width = raw.toNat :=
      (Int.bmod_eq_iff (by omega)).mpr ⟨by omega, by omega, ⟨0, by omega⟩⟩
    rw [if_neg (hsign.not.mpr hset), toInt_toInt32, hvalue]
    exact (Int.bmod_eq_iff (by omega)).mpr ⟨by omega, by omega, ⟨0, by omega⟩⟩

/-- The masks of a size can be shifted into place, and leave the bits above the field. -/
theorem masks_eq {size : UInt8} (hsize : ValidSize size) : ∃ bit mask k h,
    signBit size = .ok bit ∧ valueMask size = .ok mask ∧ bit.toNat = 2 ^ k ∧
      (~~~mask).toNat = h <<< (k + 1) ∧ (h + 1) <<< (k + 1) = 2 ^ 32 ∧
        256 ^ size.toNat = 2 ^ (k + 1) := by
  obtain rfl | rfl | rfl := hsize
  · exact ⟨0x80, 0xFF, 7, 0xFFFFFF, rfl, rfl, rfl, rfl, rfl, rfl⟩
  · exact ⟨0x8000, 0xFFFF, 15, 0xFFFF, rfl, rfl, rfl, rfl, rfl, rfl⟩
  · exact ⟨0x80000000, 0xFFFFFFFF, 31, 0, rfl, rfl, rfl, rfl, rfl, rfl⟩

/-- With all its bytes there, a signed value is read without undefined behaviour as the two's
complement of its bytes. -/
theorem readSigned_eq {size : UInt8} (hsize : ValidSize size) (payload : Bytes) {offset : ℕ}
    (h : offset + size.toNat ≤ payload.length) : ∃ value,
      readSigned payload offset size = .ok value ∧
        value.toInt = twosComplement (payload.subspan offset size.toNat) := by
  obtain ⟨raw, hread, hraw⟩ := readRaw_eq hsize.toNat_le h
  have hlength : (payload.subspan offset size.toNat).length = size.toNat := by
    rw [Bytes.subspan, List.length_take, List.length_drop]
    omega
  have hlt := Codec.bigEndian_lt (payload.subspan offset size.toNat)
  rw [hlength, ← hraw] at hlt
  -- The masks of a size are told by its sign bit and its width.
  obtain ⟨bit, mask, k, upper, hbit, hmask, hk, hupper, hwidth, hpow⟩ := masks_eq hsize
  rw [hpow] at hlt
  -- The sign is spread over the bits above the width, which makes it the two's complement.
  have hvalue : (if raw &&& bit ≠ 0 then (raw ||| ~~~mask).toInt32 else raw.toInt32).toInt =
      twosComplement (payload.subspan offset size.toNat) := by
    rw [toInt_signExtend hlt hk hupper hwidth, twosComplement, hlength, hpow, ← hraw]
  refine ⟨_, ?_, hvalue⟩
  rw [readSigned, hread, Checked.ok_bind, hbit, Checked.ok_bind, hmask]
  -- The two branches of the source, with the sign bit set or not.
  by_cases hset : raw &&& bit ≠ 0
  · rw [if_pos hset, if_pos hset]
    rfl
  · rw [if_neg hset, if_neg hset]
    rfl

/-! ## The readers -/

variable {size : UInt8} {bytes : Bytes}

/-- With all its bytes there, the value is the two's complement of the first ones. -/
theorem valueOf_of_le (h : size.toNat ≤ bytes.length) :
    valueOf size bytes = some (twosComplement (bytes.take size.toNat)) := if_pos h

/-- With too few bytes there is no value. -/
theorem valueOf_of_lt (h : bytes.length < size.toNat) : valueOf size bytes = none :=
  if_neg (Nat.not_le.mpr h)

/-- The same behind a header of four bytes. -/
theorem readSigned_header (hsize : ValidSize size) (b0 b1 b2 b3 : UInt8)
    (h : size.toNat ≤ bytes.length) : ∃ value,
      readSigned ([b0, b1, b2, b3] ++ bytes) 4 size = .ok value ∧
        value.toInt = twosComplement (bytes.take size.toNat) := by
  refine readSigned_eq hsize _ ?_
  rw [List.length_append]
  exact Nat.add_le_add_left h 4

/-- A frame with the header of a report starts one. -/
theorem startsReport_header (commandClass command b2 b3 : UInt8) (bytes : Bytes) :
    startsReport ([commandClass, command, b2, b3] ++ bytes) commandClass command = .ok true := by
  have hlong : ¬ ([commandClass, command, b2, b3] ++ bytes).length < reportHeaderBytes := by
    rw [List.length_append, reportHeaderBytes]
    exact Nat.not_lt.mpr (Nat.le_add_right 4 _)
  have hbyte : ∀ i < 4, byteAt ([commandClass, command, b2, b3] ++ bytes) i =
      .ok (Bytes.byte ([commandClass, command, b2, b3] ++ bytes) i) :=
    fun i hi => byteAt_of_lt (Nat.lt_of_lt_of_le hi (Nat.not_lt.mp hlong))
  have hclass : Bytes.byte ([commandClass, command, b2, b3] ++ bytes) 0 = commandClass := rfl
  have hcommand : Bytes.byte ([commandClass, command, b2, b3] ++ bytes) 1 = command := rfl
  unfold startsReport
  rw [if_neg hlong, hbyte 0 (by decide), hbyte 1 (by decide), hclass, hcommand]
  simp

/-- `EncodedValue::decode` gives the value that starts the bytes, or nothing if there are too few,
without undefined behaviour. -/
theorem encodedValue_eq (hsize : ValidSize size) {flags : UInt8} (hflags : flags &&& 0x07 = size) :
    (EncodedValue.decode flags bytes).map (Option.map fun decoded => decoded.value.toInt) =
      .ok (valueOf size bytes) := by
  unfold EncodedValue.decode
  rw [hflags]
  by_cases hshort : bytes.length < size.toNat
  · rw [if_pos (Or.inr hshort), valueOf_of_lt hshort]
    rfl
  · have hwhole := Nat.not_lt.mp hshort
    obtain ⟨value, hread, hvalue⟩ := readSigned_eq hsize bytes (show 0 + size.toNat ≤ _ by omega)
    rw [if_neg (not_or.mpr ⟨not_not.mpr hsize, hshort⟩), hread, valueOf_of_le hwhole]
    exact congrArg (Except.ok ∘ some) hvalue

/-- `Configuration::decodeReport` gives the same value behind its own header. -/
theorem configuration_eq (hsize : ValidSize size) (parameter : UInt8) :
    (Configuration.decodeReport ([Configuration.commandClass, 0x06, parameter, size] ++ bytes)).map
      (Option.map fun report => report.value.toInt) = .ok (valueOf size bytes) := by
  have hlength : ([Configuration.commandClass, 0x06, parameter, size] ++ bytes).length =
      4 + bytes.length := List.length_append
  have hbyte : byteAt ([Configuration.commandClass, 0x06, parameter, size] ++ bytes) 3 = .ok size :=
    byteAt_of_lt (by omega)
  have hheader : reportHeaderBytes = 4 := rfl
  unfold Configuration.decodeReport
  rw [startsReport_header, byteAt_of_lt (by omega), hbyte, hlength, hheader]
  simp only [Checked.ok_bind]
  rw [if_neg (not_not.mpr trivial), if_neg (not_not.mpr hsize)]
  by_cases hshort : bytes.length < size.toNat
  · rw [if_pos (Nat.add_lt_add_left hshort 4), valueOf_of_lt hshort]
    rfl
  · have hwhole := Nat.not_lt.mp hshort
    obtain ⟨value, hread, hvalue⟩ :=
      readSigned_header hsize Configuration.commandClass 0x06 parameter size hwhole
    rw [if_neg (by omega), hread, valueOf_of_le hwhole]
    exact congrArg (Except.ok ∘ some) hvalue

/-- Two bytes joined are zero exactly when both are. -/
theorem deltaTime_ne_zero_iff (high low : UInt8) :
    (high.toUInt16 <<< 8) ||| low.toUInt16 ≠ 0 ↔ high ≠ 0 ∨ low ≠ 0 := by
  have hhigh := high.toNat_lt
  have hlow := low.toNat_lt
  have hshift : high.toUInt16.toNat <<< 8 % 2 ^ 16 = high.toNat <<< 8 := by
    rw [UInt8.toNat_toUInt16, Nat.shiftLeft_eq]
    omega
  have hsum : ((high.toUInt16 <<< 8) ||| low.toUInt16).toNat = high.toNat * 2 ^ 8 + low.toNat := by
    rw [UInt16.toNat_or, UInt16.toNat_shiftLeft, UInt8.toNat_toUInt16 low]
    show high.toUInt16.toNat <<< 8 % 2 ^ 16 ||| low.toNat = _
    rw [hshift, ← Nat.shiftLeft_add_eq_or_of_lt hlow, Nat.shiftLeft_eq]
  rw [ne_eq, ne_eq, ne_eq, ← UInt16.toNat_inj, ← UInt8.toNat_inj, ← UInt8.toNat_inj, hsum]
  simp only [UInt16.toNat_zero, UInt8.toNat_zero]
  omega

/-- `Meter::decodeReport` gives the same value behind its own header, and nothing if the time and
the previous value that must follow are not all there. -/
theorem meter_eq (hsize : ValidSize size) (properties1 : UInt8) {flags : UInt8}
    (hflags : flags &&& 0x07 = size) :
    (Meter.decodeReport ([Meter.commandClass, 0x02, properties1, flags] ++ bytes)).map
      (Option.map fun report => report.value.toInt) =
        .ok (if Whole size bytes then valueOf size bytes else none) := by
  have hlength : ([Meter.commandClass, 0x02, properties1, flags] ++ bytes).length =
      4 + bytes.length := List.length_append
  have hbyte : byteAt ([Meter.commandClass, 0x02, properties1, flags] ++ bytes) 3 = .ok flags :=
    byteAt_of_lt (by omega)
  have hheader : reportHeaderBytes = 4 := rfl
  have hdelta : Meter.deltaTimeBytes = 2 := rfl
  unfold Meter.decodeReport
  rw [startsReport_header, byteAt_of_lt (by omega), hbyte, hlength, hheader, hdelta]
  simp only [Checked.ok_bind]
  rw [if_neg (not_not.mpr trivial), hflags]
  by_cases hshort : 4 + bytes.length < 4 + size.toNat + 2
  · have hpart : ¬ Whole size bytes := fun hwhole => absurd hwhole.1 (by omega)
    rw [if_pos (Or.inr hshort), if_neg hpart]
    rfl
  have hlong : size.toNat + 2 ≤ bytes.length := by omega
  obtain ⟨value, hread, hvalue⟩ :=
    readSigned_header hsize Meter.commandClass 0x02 properties1 flags
      (show size.toNat ≤ bytes.length by omega)
  -- Behind the value are the two bytes of the delta time.
  have hhigh : byteAt ([Meter.commandClass, 0x02, properties1, flags] ++ bytes) (4 + size.toNat) =
      .ok (bytes.byte size.toNat) := by
    rw [byteAt_of_lt (by omega)]
    exact congrArg _ (Bytes.byte_append_right _ bytes size.toNat)
  have hlow : byteAt ([Meter.commandClass, 0x02, properties1, flags] ++ bytes)
      (4 + size.toNat + 1) = .ok (bytes.byte (size.toNat + 1)) := by
    rw [byteAt_of_lt (by omega)]
    exact congrArg _ (Bytes.byte_append_right _ bytes (size.toNat + 1))
  have hsome : (Except.ok (some value.toInt) : Checked (Option ℤ)) = .ok (valueOf size bytes) := by
    rw [valueOf_of_le (by omega), hvalue]
  rw [if_neg (not_or.mpr ⟨not_not.mpr hsize, hshort⟩), hread, hhigh, hlow]
  simp only [Checked.ok_bind]
  by_cases htime : bytes.byte size.toNat ≠ 0 ∨ bytes.byte (size.toNat + 1) ≠ 0
  · rw [if_pos ((deltaTime_ne_zero_iff _ _).mpr htime)]
    by_cases hcut : 4 + bytes.length < 4 + size.toNat + 2 + size.toNat
    · have hpart : ¬ Whole size bytes := fun hwhole => absurd (hwhole.2 htime) (by omega)
      rw [if_pos hcut, if_neg hpart]
      rfl
    · have hwhole : Whole size bytes := ⟨hlong, fun _ => by omega⟩
      -- The previous value is read by the same function, and changes nothing about this one.
      obtain ⟨previous, hprevious, -⟩ := readSigned_eq hsize
        ([Meter.commandClass, 0x02, properties1, flags] ++ bytes)
        (show 4 + size.toNat + 2 + size.toNat ≤ _ by omega)
      rw [if_neg hcut, hprevious, if_pos hwhole]
      exact hsome
  · have hwhole : Whole size bytes := ⟨hlong, fun h => absurd h htime⟩
    rw [if_neg ((deltaTime_ne_zero_iff _ _).not.mpr htime), if_pos hwhole]
    exact hsome

/-- For every valid size, the readers find the same value in the same bytes or refuse. -/
theorem readsAlike (hsize : ValidSize size) (bytes : Bytes) : ReadsAlike size bytes where
  encodedValue := fun _ => encodedValue_eq hsize
  configuration := configuration_eq hsize
  meter := fun properties1 _ => meter_eq hsize properties1

/-! ## What is written -/

/-- Size, scale and precision are read back from the flags, cut to their bits. -/
theorem flags_eq (precision scale : UInt8) {flags : UInt8} (hsize : ValidSize size)
    (h : flags = ((precision &&& 0x07) <<< 5) ||| ((scale &&& 0x03) <<< 3) ||| size) :
    flags &&& 0x07 = size ∧ (flags &&& 0x18) >>> 3 = scale % 4 ∧
      (flags &&& 0xE0) >>> 5 = precision % 8 := by
  have hor : ∀ a b c m : UInt8, (a ||| b ||| c) &&& m = (a &&& m) ||| (b &&& m) ||| (c &&& m) := by
    intro a b c m
    apply UInt8.eq_of_toBitVec_eq
    simp only [UInt8.toBitVec_and, UInt8.toBitVec_or, BitVec.and_or_distrib_right]
  -- Each field is under its own mask, and not under the others.
  have hprecision : ∀ precision : UInt8, ((precision &&& 0x07) <<< 5) &&& 0x07 = 0 ∧
      ((precision &&& 0x07) <<< 5) &&& 0x18 = 0 ∧
        (((precision &&& 0x07) <<< 5) &&& 0xE0) >>> 5 = precision % 8 := by decide +kernel
  have hscale : ∀ scale : UInt8, ((scale &&& 0x03) <<< 3) &&& 0x07 = 0 ∧
      (((scale &&& 0x03) <<< 3) &&& 0x18) >>> 3 = scale % 4 ∧
        ((scale &&& 0x03) <<< 3) &&& 0xE0 = 0 := by decide +kernel
  have hfield : size &&& 0x07 = size ∧ size &&& 0x18 = 0 ∧ size &&& 0xE0 = 0 := by
    obtain rfl | rfl | rfl := hsize <;> decide
  obtain ⟨p1, p2, p3⟩ := hprecision precision
  obtain ⟨s1, s2, s3⟩ := hscale scale
  obtain ⟨z1, z2, z3⟩ := hfield
  rw [h, hor, hor, hor, p1, p2, s1, s3, z1, z2, z3, UInt8.or_zero, UInt8.or_zero, UInt8.or_zero,
    UInt8.or_zero, UInt8.zero_or, UInt8.zero_or]
  exact ⟨rfl, s2, p3⟩

/-- The big-endian bytes of a word are as many as asked for. -/
@[simp] theorem length_bigEndian (n : ℕ) (bits : UInt32) : (bigEndian n bits).length = n := by
  simp [bigEndian]

/-- The first byte that is written is the highest of the field. -/
theorem bigEndian_succ (n : ℕ) (bits : UInt32) :
    bigEndian (n + 1) bits = (bits >>> UInt32.ofNat (n * 8)).toUInt8 :: bigEndian n bits := by
  have hnext : ∀ i, n - 1 - i = n - (i + 1) := fun i => by omega
  simp only [bigEndian, List.range_succ_eq_map, List.map_cons, List.map_map, Function.comp_def,
    Nat.succ_eq_add_one, hnext, Nat.add_sub_cancel, Nat.sub_zero]

/-- The bytes written of a word read back as its low part. -/
theorem bigEndian_bigEndian {n : ℕ} (hn : n ≤ 4) (bits : UInt32) :
    Codec.bigEndian (bigEndian n bits) = bits.toNat % 256 ^ n := by
  induction n with
  | zero => simp [bigEndian, Codec.bigEndian, Nat.mod_one]
  | succ n ih =>
    have hbyte : (bits >>> UInt32.ofNat (n * 8)).toUInt8.toNat = bits.toNat / 256 ^ n % 256 := by
      have hamount : (UInt32.ofNat (n * 8)).toNat % 32 = n * 8 := by
        rw [UInt32.toNat_ofNat']
        omega
      rw [UInt32.toNat_toUInt8, UInt32.toNat_shiftRight, hamount, Nat.shiftRight_eq_div_pow,
        Nat.mul_comm, Nat.pow_mul]
    rw [bigEndian_succ, Codec.bigEndian_cons, ih (by omega), length_bigEndian, hbyte,
      Nat.mod_pow_succ]
    ring

/-- A value that fits is the one that its bytes stand for. -/
theorem twosComplement_bigEndian {value : Int32} (hsize : ValidSize size)
    (hfits : Fits size value) :
    twosComplement (bigEndian size.toNat value.toUInt32) = value.toInt := by
  have hwidth : 256 ^ size.toNat ∣ 2 ^ 32 := by obtain rfl | rfl | rfl := hsize <;> decide
  have hvalue : value.toInt = Int.bmod value.toUInt32.toNat (2 ^ 32) := by
    rw [← toInt_toInt32, Int32.toInt32_toUInt32]
  have hrange : -((256 ^ size.toNat : ℕ) : ℤ) ≤ value.toInt * 2 ∧
      value.toInt * 2 < ((256 ^ size.toNat : ℕ) : ℤ) := by
    have hhalf : ((256 ^ size.toNat : ℕ) : ℤ) = 2 ^ (8 * size.toNat - 1) * 2 := by
      obtain rfl | rfl | rfl := hsize <;> rfl
    obtain ⟨hlow, hhigh⟩ := hfits
    rw [hhalf]
    omega
  calc twosComplement (bigEndian size.toNat value.toUInt32) =
        Int.bmod ((value.toUInt32.toNat % 256 ^ size.toNat : ℕ) : ℤ) (256 ^ size.toNat) := by
        rw [twosComplement, bigEndian_bigEndian hsize.toNat_le, length_bigEndian]
    _ = Int.bmod value.toUInt32.toNat (256 ^ size.toNat) := by
        rw [Int.natCast_mod, Int.emod_bmod]
    _ = Int.bmod value.toInt (256 ^ size.toNat) := by rw [hvalue, Int.bmod_bmod_of_dvd hwidth]
    _ = value.toInt := Int.bmod_eq_of_le_mul_two hrange.1 hrange.2

/-- The encoder writes the flags and then the value in the smallest size that fits it. -/
theorem exists_encode (precision scale : UInt8) (value : Int32) : ∃ size,
    (ValidSize size ∧ Fits size value ∧
      ∀ smaller, ValidSize smaller → Fits smaller value → size ≤ smaller) ∧
    EncodedValue.encode precision scale value =
      (((precision &&& 0x07) <<< 5) ||| ((scale &&& 0x03) <<< 3) ||| size) ::
        bigEndian size.toNat value.toUInt32 := by
  -- The bounds of the source are those of the field of that size.
  have hone : Fits 1 value ↔ -128 ≤ value ∧ value ≤ 127 := by
    rw [Int32.le_iff_toInt_le, Int32.le_iff_toInt_le]
    show -128 ≤ value.toInt ∧ value.toInt < 128 ↔ -128 ≤ value.toInt ∧ value.toInt ≤ 127
    omega
  have htwo : Fits 2 value ↔ -32768 ≤ value ∧ value ≤ 32767 := by
    rw [Int32.le_iff_toInt_le, Int32.le_iff_toInt_le]
    show -32768 ≤ value.toInt ∧ value.toInt < 32768 ↔ -32768 ≤ value.toInt ∧ value.toInt ≤ 32767
    omega
  have hfour : Fits 4 value := ⟨value.le_toInt, value.toInt_lt⟩
  -- The sizes are tried in the order of the source, the smaller one first.
  unfold EncodedValue.encode
  by_cases h1 : -128 ≤ value ∧ value ≤ 127
  · refine ⟨1, ⟨Or.inl rfl, hone.mpr h1, ?_⟩, ?_⟩
    · rintro smaller (rfl | rfl | rfl) - <;> decide
    · rw [if_pos h1]
      rfl
  by_cases h2 : -32768 ≤ value ∧ value ≤ 32767
  · refine ⟨2, ⟨Or.inr (Or.inl rfl), htwo.mpr h2, ?_⟩, ?_⟩
    · -- A smaller field would have been taken.
      rintro smaller (rfl | rfl | rfl) hfits
      · exact absurd (hone.mp hfits) h1
      · decide
      · decide
    · rw [if_neg h1, if_pos h2]
      rfl
  · refine ⟨4, ⟨Or.inr (Or.inr rfl), hfour, ?_⟩, ?_⟩
    · rintro smaller (rfl | rfl | rfl) hfits
      · exact absurd (hone.mp hfits) h1
      · exact absurd (htwo.mp hfits) h2
      · decide
    · rw [if_neg h1, if_neg h2]
      rfl

/-- Every value is written in the smallest size that fits it, and decoding gives back the value with
its size, scale and precision. The shifts that sign-extend stay inside the width for each of the
three sizes. -/
theorem survives (precision scale : UInt8) (value : Int32) : Survives precision scale value := by
  obtain ⟨size, hsmallest, hencode⟩ := exists_encode precision scale value
  have hsize := hsmallest.1
  have hlength := length_bigEndian size.toNat value.toUInt32
  refine ⟨size, _, _, hencode, hlength, hsmallest, ?_⟩
  obtain ⟨hflags, hscale, hprecision⟩ := flags_eq precision scale hsize rfl
  obtain ⟨read, hread, hvalue⟩ :=
    readSigned_eq hsize (bigEndian size.toNat value.toUInt32) (show 0 + size.toNat ≤ _ by omega)
  have hwhole : (bigEndian size.toNat value.toUInt32).subspan 0 size.toNat =
      bigEndian size.toNat value.toUInt32 := List.take_of_length_le (Nat.le_of_eq hlength)
  have hsame : read = value := by
    rw [← Int32.toInt_inj, hvalue, hwhole]
    exact twosComplement_bigEndian hsize hsmallest.2.1
  unfold EncodedValue.decode
  rw [hflags, hscale, hprecision,
    if_neg (not_or.mpr ⟨not_not.mpr hsize, Nat.not_lt.mpr (Nat.le_of_eq hlength.symm)⟩), hread, hsame]
  rfl

/-- Scaled values survive the wire, in as few bytes as they need, and the three readers find the
same value in the same bytes. -/
theorem scaled_values_agree :
    (∀ precision scale value, Survives precision scale value) ∧
      ∀ size, ValidSize size → ∀ bytes, ReadsAlike size bytes :=
  ⟨survives, fun _ => readsAlike⟩

/-- A configuration parameter of two bytes below zero is read with its sign. -/
theorem scaled_values_agree_parameter :
    (Configuration.decodeReport [0x70, 0x06, 7, 2, 0xFF, 0xF1]).map
      (Option.map fun report => report.value.toInt) = .ok (some (-15)) :=
  (scaled_values_agree.2 2 (Or.inr (Or.inl rfl)) [0xFF, 0xF1]).configuration 7

end ScaledValue

end Zwaved.Protocol
