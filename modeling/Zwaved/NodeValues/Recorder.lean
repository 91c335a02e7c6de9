import Mathlib.Tactic.NormNum
import Mathlib.Tactic.Positivity
import Zwaved.Bytes
import Zwaved.Codec.Decimal

/-!
# The recorder of node values

`Recorder.cpp` writes the readings that the nodes report into the value cache, as text. A reading
comes as a whole number and a precision, and `renderScaled` puts the point where the precision says.
The numeral that it writes stands for the reading exactly (`renderScaled_exact`), and a report off
the wire, whose precision has three bits, has one (`Report.FromWire.recorded`).

The arithmetic of `renderScaled` is checked: what does not fit the type that the source computes in
is no result.
-/

namespace Zwaved.NodeValues

open Codec

/-! ## Rendering -/

/-- `BYTE_MAX`. -/
def byteMax : UInt8 := 0xFF

/-- `DECIMAL_BASE`. -/
def decimalBase : ℤ := 10

/-- A result in `std::int64_t`; signed overflow is undefined behaviour. -/
def int64 (value : ℤ) : Option ℤ :=
  if -2 ^ 63 ≤ value ∧ value < 2 ^ 63 then some value else none

/-- A difference in `std::size_t`, which wraps where it is negative. -/
def sizeSub (a b : ℕ) : Option ℕ := if b ≤ a then some (a - b) else none

/-- The loop of `renderScaled`. -/
def scaleOf : ℕ → Option ℤ
  | 0 => some 1
  | i + 1 => do int64 ((← scaleOf i) * decimalBase)

/-- `renderScaled`. -/
def renderScaled (raw : Int32) (precision : UInt8) : Option String :=
  if precision = 0 then some (toString raw.toInt)
  else do
    let negative := raw < 0
    let magnitude ← int64 |raw.toInt|
    let scale ← scaleOf precision.toNat
    let whole := magnitude.tdiv scale
    let frac := toString (magnitude.tmod scale)
    -- The count of the padding is unsigned: it would wrap if the remainder were too long.
    let padding ← sizeSub precision.toNat frac.length
    let frac := String.ofList (List.replicate padding '0') ++ frac
    return (if negative then "-" else "") ++ toString whole ++ "." ++ frac

/-- `renderBinaryState`. -/
def renderBinaryState (state : UInt8) : String :=
  if state = 0 then "Off" else if state = 1 then "On" else "Unknown"

/-- `renderSwitchLevel`. -/
def renderSwitchLevel (level : UInt8) : String :=
  if level = 0 then "Off"
  else if level = byteMax then "On"
  else toString level.toNat ++ "%"

section Render

variable {raw raw' : Int32} {precision : UInt8}

/-- The scale of one more place is ten times as large, if that does not overflow. -/
theorem scaleOf_succ (places : ℕ) : scaleOf (places + 1) =
    (scaleOf places).bind fun scale => int64 (scale * decimalBase) := rfl

/-- For up to eighteen places the scale is that power of ten, without overflow. -/
theorem scaleOf_eq {places : ℕ} (h : places ≤ 18) : scaleOf places = some (10 ^ places) := by
  induction places with
  | zero => rfl
  | succ places ih =>
    have hlt : (10 : ℤ) ^ (places + 1) < 2 ^ 63 :=
      calc (10 : ℤ) ^ (places + 1) ≤ 10 ^ 18 := pow_le_pow_right₀ (by norm_num) h
        _ < 2 ^ 63 := by norm_num
    have hpos : (0 : ℤ) ≤ 10 ^ (places + 1) := by positivity
    have hge : (-2 ^ 63 : ℤ) ≤ 10 ^ (places + 1) := le_trans (by norm_num) hpos
    have hpow : (10 : ℤ) ^ places * decimalBase = 10 ^ (places + 1) := by
      rw [decimalBase, ← pow_succ]
    rw [scaleOf_succ, ih (by omega), Option.bind_some, hpow, int64, if_pos ⟨hge, hlt⟩]

/-- The magnitude of a 32-bit value fits 64 bits. -/
theorem int64_abs (raw : Int32) : int64 |raw.toInt| = some (raw.toInt.natAbs : ℤ) := by
  have hge := raw.le_toInt
  have hlt := raw.toInt_lt
  rw [Int.abs_eq_natAbs, int64, if_pos ⟨by omega, by omega⟩]

/-- The numeral of a reading. -/
def reading (raw : Int32) (places : ℕ) : Numeral where
  negative := decide (raw < 0)
  whole := (toString (raw.toInt.natAbs / 10 ^ places)).toList
  fraction := if places = 0 then [] else padded places (raw.toInt.natAbs % 10 ^ places)
  whole_ne_nil := toString_ne_nil _
  whole_digits := allDigits_toString _
  fraction_digits := by
    split
    · exact fun c hc => absurd hc List.not_mem_nil
    · exact allDigits_padded _ _

/-- The fraction has as many digits as there are places. -/
theorem length_fraction (raw : Int32) (places : ℕ) :
    (reading raw places).fraction.length = places := by
  dsimp only [reading]
  split
  · next h => exact h.symm
  · next h => exact length_padded (Nat.pos_of_ne_zero h) (Nat.mod_lt _ (by positivity))

/-- A reading is negative exactly when the raw value is. -/
theorem negative_reading (raw : Int32) (places : ℕ) :
    (reading raw places).negative = decide (raw.toInt < 0) :=
  decide_eq_decide.mpr Int32.lt_iff_toInt_lt

/-- What is left of the point and what is right of it add up to the reading. -/
theorem value_reading (raw : Int32) (places : ℕ) :
    (reading raw places).value = (raw.toInt : ℚ) / 10 ^ places := by
  have hfraction : decimal (reading raw places).fraction = raw.toInt.natAbs % 10 ^ places := by
    dsimp only [reading]
    split
    · next h =>
      rw [h, pow_zero, Nat.mod_one]
      rfl
    · exact decimal_padded _ _
  have hwhole : decimal (reading raw places).whole = raw.toInt.natAbs / 10 ^ places :=
    decimal_toString _
  have hparts : (10 : ℚ) ^ places * ((raw.toInt.natAbs / 10 ^ places : ℕ) : ℚ) +
      ((raw.toInt.natAbs % 10 ^ places : ℕ) : ℚ) = (raw.toInt.natAbs : ℚ) := by
    exact_mod_cast Nat.div_add_mod raw.toInt.natAbs (10 ^ places)
  have hsign : (if (reading raw places).negative then -1 else 1 : ℚ) * (raw.toInt.natAbs : ℚ) =
      (raw.toInt : ℚ) := by
    rw [negative_reading]
    by_cases hneg : raw.toInt < 0
    · rw [if_pos (decide_eq_true hneg)]
      rw [Nat.cast_natAbs, abs_of_neg hneg, Int.cast_neg]
      ring
    · rw [if_neg (by simpa using hneg)]
      rw [Nat.cast_natAbs, abs_of_nonneg (by omega), one_mul]
  rw [Numeral.value, length_fraction, hfraction, hwhole, ← hsign, ← hparts]
  field_simp

/-- The text of a sign is a minus or nothing. -/
theorem toList_sign (negative : Prop) [Decidable negative] :
    (if negative then "-" else "").toList = if decide negative = true then ['-'] else [] := by
  by_cases h : negative
  · rw [if_pos h, if_pos (decide_eq_true h)]
    rfl
  · rw [if_neg h, if_neg (by simpa using h)]
    rfl

/-- With no places the whole number is rendered. -/
theorem renderScaled_zero (raw : Int32) :
    renderScaled raw 0 = some (String.ofList (reading raw 0).text) := by
  have hnumeral : (reading raw 0).text =
      (if decide (raw < 0) = true then ['-'] else []) ++ (toString (raw.toInt.natAbs)).toList := by
    simp [Numeral.text, reading]
  have htext : (toString raw.toInt).toList = (reading raw 0).text := by
    have hsign : raw < 0 ↔ raw.toInt < 0 := Int32.lt_iff_toInt_lt
    rw [hnumeral, toString_int]
    by_cases hneg : raw.toInt < 0
    · have habs : (-raw.toInt).toNat = raw.toInt.natAbs := by omega
      rw [if_neg (by omega), if_pos (decide_eq_true (hsign.mpr hneg)), habs]
      rfl
    · have habs : raw.toInt.toNat = raw.toInt.natAbs := by omega
      rw [if_pos (by omega), if_neg (by simpa using hsign.not.mpr hneg), habs]
      rfl
  rw [← htext, String.ofList_toList]
  rfl

/-- The numeral is what is written, and nothing overflows on the way there. -/
theorem renderScaled_eq (raw : Int32) (hprecision : precision.toNat ≤ 18) :
    renderScaled raw precision = some (String.ofList (reading raw precision.toNat).text) := by
  by_cases hzero : precision = 0
  · rw [hzero]
    exact renderScaled_zero raw
  have hplaces : precision.toNat ≠ 0 := fun h => hzero (UInt8.toNat_inj.mp h)
  unfold renderScaled
  rw [if_neg hzero, int64_abs, scaleOf_eq hprecision]
  generalize precision.toNat = places at hplaces ⊢
  have hscale : (10 : ℤ) ^ places = ((10 ^ places : ℕ) : ℤ) := by push_cast; rfl
  have hlength : (toString (raw.toInt.natAbs % 10 ^ places)).length ≤ places := by
    rw [← String.length_toList]
    exact length_toString_le (Nat.pos_of_ne_zero hplaces) (Nat.mod_lt _ (by positivity))
  -- Neither the magnitude nor the scale is negative, so truncation is the division of numbers.
  simp only [Option.bind_eq_bind, Option.bind_some, Option.pure_def, hscale, ← Int.ofNat_tdiv,
    ← Int.ofNat_tmod, toString_natCast]
  rw [sizeSub, if_pos hlength, Option.bind_some]
  refine congrArg some (String.toList_injective ?_)
  simp only [String.toList_append, String.toList_ofList, toList_sign, Numeral.text, reading,
    if_neg hplaces, padded, List.append_assoc, String.length_toList]
  have hfraction : List.replicate (places - (toString (raw.toInt.natAbs % 10 ^ places)).length) '0' ++
      (toString (raw.toInt.natAbs % 10 ^ places)).toList ≠ [] :=
    List.append_ne_nil_of_right_ne_nil _ (toString_ne_nil _)
  rw [if_neg hfraction]
  rfl

/-- With as many places as the wire allows, a reading is written as the numeral of its value, no
step of the way overflows, and no two readings are written alike. -/
theorem renderScaled_exact (hprecision : precision ≤ 7) :
    (∀ raw, ∃ numeral : Numeral,
      renderScaled raw precision = some (String.ofList numeral.text) ∧
      numeral.fraction.length = precision.toNat ∧
      (numeral.negative = true ↔ raw < 0) ∧
      numeral.value = (raw.toInt : ℚ) / 10 ^ precision.toNat) ∧
    Function.Injective fun raw => renderScaled raw precision := by
  have hplaces : precision.toNat ≤ 18 :=
    Nat.le_trans (UInt8.le_iff_toNat_le.mp hprecision) (by decide)
  refine ⟨fun raw => ⟨reading raw precision.toNat, renderScaled_eq raw hplaces,
    length_fraction raw _, decide_eq_true_iff, value_reading raw _⟩, fun raw raw' h => ?_⟩
  dsimp only at h
  rw [renderScaled_eq raw hplaces, renderScaled_eq raw' hplaces] at h
  have hnumeral := Numeral.text_injective (String.ofList_injective (Option.some.inj h))
  have hvalue : (raw.toInt : ℚ) / 10 ^ precision.toNat = (raw'.toInt : ℚ) / 10 ^ precision.toNat := by
    rw [← value_reading, hnumeral, value_reading]
  have hscale : (10 : ℚ) ^ precision.toNat ≠ 0 := by positivity
  exact Int32.toInt_inj.mp (Int.cast_injective ((div_left_inj' hscale).mp hvalue))

/-- With seven places there is room for all digits of the least reading. -/
theorem renderScaled_exact_seven :
    (∀ raw, ∃ numeral : Numeral,
      renderScaled raw 7 = some (String.ofList numeral.text) ∧
      numeral.fraction.length = 7 ∧
      (numeral.negative = true ↔ raw < 0) ∧
      numeral.value = (raw.toInt : ℚ) / 10 ^ 7) ∧
    (Function.Injective fun raw => renderScaled raw 7) ∧
    renderScaled Int32.minValue 7 = some "-214.7483648" := by
  obtain ⟨hexact, hinjective⟩ := renderScaled_exact (show (7 : UInt8) ≤ 7 by decide)
  exact ⟨hexact, hinjective, by decide⟩

end Render

/-! ## Recording -/

/-- A report that the recorder subscribes to. -/
inductive Report
  /-- `BinarySwitchReport`. -/
  | binarySwitch (sourceNodeId : NodeId) (state : UInt8)
  /-- `MultilevelSwitchReport`. -/
  | multilevelSwitch (sourceNodeId : NodeId) (currentValue : UInt8)
  /-- `BatteryReport`. -/
  | battery (sourceNodeId : NodeId) (level : UInt8) (lowBattery : Bool)
  /-- `SensorMultilevelReport`. -/
  | sensorMultilevel (sourceNodeId : NodeId) (sensorType precision : UInt8) (value : Int32)
  /-- `SensorBinaryReport`. -/
  | sensorBinary (sourceNodeId : NodeId) (sensorType value : UInt8)
  /-- `ConfigurationReport`. -/
  | configuration (sourceNodeId : NodeId) (parameter : UInt8) (value : Int32)
  /-- `ThermostatModeReport`. -/
  | thermostatMode (sourceNodeId : NodeId) (mode : UInt8)
  /-- `ThermostatSetpointReport`. -/
  | thermostatSetpoint (sourceNodeId : NodeId) (setpointType precision : UInt8) (value : Int32)
  deriving DecidableEq, Repr

/-- What `record` is called with, and `NodeValueChanged` is published with. -/
structure Recorded where
  /-- `nodeId`. -/
  nodeId : NodeId
  /-- `valueId`. -/
  valueId : String
  /-- `value`. -/
  value : String
  deriving DecidableEq, Repr

/-- The subscriptions of `startNodeValuesRecorder`. -/
def recorded : Report → Option Recorded
  | .binarySwitch nodeId state => some ⟨nodeId, "binary_switch", renderBinaryState state⟩
  | .multilevelSwitch nodeId currentValue =>
    some ⟨nodeId, "multilevel_switch", renderSwitchLevel currentValue⟩
  | .battery nodeId level lowBattery =>
    some ⟨nodeId, "battery",
      if lowBattery ∨ level = byteMax then "low" else toString level.toNat ++ "%"⟩
  | .sensorMultilevel nodeId sensorType precision value => do
    return ⟨nodeId, "sensor:" ++ toString sensorType.toNat, ← renderScaled value precision⟩
  | .sensorBinary nodeId sensorType value =>
    some ⟨nodeId, "sensor_binary:" ++ toString sensorType.toNat,
      if value ≠ 0 then "active" else "idle"⟩
  | .configuration nodeId parameter value =>
    some ⟨nodeId, "config:" ++ toString parameter.toNat, toString value.toInt⟩
  | .thermostatMode nodeId mode => some ⟨nodeId, "thermostat_mode", toString mode.toNat⟩
  | .thermostatSetpoint nodeId setpointType precision value => do
    return ⟨nodeId, "setpoint:" ++ toString setpointType.toNat, ← renderScaled value precision⟩

/-- A report as it comes off the wire: its precision has three bits. -/
def Report.FromWire : Report → Prop
  | .sensorMultilevel _ _ precision _ | .thermostatSetpoint _ _ precision _ => precision ≤ 7
  | _ => True

/-- A report off the wire has a rendering that is recorded: its precision is three bits, so the
scale does not overflow. -/
theorem Report.FromWire.recorded {report : Report} (h : report.FromWire) :
    ∃ entry, recorded report = some entry := by
  have hrender : ∀ (raw : Int32) (precision : UInt8), precision ≤ 7 →
      ∃ text, renderScaled raw precision = some text := fun raw precision hprecision =>
    ⟨_, renderScaled_eq raw (Nat.le_trans (UInt8.le_iff_toNat_le.mp hprecision) (by decide))⟩
  cases report with
  | sensorMultilevel nodeId sensorType precision value =>
    obtain ⟨text, htext⟩ := hrender value precision h
    exact ⟨_, by rw [NodeValues.recorded, htext]; rfl⟩
  | thermostatSetpoint nodeId setpointType precision value =>
    obtain ⟨text, htext⟩ := hrender value precision h
    exact ⟨_, by rw [NodeValues.recorded, htext]; rfl⟩
  | binarySwitch | multilevelSwitch | battery | sensorBinary | configuration | thermostatMode =>
    exact ⟨_, rfl⟩

end Zwaved.NodeValues
