import Mathlib.Data.List.Basic
import Mathlib.Logic.Function.Basic
import Mathlib.Tactic.Common

/-!
# Bytes, arrays and node tables

The daemon's frames are `std::vector<std::uint8_t>` and its keys, nonces and identifiers
`std::array<std::uint8_t, N>`. Here they are `Bytes` and `Vector UInt8 N`. A `std::map` keyed by a
node id is a function `UInt8 → Option α` (`NodeMap`), written with `Function.update`, or, where a
missing entry reads as a default one, a function `UInt8 → α`.
-/

namespace Zwaved

/-- A byte string: a frame, a payload, a span of either. -/
abbrev Bytes := List UInt8

/-- A Z-Wave node id. -/
abbrev NodeId := UInt8

/-- The four bytes of a home id. -/
abbrev HomeId := Vector UInt8 4

/-- A table keyed by node id. -/
abbrev NodeMap (α : Type) := NodeId → Option α

namespace Bytes

/-- `data[i]`. The source reads a byte only after it has checked the length, except where a
definition says otherwise; past the end this reads zero. -/
def byte (data : Bytes) (i : ℕ) : UInt8 := data.getD i 0

/-- `data.subspan(offset, count)`. -/
def subspan (data : Bytes) (offset count : ℕ) : Bytes := (data.drop offset).take count

/-- `std::copy_n(data.begin() + offset, n, array.begin())`. -/
def copyN (data : Bytes) (offset n : ℕ) : Vector UInt8 n :=
  Vector.ofFn fun i => byte data (offset + i)

/-- A span has at most the bytes that were asked for. -/
theorem length_subspan_le (data : Bytes) (offset count : ℕ) :
    (data.subspan offset count).length ≤ count := by
  simp only [subspan, List.length_take]
  exact Nat.min_le_left _ _

/-- A byte of the first part is read there. -/
theorem byte_append_left {data : Bytes} (after : Bytes) {i : ℕ} (h : i < data.length) :
    byte (data ++ after) i = data.byte i := by
  simp [byte, List.getElem?_append_left h]

/-- A byte of the second part is read there, as far behind the first as it stands. -/
theorem byte_append_right (before data : Bytes) (i : ℕ) :
    byte (before ++ data) (before.length + i) = data.byte i := by
  simp [byte, List.getElem?_append_right]

/-- Inside the data, what is left from a place on is the byte there and what is left behind it. -/
theorem drop_eq_byte_cons {data : Bytes} {i : ℕ} (h : i < data.length) :
    data.drop i = data.byte i :: data.drop (i + 1) := by
  rw [byte, List.getD_eq_getElem?_getD, List.getElem?_eq_getElem h]
  exact List.drop_eq_getElem_cons h

/-- A part of a span that is one byte longer ends in the byte behind it. -/
theorem subspan_succ {data : Bytes} {offset count : ℕ} (h : offset + count < data.length) :
    data.subspan offset (count + 1) = data.subspan offset count ++ [data.byte (offset + count)] := by
  have hread : count < (data.drop offset).length := by
    rw [List.length_drop]
    omega
  rw [subspan, ← List.take_append_getElem hread, List.getElem_drop, byte,
    List.getD_eq_getElem?_getD, List.getElem?_eq_getElem h]
  rfl

/-- The first bytes of the data, read one by one, are its front. -/
theorem take_eq_map_byte {data : Bytes} {count : ℕ} (h : count ≤ data.length) :
    data.take count = (List.range count).map data.byte := by
  apply List.ext_getElem
  · simp [h]
  · intro i hi _
    rw [List.length_take] at hi
    simp [byte, List.getElem?_eq_getElem (show i < data.length by omega)]

/-- Bytes read out of an array that was laid down at `offset` are the array's. -/
theorem copyN_append {n : ℕ} (pre : Bytes) (v : Vector UInt8 n) (post : Bytes) :
    copyN (pre ++ (v.toList ++ post)) pre.length n = v := by
  ext i hi
  simp [copyN, byte, List.getElem?_append_right, List.getElem?_append_left]

/-- Copying all bytes of a byte string gives it back. -/
@[simp] theorem toList_copyN (data : Bytes) : (copyN data 0 data.length).toList = data := by
  apply List.ext_getElem
  · simp
  · intro i _ _
    simp [copyN, byte]

/-- Two digits for every byte, the high nibble first. -/
def hexText (digit : ℕ → Char) (data : Bytes) : String :=
  String.ofList (data.flatMap fun byte => [digit (byte.toNat / 16), digit (byte.toNat % 16)])

/-- Where the sixteen digits differ, so do the texts of different byte strings. -/
theorem hexText_injective {digit : ℕ → Char}
    (hdigit : ∀ m < 16, ∀ n < 16, digit m = digit n → m = n) :
    Function.Injective (hexText digit) := by
  intro data data' h
  have hchars := String.ofList_injective h
  clear h
  induction data generalizing data' with
  | nil =>
    cases data' with
    | nil => rfl
    | cons byte' data' => simp at hchars
  | cons byte data ih =>
    cases data' with
    | nil => simp at hchars
    | cons byte' data' =>
      simp only [List.flatMap_cons, List.cons_append, List.nil_append, List.cons.injEq] at hchars
      obtain ⟨hhigh, hlow, hrest⟩ := hchars
      have hbyte := byte.toNat_lt
      have hbyte' := byte'.toNat_lt
      have h1 := hdigit _ (by omega) _ (by omega) hhigh
      have h2 := hdigit _ (by omega) _ (by omega) hlow
      rw [ih hrest, UInt8.toNat_inj.mp (show byte.toNat = byte'.toNat by omega)]

end Bytes

/-- `std::copy_n(info.begin(), std::min(info.size(), 4), homeId.begin())`: a short home id leaves
the trailing bytes as they were. -/
def copyHomeId (info : Bytes) (homeId : HomeId) : HomeId :=
  Vector.ofFn fun i => if i < info.length then info.byte i else homeId[i]

end Zwaved
