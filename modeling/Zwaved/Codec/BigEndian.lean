import Mathlib.Data.Nat.Digits.Lemmas
import Mathlib.Tactic.Ring

/-!
# Big-endian numbers

The number that a byte string stands for when its first byte is the most significant one, what
becomes of it when one byte is replaced, and the number that it stands for in two's complement.
-/

namespace Codec

/-- The number of a byte string, the most significant byte first. -/
def bigEndian (bytes : List UInt8) : ℕ := Nat.ofDigits 256 (bytes.reverse.map UInt8.toNat)

/-- The bytes in front count with the power of 256 of those behind. -/
theorem bigEndian_append (pre post : List UInt8) :
    bigEndian (pre ++ post) = bigEndian pre * 256 ^ post.length + bigEndian post := by
  simp only [bigEndian, List.reverse_append, List.map_append, Nat.ofDigits_append,
    List.length_map, List.length_reverse]
  ring

/-- The first byte counts with the power of 256 of those behind. -/
theorem bigEndian_cons (byte : UInt8) (bytes : List UInt8) :
    bigEndian (byte :: bytes) = byte.toNat * 256 ^ bytes.length + bigEndian bytes := by
  have happend := bigEndian_append [byte] bytes
  rwa [show bigEndian [byte] = byte.toNat from Nat.ofDigits_singleton] at happend

/-- A string of `n` bytes stands for a number below `256 ^ n`. -/
theorem bigEndian_lt (bytes : List UInt8) : bigEndian bytes < 256 ^ bytes.length := by
  have hlt : bigEndian bytes < 256 ^ (bytes.reverse.map UInt8.toNat).length := by
    refine Nat.ofDigits_lt_base_pow_length (by decide) fun digit hdigit => ?_
    obtain ⟨byte, -, rfl⟩ := List.mem_map.mp hdigit
    exact byte.toNat_lt
  simpa using hlt

/-- The number that a byte string stands for in two's complement. -/
def twosComplement (bytes : List UInt8) : ℤ := Int.bmod (bigEndian bytes) (256 ^ bytes.length)

/-- A byte that is replaced counts by its weight. -/
theorem bigEndian_set {bytes : List UInt8} {i : ℕ} (hi : i < bytes.length) (byte : UInt8) :
    bigEndian (bytes.set i byte) + bytes[i].toNat * 256 ^ (bytes.length - 1 - i) =
      bigEndian bytes + byte.toNat * 256 ^ (bytes.length - 1 - i) := by
  have hparts : bytes = bytes.take i ++ bytes[i] :: bytes.drop (i + 1) := by simp
  have hlength : (bytes.drop (i + 1)).length = bytes.length - 1 - i := by
    rw [List.length_drop]
    omega
  have hbefore : bigEndian bytes = bigEndian (bytes.take i ++ bytes[i] :: bytes.drop (i + 1)) :=
    congrArg bigEndian hparts
  rw [List.set_eq_take_append_cons_drop, if_pos hi, hbefore, bigEndian_append, bigEndian_append,
    bigEndian_cons, bigEndian_cons, List.length_cons, List.length_cons, hlength]
  ring

end Codec
