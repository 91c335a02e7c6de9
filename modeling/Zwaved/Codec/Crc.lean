import Mathlib.Data.List.Basic
import Mathlib.Logic.Function.Iterate
import Mathlib.Tactic.Common

/-!
# Shift registers

A cyclic redundancy check reads a message bit by bit, the highest first, into a register of `w` bits
that is shifted up at every bit and takes the polynomial away when a one falls out. The shift is
linear over exclusive or (`shift_xor`), so at most `w` bits read one after the other are as good as
the same bits added to the register at once and then shifted through (`readBits_eq_iterate`).

Where the polynomial is odd, no shift loses anything (`shift_injective`). Two things follow for a
message that ends in the register's own bits: the register is empty at its end, and only then
(`readBits_eq_zero_iff`); and a change to no more than `w` bits in a row leaves another register
(`readBits_ne_of_burst`).
-/

namespace Codec.Crc

variable {w : ℕ}

/-- One shift of the register. -/
def shift (poly c : BitVec w) : BitVec w := if c.msb then (c <<< 1) ^^^ poly else c <<< 1

/-- A bit at the top of a register. -/
def topBit (w : ℕ) (bit : Bool) : BitVec w := if bit then BitVec.twoPow w (w - 1) else 0#w

/-- One bit of a message is added at the top, and the register is shifted. -/
def readBit (poly c : BitVec w) (bit : Bool) : BitVec w := shift poly (c ^^^ topBit w bit)

/-- A message is read. -/
def readBits (poly c : BitVec w) (bits : List Bool) : BitVec w := bits.foldl (readBit poly) c

/-- The bits laid into a register from the top down. -/
def place (w : ℕ) : List Bool → BitVec w
  | [] => 0#w
  | bit :: bits => topBit w bit ^^^ (place w bits >>> 1)

/-- A message that differs from another in some bits, all of them among `n` in a row. -/
structure Burst (n : ℕ) (bits bits' : List Bool) : Prop where
  /-- No bits are added, and none are lost. -/
  length_eq : bits'.length = bits.length
  /-- Some bit is changed. -/
  ne : bits' ≠ bits
  /-- The others are those before a place and those that are `n` further on. -/
  within : ∃ i, bits'.take i = bits.take i ∧ bits'.drop (i + n) = bits.drop (i + n)

/-! ## Linearity -/

variable {poly : BitVec w}

/-- Shifting a zero register leaves it zero. -/
theorem shift_zero (poly : BitVec w) : shift poly 0#w = 0#w := by simp [shift]

/-- The shift is linear: the sum of two registers shifts to the sum of their shifts. -/
theorem shift_xor (poly c d : BitVec w) : shift poly (c ^^^ d) = shift poly c ^^^ shift poly d := by
  have hcancel : ∀ x y : BitVec w, x ^^^ y = (x ^^^ poly) ^^^ (y ^^^ poly) := by
    intro x y
    rw [BitVec.xor_comm y poly, BitVec.xor_assoc, ← BitVec.xor_assoc poly, BitVec.xor_self,
      BitVec.zero_xor]
  unfold shift
  rw [BitVec.msb_xor, BitVec.shiftLeft_xor_distrib]
  cases c.msb with
  | false =>
    cases d.msb with
    | false => rfl
    | true => exact BitVec.xor_assoc ..
  | true =>
    cases d.msb with
    | false =>
      show (c <<< 1 ^^^ d <<< 1) ^^^ poly = (c <<< 1 ^^^ poly) ^^^ d <<< 1
      rw [BitVec.xor_assoc, BitVec.xor_comm (d <<< 1), BitVec.xor_assoc]
    | true =>
      -- The polynomial is taken away twice, which is not at all.
      exact hcancel _ _

/-- Shifting a zero register any number of times leaves it zero. -/
theorem iterate_shift_zero (poly : BitVec w) (n : ℕ) : (shift poly)^[n] 0#w = 0#w :=
  Function.iterate_fixed (shift_zero poly) n

/-- `topBit` has the bit on top and no other. -/
theorem getMsbD_topBit (h : 0 < w) (bit : Bool) (i : ℕ) :
    (topBit w bit).getMsbD i = (decide (i = 0) && bit) := by
  unfold topBit
  cases bit with
  | false => simp
  | true =>
    have htop : i = w - (w - 1) - 1 ↔ i = 0 := by omega
    rw [if_pos rfl, BitVec.getMsbD_twoPow, decide_eq_true (show w - 1 < w by omega),
      Bool.true_and, Bool.and_true, decide_eq_decide.mpr htop]

/-- The bits that are laid down in a register are read back from its top. -/
theorem getMsbD_place (bits : List Bool) {i : ℕ} (h : i < w) :
    (place w bits).getMsbD i = bits.getD i false := by
  induction bits generalizing i with
  | nil => simp [place]
  | cons bit bits ih =>
    rw [place, BitVec.getMsbD_xor, getMsbD_topBit (by omega), BitVec.getMsbD_ushiftRight]
    cases i with
    | zero => simp
    | succ i =>
      have hrest := ih (show i < w by omega)
      simp [h, hrest]

/-- Bits laid down behind others stand that many places further down. -/
theorem place_append (w : ℕ) (bits bits' : List Bool) :
    place w (bits ++ bits') = place w bits ^^^ (place w bits' >>> bits.length) := by
  induction bits with
  | nil => simp [place]
  | cons bit bits ih =>
    rw [List.cons_append, place, place, ih, BitVec.ushiftRight_xor_distrib, BitVec.xor_assoc,
      ← BitVec.shiftRight_add, List.length_cons]

/-- A register that is empty at its lower end is shifted back to itself. -/
theorem shift_ushiftRight (h : 0 < w) (poly : BitVec w) {x : BitVec w}
    (hlow : x.getLsbD 0 = false) : shift poly (x >>> 1) = x := by
  have hmsb : (x >>> 1).msb = false := by simp [BitVec.msb_eq_getMsbD_zero, h]
  unfold shift
  rw [hmsb, if_neg Bool.false_ne_true]
  apply BitVec.eq_of_getLsbD_eq
  intro i hi
  cases i with
  | zero => simp [hlow]
  | succ i => simp [hi, Nat.add_comm]

/-- Up to `w` bits may be added all at once, and then shifted through. -/
theorem readBits_eq_iterate (poly c : BitVec w) {bits : List Bool} (h : bits.length ≤ w) :
    readBits poly c bits = (shift poly)^[bits.length] (c ^^^ place w bits) := by
  induction bits generalizing c with
  | nil => simp [readBits, place]
  | cons bit bits ih =>
    have hlength : bits.length + 1 ≤ w := h
    -- The bits behind the first leave the lowest place free, so a shift only moves them up.
    have hlow : (place w bits).getLsbD 0 = false := by
      rw [BitVec.getLsbD_eq_getMsbD, getMsbD_place bits (by omega),
        List.getD_eq_getElem?_getD, List.getElem?_eq_none (by omega), Option.getD_none,
        Bool.and_false]
    calc readBits poly c (bit :: bits) = readBits poly (readBit poly c bit) bits := rfl
      _ = (shift poly)^[bits.length] (readBit poly c bit ^^^ place w bits) := ih _ (by omega)
      _ = (shift poly)^[bits.length] (shift poly (c ^^^ place w (bit :: bits))) := by
        rw [place, ← BitVec.xor_assoc, shift_xor, shift_ushiftRight (by omega) poly hlow, readBit]
      _ = (shift poly)^[(bit :: bits).length] (c ^^^ place w (bit :: bits)) := rfl

/-! ## Nothing is lost -/

/-- An odd polynomial marks the shifts that it is taken away in. -/
theorem shift_eq_zero (hodd : poly.getLsbD 0 = true) {c : BitVec w} (h : shift poly c = 0#w) :
    c = 0#w := by
  have hw := BitVec.lt_of_getLsbD hodd
  unfold shift at h
  by_cases hmsb : c.msb = true
  · -- The lowest bit is the polynomial's.
    rw [if_pos hmsb] at h
    have hlow := congrArg (BitVec.getLsbD · 0) h
    simp [hodd] at hlow
  -- Nothing falls out at the top, so the bits are those of the register one place higher.
  have htop : c.getMsbD 0 = false := by
    rw [← BitVec.msb_eq_getMsbD_zero]
    exact Bool.eq_false_iff.mpr hmsb
  rw [if_neg hmsb] at h
  apply BitVec.eq_of_getMsbD_eq
  intro i hi
  rw [BitVec.getMsbD_zero]
  cases i with
  | zero => exact htop
  | succ i =>
    have hbit := congrArg (BitVec.getMsbD · i) h
    simpa [hi, Nat.add_comm] using hbit

/-- With an odd polynomial no two registers shift to the same one: the lowest bit tells whether the
polynomial was added. -/
theorem shift_injective (hodd : poly.getLsbD 0 = true) : Function.Injective (shift poly) := by
  intro c d h
  have hzero : shift poly (c ^^^ d) = 0#w := by rw [shift_xor, h, BitVec.xor_self]
  exact BitVec.xor_eq_zero_iff.mp (shift_eq_zero hodd hzero)

/-- With an odd polynomial, registers that differ still do after any bits are read into both. -/
theorem readBits_injective (hodd : poly.getLsbD 0 = true) (bits : List Bool) :
    Function.Injective fun c => readBits poly c bits := by
  induction bits with
  | nil => exact fun _ _ h => h
  | cons bit bits ih =>
    intro c d h
    have hread : readBit poly c bit = readBit poly d bit := ih h
    exact (BitVec.xor_left_inj _).mp (shift_injective hodd hread)

/-- A register is emptied by its own bits, and by no others. -/
theorem readBits_eq_zero_iff (hodd : poly.getLsbD 0 = true) (c : BitVec w) {bits : List Bool}
    (h : bits.length ≤ w) : readBits poly c bits = 0#w ↔ c = place w bits := by
  have hempty := iterate_shift_zero poly bits.length
  rw [readBits_eq_iterate poly c h]
  constructor
  · intro hzero
    have hsum := (shift_injective hodd).iterate bits.length (hzero.trans hempty.symm)
    exact BitVec.xor_eq_zero_iff.mp hsum
  · intro hplace
    rw [hplace, BitVec.xor_self]
    exact hempty

/-- Bit strings of one length that fit the register are laid down as different registers. -/
theorem place_inj {bits bits' : List Bool} (h : bits.length ≤ w)
    (hlength : bits'.length = bits.length) (hplace : place w bits' = place w bits) :
    bits' = bits := by
  apply List.ext_getElem hlength
  intro i hi' hi
  have hbit := congrArg (BitVec.getMsbD · i) hplace
  simpa [getMsbD_place _ (show i < w by omega), hi, hi'] using hbit

/-- A burst that the register can hold leaves another register. -/
theorem readBits_ne_of_burst (hodd : poly.getLsbD 0 = true) (c : BitVec w) {n : ℕ}
    {bits bits' : List Bool} (hburst : Burst n bits bits') (hn : n ≤ w) :
    readBits poly c bits' ≠ readBits poly c bits := by
  obtain ⟨i, hbefore, hafter⟩ := hburst.within
  have hsplit : ∀ bits : List Bool,
      bits = bits.take i ++ ((bits.drop i).take n ++ bits.drop (i + n)) := by
    intro bits
    rw [← List.drop_drop, List.take_append_drop, List.take_append_drop]
  have hlength := hburst.length_eq
  intro hsame
  -- What comes after the window tells the registers after it apart, and the window does the rest.
  rw [hsplit bits, hsplit bits', hbefore, hafter] at hsame
  simp only [readBits, List.foldl_append] at hsame
  have hwindow : readBits poly (readBits poly c (bits.take i)) ((bits'.drop i).take n) =
      readBits poly (readBits poly c (bits.take i)) ((bits.drop i).take n) :=
    readBits_injective hodd _ hsame
  have hlengths : ((bits'.drop i).take n).length = ((bits.drop i).take n).length := by
    simp [hlength]
  have hfits : ((bits.drop i).take n).length ≤ w := Nat.le_trans (List.length_take_le _ _) hn
  rw [readBits_eq_iterate _ _ hfits, readBits_eq_iterate _ _ (hlengths ▸ hfits), hlengths] at hwindow
  have hplaces := (shift_injective hodd).iterate _ hwindow
  have hsame := place_inj hfits hlengths ((BitVec.xor_right_inj _).mp hplaces)
  refine hburst.ne ?_
  rw [hsplit bits, hsplit bits', hbefore, hafter, hsame]

end Codec.Crc
