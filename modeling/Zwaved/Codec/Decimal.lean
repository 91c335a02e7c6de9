import Mathlib.Algebra.Order.Field.Rat
import Mathlib.Data.Rat.Cast.Defs
import Mathlib.Tactic.FieldSimp
import Mathlib.Tactic.Ring

/-!
# Decimal texts

The number that a text of decimal digits stands for, numbers written with leading zeros to a fixed
width, and numerals with a sign and a fraction. A text of digits of a given length and the number
that it stands for determine each other (`decimal_inj`, `padded_decimal`), and the text of a numeral
determines its sign and its digits (`Numeral.text_injective`).
-/

namespace Codec

/-- The number that a text of digits stands for. -/
def decimal (digits : List Char) : ℕ := Nat.ofDigitChars 10 digits 0

/-- A text of decimal digits. -/
def AllDigits (text : List Char) : Prop := ∀ c ∈ text, c.isDigit = true

instance (text : List Char) : Decidable (AllDigits text) :=
  List.decidableBAll (fun c : Char => c.isDigit = true) text

/-! ## The usual text of a number -/

/-- The text of a natural number is its decimal digits. -/
theorem toList_toString (n : ℕ) : (toString n).toList = Nat.toDigits 10 n := by
  rw [Nat.toString_eq_repr, Nat.toList_repr]

/-- The text of a natural number reads back as the number. -/
theorem decimal_toString (n : ℕ) : decimal (toString n).toList = n := by
  rw [decimal, toList_toString, Nat.ofDigitChars_ten_toDigits]

/-- Different natural numbers have different texts, as each reads back as its own. -/
theorem toString_nat_injective {m n : ℕ} (h : (toString m).toList = (toString n).toList) :
    m = n := by
  rw [← decimal_toString m, h, decimal_toString]

/-- A number is written in digits. -/
theorem isDigit_of_mem_toString {n : ℕ} {c : Char} (h : c ∈ (toString n).toList) :
    c.isDigit = true := by
  rw [toList_toString] at h
  exact Nat.isDigit_of_mem_toDigits (by decide) (by decide) h

/-- The text of a natural number is not empty. -/
theorem toString_ne_nil (n : ℕ) : (toString n).toList ≠ [] := by
  rw [toList_toString]
  exact Nat.toDigits_ne_nil

/-- A natural number has the same text as an integer. -/
theorem toString_natCast (n : ℕ) : toString (n : ℤ) = toString n := rfl

/-- The text of an integer is that of its magnitude, with a minus sign in front if it is
negative. -/
theorem toString_int (a : ℤ) : (toString a).toList =
    if 0 ≤ a then (toString a.toNat).toList else '-' :: (toString (-a).toNat).toList := by
  rw [Int.toString_eq_repr, Int.repr_eq_if]
  split
  · rfl
  · rw [String.toList_append]
    rfl

/-- Different integers have different texts: a minus sign is no digit, so the sign is read off the
first character. -/
theorem toString_int_injective {a b : ℤ} (h : (toString a).toList = (toString b).toList) :
    a = b := by
  -- A text that begins with the sign is none of digits only.
  have hsign : ∀ (m n : ℕ), (toString m).toList ≠ '-' :: (toString n).toList := by
    intro m n heq
    have hmem : '-' ∈ (toString m).toList := heq ▸ List.mem_cons_self
    exact absurd (isDigit_of_mem_toString hmem) (by decide)
  rw [toString_int, toString_int] at h
  by_cases ha : 0 ≤ a
  · by_cases hb : 0 ≤ b
    · rw [if_pos ha, if_pos hb] at h
      have hnat := toString_nat_injective h
      omega
    · rw [if_pos ha, if_neg hb] at h
      exact absurd h (hsign _ _)
  · by_cases hb : 0 ≤ b
    · rw [if_neg ha, if_pos hb] at h
      exact absurd h.symm (hsign _ _)
    · rw [if_neg ha, if_neg hb] at h
      have hnat := toString_nat_injective (List.cons.inj h).2
      omega

/-! ## Texts of a fixed width -/

section Digits

variable {c : Char} {text text' : List Char} {width n : ℕ}

/-- A text is all digits when its first character is one and the rest is all digits. -/
theorem AllDigits.cons_iff : AllDigits (c :: text) ↔ c.isDigit = true ∧ AllDigits text :=
  List.forall_mem_cons

/-- The text of a natural number is all digits. -/
theorem allDigits_toString (n : ℕ) : AllDigits (toString n).toList :=
  fun _ => isDigit_of_mem_toString

/-- A digit counts less than ten. -/
theorem toNat_sub_lt (h : c.isDigit = true) : c.toNat - '0'.toNat < 10 := by
  obtain ⟨-, hle⟩ := Char.isDigit_iff_toNat.mp h
  have hzero : '0'.toNat = 48 := rfl
  have hnine : '9'.toNat = 57 := rfl
  omega

/-- The first digit counts with the power of ten of the digits behind it. -/
theorem decimal_cons (c : Char) (text : List Char) :
    decimal (c :: text) = (c.toNat - '0'.toNat) * 10 ^ text.length + decimal text := by
  rw [decimal, Nat.ofDigitChars_cons, Nat.ofDigitChars_eq_ofDigitChars_zero, decimal]
  ring

/-- A text of digits reads as less than ten to the power of its length. -/
theorem decimal_lt (h : AllDigits text) : decimal text < 10 ^ text.length := by
  induction text with
  | nil => decide
  | cons c text ih =>
    obtain ⟨hc, htext⟩ := AllDigits.cons_iff.mp h
    have hdigit : c.toNat - '0'.toNat + 1 ≤ 10 := toNat_sub_lt hc
    calc decimal (c :: text)
        = (c.toNat - '0'.toNat) * 10 ^ text.length + decimal text := decimal_cons c text
      _ < (c.toNat - '0'.toNat + 1) * 10 ^ text.length := by
        have hrest := ih htext
        rw [Nat.add_mul, Nat.one_mul]
        omega
      _ ≤ 10 * 10 ^ text.length := Nat.mul_le_mul_right _ hdigit
      _ = 10 ^ (c :: text).length := by rw [List.length_cons, pow_succ, Nat.mul_comm]

/-- Texts of digits of one length that stand for one number are the same. -/
theorem decimal_inj (h : AllDigits text) (h' : AllDigits text')
    (hlength : text.length = text'.length) (hdecimal : decimal text = decimal text') :
    text = text' := by
  induction text generalizing text' with
  | nil => exact (List.length_eq_zero_iff.mp hlength.symm).symm
  | cons c text ih =>
    cases text' with
    | nil => cases hlength
    | cons c' text' =>
      obtain ⟨hc, htext⟩ := AllDigits.cons_iff.mp h
      obtain ⟨hc', htext'⟩ := AllDigits.cons_iff.mp h'
      have hsame : text.length = text'.length := Nat.succ.inj hlength
      have hlt := decimal_lt htext
      have hlt' := decimal_lt htext'
      rw [decimal_cons, decimal_cons, hsame] at hdecimal
      rw [hsame] at hlt
      have hpos : 0 < 10 ^ text'.length := Nat.pow_pos (by decide)
      -- The first digit is the quotient, and the rest the remainder.
      have hdigit : c.toNat - '0'.toNat = c'.toNat - '0'.toNat := by
        have hdiv := congrArg (· / 10 ^ text'.length) hdecimal
        simpa only [Nat.mul_comm _ (10 ^ text'.length), Nat.mul_add_div hpos,
          Nat.div_eq_of_lt hlt, Nat.div_eq_of_lt hlt', Nat.add_zero] using hdiv
      have hrest : decimal text = decimal text' := by
        rw [hdigit] at hdecimal
        exact Nat.add_left_cancel hdecimal
      have hchar : c = c' := by
        obtain ⟨hge, -⟩ := Char.isDigit_iff_toNat.mp hc
        obtain ⟨hge', -⟩ := Char.isDigit_iff_toNat.mp hc'
        exact Char.toNat_inj.mp (by omega)
      rw [hchar, ih htext htext' hsame hrest]

/-- A number with leading zeros up to a width. -/
def padded (width n : ℕ) : List Char :=
  List.replicate (width - (toString n).toList.length) '0' ++ (toString n).toList

/-- A number padded with zeros is all digits. -/
theorem allDigits_padded (width n : ℕ) : AllDigits (padded width n) := by
  intro c hc
  rcases List.mem_append.mp hc with hc | hc
  · rw [List.eq_of_mem_replicate hc]
    decide
  · exact isDigit_of_mem_toString hc

/-- Zeros in front do not change what a number reads as. -/
theorem decimal_padded (width n : ℕ) : decimal (padded width n) = n := by
  rw [decimal, padded, Nat.ofDigitChars_append, Nat.ofDigitChars_replicate_zero, Nat.mul_zero]
  exact decimal_toString n

/-- A number below ten to a positive power has at most that many digits. -/
theorem length_toString_le (hwidth : 0 < width) (h : n < 10 ^ width) :
    (toString n).toList.length ≤ width := by
  rw [toList_toString]
  exact (Nat.length_toDigits_le_iff (by decide) hwidth).mpr h

/-- A number below ten to the power of a positive width is padded to exactly that width. -/
theorem length_padded (hwidth : 0 < width) (h : n < 10 ^ width) :
    (padded width n).length = width := by
  rw [padded, List.length_append, List.length_replicate]
  exact Nat.sub_add_cancel (length_toString_le hwidth h)

/-- A text of digits is its number, padded to its length. -/
theorem padded_decimal (h : AllDigits text) (hwidth : 0 < text.length) :
    padded text.length (decimal text) = text :=
  decimal_inj (allDigits_padded _ _) h (length_padded hwidth (decimal_lt h)) (decimal_padded _ _)

end Digits

/-- Digits, and a rest that does not begin with a digit, are told from each other. -/
theorem append_digits_inj {whole whole' rest rest' : List Char} (h : AllDigits whole)
    (h' : AllDigits whole') (hrest : ∀ c, rest.head? = some c → c.isDigit = false)
    (hrest' : ∀ c, rest'.head? = some c → c.isDigit = false)
    (heq : whole ++ rest = whole' ++ rest') : whole = whole' ∧ rest = rest' := by
  -- The digits are compared from the front. Where the one text has no more, neither has the other.
  induction whole generalizing whole' with
  | nil =>
    cases whole' with
    | nil => exact ⟨rfl, heq⟩
    -- The first character behind the digits of the one would be a digit of the other.
    | cons c whole' =>
      have hdigit := (AllDigits.cons_iff.mp h').1
      have hhead := hrest c (by rw [show rest = c :: (whole' ++ rest') from heq]; rfl)
      rw [hdigit] at hhead
      cases hhead
  | cons c whole ih =>
    cases whole' with
    | nil =>
      have hdigit := (AllDigits.cons_iff.mp h).1
      have hhead := hrest' c (by rw [show rest' = c :: (whole ++ rest) from heq.symm]; rfl)
      rw [hdigit] at hhead
      cases hhead
    | cons c' whole' =>
      obtain ⟨rfl, htail⟩ := List.cons.inj heq
      obtain ⟨rfl, hsame⟩ := ih (AllDigits.cons_iff.mp h).2 (AllDigits.cons_iff.mp h').2 htail
      exact ⟨rfl, hsame⟩

/-! ## Numerals -/

/-- A decimal numeral. -/
structure Numeral where
  /-- It has a minus sign. -/
  negative : Bool
  /-- The digits before the point. -/
  whole : List Char
  /-- The digits behind the point; without any there is no point. -/
  fraction : List Char
  /-- There is a digit before the point. -/
  whole_ne_nil : whole ≠ []
  /-- They are digits. -/
  whole_digits : AllDigits whole
  /-- They are digits. -/
  fraction_digits : AllDigits fraction

namespace Numeral

/-- The numeral as it is written. -/
def text (n : Numeral) : List Char :=
  (if n.negative then ['-'] else []) ++ n.whole ++
    (if n.fraction = [] then [] else '.' :: n.fraction)

/-- The number that it stands for. -/
def value (n : Numeral) : ℚ :=
  (if n.negative then -1 else 1) *
    (decimal n.whole + decimal n.fraction / 10 ^ n.fraction.length)

/-- The part behind the whole digits does not begin with a digit. -/
theorem head_fraction {n : Numeral} {c : Char}
    (h : (if n.fraction = [] then [] else '.' :: n.fraction).head? = some c) :
    c.isDigit = false := by
  split at h
  · cases h
  · cases h
    rfl

/-- A numeral starts with a minus sign exactly when it is negative. -/
theorem head_text (n : Numeral) : n.text.head? = some '-' ↔ n.negative = true := by
  unfold text
  cases hnegative : n.negative with
  | true => exact iff_of_true rfl rfl
  | false =>
    obtain ⟨c, whole, hwhole⟩ := List.exists_cons_of_ne_nil n.whole_ne_nil
    have hdigit := n.whole_digits c (by rw [hwhole]; exact List.mem_cons_self)
    refine iff_of_false (fun h => ?_) (by decide)
    rw [hwhole] at h
    cases h
    exact absurd hdigit (by decide)

/-- The text tells the sign, the digits before the point and those behind it. -/
theorem text_injective : Function.Injective text := by
  intro n n' h
  -- The sign is told by the first character, and the whole part ends where no digit follows.
  have hnegative : n.negative = n'.negative := by
    rw [Bool.eq_iff_iff, ← head_text, ← head_text, h]
  unfold text at h
  rw [hnegative, List.append_assoc, List.append_assoc] at h
  obtain ⟨hwhole, hpoint⟩ := append_digits_inj n.whole_digits n'.whole_digits
    (fun _ => head_fraction) (fun _ => head_fraction) (List.append_cancel_left h)
  -- With a point both have a fraction, and without one neither has.
  have hfraction : n.fraction = n'.fraction := by
    by_cases hnil : n.fraction = []
    · by_cases hnil' : n'.fraction = []
      · rw [hnil, hnil']
      · rw [if_pos hnil, if_neg hnil'] at hpoint
        cases hpoint
    · by_cases hnil' : n'.fraction = []
      · rw [if_neg hnil, if_pos hnil'] at hpoint
        cases hpoint
      · rw [if_neg hnil, if_neg hnil'] at hpoint
        exact (List.cons.inj hpoint).2
  cases n
  cases n'
  dsimp only at hnegative hwhole hfraction
  subst hnegative hwhole hfraction
  rfl

end Numeral

end Codec
