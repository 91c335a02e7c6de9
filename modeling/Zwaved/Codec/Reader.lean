import Mathlib.Data.List.Forall2
import Mathlib.Tactic.Common

/-!
# Readers of a format

A reader works its way through data: from a position it reads a value and moves on, or refuses, or
fails with an error. A format says which forms a value may have in the data. `Parses` says that a
reader reads a format and nothing else: wherever a form of a value stands, it reads the value, to
the end of the form; and whatever it is given, it reads the value of some form that stands there or
refuses, and it never fails.

`times` reads one value after another, and parses the lists of them (`Parses.times`). A reader that
sees the values in another way sees the lists of them so too (`times_map`).
-/

namespace Codec

variable {ε σ α β : Type*}

/-- From a position in the data: an error, nothing, or a value and the position after it. -/
abbrev Reader (ε σ α : Type*) := List σ → ℕ → Except ε (Option (α × ℕ))

/-- Wherever `form` stands in the data, it is read as `x`, to its end. -/
def Takes (read : Reader ε σ α) (x : α) (form : List σ) : Prop :=
  ∀ before after, read (before ++ (form ++ after)) before.length =
    .ok (some (x, before.length + form.length))

/-- A reader of a format: `As x form` says that `form` is a form of `x`. -/
structure Parses (read : Reader ε σ α) (As : α → List σ → Prop) : Prop where
  /-- Every form of a value is read as the value. -/
  complete : ∀ x form, As x form → Takes read x form
  /-- What is read has a form that stands in the data. -/
  sound : ∀ before tail, read (before ++ tail) before.length = .ok none ∨
    ∃ x form after, tail = form ++ after ∧ As x form ∧
      read (before ++ tail) before.length = .ok (some (x, before.length + form.length))

/-! ## One value after another -/

/-- `count` values, each from where the one before it ends. -/
def times (read : Reader ε σ α) : ℕ → Reader ε σ (List α)
  | 0, _, pos => .ok (some ([], pos))
  | count + 1, data, pos =>
    match read data pos with
    | .error e => .error e
    | .ok none => .ok none
    | .ok (some (x, pos)) =>
      match times read count data pos with
      | .error e => .error e
      | .ok none => .ok none
      | .ok (some (xs, pos)) => .ok (some (x :: xs, pos))

/-- The forms of `count` values in a row. -/
def Counted (As : α → List σ → Prop) (count : ℕ) (xs : List α) (form : List σ) : Prop :=
  xs.length = count ∧ ∃ forms, List.Forall₂ As xs forms ∧ form = forms.flatten

variable {read : Reader ε σ α} {As : α → List σ → Prop}

/-- A reader that takes one form and then the rest takes both, counted together. -/
theorem Takes.times {x : α} {xs : List α} {form rest : List σ} {count : ℕ}
    (hx : Takes read x form) (hxs : Takes (times read count) xs rest) :
    Takes (Codec.times read (count + 1)) (x :: xs) (form ++ rest) := by
  intro before after
  have hfirst := hx before (rest ++ after)
  have hrest := hxs (before ++ form) after
  rw [List.append_assoc, List.length_append] at hrest
  rw [List.append_assoc, Codec.times, hfirst]
  dsimp only
  rw [hrest, List.length_append, Nat.add_assoc]

/-- If a reader parses single values, reading `count` of them one after the other parses the lists
of that length. -/
theorem Parses.times (h : Parses read As) (count : ℕ) :
    Parses (Codec.times read count) (Counted As count) := by
  -- Forms are read one after another, each from where the last one ended.
  induction count with
  | zero =>
    constructor
    · rintro xs form ⟨hcount, forms, hforms, rfl⟩ before after
      obtain rfl := List.length_eq_zero_iff.mp hcount
      cases hforms
      rfl
    · intro before tail
      exact Or.inr ⟨[], [], tail, rfl, ⟨rfl, [], .nil, rfl⟩, rfl⟩
  | succ count ih =>
    constructor
    -- The form is that of the first and those of the others behind it.
    · rintro xs form ⟨hcount, forms, hforms, rfl⟩
      cases hforms with
      | nil => cases hcount
      | @cons x form xs forms hx hxs =>
        have hrest := ih.complete xs forms.flatten ⟨Nat.succ.inj hcount, forms, hxs, rfl⟩
        exact (h.complete x form hx).times hrest
    -- What has been read is the first value, and then the others.
    · intro before tail
      rw [Codec.times]
      rcases h.sound before tail with hnone | ⟨x, form, after, rfl, hx, hfirst⟩
      · exact Or.inl (by rw [hnone])
      · -- The rest is read from the end of the first form.
        have hrest := ih.sound (before ++ form) after
        rw [List.append_assoc, List.length_append] at hrest
        rw [hfirst]
        dsimp only
        rcases hrest with hnone | ⟨xs, rest, after, rfl, ⟨hcount, forms, hforms, rfl⟩, hrest⟩
        · exact Or.inl (by rw [hnone])
        · refine Or.inr ⟨x :: xs, form ++ forms.flatten, after, (List.append_assoc ..).symm,
            ⟨congrArg Nat.succ hcount, form :: forms, .cons hx hforms, rfl⟩, ?_⟩
          rw [hrest, List.length_append, Nat.add_assoc]

/-! ## Another view of the values -/

/-- The reader that makes `f x` of every `x`. -/
def Reader.map (f : α → β) (read : Reader ε σ α) : Reader ε σ β := fun data pos =>
  (read data pos).map (Option.map (Prod.map f id))

/-- Reading through another view of the values is the view of what is read, one value after the
other. -/
theorem times_map (f : α → β) (read : Reader ε σ α) (count : ℕ) :
    times (read.map f) count = (times read count).map (List.map f) := by
  induction count with
  | zero => rfl
  | succ count ih =>
    funext data pos
    rw [times, ih, Reader.map, Reader.map, times]
    rcases read data pos with e | _ | ⟨x, pos⟩
    · rfl
    · rfl
    · simp only [Except.map, Option.map, Prod.map, id_eq, Reader.map]
      rcases times read count data pos with e | _ | ⟨xs, pos⟩ <;> rfl

end Codec
