import Mathlib.Data.List.Basic

/-!
# Pieces of a text

`Slices pieces text` says that the pieces stand in the text one behind the other, with anything in
front of them, between them and behind them. Texts that are put together have the pieces of both.
-/

namespace Codec

variable {α : Type*} {pieces pieces' : List (List α)} {text text' : List α}

/-- The pieces stand in the text, in this order and none over another. -/
inductive Slices : List (List α) → List α → Prop
  /-- There are no more pieces in the rest. -/
  | rest (gap : List α) : Slices [] gap
  /-- A piece behind a gap. -/
  | piece (gap piece : List α) {pieces : List (List α)} {text : List α} :
    Slices pieces text → Slices (piece :: pieces) (gap ++ (piece ++ text))

namespace Slices

/-- A text is a single piece with no gap around it. -/
theorem self (piece : List α) : Slices [piece] piece := by
  have h := Slices.piece [] piece (Slices.rest ([] : List α))
  rwa [List.append_nil] at h

/-- Text in front of the pieces is one more gap. -/
theorem gap_append (gap : List α) (h : Slices pieces text) : Slices pieces (gap ++ text) := by
  cases h with
  | rest => exact rest _
  | piece gap' piece h =>
    rw [← List.append_assoc]
    exact h.piece _ _

/-- The pieces of two texts stand in both together, in their order. -/
theorem append (h : Slices pieces text) (h' : Slices pieces' text') :
    Slices (pieces ++ pieces') (text ++ text') := by
  induction h with
  | rest gap => exact h'.gap_append gap
  | piece gap piece _ ih =>
    rw [List.append_assoc, List.append_assoc]
    exact ih.piece gap piece

/-- Text behind the pieces is one more gap. -/
theorem append_gap (h : Slices pieces text) (gap : List α) : Slices pieces (text ++ gap) := by
  have h' := h.append (rest gap)
  rwa [List.append_nil] at h'

end Slices

end Codec
