import Mathlib.Data.List.DropRight

/-!
# Stripped texts

A text without what stands at its two ends: `strip p q` takes away the elements at the front that
satisfy `p` and those at the back that satisfy `q`. What is put around a text is stripped again
(`strip_append`, `strip_append_right`), a text whose ends are bare is left as it is (`strip_bare`),
and an element that neither predicate holds of is never lost (`count_strip`). A text is split at the
first occurrence of a separator (`idxOf?_append_cons`).
-/

namespace Codec

variable {α : Type*} {p q : α → Bool} {text lead trail rest : List α} {a : α}

/-- The text without the elements at the front that satisfy `p` and those at the back that satisfy
`q`. -/
def strip (p q : α → Bool) (text : List α) : List α := (text.dropWhile p).rdropWhile q

/-- What is all dropped at the end does not matter there. -/
theorem rdropWhile_append_of_all (h : ∀ a ∈ trail, q a = true) :
    (text ++ trail).rdropWhile q = text.rdropWhile q := by
  induction trail using List.reverseRecOn with
  | nil => rw [List.append_nil]
  | append_singleton trail a ih =>
    rw [← List.append_assoc, List.rdropWhile_concat_pos _ _ _ (h a (by simp))]
    exact ih fun b hb => h b (List.mem_append_left _ hb)

/-- Dropping from the end stops at an element that stays. -/
theorem rdropWhile_append_cons (h : q a = false) :
    (text ++ a :: rest).rdropWhile q = text ++ a :: rest.rdropWhile q := by
  induction rest using List.reverseRecOn with
  | nil => rw [List.rdropWhile_concat_neg _ _ _ (by simp [h]), List.rdropWhile_nil]
  | append_singleton rest b ih =>
    have hassoc : text ++ a :: (rest ++ [b]) = (text ++ a :: rest) ++ [b] := by simp
    rw [hassoc, List.rdropWhile_concat, List.rdropWhile_concat]
    split
    · exact ih
    · exact hassoc.symm

/-- What is all stripped at the front does not matter there. -/
theorem strip_append (h : ∀ a ∈ lead, p a = true) : strip p q (lead ++ text) = strip p q text := by
  rw [strip, List.dropWhile_append_of_pos h, strip]

/-- What is all stripped at the end does not matter there. -/
theorem strip_append_right (h : ∀ a ∈ trail, q a = true) :
    strip p q (text ++ trail) = strip p q text := by
  unfold strip
  rw [List.dropWhile_append]
  split
  · next hnil =>
    have htail : (trail.dropWhile p).rdropWhile q = [] := by
      rw [List.rdropWhile_eq_nil_iff]
      exact fun a ha => h a ((List.dropWhile_suffix p).subset ha)
    rw [htail, List.isEmpty_iff.mp hnil, List.rdropWhile_nil]
  · exact rdropWhile_append_of_all h

/-- Stripping takes the same off a text whose end has been dropped already. -/
theorem strip_rdropWhile (p q : α → Bool) (text : List α) :
    strip p q (text.rdropWhile q) = strip p q text := by
  have happend : strip p q (text.rdropWhile q ++ text.rtakeWhile q) =
      strip p q (text.rdropWhile q) :=
    strip_append_right fun _ ha => List.mem_rtakeWhile_imp ha
  rw [List.rdropWhile_append_rtakeWhile] at happend
  exact happend.symm

/-- A text with bare ends is left as it is. -/
theorem strip_bare (hfront : ∀ a, text.head? = some a → p a = false)
    (hback : ∀ a, text.getLast? = some a → q a = false) : strip p q text = text := by
  have hdrop : text.dropWhile p = text := by
    cases text with
    | nil => rfl
    | cons a text => exact List.dropWhile_cons_of_neg (by simp [hfront a rfl])
  rw [strip, hdrop, List.rdropWhile_eq_self_iff]
  intro hne
  simp [hback _ (List.getLast?_eq_some_getLast hne)]

/-- A text is stripped to nothing exactly when all of it may go from the end, given that what may go
from the front may. -/
theorem strip_eq_nil_iff (hpq : ∀ a, p a = true → q a = true) :
    strip p q text = [] ↔ ∀ a ∈ text, q a = true := by
  rw [strip, List.rdropWhile_eq_nil_iff]
  constructor
  · intro h a ha
    rw [← List.takeWhile_append_dropWhile (p := p) (l := text)] at ha
    rcases List.mem_append.mp ha with ha | ha
    · exact hpq a (List.mem_takeWhile_imp ha)
    · exact h a ha
  · exact fun h a ha => h a ((List.dropWhile_suffix p).subset ha)

/-- An element that is stripped neither from the front nor from the end occurs as often as
before. -/
theorem count_strip [BEq α] [LawfulBEq α] (hp : p a = false) (hq : q a = false) (text : List α) :
    (strip p q text).count a = text.count a := by
  have hback : (text.dropWhile p).count a =
      ((text.dropWhile p).rdropWhile q).count a + ((text.dropWhile p).rtakeWhile q).count a := by
    rw [← List.count_append, List.rdropWhile_append_rtakeWhile]
  have hfront : text.count a = (text.takeWhile p).count a + (text.dropWhile p).count a := by
    rw [← List.count_append, List.takeWhile_append_dropWhile]
  have htake : (text.takeWhile p).count a = 0 :=
    List.count_eq_zero.mpr fun ha => by
      have hpa := List.mem_takeWhile_imp ha
      rw [hp] at hpa
      cases hpa
  have hrtake : ((text.dropWhile p).rtakeWhile q).count a = 0 :=
    List.count_eq_zero.mpr fun ha => by
      have hqa := List.mem_rtakeWhile_imp ha
      rw [hq] at hqa
      cases hqa
  rw [strip]
  omega

/-- The first occurrence of a separator is behind a text that does not hold it. -/
theorem idxOf?_append_cons [BEq α] [LawfulBEq α] (h : a ∉ text) (rest : List α) :
    (text ++ a :: rest).idxOf? a = some text.length := by
  refine List.idxOf?_eq_some_iff.mpr ⟨by simp, by simp, fun j hj heq => h ?_⟩
  rw [List.getElem_append_left hj] at heq
  exact heq ▸ List.getElem_mem hj

/-- A text is what stands before the first separator, the separator, and what stands behind it. -/
theorem exists_of_idxOf? [BEq α] [LawfulBEq α] {i : ℕ} (h : text.idxOf? a = some i) :
    ∃ before after, a ∉ before ∧ before.length = i ∧ text = before ++ a :: after := by
  obtain ⟨hi, hget, hfirst⟩ := List.idxOf?_eq_some_iff.mp h
  refine ⟨text.take i, text.drop (i + 1), fun hmem => ?_, List.length_take_of_le hi.le, ?_⟩
  · obtain ⟨j, hj, heq⟩ := List.getElem_of_mem hmem
    rw [List.length_take] at hj
    rw [List.getElem_take] at heq
    exact hfirst j (by omega) heq
  · rw [← hget, ← List.drop_eq_getElem_cons hi, List.take_append_drop]

end Codec
