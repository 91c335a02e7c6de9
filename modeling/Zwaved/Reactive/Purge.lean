import Zwaved.Reactive.Run

/-!
# Runs without some of their inputs

When does an observer not notice that inputs are left out? It suffices to have a relation between
states that a kept input keeps, with the same seen outputs on both sides, and that a dropped input
keeps on the one side that takes it, with no seen output. `purge` carries such a relation over a
whole run and the run without the dropped inputs.
-/

namespace Reactive

variable {σ ι ο : Type*} {step : σ → ι → σ × List ο} {R : σ → σ → Prop} {keep : ι → Bool}
  {seen : ο → Bool}

/-- A run and the same run without the dropped inputs end in related states, and what is seen of
them is the same. That a dropped input goes unnoticed is asked of the steps of the run only. -/
theorem purge (is : List ι) {s s' : σ} (hR : R s s')
    (hdrop : ∀ t ∈ trace step s is, keep t.input = false → ∀ s', R t.before s' →
      R (step t.before t.input).1 s' ∧ (step t.before t.input).2.filter seen = [])
    (hkeep : ∀ s s' i, keep i = true → R s s' → R (step s i).1 (step s' i).1 ∧
      (step s i).2.filter seen = (step s' i).2.filter seen) :
    R (exec step s is) (exec step s' (is.filter keep)) ∧
      (emitted step s is).filter seen = (emitted step s' (is.filter keep)).filter seen := by
  induction is generalizing s s' with
  | nil => exact ⟨hR, rfl⟩
  | cons i is ih =>
    have hrest : ∀ t ∈ trace step (step s i).1 is, keep t.input = false → ∀ s', R t.before s' →
        R (step t.before t.input).1 s' ∧ (step t.before t.input).2.filter seen = [] :=
      fun t ht => hdrop t (List.mem_cons_of_mem _ ht)
    cases hi : keep i with
    | false =>
      obtain ⟨hR', hnone⟩ := hdrop ⟨s, i⟩ List.mem_cons_self hi s' hR
      obtain ⟨hstate, hseen⟩ := ih hR' hrest
      rw [List.filter_cons_of_neg (by simp [hi]), exec_cons, emitted, List.filter_append, hnone]
      exact ⟨hstate, hseen⟩
    | true =>
      obtain ⟨hR', hsame⟩ := hkeep s s' i hi hR
      obtain ⟨hstate, hseen⟩ := ih hR' hrest
      rw [List.filter_cons_of_pos hi, exec_cons, exec_cons, emitted, emitted, List.filter_append,
        List.filter_append, hsame, hseen]
      exact ⟨hstate, rfl⟩

end Reactive
