import Zwaved.Reactive.Run
import Mathlib.Algebra.Ring.Nat

/-!
# Runs that use up a rank

A system whose steps use up a natural number comes to rest: `countP_add_rank_le` bounds the steps of
a run that use it by the rank at the start and the steps that add to it. The steps of the run may
have to meet a condition, and the rank is asked about only in states that satisfy an invariant.
`shown_eq` is about a record of the outputs that the state itself keeps.
-/

namespace Reactive

variable {σ ι ο : Type*} {step : σ → ι → σ × List ο} {I : σ → Prop} {C : Taken σ ι → Prop}
  {s : σ} {is : List ι}

/-- What holds at the start and is kept by every step that meets a condition holds after a run whose
steps meet it. -/
theorem exec_of_steps (hI : I s) (hC : ∀ t ∈ trace step s is, C t)
    (hstep : ∀ s i, I s → C ⟨s, i⟩ → I (step s i).1) : I (exec step s is) := by
  induction is generalizing s with
  | nil => exact hI
  | cons i is ih =>
    have hfirst : C ⟨s, i⟩ := hC _ List.mem_cons_self
    exact ih (hstep s i hI hfirst) fun t ht => hC t (List.mem_cons_of_mem _ ht)

/-- The steps that use up the rank, and what is left of it, are no more than the rank at the start
and what the steps add to it. -/
theorem countP_add_rank_le_sum (rank : σ → ℕ) (uses : Taken σ ι → Bool) (adds : Taken σ ι → ℕ)
    (hI : I s) (hC : ∀ t ∈ trace step s is, C t)
    (hstep : ∀ s i, I s → C ⟨s, i⟩ → I (step s i).1 ∧
      rank (step s i).1 + (uses ⟨s, i⟩).toNat ≤ rank s + adds ⟨s, i⟩) :
    (trace step s is).countP uses + rank (exec step s is) ≤
      rank s + ((trace step s is).map adds).sum := by
  induction is generalizing s with
  | nil => simp [trace]
  | cons i is ih =>
    have hfirst : C ⟨s, i⟩ := hC _ List.mem_cons_self
    obtain ⟨hI', hrank⟩ := hstep s i hI hfirst
    have hrest := ih hI' fun t ht => hC t (List.mem_cons_of_mem _ ht)
    have hcount : (trace step s (i :: is)).countP uses =
        (trace step (step s i).1 is).countP uses + (uses ⟨s, i⟩).toNat := by
      rw [trace, List.countP_cons]
      cases uses ⟨s, i⟩ <;> rfl
    rw [hcount, exec_cons, trace, List.map_cons, List.sum_cons]
    omega

/-- If every step lowers a rank by one when it uses something and raises it by one at most when it
adds something, the uses of a run are bounded by the rank and the additions. -/
theorem countP_add_rank_le (rank : σ → ℕ) (uses adds : Taken σ ι → Bool) (hI : I s)
    (hC : ∀ t ∈ trace step s is, C t)
    (hstep : ∀ s i, I s → C ⟨s, i⟩ → I (step s i).1 ∧
      rank (step s i).1 + (uses ⟨s, i⟩).toNat ≤ rank s + (adds ⟨s, i⟩).toNat) :
    (trace step s is).countP uses + rank (exec step s is) ≤
      rank s + (trace step s is).countP adds := by
  have hcount : ∀ l : List (Taken σ ι), (l.map fun t => (adds t).toNat).sum = l.countP adds := by
    intro l
    induction l with
    | nil => rfl
    | cons t l ih =>
      rw [List.map_cons, List.sum_cons, List.countP_cons, ih]
      cases adds t <;> simp [Nat.add_comm]
  rw [← hcount]
  exact countP_add_rank_le_sum rank uses (fun t => (adds t).toNat) hI hC hstep

/-- A record of the outputs that every step extends by its own has all of them after a run. -/
theorem shown_eq (shown : σ → List ο) (seen : ο → Bool) (hI : I s)
    (hC : ∀ t ∈ trace step s is, C t)
    (hstep : ∀ s i, I s → C ⟨s, i⟩ → I (step s i).1 ∧
      shown (step s i).1 = shown s ++ (step s i).2.filter seen) :
    shown (exec step s is) = shown s ++ (emitted step s is).filter seen := by
  induction is generalizing s with
  | nil => simp [emitted]
  | cons i is ih =>
    have hfirst : C ⟨s, i⟩ := hC _ List.mem_cons_self
    obtain ⟨hI', hshown⟩ := hstep s i hI hfirst
    rw [exec_cons, ih hI' fun t ht => hC t (List.mem_cons_of_mem _ ht), hshown, emitted,
      List.filter_append, List.append_assoc]

end Reactive
