import Zwaved.Reactive.Run

/-!
# Slots that are used once

Some inputs of a machine put a value into a slot, and some steps use a slot up. If a slot only ever
holds what was issued to it since it was last issued to or used, then every use of a value goes
back to the one step that issued it, and no two uses go back to the same step: between the issue and
the use nothing touched the slot, so an earlier use of the same issue would have to be in between.
`SingleUse.exists_spends` and `SingleUse.spends_unique` say so of the places in the run.
-/

namespace Reactive

variable {σ ι ο κ ν : Type*}

/-- A machine keeps the slots `slot`: an input may issue a value to a slot, a step may use one. -/
structure SingleUse (step : σ → ι → σ × List ο) (slot : σ → κ → Option ν)
    (Issues : ι → κ → ν → Prop) (Uses : Taken σ ι → κ → Prop) : Prop where
  /-- What a slot holds after a step was issued by it, or was there and has not been touched. -/
  origin {s : σ} {i : ι} {k : κ} {v : ν} (h : slot (step s i).1 k = some v) :
    Issues i k v ∨ (slot s k = some v ∧ (∀ w, ¬ Issues i k w) ∧ ¬ Uses ⟨s, i⟩ k)
  /-- An input issues to one slot at most. -/
  slot_unique {i : ι} {k l : κ} {v w : ν} (h : Issues i k v) (h' : Issues i l w) : k = l

/-- The step issues to the slot or uses it. -/
def Touches (Issues : ι → κ → ν → Prop) (Uses : Taken σ ι → κ → Prop) (k : κ)
    (t : Taken σ ι) : Prop :=
  (∃ w, Issues t.input k w) ∨ Uses t k

/-- In a run, the step at place `j` uses slot `k`, which holds the `v` issued at place `i`. -/
structure Spends (Issues : ι → κ → ν → Prop) (Uses : Taken σ ι → κ → Prop)
    (run : List (Taken σ ι)) (i j : ℕ) (k : κ) (v : ν) : Prop where
  /-- The issue comes first. -/
  lt : i < j
  /-- The value is issued at `i`. -/
  issued : ∃ t, run[i]? = some t ∧ Issues t.input k v
  /-- The slot is used at `j`. -/
  used : ∃ t, run[j]? = some t ∧ Uses t k
  /-- Nothing touches the slot in between. -/
  untouched : ∀ m t, i < m → m < j → run[m]? = some t → ¬ Touches Issues Uses k t

namespace SingleUse

variable {step : σ → ι → σ × List ο} {slot : σ → κ → Option ν} {Issues : ι → κ → ν → Prop}
  {Uses : Taken σ ι → κ → Prop} {s : σ}

/-- What a slot holds was issued by the last step that touched it. -/
theorem since (h : SingleUse step slot Issues Uses) (h0 : ∀ k, slot s k = none) (is : List ι)
    {k : κ} {v : ν} (hv : slot (exec step s is) k = some v) :
    ∃ t rest, Since (Touches Issues Uses k) (trace step s is) t rest ∧ Issues t.input k v := by
  refine trace_induction step s
    (I := fun tr s => ∀ k v, slot s k = some v →
      ∃ t rest, Since (Touches Issues Uses k) tr t rest ∧ Issues t.input k v)
    ?_ (fun tr s i ih k v hv => ?_) is k v hv
  · intro k v hv
    rw [h0 k] at hv
    cases hv
  · rcases h.origin hv with hissues | ⟨hheld, hnot, hunused⟩
    · exact ⟨⟨s, i⟩, [], Since.fresh tr (Or.inl ⟨v, hissues⟩), hissues⟩
    · obtain ⟨t, rest, hsince, hissues⟩ := ih k v hheld
      have hquiet : ¬ Touches Issues Uses k ⟨s, i⟩ := by
        rintro (⟨w, hw⟩ | hused)
        · exact hnot w hw
        · exact hunused hused
      exact ⟨t, rest ++ [⟨s, i⟩], hsince.concat hquiet, hissues⟩

/-- A value that is in a slot when the slot is used was issued before, and neither used nor replaced
since. -/
theorem exists_spends (h : SingleUse step slot Issues Uses) (h0 : ∀ k, slot s k = none)
    {is : List ι} {j : ℕ} {i : ι} {k : κ} {v : ν} (hj : is[j]? = some i)
    (hv : slot (exec step s (is.take j)) k = some v)
    (hused : Uses ⟨exec step s (is.take j), i⟩ k) :
    ∃ place, Spends Issues Uses (trace step s is) place j k v := by
  obtain ⟨t, rest, hsince, hissues⟩ := h.since h0 (is.take j) hv
  obtain ⟨pre, hpre⟩ := hsince.suffix
  have hlen : (trace step s (is.take j)).length = j := by
    rw [length_trace, List.length_take]
    have hlt : j < is.length := (List.getElem?_eq_some_iff.mp hj).1
    omega
  have hplaces : pre.length + (rest.length + 1) = j := by
    rw [← hlen, ← hpre, List.length_append, List.length_cons]
  -- The first `j` places of the whole run are those of the run up to `j`.
  have hearlier : ∀ m, m < j → (trace step s is)[m]? = (pre ++ t :: rest)[m]? := by
    intro m hm
    rw [hpre, trace_getElem?, trace_getElem?, List.getElem?_take_of_lt hm, List.take_take,
      Nat.min_eq_left (Nat.le_of_lt hm)]
  refine ⟨pre.length, by omega, ⟨t, ?_, hissues⟩, ⟨⟨exec step s (is.take j), i⟩, ?_, hused⟩, ?_⟩
  · rw [hearlier _ (by omega), List.getElem?_append_right (Nat.le_refl _), Nat.sub_self,
      List.getElem?_cons_zero]
  · rw [trace_getElem?, hj, Option.map_some]
  · intro m u hlt hm hu
    obtain ⟨n, rfl⟩ : ∃ n, m = pre.length + (n + 1) := ⟨m - pre.length - 1, by omega⟩
    rw [hearlier _ hm, List.getElem?_append_right (by omega), Nat.add_sub_cancel_left,
      List.getElem?_cons_succ] at hu
    exact hsince.quiet u (List.mem_of_getElem? hu)

/-- An issued value is used in one step at most. -/
theorem spends_unique (h : SingleUse step slot Issues Uses) {run : List (Taken σ ι)} {i j j' : ℕ}
    {k k' : κ} {v v' : ν} (hj : Spends Issues Uses run i j k v)
    (hj' : Spends Issues Uses run i j' k' v') : j = j' := by
  obtain ⟨t, ht, hissues⟩ := hj.issued
  obtain ⟨t', ht', hissues'⟩ := hj'.issued
  obtain rfl : t = t' := Option.some.inj (ht.symm.trans ht')
  obtain rfl := h.slot_unique hissues hissues'
  obtain ⟨u, hu, hused⟩ := hj.used
  obtain ⟨u', hu', hused'⟩ := hj'.used
  rcases Nat.lt_trichotomy j j' with hlt | heq | hlt
  · exact absurd (Or.inr hused) (hj'.untouched j u hj.lt hlt hu)
  · exact heq
  · exact absurd (Or.inr hused') (hj.untouched j' u' hj'.lt hlt hu')

end SingleUse

end Reactive
