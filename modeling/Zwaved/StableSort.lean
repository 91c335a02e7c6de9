import Mathlib.Data.List.Sort

/-!
# Stable sorts

`StablySorts key l out` says that `out` is `l` sorted by `key`, with elements of one key in the
order in which they stand in `l`. It determines `out`. A list whose elements are numbered in
ascending order is sorted so by any sort that compares the numbers after the keys
(`stablySorts_of_perm`): within a key two such lists are the same elements in the order of their
numbers.
-/

namespace StableSort

variable {α β κ ν : Type*} [LinearOrder κ] [LinearOrder ν]

/-- `out` is `l` sorted by `key`, stably. -/
structure StablySorts (key : α → κ) (l out : List α) : Prop where
  /-- The keys ascend. -/
  sorted : out.Pairwise fun a b => key a ≤ key b
  /-- The elements of one key are those of `l`, in the same order. -/
  stable : ∀ k, out.filter (key · = k) = l.filter (key · = k)

/-- The empty list sorts to itself. -/
theorem StablySorts.nil (key : α → κ) : StablySorts key [] [] := ⟨List.Pairwise.nil, fun _ => rfl⟩

/-- What is sorted by a key of its images is, as images, sorted by the key. -/
theorem StablySorts.map {key : β → κ} {f : α → β} {l out : List α}
    (h : StablySorts (fun a => key (f a)) l out) : StablySorts key (l.map f) (out.map f) := by
  constructor
  · exact List.pairwise_map.mpr h.sorted
  · intro k
    rw [List.filter_map, List.filter_map]
    exact congrArg (List.map f) (h.stable k)

/-- An element of a list in ascending order of a number is known by its number. -/
theorem eq_of_ascending {seq : α → ν} {l : List α} (h : l.Pairwise fun a b => seq a < seq b)
    {a b : α} (ha : a ∈ l) (hb : b ∈ l) (heq : seq a = seq b) : a = b := by
  have hnodup : (l.map seq).Nodup := List.pairwise_map.mpr (h.imp fun hlt => hlt.ne)
  exact List.inj_on_of_nodup_map hnodup ha hb heq

/-- Sorting by the key and then by the number sorts a list in ascending order of the number
stably. -/
theorem stablySorts_of_perm {key : α → κ} {seq : α → ν} {l out : List α} (hperm : out.Perm l)
    (hl : l.Pairwise fun a b => seq a < seq b)
    (hout : out.Pairwise fun a b => key a < key b ∨ (key a = key b ∧ seq a ≤ seq b)) :
    StablySorts key l out := by
  constructor
  · exact hout.imp fun h => h.elim le_of_lt fun h => h.1.le
  · intro k
    have hleft : (out.filter (key · = k)).Pairwise fun a b => seq a ≤ seq b := by
      refine (hout.filter _).imp_of_mem ?_
      intro a b ha hb h
      have hkey : key a = key b := by
        rw [of_decide_eq_true (List.mem_filter.mp ha).2,
          of_decide_eq_true (List.mem_filter.mp hb).2]
      exact h.elim (fun hlt => absurd hkey hlt.ne) fun h => h.2
    have hright : (l.filter (key · = k)).Pairwise fun a b => seq a ≤ seq b :=
      (hl.filter _).imp le_of_lt
    refine List.Perm.eq_of_pairwise ?_ hleft hright (hperm.filter _)
    intro a b ha hb hab hba
    have ha' : a ∈ l := hperm.mem_iff.mp (List.mem_filter.mp ha).1
    exact eq_of_ascending hl ha' (List.mem_filter.mp hb).1 (le_antisymm hab hba)

end StableSort
