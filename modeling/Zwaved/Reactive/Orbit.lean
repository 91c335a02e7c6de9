import Mathlib.Data.List.Iterate
import Mathlib.Data.List.Nodup
import Mathlib.Data.Set.Function
import Mathlib.Logic.Function.Iterate

/-!
# Draws along orbits

A generator has a state, and a draw uses the state and moves it on by `f`. From time to time a new
state is born and takes over. When is no state ever drawn from twice? `Fresh` is what this needs of
the births: up to the number of steps taken, no orbit returns to a state and no two meet. `Log` is
the invariant that then carries it: the state in use is the last birth moved on `k` times, and every
draw so far was either further back on the same orbit or on the orbit of an earlier birth.
-/

namespace Reactive.Orbit

variable {α : Type*} (f : α → α)

/-- Up to `N` steps, no orbit returns to a state, and no two orbits meet. -/
structure Fresh (N : ℕ) (births : List α) : Prop where
  /-- No two orbits meet. -/
  apart : births.Pairwise fun a b => ∀ k ≤ N, ∀ l ≤ N, f^[k] a ≠ f^[l] b
  /-- No orbit returns to a state. -/
  acyclic : ∀ a ∈ births, ∀ l ≤ N, ∀ k < l, f^[k] a ≠ f^[l] a

/-- The state in use and the draws so far, `n` steps into a run. -/
structure Log (n : ℕ) (births : List α) (current : α) (draws : List α) : Prop where
  /-- The state in use is on the orbit of the last birth, past everything drawn from that orbit;
  the other draws were on orbits of earlier births. -/
  drawn : ∃ earlier last k, births = earlier ++ [last] ∧ k ≤ n ∧ current = f^[k] last ∧
    ∀ t ∈ draws, (∃ j < k, t = f^[j] last) ∨ ∃ b ∈ earlier, ∃ j ≤ n, t = f^[j] b

variable {f}

/-- A single orbit is fresh when its first states differ. -/
theorem Fresh.singleton {N : ℕ} {b : α} (h : (List.iterate f b (N + 1)).Nodup) :
    Fresh f N [b] := by
  refine ⟨List.pairwise_singleton _ _, fun a ha l hl k hk heq => ?_⟩
  rw [List.mem_singleton.mp ha] at heq
  have hk' : k < (List.iterate f b (N + 1)).length := by simp; omega
  have hl' : l < (List.iterate f b (N + 1)).length := by simp; omega
  rw [← List.getElem_iterate f b (N + 1) k hk', ← List.getElem_iterate f b (N + 1) l hl'] at heq
  exact absurd (h.getElem_inj_iff.mp heq) (by omega)

/-- The births before the last ones are fresh too. -/
theorem Fresh.of_append {N : ℕ} {births more : List α} (h : Fresh f N (births ++ more)) :
    Fresh f N births :=
  ⟨(List.pairwise_append.mp h.apart).1, fun a ha => h.acyclic a (List.mem_append_left _ ha)⟩

/-- Orbits that stay apart for so many steps stay apart for fewer. -/
theorem Fresh.mono {N M : ℕ} {births : List α} (h : Fresh f N births) (hle : M ≤ N) :
    Fresh f M births :=
  ⟨h.apart.imp fun hab k hk l hl => hab k (hk.trans hle) l (hl.trans hle),
    fun a ha l hl => h.acyclic a ha l (hl.trans hle)⟩

variable {n m N : ℕ} {births draws : List α} {current : α}

/-- A state that has just been born is in use, and nothing was drawn from its orbit. -/
theorem Log.fresh (n : ℕ) (births : List α) (b : α)
    (h : ∀ t ∈ draws, ∃ a ∈ births, ∃ j ≤ n, t = f^[j] a) : Log f n (births ++ [b]) b draws :=
  ⟨births, b, 0, rfl, Nat.zero_le n, rfl, fun t ht => Or.inr (h t ht)⟩

/-- Every draw is on the orbit of a birth, within the steps of the run. -/
theorem Log.exists_birth (h : Log f n births current draws) :
    ∀ t ∈ draws, ∃ a ∈ births, ∃ j ≤ n, t = f^[j] a := by
  obtain ⟨earlier, last, k, rfl, hk, -, hdrawn⟩ := h.drawn
  intro t ht
  rcases hdrawn t ht with ⟨j, hj, rfl⟩ | ⟨b, hb, hj⟩
  · exact ⟨last, by simp, j, by omega, rfl⟩
  · exact ⟨b, by simp [hb], hj⟩

/-- The log stays right when a new state is born and takes over. -/
theorem Log.born (h : Log f n births current draws) (b : α) : Log f n (births ++ [b]) b draws :=
  Log.fresh n births b h.exists_birth

/-- The log of a shorter run is one of a longer run. -/
theorem Log.mono (h : Log f n births current draws) (hle : n ≤ m) :
    Log f m births current draws := by
  obtain ⟨earlier, last, k, hbirths, hk, hcur, hdrawn⟩ := h.drawn
  refine ⟨earlier, last, k, hbirths, hk.trans hle, hcur, fun t ht => ?_⟩
  refine (hdrawn t ht).imp_right fun ⟨b, hb, j, hj, heq⟩ => ⟨b, hb, j, hj.trans hle, heq⟩

/-- The log stays right when the current state is drawn from, which moves it on by one. -/
theorem Log.draw (h : Log f n births current draws) :
    Log f (n + 1) births (f current) (draws ++ [current]) := by
  obtain ⟨earlier, last, k, hbirths, hk, hcur, hdrawn⟩ := h.drawn
  refine ⟨earlier, last, k + 1, hbirths, by omega, ?_, fun t ht => ?_⟩
  · rw [hcur, Function.iterate_succ_apply']
  rcases List.mem_append.mp ht with ht | ht
  · rcases hdrawn t ht with ⟨j, hj, heq⟩ | ⟨b, hb, j, hj, heq⟩
    · exact Or.inl ⟨j, by omega, heq⟩
    · exact Or.inr ⟨b, hb, j, by omega, heq⟩
  · exact Or.inl ⟨k, by omega, by rw [List.mem_singleton.mp ht, hcur]⟩

/-- With fresh births, the state in use was not drawn from yet. -/
theorem Log.current_notMem (h : Log f n births current draws) (hfresh : Fresh f N births)
    (hn : n ≤ N) : current ∉ draws := by
  obtain ⟨earlier, last, k, rfl, hk, rfl, hdrawn⟩ := h.drawn
  intro hmem
  rcases hdrawn _ hmem with ⟨j, hj, heq⟩ | ⟨b, hb, j, hj, heq⟩
  · exact hfresh.acyclic last (by simp) k (by omega) j hj heq.symm
  · exact (List.pairwise_append.mp hfresh.apart).2.2 b hb last (by simp) j (by omega) k (by omega)
      heq.symm

/-! ## A generator that starts without a state -/

variable (f) in
/-- The account of a generator that starts with no state, and for which one may be `stored`: the
states `born` since, the `draws` and the state `live` now. No state was drawn from twice, and what
is live satisfies `Log`. -/
structure Ledger (n : ℕ) (stored born draws : List α) (live : Option α) : Prop where
  /-- No state was drawn from twice. -/
  nodup : draws.Nodup
  /-- Without a state nothing was drawn or born. -/
  idle : live = none → draws = [] ∧ born = []
  /-- The live state and the draws so far. -/
  log : ∀ current, live = some current → Log f n (stored ++ born) current draws

variable {stored born : List α} {live : Option α}

/-- The account of a run in which nothing has happened yet. -/
theorem Ledger.start (n : ℕ) (stored : List α) : Ledger f n stored [] [] none :=
  ⟨List.nodup_nil, fun _ => ⟨rfl, rfl⟩, fun _ h => nomatch h⟩

/-- The account of a shorter run is one of a longer run in which nothing more was drawn. -/
theorem Ledger.mono (h : Ledger f n stored born draws live) (hle : n ≤ m) :
    Ledger f m stored born draws live :=
  ⟨h.nodup, h.idle, fun current hlive => (h.log current hlive).mono hle⟩

/-- The account stays right when a new state is born and replaces the live one. -/
theorem Ledger.birth (h : Ledger f n stored born draws live) (b : α) :
    Ledger f n stored (born ++ [b]) draws (some b) := by
  refine ⟨h.nodup, fun hnone => (nomatch hnone), fun current hcurrent => ?_⟩
  obtain rfl := Option.some.inj hcurrent
  rw [← List.append_assoc]
  cases hlive : live with
  | none => exact Log.fresh n _ b (by simp [(h.idle hlive).1])
  | some current => exact (h.log current hlive).born b

/-- The account stays right when the stored state is taken up while none is live. -/
theorem Ledger.restore {b : α} (h : Ledger f n [b] born draws none) :
    Ledger f n [b] born draws (some b) := by
  obtain ⟨rfl, rfl⟩ := h.idle rfl
  refine ⟨h.nodup, fun hnone => (nomatch hnone), fun current hcurrent => ?_⟩
  obtain rfl := Option.some.inj hcurrent
  exact Log.fresh n [] b (by simp)

/-- A draw from the live state, when the births are fresh. -/
theorem Ledger.draw (h : Ledger f n stored born draws (some current))
    (hfresh : Fresh f N (stored ++ born)) (hn : n ≤ N) :
    Ledger f (n + 1) stored born (draws ++ [current]) (some (f current)) := by
  have hlog := h.log current rfl
  refine ⟨?_, fun hnone => (nomatch hnone), fun c hc => Option.some.inj hc ▸ hlog.draw⟩
  rw [List.nodup_append]
  refine ⟨h.nodup, by simp, fun a ha b hb => ?_⟩
  rw [List.mem_singleton.mp hb]
  exact ne_of_mem_of_not_mem ha (hlog.current_notMem hfresh hn)

end Reactive.Orbit
