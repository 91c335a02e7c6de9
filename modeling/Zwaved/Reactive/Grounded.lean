import Mathlib.Data.List.Induction
import Mathlib.Tactic.Common

/-!
# Logs whose events are justified by what precedes them

A log is grounded when each of its events satisfies a condition on the events before it. A machine
that keeps its log grounded does so event by event (`Grounded.concat`), and what the log means can be
read off afterwards, at any place of it. An event of a kind that occurs only once has one place
(`OnlyOnce.split_unique`).
-/

namespace Reactive

variable {α : Type*} {J : List α → α → Prop} {P : α → Prop} {l pre pre' post post' : List α}
  {x x' y : α}

/-- Each event of the log is justified by the events before it. -/
def Grounded (J : List α → α → Prop) (l : List α) : Prop :=
  ∀ pre x post, l = pre ++ x :: post → J pre x

/-- Where nothing has happened, all that has happened is grounded. -/
theorem grounded_nil : Grounded J [] := by
  intro pre x post h
  have hlength := congrArg List.length h
  simp at hlength

/-- A place in a log with one more event is the last one, or a place in the log. -/
theorem concat_eq_append_cons (h : l ++ [y] = pre ++ x :: post) :
    (l = pre ∧ y = x ∧ post = []) ∨ ∃ post', post = post' ++ [y] ∧ l = pre ++ x :: post' := by
  rcases List.eq_nil_or_concat post with rfl | ⟨post', z, rfl⟩
  · obtain ⟨rfl, hlast⟩ := List.append_inj' h rfl
    exact Or.inl ⟨rfl, List.head_eq_of_cons_eq hlast, rfl⟩
  · have heq : l ++ [y] = (pre ++ x :: post') ++ [z] := by rw [h]; simp
    obtain ⟨rfl, hlast⟩ := List.append_inj' heq rfl
    obtain rfl := List.head_eq_of_cons_eq hlast
    exact Or.inr ⟨post', List.concat_eq_append, rfl⟩

/-- A place in a longer log, of an event that is not among the new ones, is a place in the log. -/
theorem append_eq_append_cons {events : List α} (h : l ++ events = pre ++ x :: post)
    (hx : x ∉ events) : ∃ post', post = post' ++ events ∧ l = pre ++ x :: post' := by
  rcases List.append_eq_append_iff.mp h with ⟨between, hpre, hrest⟩ | ⟨between, hl, hrest⟩
  · have hmem : x ∈ events := by rw [hrest]; simp
    exact absurd hmem hx
  · cases between with
    | nil =>
      have hmem : x ∈ events := by rw [← List.nil_append events, ← hrest]; simp
      exact absurd hmem hx
    | cons y between =>
      obtain ⟨rfl, hpost⟩ := List.cons.inj hrest
      exact ⟨between, hpost, hl⟩

/-- A grounded log stays grounded with one more event that it justifies. -/
theorem Grounded.concat (h : Grounded J l) (hx : J l x) : Grounded J (l ++ [x]) := by
  intro pre y post heq
  rcases concat_eq_append_cons heq with ⟨rfl, rfl, -⟩ | ⟨post', -, hl⟩
  · exact hx
  · exact h pre y post' hl

/-- What precedes a place of the log is itself such a log. -/
theorem Grounded.of_append (h : Grounded J (l ++ post)) : Grounded J l := by
  intro pre x post' hl
  refine h pre x (post' ++ post) ?_
  rw [hl, List.append_assoc, List.cons_append]

/-- An event of the log has a place, at which it is justified. -/
theorem Grounded.of_mem (h : Grounded J l) (hx : x ∈ l) :
    ∃ pre post, l = pre ++ x :: post ∧ J pre x := by
  obtain ⟨pre, post, hl⟩ := List.append_of_mem hx
  exact ⟨pre, post, hl, h pre x post hl⟩

/-- A kind of event that does not occur again. -/
def OnlyOnce (P : α → Prop) (l : List α) : Prop :=
  ∀ pre x post, l = pre ++ x :: post → P x → ∀ y ∈ pre, ¬ P y

/-- Two places of an event that occurs only once are one. -/
theorem OnlyOnce.split_unique (h : OnlyOnce P l) (hl : l = pre ++ x :: post) (hx : P x)
    (hl' : l = pre' ++ x' :: post') (hx' : P x') : pre = pre' ∧ x = x' ∧ post = post' := by
  rcases List.append_eq_append_iff.mp (hl.symm.trans hl') with
    ⟨between, hpre, hrest⟩ | ⟨between, hpre, hrest⟩
  · cases between with
    | nil =>
      obtain ⟨rfl, rfl⟩ := List.cons.inj hrest
      exact ⟨by rw [hpre, List.append_nil], rfl, rfl⟩
    | cons z between =>
      obtain ⟨rfl, -⟩ := List.cons.inj hrest
      have hmem : x ∈ pre' := by rw [hpre]; simp
      exact absurd hx (h pre' x' post' hl' hx' x hmem)
  · cases between with
    | nil =>
      obtain ⟨rfl, rfl⟩ := List.cons.inj hrest
      exact ⟨by rw [hpre, List.append_nil], rfl, rfl⟩
    | cons z between =>
      obtain ⟨rfl, -⟩ := List.cons.inj hrest
      have hmem : x' ∈ pre := by rw [hpre]; simp
      exact absurd hx' (h pre x post hl hx x' hmem)

/-- An event that occurs only once is counted once. -/
theorem OnlyOnce.count_eq_one [DecidableEq α] (h : OnlyOnce (· = x) l) (hx : x ∈ l) :
    l.count x = 1 := by
  obtain ⟨pre, post, rfl⟩ := List.append_of_mem hx
  have hpre : x ∉ pre := fun hmem => h pre x post rfl rfl x hmem rfl
  have hpost : x ∉ post := by
    intro hmem
    obtain ⟨between, rest, rfl⟩ := List.append_of_mem hmem
    have hmem' : x ∈ pre ++ x :: between := by simp
    exact h (pre ++ x :: between) x rest (by simp) rfl x hmem' rfl
  rw [List.count_append, List.count_cons_self, List.count_eq_zero_of_not_mem hpre,
    List.count_eq_zero_of_not_mem hpost]

end Reactive
