import Mathlib.Data.List.Induction
import Mathlib.Tactic.Common

/-!
# Runs of a reactive machine

A reactive machine is a step function `σ → ι → σ × List ο`: it takes an input, moves, and emits
outputs. A run is a list of inputs. `exec` is the state after it, `trace` the steps it took, each
with the state it was taken from, and `emitted` everything it put out. `trace_induction` is the
induction that safety proofs use: a relation between the history so far and the state, kept by one
step, holds after every run.

The second half is about histories. `Since p l start rest` splits a history at the last element
that satisfies `p`, and `Precedes P Q l` says that a `P` occurs in `l` and a `Q` after it. Both
only grow at the end, which is how a run grows, so each has a lemma for one more step.
-/

namespace Reactive

/-- A step taken in a run: the state before it and the input. -/
structure Taken (σ ι : Type*) where
  /-- The state the step was taken from. -/
  before : σ
  /-- The input that it consumed. -/
  input : ι

section Machine

variable {σ ι ο : Type*} (step : σ → ι → σ × List ο)

/-- The state after a run. -/
def exec (s : σ) (is : List ι) : σ := is.foldl (fun s i => (step s i).1) s

/-- The steps of a run, oldest first. -/
def trace : σ → List ι → List (Taken σ ι)
  | _, [] => []
  | s, i :: is => ⟨s, i⟩ :: trace (step s i).1 is

/-- What a run puts out, oldest first. -/
def emitted : σ → List ι → List ο
  | _, [] => []
  | s, i :: is => (step s i).2 ++ emitted (step s i).1 is

variable (s : σ)

/-- No input leaves the state. -/
@[simp] theorem exec_nil : exec step s [] = s := rfl

/-- The first input is taken from the start, and the rest from the state it leads to. -/
@[simp] theorem exec_cons (i : ι) (is : List ι) :
    exec step s (i :: is) = exec step (step s i).1 is := rfl

/-- Of two runs the second starts where the first ends. -/
theorem exec_append (is js : List ι) : exec step s (is ++ js) = exec step (exec step s is) js :=
  List.foldl_append

/-- A last input is taken from the state that the others lead to. -/
theorem exec_concat (is : List ι) (i : ι) :
    exec step s (is ++ [i]) = (step (exec step s is) i).1 := exec_append step s is [i]

/-- The steps of two runs are those of the first, and then those of the second from where it
starts. -/
theorem trace_append (is js : List ι) :
    trace step s (is ++ js) = trace step s is ++ trace step (exec step s is) js := by
  induction is generalizing s with
  | nil => rfl
  | cons i is ih => simp only [List.cons_append, trace, exec_cons, ih]

/-- A last input adds one step to the trace, taken from the state that the others lead to. -/
theorem trace_concat (is : List ι) (i : ι) :
    trace step s (is ++ [i]) = trace step s is ++ [⟨exec step s is, i⟩] :=
  trace_append step s is [i]

/-- A run takes one step for each input. -/
@[simp] theorem length_trace (is : List ι) : (trace step s is).length = is.length := by
  induction is generalizing s with
  | nil => rfl
  | cons i is ih => rw [trace, List.length_cons, ih, List.length_cons]

/-- At each place of the trace stand the input of that place and the state that those before it lead
to. -/
theorem trace_getElem? (is : List ι) (j : ℕ) :
    (trace step s is)[j]? = is[j]?.map fun i => ⟨exec step s (is.take j), i⟩ := by
  induction is generalizing s j with
  | nil => rfl
  | cons i is ih =>
    cases j with
    | zero => rfl
    | succ j =>
      rw [trace, List.getElem?_cons_succ, ih, List.getElem?_cons_succ, List.take_succ_cons,
        exec_cons]

/-- Two runs put out what the first does, and then what the second does from where it starts. -/
theorem emitted_append (is js : List ι) :
    emitted step s (is ++ js) = emitted step s is ++ emitted step (exec step s is) js := by
  induction is generalizing s with
  | nil => rfl
  | cons i is ih => simp only [List.cons_append, emitted, exec_cons, ih, List.append_assoc]

/-- A last input adds its outputs behind those of the others. -/
theorem emitted_concat (is : List ι) (i : ι) :
    emitted step s (is ++ [i]) = emitted step s is ++ (step (exec step s is) i).2 := by
  rw [emitted_append]
  simp only [emitted, List.append_nil]

/-- A run puts out what its steps put out. -/
theorem mem_emitted_iff (is : List ι) (o : ο) :
    o ∈ emitted step s is ↔ ∃ t ∈ trace step s is, o ∈ (step t.before t.input).2 := by
  induction is generalizing s with
  | nil => simp [emitted, trace]
  | cons i is ih =>
    simp only [emitted, trace, List.mem_append, ih, List.mem_cons, exists_eq_or_imp]

/-- The outputs of a run's steps are outputs of the run. -/
theorem mem_emitted {is : List ι} {t : Taken σ ι} (ht : t ∈ trace step s is) {o : ο}
    (ho : o ∈ (step t.before t.input).2) : o ∈ emitted step s is :=
  (mem_emitted_iff step s is o).mpr ⟨t, ht, ho⟩

/-- A step of a run is taken from the state after the inputs before it. -/
theorem mem_trace_iff (is : List ι) (t : Taken σ ι) :
    t ∈ trace step s is ↔
      ∃ pre post, is = pre ++ t.input :: post ∧ t.before = exec step s pre := by
  induction is generalizing s with
  | nil => simp [trace]
  | cons i is ih =>
    simp only [trace, List.mem_cons, ih]
    constructor
    · rintro (rfl | ⟨pre, post, rfl, h⟩)
      · exact ⟨[], is, rfl, rfl⟩
      · exact ⟨i :: pre, post, rfl, h⟩
    · rintro ⟨pre, post, heq, h⟩
      cases pre with
      | nil =>
        obtain ⟨rfl, rfl⟩ := List.cons.inj heq
        exact Or.inl (by cases t; cases h; rfl)
      | cons j pre =>
        obtain ⟨rfl, rfl⟩ := List.cons.inj heq
        exact Or.inr ⟨pre, post, rfl, h⟩

/-- What holds at the start and is kept by every step of a run holds before each of them. -/
theorem before_of_trace {P : σ → Prop} (h0 : P s) (is : List ι)
    (hstep : ∀ t ∈ trace step s is, P t.before → P (step t.before t.input).1) :
    ∀ t ∈ trace step s is, P t.before := by
  induction is generalizing s with
  | nil => simp [trace]
  | cons i is ih =>
    intro t ht
    rcases List.mem_cons.mp ht with rfl | ht
    · exact h0
    · have hnext : P (step s i).1 := hstep ⟨s, i⟩ List.mem_cons_self h0
      exact ih _ hnext (fun t ht => hstep t (List.mem_cons_of_mem _ ht)) t ht

/-- If a step keeps `P` exactly when it is not a `Bad` one, then `P` holds throughout a run exactly
when no step of the run is bad. -/
theorem forall_reached_iff {P : σ → Prop} {Bad : Taken σ ι → Prop} (h0 : P s)
    (hstep : ∀ s i, P s → (P (step s i).1 ↔ ¬ Bad ⟨s, i⟩)) (is : List ι) :
    (∀ pre, pre <+: is → P (exec step s pre)) ↔ ∀ t ∈ trace step s is, ¬ Bad t := by
  constructor
  · intro h t ht
    obtain ⟨pre, post, hsplit, hbefore⟩ := (mem_trace_iff step s is t).mp ht
    have hpre : P t.before := by
      rw [hbefore]
      exact h pre ⟨t.input :: post, hsplit.symm⟩
    refine (hstep t.before t.input hpre).mp ?_
    rw [hbefore, ← exec_concat]
    exact h (pre ++ [t.input]) ⟨post, by rw [hsplit]; simp⟩
  · intro h pre hpre
    induction pre using List.reverseRecOn with
    | nil => exact h0
    | append_singleton pre i ih =>
      have hbefore := ih ((List.prefix_append pre [i]).trans hpre)
      obtain ⟨post, rfl⟩ := hpre
      rw [exec_concat]
      refine (hstep _ i hbefore).mpr (h ⟨exec step s pre, i⟩ ?_)
      exact (mem_trace_iff step s _ _).mpr ⟨pre, post, by simp, rfl⟩

/-- The induction for safety proofs: what one step keeps between the history and the state holds
after every run. -/
theorem trace_induction {I : List (Taken σ ι) → σ → Prop} (h0 : I [] s)
    (hstep : ∀ tr st i, I tr st → I (tr ++ [⟨st, i⟩]) (step st i).1) (is : List ι) :
    I (trace step s is) (exec step s is) := by
  induction is using List.reverseRecOn with
  | nil => exact h0
  | append_singleton is i ih =>
    rw [trace_concat, exec_concat]
    exact hstep _ _ _ ih

/-- The same induction over what the run has put out instead of its steps. -/
theorem emitted_induction {I : List ο → σ → Prop} (h0 : I [] s)
    (hstep : ∀ out st i, I out st → I (out ++ (step st i).2) (step st i).1) (is : List ι) :
    I (emitted step s is) (exec step s is) := by
  induction is using List.reverseRecOn with
  | nil => exact h0
  | append_singleton is i ih =>
    rw [emitted_concat, exec_concat]
    exact hstep _ _ _ ih

/-- The same induction over a run whose steps all meet a condition, which may look at the history
before the step. -/
theorem trace_induction_of {C : List (Taken σ ι) → Taken σ ι → Prop}
    {I : List (Taken σ ι) → σ → Prop} (h0 : I [] s)
    (hstep : ∀ tr st i, I tr st → C tr ⟨st, i⟩ → I (tr ++ [⟨st, i⟩]) (step st i).1)
    (is : List ι)
    (hC : ∀ pre i post, is = pre ++ i :: post → C (trace step s pre) ⟨exec step s pre, i⟩) :
    I (trace step s is) (exec step s is) := by
  induction is using List.reverseRecOn with
  | nil => exact h0
  | append_singleton is i ih =>
    rw [trace_concat, exec_concat]
    refine hstep _ _ _ (ih fun pre j post h => ?_) (hC is i [] rfl)
    exact hC pre j (post ++ [i]) (by rw [h, List.append_assoc, List.cons_append])

/-- Induction over a run, with its trace and its outputs: what holds at the start and is kept by
every step that meets the condition on its history holds at the end. -/
theorem run_induction_of {C : List (Taken σ ι) → Taken σ ι → Prop}
    {I : List (Taken σ ι) → List ο → σ → Prop} (h0 : I [] [] s)
    (hstep : ∀ tr out st i, I tr out st → C tr ⟨st, i⟩ →
      I (tr ++ [⟨st, i⟩]) (out ++ (step st i).2) (step st i).1)
    (is : List ι)
    (hC : ∀ pre i post, is = pre ++ i :: post → C (trace step s pre) ⟨exec step s pre, i⟩) :
    I (trace step s is) (emitted step s is) (exec step s is) := by
  induction is using List.reverseRecOn with
  | nil => exact h0
  | append_singleton is i ih =>
    rw [trace_concat, exec_concat, emitted_concat]
    refine hstep _ _ _ _ (ih fun pre j post h => ?_) (hC is i [] rfl)
    exact hC pre j (post ++ [i]) (by rw [h, List.append_assoc, List.cons_append])

/-- A run of a machine whose steps may fail, up to the first that does. -/
def execChecked {ε : Type*} (check : σ → ι → Except ε (σ × List ο)) : σ → List ι → Except ε σ
  | s, [] => .ok s
  | s, i :: is =>
    match check s i with
    | .ok (s, _) => execChecked check s is
    | .error e => .error e

/-- A machine whose steps fail where `Fails` says, and are those of `step` everywhere else, runs
through a list of inputs exactly when no step of the run of `step` is one that fails. -/
theorem execChecked_ok_iff {ε : Type*} {check : σ → ι → Except ε (σ × List ο)}
    {Fails : σ → ι → Prop} (is : List ι)
    (hcheck : ∀ t ∈ trace step s is,
      (Fails t.before t.input ∧ ∃ e, check t.before t.input = .error e) ∨
        (¬ Fails t.before t.input ∧ check t.before t.input = .ok (step t.before t.input))) :
    (∃ s', execChecked check s is = .ok s') ↔ ∀ t ∈ trace step s is, ¬ Fails t.before t.input := by
  -- The checked run goes on as long as no input fails.
  induction is generalizing s with
  | nil => simp [execChecked, trace]
  | cons i is ih =>
    -- The first input fails and ends the run, or the rest runs from where it leads.
    rcases hcheck ⟨s, i⟩ (List.mem_cons_self ..) with ⟨hfails, e, herror⟩ | ⟨hsafe, hok⟩
    · dsimp only at hfails herror
      rw [execChecked, herror]
      constructor
      · rintro ⟨s', h⟩
        cases h
      · intro hnone
        exact absurd hfails (hnone ⟨s, i⟩ (List.mem_cons_self ..))
    · dsimp only at hsafe hok
      rw [execChecked, hok]
      dsimp only
      rw [ih _ fun t ht => hcheck t (List.mem_cons_of_mem _ ht)]
      constructor
      · intro hrest t ht
        rcases List.mem_cons.mp ht with rfl | ht
        · exact hsafe
        · exact hrest t ht
      · intro hall t ht
        exact hall t (List.mem_cons_of_mem _ ht)

end Machine

/-! ## Histories -/

section History

variable {α : Type*} {p P Q : α → Prop} {l rest : List α} {start x : α}

/-- `l` ends with `start :: rest`, where `start` is the last element of `l` that satisfies `p`. -/
structure Since (p : α → Prop) (l : List α) (start : α) (rest : List α) : Prop where
  /-- `start :: rest` ends `l`. -/
  suffix : (start :: rest) <:+ l
  /-- `start` satisfies `p`. -/
  opens : p start
  /-- Nothing after `start` satisfies `p`. -/
  quiet : ∀ y ∈ rest, ¬ p y

/-- An element that satisfies `p` is itself the last one. -/
theorem Since.fresh (l : List α) (h : p x) : Since p (l ++ [x]) x [] :=
  ⟨⟨l, rfl⟩, h, by simp⟩

/-- One more element that does not satisfy `p` leaves the last one where it was. -/
theorem Since.concat (h : Since p l start rest) (hx : ¬ p x) :
    Since p (l ++ [x]) start (rest ++ [x]) := by
  obtain ⟨⟨pre, hpre⟩, hopens, hquiet⟩ := h
  refine ⟨⟨pre, by rw [← hpre]; simp⟩, hopens, fun y hy => ?_⟩
  rcases List.mem_append.mp hy with hy | hy
  · exact hquiet y hy
  · rw [List.mem_singleton.mp hy]; exact hx

/-- In a history that ends with no `p`, what has come since the last one is what had come before,
and the end. -/
theorem Since.of_concat (h : Since p (l ++ [x]) start rest) (hx : ¬ p x) :
    ∃ init, rest = init ++ [x] ∧ Since p l start init := by
  obtain ⟨⟨pre, hpre⟩, hopens, hquiet⟩ := h
  rcases List.eq_nil_or_concat rest with rfl | ⟨init, last, rfl⟩
  · obtain rfl := List.head_eq_of_cons_eq (List.append_inj' hpre rfl).2
    exact absurd hopens hx
  · have hsplit : pre ++ start :: init ++ [last] = l ++ [x] := by simpa using hpre
    obtain ⟨hinit, hlast⟩ := List.append_inj' hsplit rfl
    obtain rfl := List.head_eq_of_cons_eq hlast
    exact ⟨init, List.concat_eq_append, ⟨pre, hinit⟩, hopens,
      fun y hy => hquiet y (by simp [hy])⟩

/-- Nothing came since, when the last element satisfies `p`. -/
theorem Since.rest_eq_nil (h : Since p (l ++ [x]) start rest) (hx : p x) : rest = [] := by
  obtain ⟨⟨pre, hpre⟩, -, hquiet⟩ := h
  rcases List.eq_nil_or_concat rest with hnil | ⟨init, last, rfl⟩
  · exact hnil
  · have hlast : pre ++ start :: init ++ [last] = l ++ [x] := by simpa using hpre
    obtain ⟨-, hlast⟩ := List.append_inj' hlast rfl
    obtain rfl := List.head_eq_of_cons_eq hlast
    exact absurd hx (hquiet last (by simp))

/-- An element came since, when nothing from it on satisfies `p`. -/
theorem Since.mem_rest {a b : List α} (h : Since p (a ++ x :: b) start rest)
    (hx : ∀ y ∈ x :: b, ¬ p y) : x ∈ rest := by
  obtain ⟨hsuffix, hopens, -⟩ := h
  rcases List.suffix_or_suffix_of_suffix hsuffix (List.suffix_append a (x :: b)) with hle | hle
  · exact absurd hopens (hx start (hle.subset List.mem_cons_self))
  · rcases List.suffix_cons_iff.mp hle with heq | hle
    · obtain ⟨rfl, -⟩ := List.cons.inj heq
      exact absurd hopens (hx x List.mem_cons_self)
    · exact hle.subset List.mem_cons_self

/-- What has come since the last `p` is in the history. -/
theorem Since.mem (h : Since p l start rest) (hx : x ∈ rest) : x ∈ l :=
  h.suffix.subset (List.mem_cons_of_mem _ hx)

/-- An element behind a front of the list stands at the place that the front's length tells. -/
theorem exists_take_of_prefix {pre : List α} (h : pre ++ [x] <+: l) :
    ∃ n : Fin l.length, pre = l.take n ∧ x = l.get n := by
  obtain ⟨post, rfl⟩ := h
  exact ⟨⟨pre.length, by simp⟩, by simp, by simp⟩

/-- The last `p` of a history and what has come since are unique. -/
theorem Since.unique {start' : α} {rest' : List α} (h : Since p l start rest)
    (h' : Since p l start' rest') : start = start' ∧ rest = rest' := by
  rcases List.suffix_or_suffix_of_suffix h.suffix h'.suffix with hle | hle
  · rcases List.suffix_cons_iff.mp hle with heq | hle
    · exact List.cons.inj heq
    · exact absurd h.opens (h'.quiet _ (hle.subset List.mem_cons_self))
  · rcases List.suffix_cons_iff.mp hle with heq | hle
    · obtain ⟨rfl, rfl⟩ := List.cons.inj heq
      exact ⟨rfl, rfl⟩
    · exact absurd h'.opens (h.quiet _ (hle.subset List.mem_cons_self))

/-- Some `P` occurs in `l`, and a `Q` after it. -/
def Precedes (P Q : α → Prop) (l : List α) : Prop :=
  ∃ a x b y c, l = a ++ x :: (b ++ y :: c) ∧ P x ∧ Q y

/-- What has occurred in order has still occurred after one more element. -/
theorem Precedes.concat (h : Precedes P Q l) (x : α) : Precedes P Q (l ++ [x]) := by
  obtain ⟨a, u, b, v, c, rfl, hu, hv⟩ := h
  exact ⟨a, u, b, v, c ++ [x], by simp, hu, hv⟩

/-- A `Q` that closes a history with a `P` in it. -/
theorem Precedes.close (h : ∃ u ∈ l, P u) (hx : Q x) : Precedes P Q (l ++ [x]) := by
  obtain ⟨u, hu, hP⟩ := h
  obtain ⟨a, b, rfl⟩ := List.append_of_mem hu
  exact ⟨a, u, b, x, [], by simp, hP, hx⟩

/-- If a `P` comes before a `Q`, there is a `P`. -/
theorem Precedes.left (h : Precedes P Q l) : ∃ u ∈ l, P u := by
  obtain ⟨a, u, b, v, c, rfl, hu, -⟩ := h
  exact ⟨u, by simp, hu⟩

/-- An occurrence in a history is one in every longer history. -/
theorem exists_mem_concat (h : ∃ u ∈ l, P u) (x : α) : ∃ u ∈ l ++ [x], P u := by
  obtain ⟨u, hu, hP⟩ := h
  exact ⟨u, List.mem_append_left _ hu, hP⟩

/-- A history that ends with a `P` has one in it. -/
theorem exists_mem_close (l : List α) (hx : P x) : ∃ u ∈ l ++ [x], P u :=
  ⟨x, by simp, hx⟩

end History

end Reactive
