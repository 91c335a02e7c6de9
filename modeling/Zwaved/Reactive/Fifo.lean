import Zwaved.Reactive.Run

/-!
# First in, first out

A machine keeps things in a queue. In a step some arrive at its end and some leave from its front.
`Conserves` says that of one step, and `conserves_run` of a run: what has left, followed by what is
still there, is what was there at first, followed by what has arrived. Nothing is lost, nothing
leaves twice and nothing overtakes.
-/

namespace Reactive

variable {σ ι ο α : Type*} (step : σ → ι → σ × List ο) (contents : σ → List α)
  (arrives leaves : Taken σ ι → List α)

/-- What leaves in a step comes from the front of what is there or arrives, and the rest stays. -/
def Conserves (t : Taken σ ι) : Prop :=
  contents t.before ++ arrives t = leaves t ++ contents (step t.before t.input).1

variable {step contents arrives leaves}

/-- A step in which nothing arrives or leaves, and the queue stays as it is. -/
theorem Conserves.quiet {t : Taken σ ι} (harrives : arrives t = []) (hleaves : leaves t = [])
    (hcontents : contents (step t.before t.input).1 = contents t.before) :
    Conserves step contents arrives leaves t := by
  rw [Conserves, harrives, hleaves, hcontents, List.append_nil, List.nil_append]

/-- If every step of a run conserves a queue, so does the run: what was there and what arrived is,
in order, what left and what is there. -/
theorem conserves_run (s : σ) (is : List ι)
    (h : ∀ t ∈ trace step s is, Conserves step contents arrives leaves t) :
    contents s ++ (trace step s is).flatMap arrives =
      (trace step s is).flatMap leaves ++ contents (exec step s is) := by
  induction is generalizing s with
  | nil => exact List.append_nil _
  | cons i is ih =>
    have hfirst : contents s ++ arrives ⟨s, i⟩ = leaves ⟨s, i⟩ ++ contents (step s i).1 :=
      h ⟨s, i⟩ List.mem_cons_self
    have hrest := ih (step s i).1 fun t ht => h t (List.mem_cons_of_mem _ ht)
    calc contents s ++ (trace step s (i :: is)).flatMap arrives
        = contents s ++ arrives ⟨s, i⟩ ++ (trace step (step s i).1 is).flatMap arrives := by
          rw [trace, List.flatMap_cons, List.append_assoc]
      _ = leaves ⟨s, i⟩ ++ (contents (step s i).1 ++
            (trace step (step s i).1 is).flatMap arrives) := by
          rw [hfirst, List.append_assoc]
      _ = (trace step s (i :: is)).flatMap leaves ++ contents (exec step s (i :: is)) := by
          rw [hrest, trace, List.flatMap_cons, exec_cons, List.append_assoc]

/-- From an empty queue, what has left is the first of what has arrived. -/
theorem leaves_isPrefix {s : σ} (hempty : contents s = []) (is : List ι)
    (h : ∀ t ∈ trace step s is, Conserves step contents arrives leaves t) :
    (trace step s is).flatMap leaves <+: (trace step s is).flatMap arrives := by
  have hrun := conserves_run s is h
  rw [hempty, List.nil_append] at hrun
  exact ⟨_, hrun.symm⟩

/-- What is told of the outputs step by step is told of all of them. -/
theorem flatMap_filterMap_trace {β : Type*} (f : ο → Option β) (s : σ) (is : List ι) :
    (trace step s is).flatMap (fun t => (step t.before t.input).2.filterMap f) =
      (emitted step s is).filterMap f := by
  induction is generalizing s with
  | nil => rfl
  | cons i is ih => rw [trace, List.flatMap_cons, emitted, List.filterMap_append, ih]

/-- Where a step tells of its outputs what its input says, a run tells what its inputs say. -/
theorem filterMap_emitted {β : Type*} {f : ο → Option β} {g : ι → Option β}
    (h : ∀ s i, (step s i).2.filterMap f = (g i).toList) (s : σ) (is : List ι) :
    (emitted step s is).filterMap f = is.filterMap g := by
  induction is generalizing s with
  | nil => rfl
  | cons i is ih =>
    rw [emitted, List.filterMap_append, ih, h, List.filterMap_cons]
    cases g i <;> rfl

/-- What every step conserves of its outputs, the run does. -/
theorem conserves_emitted (contents : σ → List α) {arrives leaves : ο → Option α} (s : σ)
    (is : List ι)
    (h : ∀ t ∈ trace step s is, Conserves step contents
      (fun t => (step t.before t.input).2.filterMap arrives)
      (fun t => (step t.before t.input).2.filterMap leaves) t) :
    contents s ++ (emitted step s is).filterMap arrives =
      (emitted step s is).filterMap leaves ++ contents (exec step s is) := by
  rw [← flatMap_filterMap_trace, ← flatMap_filterMap_trace]
  exact conserves_run s is h

end Reactive
