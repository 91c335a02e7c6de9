import Zwaved.Reactive.Run

/-!
# A component of a machine

A machine holds the state of another one, and each of its steps takes some steps of that one. Then
its runs are runs of the component: what holds after every run of the component holds of it inside
the machine.
-/

namespace Reactive

variable {σ σ' ι ι' ο ο' : Type*} (step : σ → ι → σ × List ο) (step' : σ' → ι' → σ' × List ο')

/-- In each step the component, which is `part` of the state, takes the inputs that `inputs` says,
and what it puts out is what `output?` sees. -/
structure Component (part : σ → σ') (inputs : Taken σ ι → List ι') (output? : ο → Option ο') :
    Prop where
  /-- It moves as it does by itself. -/
  moves : ∀ s i, part (step s i).1 = exec step' (part s) (inputs ⟨s, i⟩)
  /-- It puts out what it does by itself. -/
  puts : ∀ s i, (step s i).2.filterMap output? = emitted step' (part s) (inputs ⟨s, i⟩)

variable {step step'} {part : σ → σ'} {inputs : Taken σ ι → List ι'} {output? : ο → Option ο'}

/-- After a run the component is where its own run leads. -/
theorem Component.exec_eq (h : Component step step' part inputs output?) (s : σ) (is : List ι) :
    part (exec step s is) = exec step' (part s) ((trace step s is).flatMap inputs) := by
  induction is generalizing s with
  | nil => rfl
  | cons i is ih =>
    rw [exec_cons, ih, h.moves, trace, List.flatMap_cons, exec_append]

/-- What is seen of a run is what the component puts out in its own. -/
theorem Component.emitted_eq (h : Component step step' part inputs output?) (s : σ)
    (is : List ι) : (emitted step s is).filterMap output? =
      emitted step' (part s) ((trace step s is).flatMap inputs) := by
  induction is generalizing s with
  | nil => rfl
  | cons i is ih =>
    rw [emitted, List.filterMap_append, ih, h.puts, h.moves, trace, List.flatMap_cons,
      emitted_append]

end Reactive
