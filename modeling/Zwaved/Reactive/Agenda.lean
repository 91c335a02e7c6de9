import Zwaved.Reactive.Run

/-!
# Machines with an agenda

Handlers that publish while they run, on a bus that delivers at once, are a machine with an agenda:
a stack of what is left to do. Taking the first action may change the state and put further actions
in front of the rest, so that whatever a handler publishes is delivered, and whatever that leads to,
before anything else goes on.

The world outside comes in three ways: an event from outside starts a new agenda once the last one
is done; a handler that is not part of the machine publishes something in the middle of it; and the
state is altered by somebody who uses no bus at all. `Dispatcher.step` is one such move, and a run
is a list of moves, so everything of `Run` applies.
-/

namespace Reactive

/-- A state and what is left to do in it, first things first. -/
structure Config (σ α : Type*) where
  /-- The state. -/
  state : σ
  /-- The agenda. -/
  agenda : List α

/-- What happens next. -/
inductive Move (δ ε ν υ : Type*)
  /-- The first action of the agenda is taken, with what it draws at random. -/
  | work (draws : δ)
  /-- An event from outside, which waits for the agenda to be empty. -/
  | enter (event : ε)
  /-- A message that is published in the middle of things. -/
  | nest (message : ν)
  /-- The state is altered behind the back of the handlers. -/
  | alter (change : υ)

/-- A machine with an agenda. -/
structure Dispatcher (σ α δ ε ν υ ο : Type*) where
  /-- An action taken: the state after it, what it puts in front of the agenda, and its outputs. -/
  work : σ → α → δ → σ × List α × List ο
  /-- What an event from outside puts on the agenda. -/
  enter : ε → List α
  /-- What a message published in the middle of things puts in front. -/
  nest : ν → List α
  /-- A change of the state. -/
  alter : σ → υ → σ

namespace Dispatcher

variable {σ α δ ε ν υ ο : Type*} (D : Dispatcher σ α δ ε ν υ ο)

/-- One move. -/
def step (c : Config σ α) : Move δ ε ν υ → Config σ α × List ο
  | .work draws =>
    match c.agenda with
    | [] => (c, [])
    | action :: rest =>
      let (state, more, outputs) := D.work c.state action draws
      ({ state, agenda := more ++ rest }, outputs)
  | .enter event =>
    match c.agenda with
    | [] => ({ c with agenda := D.enter event }, [])
    | _ :: _ => (c, [])
  | .nest message => ({ c with agenda := D.nest message ++ c.agenda }, [])
  | .alter change => ({ c with state := D.alter c.state change }, [])

/-- Working takes the first action of the agenda, and puts what follows from it in front of the
rest. -/
theorem step_work {c : Config σ α} {action : α} {rest : List α} (h : c.agenda = action :: rest)
    (draws : δ) :
    D.step c (.work draws) = ({ state := (D.work c.state action draws).1
                                agenda := (D.work c.state action draws).2.1 ++ rest },
      (D.work c.state action draws).2.2) := by
  simp only [step, h]

/-- The move takes the action `action`. -/
def Takes (taken : Taken (Config σ α) (Move δ ε ν υ)) (action : α) (draws : δ) : Prop :=
  taken.input = .work draws ∧ ∃ rest, taken.before.agenda = action :: rest

/-- In a run, the move after `pre` takes the action `action`. -/
def TakesAt (start : Config σ α) (moves pre : List (Move δ ε ν υ)) (action : α) (draws : δ) : Prop :=
  (∃ post, moves = pre ++ .work draws :: post) ∧
    ∃ rest, (exec D.step start pre).agenda = action :: rest

/-- What a move can do. -/
inductive Moved (c : Config σ α) : Move δ ε ν υ → Config σ α × List ο → Prop
  /-- An action is taken. -/
  | worked {action : α} {rest : List α} (draws : δ) (head : c.agenda = action :: rest) :
    Moved c (.work draws) ({ state := (D.work c.state action draws).1
                             agenda := (D.work c.state action draws).2.1 ++ rest },
      (D.work c.state action draws).2.2)
  /-- An event comes in. -/
  | entered (event : ε) (empty : c.agenda = []) :
    Moved c (.enter event) ({ c with agenda := D.enter event }, [])
  /-- A message is published in the middle of things. -/
  | nested (message : ν) : Moved c (.nest message) ({ c with agenda := D.nest message ++ c.agenda }, [])
  /-- The state is altered. -/
  | altered (change : υ) : Moved c (.alter change) ({ c with state := D.alter c.state change }, [])
  /-- Nothing happens: there is nothing to do, or an event has to wait. -/
  | idle (move : Move δ ε ν υ) : Moved c move (c, [])

/-- Every move of a dispatcher is of one of the kinds of `Moved`. -/
theorem moved (c : Config σ α) (move : Move δ ε ν υ) : D.Moved c move (D.step c move) := by
  unfold step
  cases move with
  | work draws =>
    cases hagenda : c.agenda with
    | nil => exact .idle _
    | cons action rest => exact .worked draws hagenda
  | enter event =>
    cases hagenda : c.agenda with
    | nil => exact .entered event hagenda
    | cons action rest => exact .idle _
  | nest message => exact .nested message
  | alter change => exact .altered change

/-- The action that a move takes, with what it draws. -/
def action? (taken : Taken (Config σ α) (Move δ ε ν υ)) : Option (α × δ) :=
  match taken.input, taken.before.agenda with
  | .work draws, action :: _ => some (action, draws)
  | _, _ => none

/-- A move that takes an action takes the first of the agenda, and does what `work` does with it. -/
theorem step_of_action? {taken : Taken (Config σ α) (Move δ ε ν υ)} {action : α} {draws : δ}
    (h : action? taken = some (action, draws)) :
    ∃ rest, taken.before.agenda = action :: rest ∧
      D.step taken.before taken.input =
        ({ state := (D.work taken.before.state action draws).1
           agenda := (D.work taken.before.state action draws).2.1 ++ rest },
          (D.work taken.before.state action draws).2.2) := by
  obtain ⟨before, input⟩ := taken
  unfold action? at h
  dsimp only at h ⊢
  split at h
  · next hagenda =>
    obtain ⟨rfl, rfl⟩ := Prod.mk.inj (Option.some.inj h)
    exact ⟨_, hagenda, D.step_work hagenda _⟩
  · cases h

/-- A move that takes none puts nothing out and takes nothing off the agenda. -/
theorem step_of_action?_none {taken : Taken (Config σ α) (Move δ ε ν υ)}
    (h : action? taken = none) :
    (D.step taken.before taken.input).2 = [] ∧
      (∀ action ∈ taken.before.agenda, action ∈ (D.step taken.before taken.input).1.agenda) ∧
      ((D.step taken.before taken.input).1.state = taken.before.state ∨
        ∃ change, (D.step taken.before taken.input).1.state =
          D.alter taken.before.state change) := by
  obtain ⟨before, input⟩ := taken
  dsimp only
  have hmoved := D.moved before input
  generalize D.step before input = result at hmoved ⊢
  cases hmoved with
  | worked draws head => simp [action?, head] at h
  | entered event empty => exact ⟨rfl, by simp [empty], Or.inl rfl⟩
  | nested message => exact ⟨rfl, fun _ => List.mem_append_right _, Or.inl rfl⟩
  | altered change => exact ⟨rfl, fun _ ha => ha, Or.inr ⟨change, rfl⟩⟩
  | idle => exact ⟨rfl, fun _ ha => ha, Or.inl rfl⟩

/-! ## Agendas that run dry -/

section Dry

variable {D : Dispatcher σ α δ Empty Empty υ ο}

/-- How many of the moves take an action. -/
def works (moves : List (Move δ Empty Empty υ)) : ℕ :=
  moves.countP fun move => match move with
    | .work _ => true
    | .alter _ => false

/-- What is done stays done, when nothing comes from outside. -/
theorem exec_agenda_nil (moves : List (Move δ Empty Empty υ)) {c : Config σ α}
    (hdone : c.agenda = []) : (exec D.step c moves).agenda = [] := by
  induction moves generalizing c with
  | nil => exact hdone
  | cons move moves ih =>
    rw [exec_cons]
    apply ih
    cases move with
    | work draws => simp only [step, hdone]
    | enter event => exact event.elim
    | nest message => exact message.elim
    | alter change => exact hdone

/-- A rank that every action lowers and no change raises bounds how many actions there are to take:
after as many, nothing is left to do. -/
theorem agenda_eq_nil {I : Config σ α → Prop} {rank : Config σ α → ℕ}
    (hinv : ∀ c move, I c → I (D.step c move).1)
    (hwork : ∀ c draws, I c → c.agenda ≠ [] → rank (D.step c (.work draws)).1 < rank c)
    (halter : ∀ c change, I c → rank (D.step c (.alter change)).1 ≤ rank c)
    (hpos : ∀ c, I c → c.agenda ≠ [] → 0 < rank c)
    (moves : List (Move δ Empty Empty υ)) {c : Config σ α} (hI : I c)
    (hmany : rank c ≤ works moves) : (exec D.step c moves).agenda = [] := by
  -- Each work takes one off the rank at least, and there are as many as the rank.
  induction moves generalizing c with
  | nil =>
    by_contra hleft
    have hrank : rank c ≤ 0 := hmany
    have := hpos c hI hleft
    omega
  | cons move moves ih =>
    -- Once the agenda is empty nothing is put on it, as nothing enters and nothing nests.
    by_cases hdone : c.agenda = []
    · exact exec_agenda_nil _ hdone
    apply ih (hinv c move hI)
    cases move with
    | work draws =>
      have hlower := hwork c draws hI hdone
      have hcount : works (.work draws :: moves) = works moves + 1 := by simp [works]
      omega
    | enter event => exact event.elim
    | nest message => exact message.elim
    | alter change =>
      have hkept := halter c change hI
      have hcount : works (.alter change :: moves) = works moves := by simp [works]
      omega

end Dry

end Dispatcher

end Reactive
