import Mathlib.Logic.Function.Basic
import Mathlib.Logic.Relation
import Mathlib.Tactic.Common

/-!
# Processes that share a state

A process is a tree of calls on a shared state, which waits for the answer of each before it makes
the next (`Process`). A system is a process for every index and the state. It takes a step when one
process makes its next call; a schedule says which process, and what the environment chooses in the
call (that it fails, how much of it is done, what is drawn at random).

`Safe` is what a process promises in any company: as long as the others keep to their guarantees,
each of its own calls keeps to its guarantee, and what it returns meets its postcondition from then
on. Where every process of a system is safe, every run of the system keeps to the guarantees
(`safe_run`, `guarantee_run`). `Triple` is `Safe` from every state that satisfies an assertion, with
a rule for each way to build a process; an assertion must be stable, that is, kept by the guarantees
of the others.
-/

namespace Concurrency

/-- A process: it has returned, or makes a call and goes on with the answer. -/
inductive Process (F : Type → Type) (α : Type) : Type 1
  /-- It has returned. -/
  | done (a : α)
  /-- It makes a call. -/
  | call {ρ : Type} (c : F ρ) (next : ρ → Process F α)

variable {F : Type → Type} {α β ρ σ φ ι : Type}

namespace Process

/-- One process after another. -/
def bind : Process F α → (α → Process F β) → Process F β
  | .done a, k => k a
  | .call c next, k => .call c fun r => (next r).bind k

instance : Monad (Process F) where
  pure := .done
  bind := .bind

/-- A single call. -/
def ask (c : F ρ) : Process F ρ := .call c .done

end Process

/-! ## Systems -/

/-- How calls are performed: the process that makes the call, the choice of the environment and the
state give the answer and the state after it. -/
abbrev Performs (F : Type → Type) (ι φ σ : Type) : Type 1 := ∀ ρ : Type, ι → F ρ → φ → σ → ρ × σ

/-- Processes over a shared state. -/
structure System (F : Type → Type) (ι σ α : Type) : Type 1 where
  /-- The shared state. -/
  shared : σ
  /-- The processes. -/
  processes : ι → Process F α

namespace System

variable [DecidableEq ι] (performs : Performs F ι φ σ)

/-- One process makes its next call, if it has not returned. -/
def step (s : System F ι σ α) (turn : ι × φ) : System F ι σ α :=
  match s.processes turn.1 with
  | .done _ => s
  | .call (ρ := ρ) c next =>
    let (r, shared) := performs ρ turn.1 c turn.2 s.shared
    { shared, processes := Function.update s.processes turn.1 (next r) }

/-- The system after a schedule. -/
def run (s : System F ι σ α) (schedule : List (ι × φ)) : System F ι σ α :=
  schedule.foldl (step performs) s

/-- An empty schedule leaves the system. -/
@[simp] theorem run_nil (s : System F ι σ α) : s.run performs [] = s := rfl

/-- A schedule runs its first turn and then the rest. -/
@[simp] theorem run_cons (s : System F ι σ α) (turn : ι × φ) (schedule : List (ι × φ)) :
    s.run performs (turn :: schedule) = (s.step performs turn).run performs schedule := rfl

end System

/-! ## Rely and guarantee -/

section Safe

variable (performs : Performs F ι φ σ) (guarantee : ι → σ → σ → Prop)

/-- A step of another process. -/
def Others (i : ι) (s s' : σ) : Prop := ∃ j, j ≠ i ∧ guarantee j s s'

/-- What the others do keeps an assertion. -/
def Stable (i : ι) (P : σ → Prop) : Prop := ∀ s s', Others guarantee i s s' → P s → P s'

/-- Whatever the others do in the meantime, the process keeps to its guarantee and returns what
meets the postcondition. -/
def Safe (i : ι) (Q : α → σ → Prop) : Process F α → σ → Prop
  | .done a, s => ∀ s', Relation.ReflTransGen (Others guarantee i) s s' → Q a s'
  | .call (ρ := ρ) c next, s => ∀ s', Relation.ReflTransGen (Others guarantee i) s s' → ∀ choice,
      guarantee i s' (performs ρ i c choice s').2 ∧
        Safe i Q (next (performs ρ i c choice s').1) (performs ρ i c choice s').2

variable {performs guarantee} {i j : ι} {Q : α → σ → Prop} {p : Process F α} {s s' : σ}

/-- Two assertions that the others keep are kept together. -/
theorem Stable.and {P P' : σ → Prop} (h : Stable guarantee i P) (h' : Stable guarantee i P') :
    Stable guarantee i fun s => P s ∧ P' s :=
  fun s s' hothers hs => ⟨h s s' hothers hs.1, h' s s' hothers hs.2⟩

/-- An assertion that the others keep under a condition is kept as an implication. -/
theorem Stable.imp {p : Prop} {P : σ → Prop} (h : p → Stable guarantee i P) :
    Stable guarantee i fun s => p → P s :=
  fun s s' hothers hs hp => h hp s s' hothers (hs hp)

/-- A family of assertions that the others keep is kept for all indices together. -/
theorem Stable.forall {κ : Type} {P : κ → σ → Prop} (h : ∀ a, Stable guarantee i (P a)) :
    Stable guarantee i fun s => ∀ a, P a s :=
  fun s s' hothers hs a => h a s s' hothers (hs a)

/-- If the others keep each of a family of assertions, they keep that some one holds. -/
theorem Stable.exists {κ : Type} {P : κ → σ → Prop} (h : ∀ a, Stable guarantee i (P a)) :
    Stable guarantee i fun s => ∃ a, P a s :=
  fun s s' hothers ⟨a, hs⟩ => ⟨a, h a s s' hothers hs⟩

/-- The others keep what does not speak of the state. -/
theorem Stable.const (p : Prop) : Stable guarantee i fun _ : σ => p := fun _ _ _ hp => hp

/-- A stable assertion holds however long the others go on. -/
theorem Stable.run {P : σ → Prop} (h : Stable guarantee i P)
    (hrun : Relation.ReflTransGen (Others guarantee i) s s') (hs : P s) : P s' := by
  induction hrun with
  | refl => exact hs
  | tail _ hstep ih => exact h _ _ hstep ih

/-- A process that is safe stays so while the others move. -/
theorem Safe.others (h : Safe performs guarantee i Q p s) (hstep : Others guarantee i s s') :
    Safe performs guarantee i Q p s' := by
  cases p with
  | done a => exact fun s'' hrun => h s'' (Relation.ReflTransGen.head hstep hrun)
  | call c next => exact fun s'' hrun => h s'' (Relation.ReflTransGen.head hstep hrun)

/-- What a safe process has returned meets the postcondition. -/
theorem Safe.post {a : α} (h : Safe performs guarantee i Q (.done a) s) : Q a s :=
  h s Relation.ReflTransGen.refl

/-- A process that is safe for a postcondition is safe for a weaker one, by induction on the
process. -/
theorem Safe.mono {R : α → σ → Prop} (h : Safe performs guarantee i Q p s)
    (hQ : ∀ a s, Q a s → R a s) : Safe performs guarantee i R p s := by
  induction p generalizing s with
  | done a => exact fun s' hrun => hQ a s' (h s' hrun)
  | call c next ih =>
    intro s' hrun choice
    obtain ⟨hguarantee, hnext⟩ := h s' hrun choice
    exact ⟨hguarantee, ih _ hnext⟩

/-- A process that is safe goes on with one that is safe wherever it returns. -/
theorem Safe.bind {k : α → Process F β} {R : β → σ → Prop} (h : Safe performs guarantee i Q p s)
    (hk : ∀ a s, Q a s → Safe performs guarantee i R (k a) s) :
    Safe performs guarantee i R (p >>= k) s := by
  induction p generalizing s with
  | done a => exact hk a s h.post
  | call c next ih =>
    intro s' hrun choice
    obtain ⟨hguarantee, hnext⟩ := h s' hrun choice
    exact ⟨hguarantee, ih _ hnext⟩

/-! ## The rules -/

variable (performs guarantee) in
/-- From every state that satisfies `P`, the process is safe for `Q`. -/
def Triple (i : ι) (P : σ → Prop) (p : Process F α) (Q : α → σ → Prop) : Prop :=
  ∀ s, P s → Safe performs guarantee i Q p s

/-- The rule of a process that has returned: what it returns meets the postcondition wherever the
stable precondition holds. -/
theorem Triple.done {P : σ → Prop} {a : α} (hstable : Stable guarantee i P)
    (hpost : ∀ s, P s → Q a s) : Triple performs guarantee i P (.done a) Q :=
  fun _ hs s' hrun => hpost s' (hstable.run hrun hs)

/-- The rule of `pure`, which is that of a process that has returned. -/
theorem Triple.pure {P : σ → Prop} {a : α} (hstable : Stable guarantee i P)
    (hpost : ∀ s, P s → Q a s) : Triple performs guarantee i P (Pure.pure a) Q :=
  Triple.done hstable hpost

/-- A call, from a stable assertion to one that is stable for every answer. -/
theorem Triple.ask {P : σ → Prop} {c : F ρ} {M : ρ → σ → Prop} (hstable : Stable guarantee i P)
    (hM : ∀ r, Stable guarantee i (M r))
    (hcall : ∀ s choice, P s → guarantee i s (performs ρ i c choice s).2 ∧
      M (performs ρ i c choice s).1 (performs ρ i c choice s).2) :
    Triple performs guarantee i P (.ask c) M := by
  intro s hs s' hrun choice
  obtain ⟨hguarantee, hpost⟩ := hcall s' choice (hstable.run hrun hs)
  exact ⟨hguarantee, fun s'' hrun' => (hM _).run hrun' hpost⟩

/-- The rule of a call that changes nothing: what held before it still does, and so does what the
answer shows. -/
theorem Triple.look {P : σ → Prop} {c : F ρ} {M : ρ → σ → Prop} (hstable : Stable guarantee i P)
    (hM : ∀ r, Stable guarantee i (M r)) (hrefl : ∀ s, guarantee i s s)
    (hsame : ∀ s choice, (performs ρ i c choice s).2 = s)
    (hlook : ∀ s choice, P s → M (performs ρ i c choice s).1 s) :
    Triple performs guarantee i P (.ask c) fun r s => P s ∧ M r s := by
  refine Triple.ask hstable (fun r => hstable.and (hM r)) fun s choice hs => ?_
  rw [hsame s choice]
  exact ⟨hrefl s, hs, hlook s choice hs⟩

/-- The rule of a sequence: the first process establishes what the second starts from. -/
theorem Triple.bind {P : σ → Prop} {k : α → Process F β} {R : β → σ → Prop}
    (h : Triple performs guarantee i P p Q)
    (hk : ∀ a, Triple performs guarantee i (Q a) (k a) R) :
    Triple performs guarantee i P (p >>= k) R :=
  fun s hs => (h s hs).bind hk

/-- The rule of consequence: a stronger precondition and a weaker postcondition. -/
theorem Triple.consequence {P P' : σ → Prop} {R : α → σ → Prop}
    (h : Triple performs guarantee i P p Q) (hP : ∀ s, P' s → P s) (hQ : ∀ a s, Q a s → R a s) :
    Triple performs guarantee i P' p R :=
  fun s hs => (h s (hP s hs)).mono hQ

end Safe

/-! ## Runs of safe processes -/

section Run

variable [DecidableEq ι] {performs : Performs F ι φ σ} {guarantee : ι → σ → σ → Prop}
  {Q : ι → α → σ → Prop} {s : System F ι σ α}

/-- A step of a system of safe processes keeps to the guarantee of the process that makes it, or
does nothing, and leaves all of them safe. -/
theorem safe_step (h : ∀ i, Safe performs guarantee i (Q i) (s.processes i) s.shared)
    (turn : ι × φ) :
    (∀ i, Safe performs guarantee i (Q i) ((s.step performs turn).processes i)
      (s.step performs turn).shared) ∧
      (s.step performs turn = s ∨ guarantee turn.1 s.shared (s.step performs turn).shared) := by
  unfold System.step
  have hturn := h turn.1
  split
  · exact ⟨h, Or.inl rfl⟩
  next ρ c next hcall =>
    rw [hcall] at hturn
    obtain ⟨hguarantee, hnext⟩ := hturn s.shared Relation.ReflTransGen.refl turn.2
    refine ⟨fun i => ?_, Or.inr hguarantee⟩
    dsimp only
    by_cases hi : i = turn.1
    · subst hi
      rw [Function.update_self]
      exact hnext
    · rw [Function.update_of_ne hi]
      exact (h i).others ⟨turn.1, fun heq => hi heq.symm, hguarantee⟩

/-- The processes of a system stay safe through every schedule. -/
theorem safe_run (h : ∀ i, Safe performs guarantee i (Q i) (s.processes i) s.shared)
    (schedule : List (ι × φ)) (i : ι) :
    Safe performs guarantee i (Q i) ((s.run performs schedule).processes i)
      (s.run performs schedule).shared := by
  induction schedule generalizing s with
  | nil => exact h i
  | cons turn schedule ih => exact ih (safe_step h turn).1

/-- What every guarantee keeps, every run of safe processes keeps. -/
theorem guarantee_run (h : ∀ i, Safe performs guarantee i (Q i) (s.processes i) s.shared)
    {P : σ → Prop} (hP : ∀ i s s', guarantee i s s' → P s → P s') (hs : P s.shared)
    (schedule : List (ι × φ)) : P (s.run performs schedule).shared := by
  induction schedule generalizing s with
  | nil => exact hs
  | cons turn schedule ih =>
    obtain ⟨hsafe, hmoved⟩ := safe_step h turn
    refine ih hsafe ?_
    rcases hmoved with hsame | hguarantee
    · rw [hsame]
      exact hs
    · exact hP _ _ _ hguarantee hs

end Run

end Concurrency
