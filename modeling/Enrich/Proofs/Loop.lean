/-!
# Loops

A loop goes from state to state, each with less left to do than the one before, until a round ends
it with a result or an error. What every round keeps holds in every state that is reached
(`Reaches.inv`), and the run gives what every last round grants (`Keeps.post_run`).
-/

namespace Enrich

/-- What one round of a loop leads to. -/
inductive Round (σ α : Type) where
  | again (state : σ)
  | done (result : α)

/-- A loop: one round, and what is left to do in a state, which every round makes less. -/
structure Loop (ε σ α : Type) where
  round : σ → Except ε (Round σ α)
  left : σ → Nat
  decreases : ∀ {state next : σ}, round state = .ok (.again next) → left next < left state

namespace Loop

variable {ε σ α : Type} {loop : Loop ε σ α} {start state next : σ}

/-- The result of the loop from a state on. -/
def run (loop : Loop ε σ α) (state : σ) : Except ε α :=
  match _hround : loop.round state with
  | .error cause => .error cause
  | .ok (.done result) => .ok result
  | .ok (.again next) => loop.run next
termination_by loop.left state
decreasing_by exact loop.decreases _hround

/-- Whether the loop, started in one state, comes to another one. -/
inductive Reaches (loop : Loop ε σ α) (start : σ) : σ → Prop
  | start : Reaches loop start start
  | again {current next : σ} (h : Reaches loop start current)
      (hround : loop.round current = .ok (.again next)) : Reaches loop start next

/-- Whether one round from a state keeps `Inv`, or ends the loop with what `Post` asks for. -/
inductive Leads (loop : Loop ε σ α) (Inv : σ → Prop) (Post : Except ε α → Prop) (state : σ) : Prop
  | again {next : σ} (hround : loop.round state = .ok (.again next)) (hinv : Inv next)
  | done {result : α} (hround : loop.round state = .ok (.done result)) (hpost : Post (.ok result))
  | stop {cause : ε} (hround : loop.round state = .error cause) (hpost : Post (.error cause))

/-- Whether every round keeps `Inv` until one ends the loop with what `Post` asks for. -/
def Keeps (loop : Loop ε σ α) (Inv : σ → Prop) (Post : Except ε α → Prop) : Prop :=
  ∀ state, Inv state → loop.Leads Inv Post state

theorem run_eq (loop : Loop ε σ α) (state : σ) : loop.run state =
    match loop.round state with
    | .error cause => .error cause
    | .ok (.done result) => .ok result
    | .ok (.again next) => loop.run next := by
  rw [run]
  split
  · next hround => rw [hround]
  · next hround => rw [hround]
  · next hround => rw [hround]

theorem run_again (h : loop.round state = .ok (.again next)) : loop.run state = loop.run next := by
  rw [run_eq, h]

theorem run_done {result : α} (h : loop.round state = .ok (.done result)) :
    loop.run state = .ok result := by
  rw [run_eq, h]

theorem run_stop {cause : ε} (h : loop.round state = .error cause) :
    loop.run state = .error cause := by
  rw [run_eq, h]

variable {Inv : σ → Prop} {Post : Except ε α → Prop}

/-- What every round keeps holds in every state that the loop comes to. -/
theorem Reaches.inv (h : loop.Reaches start state) (hkeeps : loop.Keeps Inv Post)
    (hstart : Inv start) : Inv state := by
  induction h with
  | start => exact hstart
  | again _ hround ih =>
    cases hkeeps _ ih with
    | again hround' hinv =>
      rw [hround] at hround'
      cases hround'
      exact hinv
    | done hround' =>
      rw [hround] at hround'
      cases hround'
    | stop hround' =>
      rw [hround] at hround'
      cases hround'

/-- The run gives what every last round grants. -/
theorem Keeps.post_run (hkeeps : loop.Keeps Inv Post) (hstart : Inv start) :
    Post (loop.run start) := by
  induction hleft : loop.left start using Nat.strongRecOn generalizing start with
  | ind n ih =>
    cases hkeeps start hstart with
    | again hround hinv =>
      rw [run_again hround]
      exact ih _ (hleft ▸ loop.decreases hround) hinv rfl
    | done hround hpost =>
      rw [run_done hround]
      exact hpost
    | stop hround hpost =>
      rw [run_stop hround]
      exact hpost

end Loop

end Enrich
