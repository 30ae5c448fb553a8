import NativeCall.Step

/-!
# Runs

A system is asked one request after the other. A run is the list of its turns: each request
with the state that it met and the step that answered it.
-/

namespace NativeCall

structure Turn (σ ρ α : Type) where
  before : σ
  request : ρ
  step : Step σ α

namespace Turn

variable {σ ρ α : Type}

def value (turn : Turn σ ρ α) : α :=
  turn.step.value

def after (turn : Turn σ ρ α) : σ :=
  turn.step.state

def events (turn : Turn σ ρ α) : List Event :=
  turn.step.events

end Turn

section Runs

variable {σ ρ α : Type} (answer : σ -> ρ -> Step σ α)

def turns : σ -> List ρ -> List (Turn σ ρ α)
  | _, [] => []
  | state, request :: rest =>
      let step := answer state request
      { before := state, request, step } :: turns step.state rest

def finalState : σ -> List ρ -> σ
  | state, [] => state
  | state, request :: rest => finalState (answer state request).state rest

/-- A list of turns that lead from one state to another. -/
inductive IsRun : σ -> List (Turn σ ρ α) -> σ -> Prop where
  | nil (state : σ) : IsRun state [] state
  | cons {state final : σ} {rest : List (Turn σ ρ α)} (request : ρ)
      (hrest : IsRun (answer state request).state rest final) :
      IsRun state ({ before := state, request, step := answer state request } :: rest) final

theorem isRun_turns (state : σ) (requests : List ρ) :
    IsRun answer state (turns answer state requests) (finalState answer state requests) := by
  induction requests generalizing state with
  | nil => exact .nil state
  | cons request rest ih => exact .cons request (ih _)

variable {answer}

namespace IsRun

variable {start final : σ} {past later : List (Turn σ ρ α)} {turn : Turn σ ρ α}

theorem of_append (h : IsRun answer start (past ++ later) final) :
    exists middle, IsRun answer start past middle ∧ IsRun answer middle later final := by
  induction past generalizing start with
  | nil => exact ⟨start, .nil start, h⟩
  | cons first past ih =>
      rcases h with _ | ⟨request, hrest⟩
      rcases ih hrest with ⟨middle, hpast, hlater⟩
      exact ⟨middle, .cons request hpast, hlater⟩

theorem of_cons (h : IsRun answer start (turn :: later) final) :
    turn.before = start ∧ turn.step = answer turn.before turn.request ∧
      IsRun answer turn.after later final := by
  rcases h with _ | ⟨request, hrest⟩
  exact ⟨rfl, rfl, hrest⟩

theorem split (h : IsRun answer start (past ++ turn :: later) final) :
    IsRun answer start past turn.before ∧ turn.step = answer turn.before turn.request ∧
      IsRun answer turn.after later final := by
  rcases h.of_append with ⟨middle, hpast, hlater⟩
  rcases hlater.of_cons with ⟨rfl, hstep, hrest⟩
  exact ⟨hpast, hstep, hrest⟩

/-- What each answered request preserves, a run preserves. -/
theorem preserves {invariant : σ -> Prop} {turns : List (Turn σ ρ α)}
    (h : IsRun answer start turns final)
    (hstep : forall turn, turn ∈ turns -> turn.step = answer turn.before turn.request ->
      invariant turn.before -> invariant turn.after)
    (hstart : invariant start) : invariant final := by
  induction h with
  | nil => exact hstart
  | cons request hrest ih =>
      apply ih
      · intro turn hmem
        exact hstep turn (List.mem_cons_of_mem _ hmem)
      · exact hstep _ List.mem_cons_self rfl hstart

end IsRun
end Runs
end NativeCall
