import NativeCall.Probe
import NativeCall.Proofs.Invocation
import NativeCall.Proofs.Run

/-!
# The captured error number over a whole run

A thread makes calls through invokers, while the error number of the system changes and the
captured one may be set. Each of these either sets the captured error number or spares it. So
after a run it is what the last of those that set it has set it to.
-/

namespace NativeCall
namespace ErrorState

inductive Request where
  | invoke (invoker : Invoker) (function : NativeFunction) (args : List Word)
  | setSystem (code : Int)
  | setCaptured (code : Int)

inductive Answer where
  | called (result : Except CallError Word)
  | done

def answer (state : ErrorState) : Request -> Step ErrorState Answer
  | .invoke invoker function args =>
      let called := invoker.invoke function args state
      .silent (.called called.1) called.2
  | .setSystem code => .silent .done (state.setSystem code)
  | .setCaptured code => .silent .done (state.setCaptured code)

abbrev Turn := NativeCall.Turn ErrorState Request Answer

/-- The turn sets the captured error number: it asks for that, or it is a call that succeeds and
captures, and the number is the one with which the function returned. -/
inductive Turn.Sets (turn : Turn) : Int -> Prop where
  | captured {invoker : Invoker} {function : NativeFunction} {args : List Word} {value : Word}
      {registers : Registers} (hrequest : turn.request = .invoke invoker function args)
      (hvalue : turn.value = .called (.ok value))
      (hcaptures : invoker.signature.capturesError = true)
      (hmakes : invoker.Makes args [registers]) :
      Sets turn (function registers turn.before.system).2
  | set {code : Int} (hrequest : turn.request = .setCaptured code) : Sets turn code

/-- The turn has no business with the captured error number: a change of the system's, a call
that does not capture, or one that fails. -/
inductive Turn.Spares (turn : Turn) : Prop where
  | system {code : Int} (hrequest : turn.request = .setSystem code)
  | unasked {invoker : Invoker} {function : NativeFunction} {args : List Word}
      (hrequest : turn.request = .invoke invoker function args)
      (hcaptures : invoker.signature.capturesError = false)
  | failed {invoker : Invoker} {function : NativeFunction} {args : List Word} {e : CallError}
      (hrequest : turn.request = .invoke invoker function args)
      (hvalue : turn.value = .called (.error e))

/-!
# One turn
-/

section Turns

variable {turn : Turn} {code : Int}

theorem Turn.Spares.not_sets (h : turn.Spares) : ¬turn.Sets code := by
  rintro (⟨hrequest, hvalue, hcaptures, _⟩ | hset)
  · cases h with
    | system hother => cases hrequest.symm.trans hother
    | unasked hother hunasked =>
        cases hrequest.symm.trans hother
        cases hcaptures.symm.trans hunasked
    | failed _ herror => cases hvalue.symm.trans herror
  · cases h with
    | system hother | unasked hother _ | failed hother _ => cases hset.symm.trans hother

theorem sets_of_succeeds {invoker : Invoker} {function : NativeFunction} {args : List Word}
    {value : Word} (hstep : turn.step = answer turn.before turn.request)
    (hrequest : turn.request = .invoke invoker function args)
    (hvalue : turn.value = .called (.ok value))
    (hcaptures : invoker.signature.capturesError = true) :
    exists registers, invoker.Makes args [registers] ∧
      turn.Sets (function registers turn.before.system).2 := by
  rcases invoker.refused_or_made args with ⟨_, e, hrefused⟩ | ⟨_, registers, hmakes, _⟩
  · have hanswer := hvalue
    rw [NativeCall.Turn.value, hstep, hrequest, answer, hrefused] at hanswer
    cases hanswer
  · exact ⟨registers, hmakes, .captured hrequest hvalue hcaptures hmakes⟩

theorem sets_or_spares (hstep : turn.step = answer turn.before turn.request) :
    (exists code, turn.Sets code) ∨ turn.Spares := by
  cases hrequest : turn.request with
  | setSystem code => exact Or.inr (.system hrequest)
  | setCaptured code => exact Or.inl ⟨code, .set hrequest⟩
  | invoke invoker function args =>
      have hvalue : turn.value =
          .called (invoker.invoke function args turn.before).1 := by
        rw [NativeCall.Turn.value, hstep, hrequest]
        rfl
      cases hcaptures : invoker.signature.capturesError with
      | false => exact Or.inr (.unasked hrequest hcaptures)
      | true =>
          cases hresult : (invoker.invoke function args turn.before).1 with
          | error e =>
              rw [hresult] at hvalue
              exact Or.inr (.failed hrequest hvalue)
          | ok value =>
              rw [hresult] at hvalue
              rcases sets_of_succeeds hstep hrequest hvalue hcaptures with ⟨registers, _, hsets⟩
              exact Or.inl ⟨_, hsets⟩

theorem succeeds_iff {invoker : Invoker} {function : NativeFunction} {args : List Word}
    (hstep : turn.step = answer turn.before turn.request)
    (hrequest : turn.request = .invoke invoker function args) :
    (exists value, turn.value = .called (.ok value)) <-> invoker.Takes args := by
  rw [NativeCall.Turn.value, hstep, hrequest, ← invoker.exists_ok_iff function args turn.before]
  constructor
  · rintro ⟨value, hvalue⟩
    exact ⟨value, Answer.called.inj hvalue⟩
  · rintro ⟨value, hvalue⟩
    exact ⟨value, congrArg Answer.called hvalue⟩

theorem captured_of_sets (hstep : turn.step = answer turn.before turn.request)
    (h : turn.Sets code) : turn.after.captured = code := by
  rw [NativeCall.Turn.after, hstep]
  cases h with
  | set hrequest =>
      rw [hrequest]
      rfl
  | captured hrequest hvalue hcaptures hmakes =>
      rename_i invoker function args value registers
      rw [NativeCall.Turn.value, hstep, hrequest] at hvalue
      rw [hrequest]
      rcases invoker.refused_or_made args with ⟨_, e, hrefused⟩ | ⟨_, other, hother, hmade⟩
      · rw [answer, hrefused] at hvalue
        cases hvalue
      · cases hother.unique hmakes
        rw [answer, hmade]
        exact if_pos hcaptures

theorem captured_of_spares (hstep : turn.step = answer turn.before turn.request)
    (h : turn.Spares) : turn.after.captured = turn.before.captured := by
  rw [NativeCall.Turn.after, hstep]
  cases h with
  | system hrequest =>
      rw [hrequest]
      rfl
  | unasked hrequest hcaptures =>
      rename_i invoker function args
      rw [hrequest]
      rcases invoker.refused_or_made args with ⟨_, e, hrefused⟩ | ⟨_, registers, _, hmade⟩
      · rw [answer, hrefused]
        rfl
      · rw [answer, hmade, Step.silent, Invoker.stateAfter, hcaptures]
        rfl
  | failed hrequest hvalue =>
      rename_i invoker function args e
      rw [NativeCall.Turn.value, hstep, hrequest] at hvalue
      rw [hrequest]
      rcases invoker.refused_or_made args with ⟨_, e, hrefused⟩ | ⟨_, registers, _, hmade⟩
      · rw [answer, hrefused]
        rfl
      · rw [answer, hmade] at hvalue
        cases hvalue

end Turns

/-!
# Whole runs
-/

section Runs

variable {start final : ErrorState} {past later run : List Turn} {turn : Turn}

theorem captured_of_none_sets (h : IsRun answer start run final)
    (hnone : forall turn, turn ∈ run -> forall code, ¬turn.Sets code) :
    final.captured = start.captured := by
  -- The invariant is the number that the run starts with.
  let kept (state : ErrorState) : Prop := state.captured = start.captured
  have hkept : forall turn, turn ∈ run -> turn.step = answer turn.before turn.request ->
      kept turn.before -> kept turn.after := by
    intro turn hmem hstep hbefore
    rcases sets_or_spares hstep with ⟨code, hsets⟩ | hspares
    · exact absurd hsets (hnone turn hmem code)
    · exact (captured_of_spares hstep hspares).trans hbefore
  exact h.preserves hkept rfl

/-- What a turn has set stays until it is set again. -/
theorem captured_of_last_sets {code : Int} (h : IsRun answer start (past ++ turn :: later) final)
    (hsets : turn.Sets code)
    (hlater : forall other, other ∈ later -> forall code, ¬other.Sets code) :
    final.captured = code := by
  rcases h.split with ⟨_, hstep, hrest⟩
  exact (captured_of_none_sets hrest hlater).trans (captured_of_sets hstep hsets)

end Runs

/-- The captured error number after a run of a new thread. -/
structure FollowsCaptures (run : List Turn) (final : ErrorState) : Prop where
  /-- It is what the last turn that sets it has set it to. -/
  latest : forall past turn later code, run = past ++ turn :: later -> turn.Sets code ->
    (forall other, other ∈ later -> forall code, ¬other.Sets code) -> final.captured = code
  untouched : (forall turn, turn ∈ run -> forall code, ¬turn.Sets code) -> final.captured = 0
  /-- Every call that succeeds and captures is a turn that sets it. -/
  captures : forall turn, turn ∈ run -> forall invoker function args value,
    turn.request = .invoke invoker function args -> turn.value = .called (.ok value) ->
      invoker.signature.capturesError = true ->
        exists registers, invoker.Makes args [registers] ∧
          turn.Sets (function registers turn.before.system).2
  /-- The calls that succeed are those with the right number of arguments, for which there are
  registers. -/
  succeeds_iff : forall turn, turn ∈ run -> forall invoker function args,
    turn.request = .invoke invoker function args ->
      ((exists value, turn.value = .called (.ok value)) <-> invoker.Takes args)
  /-- Changes of the system's error number, calls that do not capture and calls that fail are
  turns that do not. -/
  spared : forall turn, turn ∈ run -> turn.Spares ->
    (forall code, ¬turn.Sets code) ∧ turn.after.captured = turn.before.captured

/-- The captured error number is that of the last call that succeeded and captured, unless it was
set since, and zero if there is neither. -/
theorem run_follows_captures (requests : List Request) :
    FollowsCaptures (turns answer initial requests) (finalState answer initial requests) := by
  have hrun := isRun_turns answer initial requests
  generalize turns answer initial requests = run at hrun ⊢
  have hsteps : forall turn, turn ∈ run -> turn.step = answer turn.before turn.request := by
    intro turn hmem
    rcases List.append_of_mem hmem with ⟨past, later, rfl⟩
    exact hrun.split.2.1
  constructor
  case latest =>
    rintro past turn later code rfl hsets hlater
    exact captured_of_last_sets hrun hsets hlater
  case untouched => exact fun hnone => captured_of_none_sets hrun hnone
  case captures =>
    intro turn hmem invoker function args value hrequest hvalue hcaptures
    exact sets_of_succeeds (hsteps turn hmem) hrequest hvalue hcaptures
  case succeeds_iff =>
    intro turn hmem invoker function args hrequest
    exact succeeds_iff (hsteps turn hmem) hrequest
  case spared =>
    intro turn hmem hspares
    exact ⟨fun code => hspares.not_sets, captured_of_spares (hsteps turn hmem) hspares⟩

/-- A call that fails with a number leaves it behind; calls without an argument or without
capture, and another number of the system, do not touch it. -/
example :
    let failing (captures : Bool) : Invoker :=
      { signature := .ofTypes .amd64 [(.sint, .int)] (.sint, .int) captures
        target := Probe.fail.address
        host := rfl
        primitive := by cases captures <;> rfl }
    let run := finalState answer initial
      [ .invoke (failing true) Probe.fail.function [4242], .setSystem 7,
        .invoke (failing true) Probe.fail.function [],
        .invoke (failing false) Probe.fail.function [5] ]
    run = { system := 5, captured := 4242 } := by
  decide

end ErrorState
end NativeCall
