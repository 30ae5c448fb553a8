import NativeCall.Event

/-!
# Steps

An operation on a state answers with a value, the state after it, and the events that it
reports.
-/

namespace NativeCall

structure Step (σ α : Type) where
  value : α
  state : σ
  events : List Event

namespace Step

def silent {σ α : Type} (value : α) (state : σ) : Step σ α :=
  { value, state, events := [] }

def map {σ α β : Type} (f : α -> β) (step : Step σ α) : Step σ β :=
  { step with value := f step.value }

def lift {σ τ α : Type} (embed : σ -> τ) (step : Step σ α) : Step τ α :=
  { step with state := embed step.state }

end Step
end NativeCall
