import NativeCall.Signature
import NativeCall.HostValue
import NativeCall.ErrorState
import NativeCall.NativeFunction

/-!
# The buffer path

An invoker calls a native function of a primitive signature without generated code: it
extends each argument for its class, fills the register files, makes the call and reads
the result.
-/

namespace NativeCall

inductive CallError where
  | argCountMismatch (expected got : Nat)
  | tooManyArgs
  | notPrimitive
  | unsupportedArchitecture
  deriving DecidableEq, Repr

namespace CallError

def name : CallError -> String
  | .argCountMismatch .. => "ArgCountMismatch"
  | .tooManyArgs => "TooManyArgs"
  | .notPrimitive => "NotPrimitive"
  | .unsupportedArchitecture => "UnsupportedArchitecture"

def message : CallError -> String
  | .argCountMismatch expected got =>
      "Expected " ++ expected.repr ++ " arguments, got " ++ got.repr
  | .tooManyArgs => "Too many arguments for the buffer path"
  | .notPrimitive => "Signature has non-primitive slots"
  | .unsupportedArchitecture => "Architecture not supported"

end CallError

/-- A primitive signature of this machine, bound to a target. -/
structure Invoker where
  signature : Signature
  target : Address
  host : signature.arch = Arch.host
  primitive : signature.isPrimitive = true

namespace Invoker

def create (sig : Signature) (target : Address) : Except CallError Invoker :=
  if host : sig.arch = Arch.host then
    if primitive : sig.isPrimitive = true then
      .ok { signature := sig, target, host, primitive }
    else
      .error .notPrimitive
  else
    .error .unsupportedArchitecture

/-!
# Arguments
-/

/-- The words for the integer registers, extended for their classes. -/
def integerArguments (params : List Slot) (args : List Word) : List Word :=
  (params.zip args).filterMap fun (slot, arg) =>
    slot.integerClass?.map (HostValue.extend · arg)

/-- The words for the float registers, unchanged. -/
def floatArguments (params : List Slot) (args : List Word) : List Word :=
  (params.zip args).filterMap fun (slot, arg) => slot.floatClass?.map fun _ => arg

def registers? (params : List Slot) (args : List Word) : Option Registers :=
  let ints := integerArguments params args
  let floats := floatArguments params args
  if ints.length ≤ Registers.integerLimit ∧ floats.length ≤ Registers.floatLimit then
    some (Registers.ofArguments ints floats)
  else
    none

/-!
# Results
-/

/-- The host value of a result register. A float result keeps its bits. -/
def hostResult (result : Slot) (bits : Word) : Word :=
  match result.kind with
  | none => HostValue.void
  | some kind => if kind.isInteger then HostValue.ofNative kind result.host bits else bits

/-!
# Calls
-/

/-- Call `function` with host values. Only a call that is made can change the error
numbers, and only a signature that captures them changes the captured one. -/
def invoke (invoker : Invoker) (function : NativeFunction) (args : List Word)
    (state : ErrorState) : Except CallError Word × ErrorState :=
  let sig := invoker.signature
  if args.length ≠ sig.params.length then
    (.error (.argCountMismatch sig.params.length args.length), state)
  else
    match registers? sig.params args with
    | none => (.error .tooManyArgs, state)
    | some registers =>
        let (bits, code) := function registers state.system
        let returned := state.setSystem code
        let final := if sig.capturesError then returned.capture else returned
        (.ok (hostResult sig.result bits), final)

def invokeAll (invoker : Invoker) (function : NativeFunction) :
    ErrorState -> List (List Word) -> List (Except CallError Word × ErrorState)
  | _, [] => []
  | state, args :: rest =>
      let called := invoker.invoke function args state
      called :: invokeAll invoker function called.2 rest

end Invoker
end NativeCall
