import NativeCall.Signature

/-!
# Frames

A direct trampoline moves arguments and jumps, so that the target returns to the caller
itself. A wrapped one calls the target from a frame of its own and works on the result.
-/

namespace NativeCall

inductive Frame where
  | direct
  | wrapped
  deriving DecidableEq, Repr

namespace Frame

def name : Frame -> String
  | .direct => "direct"
  | .wrapped => "wrapped"

end Frame

/-- A jump is enough when nothing is left to do after the call and no stack block is built. -/
def Signature.frame (sig : Signature) : Frame :=
  if !sig.capturesError && sig.arch != .i386 && sig.fitsBudget sig.arch
      && sig.result.passesThrough then
    .direct
  else
    .wrapped

end NativeCall
