/-!
# Faults

A fault is a condition that its caller had to rule out; it ends the run. An error is an
answer that callers are meant to handle. `Outcome` keeps the two apart.
-/

namespace NativeCall

inductive Fault where
  /-- An instruction does not exist for the operand size it was given. -/
  | operandSize
  /-- An operand of 32-bit code is reachable in 64-bit code only. -/
  | wideOperand
  /-- A load or store offset is no multiple of the access size. -/
  | unalignedOffset
  /-- A stack offset leaves the signed 32-bit range. -/
  | offsetOverflow
  /-- A size leaves the 64-bit range. -/
  | sizeOverflow
  /-- A text is cut inside a character. -/
  | splitCharacter
  deriving DecidableEq, Repr

inductive Failure (ε : Type) where
  | error (e : ε)
  | fault (f : Fault)
  deriving DecidableEq, Repr

abbrev Outcome (ε α : Type) := Except (Failure ε) α

namespace Failure

def map {ε δ : Type} (g : ε -> δ) : Failure ε -> Failure δ
  | .error e => .error (g e)
  | .fault f => .fault f

end Failure
end NativeCall
