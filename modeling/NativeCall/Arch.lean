/-!
# Architectures

The processor families that native calls are described for, with the facts of
their calling conventions that the rest of the library asks about.
-/

namespace NativeCall

/-- A processor family together with its native calling convention. -/
inductive Arch where
  | i386
  | amd64
  | aarch64
  deriving DecidableEq, Repr

/-- How many arguments of each kind travel in registers, the two context slots not counted. -/
structure RegisterBudget where
  integers : Nat
  floats : Nat
  deriving DecidableEq, Repr

namespace Arch

def all : List Arch :=
  [.i386, .amd64, .aarch64]

theorem mem_all (arch : Arch) : arch ∈ all := by
  cases arch <;> decide

def name : Arch -> String
  | .i386 => "i386"
  | .amd64 => "x86_64"
  | .aarch64 => "aarch64"

def pointerSize : Arch -> Nat
  | .i386 => 4
  | .amd64 | .aarch64 => 8

/-- A convention that passes everything on the stack has no budget. -/
def registerBudget : Arch -> Option RegisterBudget
  | .i386 => none
  | .amd64 | .aarch64 => some { integers := 6, floats := 8 }

def host : Arch :=
  .amd64

end Arch
end NativeCall
