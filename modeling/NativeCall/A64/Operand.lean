import NativeCall.Word

/-!
# Operands of A64 instructions

Registers are numbers from 0 to 31. Number 31 is the stack pointer or the zero register,
as the instruction has it.
-/

namespace NativeCall
namespace A64

structure Reg where
  number : Byte
  deriving DecidableEq, Repr

structure VReg where
  number : Byte
  deriving DecidableEq, Repr

inductive Access where
  | byte
  | half
  | word
  | double
  | single
  | floatDouble
  deriving DecidableEq, Repr

inductive Cond where
  | eq
  | ne
  deriving DecidableEq, Repr

namespace Reg

def x0 : Reg := ⟨0⟩
def x9 : Reg := ⟨9⟩

def fp : Reg := ⟨29⟩

def lr : Reg := ⟨30⟩

def sp : Reg := ⟨31⟩

def field (r : Reg) : BitVec 32 :=
  r.number.setWidth 32

end Reg

namespace VReg

def v0 : VReg := ⟨0⟩

def field (r : VReg) : BitVec 32 :=
  r.number.setWidth 32

end VReg

namespace Access

def all : List Access :=
  [.byte, .half, .word, .double, .single, .floatDouble]

def name : Access -> String
  | .byte => "Byte"
  | .half => "Half"
  | .word => "Word"
  | .double => "Double"
  | .single => "Single"
  | .floatDouble => "FloatDouble"

def scale : Access -> Nat
  | .byte => 1
  | .half => 2
  | .word | .single => 4
  | .double | .floatDouble => 8

end Access

namespace Cond

def code : Cond -> BitVec 32
  | .eq => 0
  | .ne => 1

end Cond
end A64
end NativeCall
