import NativeCall.X86.Operand

/-!
# x86 instructions

The instruction forms that trampolines are made of, for 32-bit and 64-bit code alike.
An operand size that has no form of its own names the nearest one: a quadword
`movsx` and a doubleword or quadword `movzx` are plain moves.
-/

namespace NativeCall
namespace X86

inductive Instr where
  /-- Sign-extend an operand of `size` into a full register. -/
  | movsx (dst : Gpr) (src : Rm) (size : Size)
  /-- Zero-extend an operand of `size` into a full register. -/
  | movzx (dst : Gpr) (src : Rm) (size : Size)
  | mov (dst : Gpr) (src : Rm) (size : Size)
  | store (dst : Mem) (src : Gpr) (size : Size)
  /-- Load a constant; a size below a quadword keeps its low 32 bits. -/
  | movImm (dst : Gpr) (imm : Word) (size : Size)
  | addImm (dst : Gpr) (imm : BitVec 32)
  | subImm (dst : Gpr) (imm : BitVec 32)
  | xor (dst : Gpr) (src : Gpr) (size : Size)
  | or (dst : Gpr) (src : Gpr) (size : Size)
  | test (left : Gpr) (right : Gpr) (size : Size)
  /-- Shift right, copying the sign. -/
  | sar (dst : Gpr) (count : Byte) (size : Size)
  /-- Set the low byte to one unless the last result was zero, else to zero. -/
  | setne (dst : Gpr)
  | call (target : Gpr)
  | jmp (target : Gpr)
  | ret
  | movssStore (dst : Mem) (src : Xmm)
  | movsdStore (dst : Mem) (src : Xmm)
  | movssLoad (dst : Xmm) (src : Mem)
  | movsdLoad (dst : Xmm) (src : Mem)
  /-- Pop the floating-point stack into memory. -/
  | fstp (dst : Mem) (size : Size)
  /-- Push a value from memory onto the floating-point stack. -/
  | fld (src : Mem) (size : Size)
  deriving DecidableEq, Repr

namespace Instr

def callAbs (mode : Mode) (scratch : Gpr) (address : Address) : List Instr :=
  [.movImm scratch address mode.wordSize, .call scratch]

def jmpAbs (mode : Mode) (scratch : Gpr) (address : Address) : List Instr :=
  [.movImm scratch address mode.wordSize, .jmp scratch]

end Instr
end X86
end NativeCall
