import NativeCall.A64.Operand

/-!
# A64 instructions

The instruction forms that trampolines are made of.
-/

namespace NativeCall
namespace A64

inductive Instr where
  /-- Any instruction, given as its word. -/
  | raw (word : BitVec 32)
  | mov (dst src : Reg)
  /-- Move the low half and clear the high one. -/
  | movW (dst src : Reg)
  | sxtb (dst src : Reg)
  | sxth (dst src : Reg)
  | sxtw (dst src : Reg)
  | uxtb (dst src : Reg)
  | uxth (dst src : Reg)
  /-- Load sixteen bits at a shift and clear the rest. -/
  | movz (dst : Reg) (imm : BitVec 16) (shift : Byte)
  /-- Replace sixteen bits at a shift. -/
  | movk (dst : Reg) (imm : BitVec 16) (shift : Byte)
  | blr (target : Reg)
  | br (target : Reg)
  | ret
  /-- Move the base by an offset, then store a pair there. -/
  | stpPre (rt rt2 base : Reg) (offset : Int)
  /-- Load a pair, then move the base by an offset. -/
  | ldpPost (rt rt2 base : Reg) (offset : Int)
  | addImm (dst src : Reg) (imm : BitVec 16)
  | str (rt base : Reg) (offset : BitVec 16) (access : Access)
  /-- Load and zero-extend. -/
  | ldr (rt base : Reg) (offset : BitVec 16) (access : Access)
  /-- Load and sign-extend to 64 bits. -/
  | ldrs (rt base : Reg) (offset : BitVec 16) (access : Access)
  | strFp (rt : VReg) (base : Reg) (offset : BitVec 16) (access : Access)
  | ldrFp (rt : VReg) (base : Reg) (offset : BitVec 16) (access : Access)
  /-- Compare with zero, in 64 bits or in 32. -/
  | cmpZero (src : Reg) (wide : Bool)
  /-- Set to one if the condition holds, else to zero. -/
  | cset (dst : Reg) (cond : Cond)
  deriving DecidableEq, Repr

namespace Instr

/-- Zero-extension of a word is a move of the low half. -/
def uxtw (dst src : Reg) : Instr :=
  .movW dst src

/-- Load a 64-bit constant in four pieces, whatever its value. -/
def movImm64 (dst : Reg) (value : Word) : List Instr :=
  [.movz dst (value.extractLsb' 0 16) 0,
   .movk dst (value.extractLsb' 16 16) 16,
   .movk dst (value.extractLsb' 32 16) 32,
   .movk dst (value.extractLsb' 48 16) 48]

end Instr
end A64
end NativeCall
