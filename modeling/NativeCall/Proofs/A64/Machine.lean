import NativeCall.Proofs.A64.Decoder
import NativeCall.Proofs.Bytes
import NativeCall.Proofs.Execution

/-!
# An A64 machine

The registers, flag and memory that trampolines work on, and what each instruction does to
them. Register 31 is the stack pointer in addresses, additions and comparisons, and reads as
zero elsewhere.
-/

namespace NativeCall
namespace A64

/-- The state of a machine but for its program counter. -/
structure Core where
  gpr : Reg -> Word
  sp : Word
  vector : VReg -> BitVec 128
  /-- Whether the last comparison found its operand to be zero. -/
  zero : Bool
  memory : Memory 64

structure State extends Core where
  pc : Word

namespace Core

/-!
# Registers
-/

/-- The value of a register, with zero in the place of the stack pointer. -/
def x (c : Core) (r : Reg) : Word :=
  if r = .sp then 0 else c.gpr r

def set (c : Core) (dst : Reg) (value : Word) : Core :=
  if dst = .sp then c else { c with gpr := fun r => if r = dst then value else c.gpr r }

def setVector (c : Core) (dst : VReg) (value : BitVec 128) : Core :=
  { c with vector := fun r => if r = dst then value else c.vector r }

/-- The value of a register or of the stack pointer. -/
def base (c : Core) (r : Reg) : Word :=
  if r = .sp then c.sp else c.gpr r

def setBase (c : Core) (dst : Reg) (value : Word) : Core :=
  if dst = .sp then { c with sp := value } else c.set dst value

/-!
# Memory
-/

def address (c : Core) (base : Reg) (offset : BitVec 16) : Word :=
  c.base base + offset.setWidth 64

def store (c : Core) (count : Nat) (a : Word) (value : BitVec (8 * count)) : Core :=
  { c with memory := c.memory.write count a value }

def storePair (c : Core) (a : Word) (first second : Word) : Core :=
  (c.store 8 a first).store 8 (a + 8) second

/-!
# Instructions
-/

/-- Replace the sixteen bits at a shift. -/
def insert (value : Word) (imm : BitVec 16) (shift : Nat) : Word :=
  value &&& ~~~((0xFFFF : Word) <<< shift) ||| imm.setWidth 64 <<< shift

def holds (c : Core) : Cond -> Bool
  | .eq => c.zero
  | .ne => !c.zero

/-- What an instruction does that goes on to the next one. -/
def effect (c : Core) : Instr -> Core
  | .mov dst src => c.set dst (c.x src)
  | .movW dst src => c.set dst (((c.x src).setWidth 32).setWidth 64)
  | .sxtb dst src => c.set dst (((c.x src).setWidth 8).signExtend 64)
  | .sxth dst src => c.set dst (((c.x src).setWidth 16).signExtend 64)
  | .sxtw dst src => c.set dst (((c.x src).setWidth 32).signExtend 64)
  | .uxtb dst src => c.set dst (((c.x src).setWidth 8).setWidth 64)
  | .uxth dst src => c.set dst (((c.x src).setWidth 16).setWidth 64)
  | .movz dst imm shift => c.set dst (imm.setWidth 64 <<< shift.toNat)
  | .movk dst imm shift => c.set dst (insert (c.x dst) imm shift.toNat)
  | .stpPre rt rt2 base offset =>
      let a := c.base base + BitVec.ofInt 64 offset
      (c.setBase base a).storePair a (c.x rt) (c.x rt2)
  | .ldpPost rt rt2 base offset =>
      let a := c.base base
      let moved := c.setBase base (a + BitVec.ofInt 64 offset)
      (moved.set rt (c.memory.read 8 a)).set rt2 (c.memory.read 8 (a + 8))
  | .addImm dst src imm => c.setBase dst (c.base src + imm.setWidth 64)
  | .str rt base offset access =>
      c.store access.scale (c.address base offset) ((c.x rt).setWidth (8 * access.scale))
  | .ldr rt base offset access =>
      c.set rt ((c.memory.read access.scale (c.address base offset)).setWidth 64)
  | .ldrs rt base offset access =>
      c.set rt ((c.memory.read access.scale (c.address base offset)).signExtend 64)
  | .strFp rt base offset access =>
      c.store access.scale (c.address base offset) ((c.vector rt).setWidth (8 * access.scale))
  | .ldrFp rt base offset access =>
      c.setVector rt ((c.memory.read access.scale (c.address base offset)).setWidth 128)
  | .cmpZero src wide =>
      { c with zero := if wide then c.base src == 0 else (c.base src).setWidth 32 == 0 }
  | .cset dst cond => c.set dst (if c.holds cond then 1 else 0)
  | .blr _ | .br _ | .ret | .raw _ => c

/-- Perform an instruction that the one at `next` follows. -/
def perform (c : Core) (next : Word) : Instr -> State
  | .blr target => { c.set .lr next with pc := c.x target }
  | .br target => { c with pc := c.x target }
  | .ret => { c with pc := c.x .lr }
  | instr => { c.effect instr with pc := next }

end Core

def decodeBytes (bytes : List Byte) : Option (Instr × List Byte) :=
  (takeValue 4 bytes).bind fun (word, rest) => (decode word).map fun instr => (instr, rest)

def step (image : Image 64) (s : State) : Option State :=
  (decodeBytes (image.codeFrom s.pc)).map fun (instr, rest) =>
    s.toCore.perform (image.addressOfRest rest) instr

end A64
end NativeCall
