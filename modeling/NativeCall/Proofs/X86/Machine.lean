import NativeCall.Proofs.Execution
import NativeCall.Proofs.X86.Decoder
import NativeCall.Proofs.X86.Extended

/-!
# An x86 machine

The registers, flags and memory that trampolines work on, and what each instruction does to
them. A machine has addresses and full registers of `w` bits; its step reads the
instruction at the program counter from an image.
-/

namespace NativeCall
namespace X86

/-- The state of a machine but for its program counter. -/
structure Core (w : Nat) where
  gpr : Gpr -> BitVec w
  vector : Xmm -> BitVec 128
  /-- The floating-point stack from its top. -/
  floats : List Extended
  /-- How the floating-point stack rounds what it stores. -/
  rounding : Rounding
  /-- Whether the last result was zero. -/
  zero : Bool
  memory : Memory w

structure State (w : Nat) extends Core w where
  pc : BitVec w

def Size.bytes : Size -> Nat
  | .byte => 1
  | .word => 2
  | .dword => 4
  | .qword => 8

def floatLimit : Nat := 8

def Extended.indefinite : Extended :=
  { sign := true, exponent := 0x7FFF, significand := 0xC000_0000_0000_0000 }

def stackFormat (size : Size) : FloatFormat :=
  if size = .qword then .double else .single

/-- Replace the byte at a bit of a register. -/
def replaceByte {w : Nat} (value : BitVec w) (bit : Nat) (byte : Byte) : BitVec w :=
  value &&& ~~~((0xFF : BitVec w) <<< bit) ||| byte.setWidth w <<< bit

namespace Core

variable {w : Nat}

/-!
# Registers and memory
-/

def set (c : Core w) (dst : Gpr) (value : BitVec w) : Core w :=
  { c with gpr := fun r => if r = dst then value else c.gpr r }

def setVector (c : Core w) (dst : Xmm) (value : BitVec 128) : Core w :=
  { c with vector := fun r => if r = dst then value else c.vector r }

/-- Set a register to a result and the flag that tells whether it is zero. -/
def setResult {n : Nat} (c : Core w) (dst : Gpr) (result : BitVec n) : Core w :=
  { c.set dst (result.setWidth w) with zero := result == 0 }

def address (c : Core w) (place : Mem) : BitVec w :=
  c.gpr place.base + place.disp.signExtend w

def low (c : Core w) (r : Gpr) (size : Size) : BitVec (8 * size.bytes) :=
  (c.gpr r).setWidth (8 * size.bytes)

def operand (c : Core w) (size : Size) : Rm -> BitVec (8 * size.bytes)
  | .reg r => c.low r size
  | .mem place => c.memory.read size.bytes (c.address place)

def store (c : Core w) (count : Nat) (place : Mem) (value : BitVec (8 * count)) : Core w :=
  { c with memory := c.memory.write count (c.address place) value }

/-!
# The stacks
-/

def push (c : Core w) (value : BitVec w) : Core w :=
  let top := c.gpr .rsp - BitVec.ofNat w (w / 8)
  { c.set .rsp top with
    memory := c.memory.write (w / 8) top (value.setWidth (8 * (w / 8))) }

def top (c : Core w) : BitVec w :=
  (c.memory.read (w / 8) (c.gpr .rsp)).setWidth w

def drop (c : Core w) : Core w :=
  c.set .rsp (c.gpr .rsp + BitVec.ofNat w (w / 8))

/-- Push onto the floating-point stack. A value too many is lost. -/
def pushFloat (c : Core w) (v : Extended) : Core w :=
  { c with
    floats := (if c.floats.length < floatLimit then v else Extended.indefinite) ::
      c.floats.take (floatLimit - 1) }

def popFloat (c : Core w) (size : Size) (place : Mem) : Core w :=
  let v := c.floats.headD Extended.indefinite
  { c.store size.bytes place (((stackFormat size).narrow c.rounding v).pack (8 * size.bytes)) with
    floats := c.floats.tail }

/-!
# Instructions
-/

/-- What an instruction does that goes on to the next one. -/
def effect (c : Core w) : Instr -> Core w
  | .movsx dst src size => c.set dst ((c.operand size src).signExtend w)
  | .movzx dst src size | .mov dst src size => c.set dst ((c.operand size src).setWidth w)
  | .store dst src size => c.store size.bytes dst (c.low src size)
  | .movImm dst imm size => c.set dst ((imm.setWidth (8 * size.bytes)).setWidth w)
  | .addImm dst imm => c.setResult dst (c.gpr dst + imm.signExtend w)
  | .subImm dst imm => c.setResult dst (c.gpr dst - imm.signExtend w)
  | .xor dst src size => c.setResult dst (c.low dst size ^^^ c.low src size)
  | .or dst src size => c.setResult dst (c.low dst size ||| c.low src size)
  | .test left right size => { c with zero := c.low left size &&& c.low right size == 0 }
  | .sar dst count size =>
      -- Counts are taken modulo the bits of a doubleword or a quadword.
      let steps := count.toNat % (if size = .qword then 64 else 32)
      if steps = 0 then c.set dst ((c.low dst size).setWidth w)
      else c.setResult dst ((c.low dst size).sshiftRight steps)
  | .setne dst => c.set dst (replaceByte (c.gpr dst) 0 (if c.zero then 0 else 1))
  | .movssStore dst src => c.store 4 dst ((c.vector src).setWidth 32)
  | .movsdStore dst src => c.store 8 dst ((c.vector src).setWidth 64)
  | .movssLoad dst src => c.setVector dst ((c.memory.read 4 (c.address src)).setWidth 128)
  | .movsdLoad dst src => c.setVector dst ((c.memory.read 8 (c.address src)).setWidth 128)
  | .fstp dst size => c.popFloat size dst
  | .fld src size =>
      c.pushFloat ((stackFormat size).widen (Pattern.unpack (c.memory.read size.bytes (c.address src))))
  | .call _ | .jmp _ | .ret => c

def highByte (c : Core w) (r : Gpr) : Byte :=
  (c.gpr r).extractLsb' 8 8

/-- Perform an operation that the instruction at `next` follows. -/
def perform (c : Core w) (next : BitVec w) : Operation -> State w
  | .plain (.call target) => { c.push next with pc := c.gpr target }
  | .plain (.jmp target) => { c with pc := c.gpr target }
  | .plain .ret => { c.drop with pc := c.top }
  | .plain instr => { c.effect instr with pc := next }
  | .movsxHigh dst src => { c.set dst ((c.highByte src).signExtend w) with pc := next }
  | .movzxHigh dst src => { c.set dst ((c.highByte src).setWidth w) with pc := next }
  | .setneHigh dst =>
      { c.set dst (replaceByte (c.gpr dst) 8 (if c.zero then 0 else 1)) with pc := next }

end Core

def step {w : Nat} (mode : Mode) (image : Image w) (s : State w) : Option (State w) :=
  (decode mode (image.codeFrom s.pc)).map fun (operation, rest) =>
    s.toCore.perform (image.addressOfRest rest) operation

def step64 : Image 64 -> State 64 -> Option (State 64) :=
  step .bits64

def step32 : Image 32 -> State 32 -> Option (State 32) :=
  step .bits32

end X86
end NativeCall
