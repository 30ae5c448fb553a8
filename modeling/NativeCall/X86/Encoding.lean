import NativeCall.Fault
import NativeCall.X86.Instr

/-!
# Encoding of x86 instructions

An instruction is a legacy byte, a REX byte, an opcode, and an operand byte (ModRM)
with its displacement, each where the form has one. Register numbers above 7 need the
REX byte, which 32-bit code does not have.
-/

namespace NativeCall
namespace X86

def fitsByte (value : BitVec 32) : Bool :=
  -128 ≤ value.toInt && value.toInt < 128

/-!
# Parts of an instruction
-/

/-- The registers 4 to 7, whose low byte is reached through a REX byte alone. -/
def Rm.needsRexForByte : Rm -> Bool
  | .reg r => 4 ≤ r.number.toNat && r.number.toNat < 8
  | .mem _ => false

/-- The REX byte of an instruction, left out where it says nothing. -/
def rexByte (mode : Mode) (wide : Bool) (reg : Byte) (rm : Rm) (byteOperand : Bool) :
    Except Fault (List Byte) :=
  match mode with
  | .bits32 =>
      if wide || 8 ≤ reg.toNat || 8 ≤ rm.number.toNat then .error .wideOperand else .ok []
  | .bits64 =>
      let extension := 4 * (reg.toNat / 8 % 2) + rm.number.toNat / 8 % 2
      let rex := 0x40 + (if wide then 8 else 0) + extension
      if rex != 0x40 || (byteOperand && rm.needsRexForByte) then
        .ok [BitVec.ofNat 8 rex]
      else
        .ok []

/-- The ModRM byte: addressing form, register or opcode extension, register or base. -/
def modRmByte (form : Nat) (reg : Byte) (rm : Byte) : Byte :=
  BitVec.ofNat 8 (64 * form + 8 * (reg.toNat % 8) + rm.toNat % 8)

/-- The operand bytes. The base numbers 4 and 5 mean something else in the ModRM byte:
the first needs a further byte, the second needs a displacement. -/
def operandBytes (reg : Byte) : Rm -> List Byte
  | .reg r => [modRmByte 3 reg r.number]
  | .mem m =>
      let base := m.base.number
      let scale := if base.toNat % 8 = 4 then [0x24#8] else []
      if m.disp = 0 && base.toNat % 8 != 5 then
        modRmByte 0 reg base :: scale
      else if fitsByte m.disp then
        modRmByte 1 reg base :: (scale ++ littleEndian 1 m.disp)
      else
        modRmByte 2 reg base :: (scale ++ littleEndian 4 m.disp)

def withOperand (mode : Mode) (wide : Bool) (opcode : List Byte) (reg : Byte) (rm : Rm)
    (byteOperand : Bool) : Except Fault (List Byte) := do
  let rex <- rexByte mode wide reg rm byteOperand
  return rex ++ opcode ++ operandBytes reg rm

/-- A vector move: the legacy byte that selects the precision stands before the REX byte. -/
def vectorMove (mode : Mode) (legacy : Byte) (opcode : Byte) (reg : Xmm) (place : Mem) :
    Except Fault (List Byte) := do
  let bytes <- withOperand mode false [0x0F, opcode] reg.number (.mem place) false
  return legacy :: bytes

/-- A move exists for doublewords and quadwords. -/
def moveForm (mode : Mode) (size : Size) (opcode : Byte) (reg : Byte) (rm : Rm) :
    Except Fault (List Byte) :=
  match size with
  | .byte | .word => .error .operandSize
  | .dword => withOperand mode false [opcode] reg rm false
  | .qword => withOperand mode true [opcode] reg rm false

/-- Arithmetic with a constant, in its one-byte form where the constant fits. -/
def constantForm (mode : Mode) (extension : Byte) (dst : Gpr) (imm : BitVec 32) :
    Except Fault (List Byte) := do
  let wide := mode == .bits64
  if fitsByte imm then
    let bytes <- withOperand mode wide [0x83] extension (.reg dst) false
    return bytes ++ littleEndian 1 imm
  else
    let bytes <- withOperand mode wide [0x81] extension (.reg dst) false
    return bytes ++ littleEndian 4 imm

def Size.isQword (size : Size) : Bool :=
  size == .qword

def stackMoveOpcode (size : Size) : Byte :=
  if size.isQword then 0xDD else 0xD9

/-- The opcode that loads a constant holds the low bits of the register number itself. -/
def movImmOpcode (dst : Gpr) : Byte :=
  BitVec.ofNat 8 (0xB8 + dst.number.toNat % 8)

/-!
# Instructions
-/

namespace Instr

def encode (mode : Mode) : Instr -> Except Fault (List Byte)
  | .movsx dst src size =>
      let wide := mode == .bits64
      match size with
      | .byte => withOperand mode wide [0x0F, 0xBE] dst.number src true
      | .word => withOperand mode wide [0x0F, 0xBF] dst.number src false
      | .dword =>
          match mode with
          | .bits32 => .error .operandSize
          | .bits64 => withOperand mode true [0x63] dst.number src false
      | .qword => moveForm mode .qword 0x8B dst.number src
  | .movzx dst src size =>
      match size with
      | .byte => withOperand mode false [0x0F, 0xB6] dst.number src true
      | .word => withOperand mode false [0x0F, 0xB7] dst.number src false
      | .dword => moveForm mode .dword 0x8B dst.number src
      | .qword => moveForm mode .qword 0x8B dst.number src
  | .mov dst src size => moveForm mode size 0x8B dst.number src
  | .store dst src size => moveForm mode size 0x89 src.number (.mem dst)
  | .movImm dst imm size => do
      let rex <- rexByte mode size.isQword 0 (.reg dst) false
      return rex ++ movImmOpcode dst :: littleEndian (if size.isQword then 8 else 4) imm
  | .addImm dst imm => constantForm mode 0 dst imm
  | .subImm dst imm => constantForm mode 5 dst imm
  | .xor dst src size => withOperand mode size.isQword [0x31] src.number (.reg dst) false
  | .or dst src size => withOperand mode size.isQword [0x09] src.number (.reg dst) false
  | .test left right size => withOperand mode size.isQword [0x85] right.number (.reg left) false
  | .sar dst count size => do
      let bytes <- withOperand mode size.isQword [0xC1] 7 (.reg dst) false
      return bytes ++ [count]
  | .setne dst => withOperand mode false [0x0F, 0x95] 0 (.reg dst) true
  | .call target => withOperand mode false [0xFF] 2 (.reg target) false
  | .jmp target => withOperand mode false [0xFF] 4 (.reg target) false
  | .ret => .ok [0xC3]
  | .movssStore dst src => vectorMove mode 0xF3 0x11 src dst
  | .movsdStore dst src => vectorMove mode 0xF2 0x11 src dst
  | .movssLoad dst src => vectorMove mode 0xF3 0x10 dst src
  | .movsdLoad dst src => vectorMove mode 0xF2 0x10 dst src
  | .fstp dst size => withOperand mode false [stackMoveOpcode size] 3 (.mem dst) false
  | .fld src size => withOperand mode false [stackMoveOpcode size] 0 (.mem src) false

end Instr

def assemble (mode : Mode) : List Instr -> Except Fault (List Byte)
  | [] => .ok []
  | instr :: rest => do
      let first <- instr.encode mode
      let others <- assemble mode rest
      return first ++ others

theorem assemble_append (mode : Mode) (code rest : List Instr) :
    assemble mode (code ++ rest) = do
      let first <- assemble mode code
      let others <- assemble mode rest
      return first ++ others := by
  induction code with
  | nil => cases h : assemble mode rest <;> simp [assemble, h, bind, Except.bind, pure, Except.pure]
  | cons instr code ih =>
      cases hinstr : instr.encode mode <;> cases hcode : assemble mode code <;>
        cases hrest : assemble mode rest <;>
        simp_all [assemble, bind, Except.bind, pure, Except.pure]

end X86
end NativeCall
