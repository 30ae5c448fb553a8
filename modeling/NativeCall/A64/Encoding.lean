import NativeCall.Fault
import NativeCall.A64.Instr

/-!
# Encoding of A64 instructions

Every instruction is one 32-bit word, stored lowest byte first. Fields are joined to the
opcode as they are, so a register number above 31 reaches into its neighbours.
-/

namespace NativeCall
namespace A64

/-!
# Parts of an instruction
-/

def unaryWord (opcode : BitVec 32) (dst src : Reg) : BitVec 32 :=
  opcode ||| (src.field <<< 5) ||| dst.field

/-- A register move keeps its source in bits 16 to 20. -/
def moveWord (opcode : BitVec 32) (dst src : Reg) : BitVec 32 :=
  opcode ||| (src.field <<< 16) ||| dst.field

/-- A constant move counts its shift in steps of sixteen. -/
def constantWord (opcode : BitVec 32) (dst : Reg) (imm : BitVec 16) (shift : Byte) : BitVec 32 :=
  opcode ||| (BitVec.ofNat 32 (shift.toNat / 16) <<< 21) ||| (imm.setWidth 32 <<< 5) ||| dst.field

/-- A pair form counts its signed offset in steps of eight, toward zero, in seven bits. -/
def pairWord (opcode : BitVec 32) (rt rt2 base : Reg) (offset : Int) : BitVec 32 :=
  let steps := BitVec.ofInt 32 (offset.tdiv 8) &&& 0x7F
  opcode ||| (steps <<< 15) ||| (rt2.field <<< 10) ||| (base.field <<< 5) ||| rt.field

/-- A load or store counts its offset in accesses, in twelve bits. -/
def accessWord (opcode : BitVec 32) (access : Access) (rt : BitVec 32) (base : Reg)
    (offset : BitVec 16) : Except Fault (BitVec 32) :=
  if offset.toNat % access.scale = 0 then
    let steps := BitVec.ofNat 32 (offset.toNat / access.scale) &&& 0xFFF
    .ok (opcode ||| (steps <<< 10) ||| (base.field <<< 5) ||| rt)
  else
    .error .unalignedOffset

/-!
# Opcodes of loads and stores

An integer access of any other kind than byte, half and word uses the 64-bit form.
-/

def storeOpcode : Access -> BitVec 32
  | .byte => 0x39000000
  | .half => 0x79000000
  | .word => 0xB9000000
  | _ => 0xF9000000

def loadOpcode : Access -> BitVec 32
  | .byte => 0x39400000
  | .half => 0x79400000
  | .word => 0xB9400000
  | _ => 0xF9400000

def signedLoadOpcode : Access -> BitVec 32
  | .byte => 0x39800000
  | .half => 0x79800000
  | .word => 0xB9800000
  | _ => 0xF9400000

def floatAccess : Access -> Access
  | .single => .single
  | _ => .floatDouble

def floatStoreOpcode : Access -> BitVec 32
  | .single => 0xBD000000
  | _ => 0xFD000000

def floatLoadOpcode : Access -> BitVec 32
  | .single => 0xBD400000
  | _ => 0xFD400000

/-!
# Instructions
-/

namespace Instr

def word : Instr -> Except Fault (BitVec 32)
  | .raw word => .ok word
  | .mov dst src => .ok (moveWord 0xAA0003E0 dst src)
  | .movW dst src => .ok (moveWord 0x2A0003E0 dst src)
  | .sxtb dst src => .ok (unaryWord 0x93401C00 dst src)
  | .sxth dst src => .ok (unaryWord 0x93403C00 dst src)
  | .sxtw dst src => .ok (unaryWord 0x93407C00 dst src)
  | .uxtb dst src => .ok (unaryWord 0x53001C00 dst src)
  | .uxth dst src => .ok (unaryWord 0x53003C00 dst src)
  | .movz dst imm shift => .ok (constantWord 0xD2800000 dst imm shift)
  | .movk dst imm shift => .ok (constantWord 0xF2800000 dst imm shift)
  | .blr target => .ok (0xD63F0000 ||| (target.field <<< 5))
  | .br target => .ok (0xD61F0000 ||| (target.field <<< 5))
  | .ret => .ok 0xD65F03C0
  | .stpPre rt rt2 base offset => .ok (pairWord 0xA9800000 rt rt2 base offset)
  | .ldpPost rt rt2 base offset => .ok (pairWord 0xA8C00000 rt rt2 base offset)
  | .addImm dst src imm =>
      .ok (unaryWord (0x91000000 ||| ((imm.setWidth 32 &&& 0xFFF) <<< 10)) dst src)
  | .str rt base offset access => accessWord (storeOpcode access) access rt.field base offset
  | .ldr rt base offset access => accessWord (loadOpcode access) access rt.field base offset
  | .ldrs rt base offset access => accessWord (signedLoadOpcode access) access rt.field base offset
  | .strFp rt base offset access =>
      accessWord (floatStoreOpcode access) (floatAccess access) rt.field base offset
  | .ldrFp rt base offset access =>
      accessWord (floatLoadOpcode access) (floatAccess access) rt.field base offset
  | .cmpZero src wide =>
      .ok ((if wide then 0xF100001F else 0x7100001F) ||| (src.field <<< 5))
  | .cset dst cond => .ok (0x1A9F07E0 ||| ((cond.code ^^^ 1) <<< 12) ||| dst.field)

def encode (instr : Instr) : Except Fault (List Byte) := do
  let word <- instr.word
  return littleEndian 4 word

theorem length_encode {instr : Instr} {bytes : List Byte} (h : instr.encode = .ok bytes) :
    bytes.length = 4 := by
  unfold encode at h
  cases hword : instr.word with
  | error fault =>
      rw [hword] at h
      cases h
  | ok word =>
      rw [hword] at h
      cases h
      exact length_littleEndian 4 word

end Instr

def assemble : List Instr -> Except Fault (List Byte)
  | [] => .ok []
  | instr :: rest => do
      let first <- instr.encode
      let others <- assemble rest
      return first ++ others

theorem assemble_append (code rest : List Instr) :
    assemble (code ++ rest) = do
      let first <- assemble code
      let others <- assemble rest
      return first ++ others := by
  induction code with
  | nil => cases h : assemble rest <;> simp [assemble, h, bind, Except.bind, pure, Except.pure]
  | cons instr code ih =>
      cases hinstr : instr.encode <;> cases hcode : assemble code <;>
        cases hrest : assemble rest <;>
        simp_all [assemble, bind, Except.bind, pure, Except.pure]

end A64
end NativeCall
