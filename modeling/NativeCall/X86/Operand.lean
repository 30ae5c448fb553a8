import NativeCall.Word

/-!
# Operands of x86 instructions

Registers are hardware numbers. Memory operands are a base register with a signed
displacement.
-/

namespace NativeCall
namespace X86

inductive Mode where
  | bits32
  | bits64
  deriving DecidableEq, Repr

inductive Size where
  | byte
  | word
  | dword
  | qword
  deriving DecidableEq, Repr

structure Gpr where
  number : Byte
  deriving DecidableEq, Repr

structure Xmm where
  number : Byte
  deriving DecidableEq, Repr

structure Mem where
  base : Gpr
  disp : BitVec 32
  deriving DecidableEq, Repr

inductive Rm where
  | reg (r : Gpr)
  | mem (m : Mem)
  deriving DecidableEq, Repr

namespace Gpr

def rax : Gpr := ⟨0⟩
def rcx : Gpr := ⟨1⟩
def rdx : Gpr := ⟨2⟩
def rsp : Gpr := ⟨4⟩
def rsi : Gpr := ⟨6⟩
def rdi : Gpr := ⟨7⟩
def r8 : Gpr := ⟨8⟩
def r9 : Gpr := ⟨9⟩
def r11 : Gpr := ⟨11⟩

/-- The same registers by the names of 32-bit code. -/
def eax : Gpr := rax
def edx : Gpr := rdx
def esp : Gpr := rsp

end Gpr

def Xmm.xmm0 : Xmm := ⟨0⟩

namespace Size

def ofBytes? : Nat -> Option Size
  | 1 => some .byte
  | 2 => some .word
  | 4 => some .dword
  | 8 => some .qword
  | _ => none

end Size

namespace Mode

def wordSize : Mode -> Size
  | .bits32 => .dword
  | .bits64 => .qword

end Mode

namespace Rm

/-- The number of the register, or of the base register of a place in memory. -/
def number : Rm -> Byte
  | .reg r => r.number
  | .mem m => m.base.number

end Rm
end X86
end NativeCall
