import NativeCall.Frame
import NativeCall.X86.Encoding

/-!
# Trampolines for x86-64

The caller's convention keeps two context values in the first two integer registers, so
its arguments start at the third and the last two lie on the stack. The target expects
them two registers earlier. Float arguments are already in place.
-/

namespace NativeCall
namespace Amd64

open X86 (Gpr Instr Mem Rm Size Xmm)

def stack (offset : Nat) : Mem :=
  { base := .rsp, disp := BitVec.ofNat 32 offset }

/-- Where integer arguments arrive, the return address being on top of the stack. -/
def argumentSources : List Rm :=
  [.reg .rdx, .reg .rcx, .reg .r8, .reg .r9, .mem (stack 8), .mem (stack 16)]

def argumentTargets : List Gpr :=
  [.rdi, .rsi, .rdx, .rcx, .r8, .r9]

def widthSize : Width -> Size
  | .w8 => .byte
  | .w16 => .word
  | .w32 => .dword
  | .w64 => .qword

/-- Fill a register with the extension that the native class asks for. A 64-bit native
value in a host slot of four bytes is the sign extension of that slot. -/
def extendInto (dst : Gpr) (src : Rm) (kind : ValueClass) (host : HostType) : Instr :=
  if kind.width = .w64 ∧ host.slotSize < 8 then
    .movsx dst src .dword
  else if kind.isSigned then
    .movsx dst src (widthSize kind.width)
  else
    .movzx dst src (widthSize kind.width)

def argumentMoves (sig : Signature) : List Instr :=
  (sig.integerParams.zip (argumentSources.zip argumentTargets)).map
    fun ((slot, kind), (src, dst)) => extendInto dst src kind slot.host

/-!
# Results
-/

def extendResult (kind : ValueClass) : List Instr :=
  if kind.width = .w64 then [] else [extendInto .rax (.reg .rax) kind .long]

def normalizeBoolean (result : Slot) : List Instr :=
  if result.host = .boolean then
    [.test .rax .rax .qword, .setne .rax, .movzx .rax (.reg .rax) .byte]
  else
    []

def spillResult (kind : ValueClass) : Instr :=
  match kind.register with
  | .single => .movssStore (stack 0) .xmm0
  | .double => .movsdStore (stack 0) .xmm0
  | .integer => .store (stack 0) .rax .qword

/-- Take the result back from the frame, an integer one extended on the way. -/
def reloadResult (kind : ValueClass) : Instr :=
  match kind.register with
  | .single => .movssLoad .xmm0 (stack 0)
  | .double => .movsdLoad .xmm0 (stack 0)
  | .integer => extendInto .rax (.mem (stack 0)) kind .long

/-- Bytes of the frame: one spill slot, and alignment to sixteen with the return address. -/
def frameSpace (result : Slot) : BitVec 32 :=
  if result.kind.any (·.isFloat) then 24 else 8

def afterCall (result : Slot) (helper : Option Address) : List Instr :=
  match helper, result.kind with
  | some helper, some kind =>
      spillResult kind :: Instr.callAbs .bits64 .r11 helper ++ [reloadResult kind]
  | some helper, none => Instr.callAbs .bits64 .r11 helper
  | none, some kind => if kind.isInteger then extendResult kind else []
  | none, none => []

/-!
# Code
-/

/-- The low byte of the result register counts vector registers for variadic targets, so
a wrapped call clears it. -/
def code (sig : Signature) (target : Address) (helper : Option Address) (frame : Frame) :
    List Instr :=
  match frame with
  | .direct => argumentMoves sig ++ Instr.jmpAbs .bits64 .r11 target
  | .wrapped =>
      let space := frameSpace sig.result
      argumentMoves sig
        ++ [.subImm .rsp space, .xor .rax .rax .dword]
        ++ Instr.callAbs .bits64 .r11 target
        ++ afterCall sig.result helper
        ++ normalizeBoolean sig.result
        ++ [.addImm .rsp space, .ret]

end Amd64
end NativeCall
