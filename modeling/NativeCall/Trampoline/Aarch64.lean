import NativeCall.Frame
import NativeCall.A64.Encoding

/-!
# Trampolines for AArch64

The caller's convention keeps two context values in the first two integer registers, so
its arguments start at the third register and the target expects them two registers
earlier. Float arguments are already in place. Absolute addresses go through a scratch
register.
-/

namespace NativeCall
namespace Aarch64

open A64 (Access Instr Reg VReg)

/-- Bytes of the frame: the frame record and one spill slot. -/
def frameSize : Int := 32

def spillOffset : BitVec 16 := 16

/-- Fill a register with the extension that the native class asks for. A 64-bit native
value in a host slot of four bytes is the sign extension of that slot. -/
def extendInto (dst src : Reg) (kind : ValueClass) (host : HostType) : List Instr :=
  match kind.width, kind.isSigned with
  | .w8, true => [.sxtb dst src]
  | .w8, false => [.uxtb dst src]
  | .w16, true => [.sxth dst src]
  | .w16, false => [.uxth dst src]
  | .w32, true => [.sxtw dst src]
  | .w32, false => [.uxtw dst src]
  | .w64, _ =>
      if host.slotSize < 8 then [.sxtw dst src]
      else if dst = src then []
      else [.mov dst src]

def register (index : Nat) : Reg :=
  ⟨BitVec.ofNat 8 index⟩

/-- Move each integer argument two registers down. -/
def argumentMoves (sig : Signature) : List Instr :=
  sig.integerParams.zipIdx.flatMap fun ((slot, kind), index) =>
    extendInto (register index) (register (index + 2)) kind slot.host

/-!
# Results
-/

def spillResult (kind : ValueClass) : Instr :=
  match kind.register with
  | .single => .strFp .v0 .fp spillOffset .single
  | .double => .strFp .v0 .fp spillOffset .floatDouble
  | .integer => .str .x0 .fp spillOffset .double

def integerAccess : Width -> Access
  | .w8 => .byte
  | .w16 => .half
  | .w32 => .word
  | .w64 => .double

/-- Take the result back from the frame, an integer one extended on the way. -/
def reloadResult (kind : ValueClass) : Instr :=
  match kind.register with
  | .single => .ldrFp .v0 .fp spillOffset .single
  | .double => .ldrFp .v0 .fp spillOffset .floatDouble
  | .integer =>
      if kind.isSigned then .ldrs .x0 .fp spillOffset (integerAccess kind.width)
      else .ldr .x0 .fp spillOffset (integerAccess kind.width)

/-- Turn an integer result into zero or one for a Boolean host. -/
def normalizeBoolean (result : Slot) : List Instr :=
  match result.integerClass? with
  | some kind =>
      if result.host = .boolean then
        [.cmpZero .x0 (kind.width == .w64), .cset .x0 .ne]
      else
        []
  | none => []

def callAbs (address : Address) : List Instr :=
  Instr.movImm64 .x9 address ++ [.blr .x9]

def jumpAbs (address : Address) : List Instr :=
  Instr.movImm64 .x9 address ++ [.br .x9]

/-- What happens to the result between the target's return and its host form. -/
def afterCall (result : Slot) (helper : Option Address) : List Instr :=
  match helper, result.kind with
  | some helper, some kind => spillResult kind :: callAbs helper ++ [reloadResult kind]
  | some helper, none => callAbs helper
  | none, some kind => if kind.isInteger then extendInto .x0 .x0 kind .long else []
  | none, none => []

/-!
# Code
-/

def code (sig : Signature) (target : Address) (helper : Option Address) (frame : Frame) :
    List Instr :=
  match frame with
  | .direct => argumentMoves sig ++ jumpAbs target
  | .wrapped =>
      [.stpPre .fp .lr .sp (-frameSize), .addImm .fp .sp 0]
        ++ argumentMoves sig
        ++ callAbs target
        ++ afterCall sig.result helper
        ++ normalizeBoolean sig.result
        ++ [.ldpPost .fp .lr .sp frameSize, .ret]

end Aarch64
end NativeCall
