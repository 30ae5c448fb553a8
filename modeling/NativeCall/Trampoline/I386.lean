import NativeCall.Frame
import NativeCall.X86.Encoding

/-!
# Trampolines for i386

All arguments lie on the stack. The trampoline builds a new argument block below the one
it was called with and is therefore always wrapped. On entry the return address is on
top, then two context words, then the packed host slots.
-/

namespace NativeCall
namespace I386

open X86 (Gpr Instr Mem Rm Size)

/-!
# Sizes
-/

/-- The return address and two context words. -/
def hostOffset : Int := 12

def align16 (n : Nat) : Nat :=
  (n + 15) / 16 * 16

def targetSize (kind : ValueClass) : Nat :=
  if kind.width = .w64 then 8 else 4

/-- Bytes that the result needs across the helper's call. -/
def resultSize (result : Slot) : Nat :=
  match result.kind with
  | none => 0
  | some kind => if kind.isFloat then 16 else targetSize kind

def blockSize : List Slot -> Nat
  | [] => 0
  | slot :: rest => (slot.kind.map targetSize).getD 0 + blockSize rest

/-- How far the stack pointer moves: room for arguments and result, with the stack aligned
to sixteen bytes at the call. -/
def stackAdjust (sig : Signature) : Nat :=
  align16 (max (blockSize sig.params) (resultSize sig.result) + 4) - 4

/-- The first number that is too large for a signed 32-bit one. -/
def offsetLimit : Int := 0x8000_0000

/-- A size as a signed 32-bit number; what lies above wraps. -/
def wrapSize (n : Nat) : Int :=
  (n : Int).bmod halfWordCount

/-- The sum of two signed 32-bit numbers, as long as it is one. -/
def addOffsets (a b : Int) : Except Fault Int :=
  if -offsetLimit ≤ a + b ∧ a + b < offsetLimit then .ok (a + b) else .error .offsetOverflow

def stack (offset : Int) : Mem :=
  { base := .esp, disp := BitVec.ofInt 32 offset }

/-!
# Arguments
-/

def load (offset : Int) : Instr :=
  .mov .eax (.mem (stack offset)) .dword

def save (offset : Int) : Instr :=
  .store (stack offset) .eax .dword

def extendNarrow (src : Rm) (kind : ValueClass) (size : Size) : Instr :=
  if kind.isSigned then .movsx .eax src size else .movzx .eax src size

def narrowSize? : Width -> Option Size
  | .w8 => some .byte
  | .w16 => some .word
  | .w32 | .w64 => none

/-- Fill the accumulator, which holds the low half of a 64-bit argument, with the high one:
it is read from a host slot of eight bytes, and else the sign of the low half. -/
def highHalf (host : HostType) (src : Int) : Except Fault Instr :=
  if host.slotSize = 8 then
    (addOffsets src 4).map load
  else
    .ok (.sar .eax 31 .dword)

/-- Copy one argument, a narrow one extended, a 64-bit one in two halves. -/
def copyArgument (slot : Slot) (kind : ValueClass) (src dst : Int) : Except Fault (List Instr) :=
  match kind.width with
  | .w64 => do
      let high <- highHalf slot.host src
      let highPlace <- addOffsets dst 4
      return [load src, save dst, high, save highPlace]
  | width =>
      match narrowSize? width with
      | some size => .ok [extendNarrow (.mem (stack src)) kind size, save dst]
      | none => .ok [load src, save dst]

/-- Copy the arguments in order; `src` counts host slots, `dst` the argument block. -/
def argumentMoves (adjust : Int) : Int -> Int -> List Slot -> Except Fault (List Instr)
  | _, _, [] => .ok []
  | src, dst, slot :: rest =>
      match slot.kind with
      | none => argumentMoves adjust src dst rest
      | some kind => do
          let place <- addOffsets (<- addOffsets adjust hostOffset) src
          let moves <- copyArgument slot kind place dst
          let nextSrc <- addOffsets src slot.host.slotSize
          let nextDst <- addOffsets dst (targetSize kind)
          let others <- argumentMoves adjust nextSrc nextDst rest
          return moves ++ others

/-!
# Results
-/

def spillResult (kind : ValueClass) : List Instr :=
  match kind.register with
  | .single => [.fstp (stack 0) .dword]
  | .double => [.fstp (stack 0) .qword]
  | .integer =>
      if kind.width = .w64 then [save 0, .store (stack 4) .edx .dword] else [save 0]

/-- Take the result back from the frame, a narrow one extended on the way. -/
def reloadResult (kind : ValueClass) : List Instr :=
  match kind.register with
  | .single => [.fld (stack 0) .dword]
  | .double => [.fld (stack 0) .qword]
  | .integer =>
      match kind.width, narrowSize? kind.width with
      | .w64, _ => [load 0, .mov .edx (.mem (stack 4)) .dword]
      | _, some size => [extendNarrow (.mem (stack 0)) kind size]
      | _, none => [load 0]

def extendResult (kind : ValueClass) : List Instr :=
  match narrowSize? kind.width with
  | some size => [extendNarrow (.reg .eax) kind size]
  | none => []

/-- Produce the high half of a long host value. -/
def widenToLong (kind : ValueClass) : List Instr :=
  if kind.isSigned then
    [.mov .edx (.reg .eax) .dword, .sar .edx 31 .dword]
  else
    [.movImm .edx 0 .dword]

/-- Turn the result into zero or one; either half of a 64-bit one counts. -/
def normalizeBoolean (kind : ValueClass) : List Instr :=
  let compare : Instr :=
    if kind.width = .w64 then .or .eax .edx .dword else .test .eax .eax .dword
  [compare, .setne .eax, .movzx .eax (.reg .eax) .byte]

def afterCall (result : Slot) (helper : Option Address) : List Instr :=
  match helper, result.kind with
  | some helper, some kind =>
      spillResult kind ++ Instr.callAbs .bits32 .eax helper ++ reloadResult kind
  | some helper, none => Instr.callAbs .bits32 .eax helper
  | none, some kind => if kind.isInteger then extendResult kind else []
  | none, none => []

def hostForm (result : Slot) : List Instr :=
  match result.integerClass? with
  | none => []
  | some kind =>
      if result.host = .boolean then normalizeBoolean kind
      else if result.host = .long ∧ kind.width ≠ .w64 then widenToLong kind
      else []

/-!
# Code
-/

def code (sig : Signature) (target : Address) (helper : Option Address) :
    Except Fault (List Instr) := do
  let adjust := wrapSize (stackAdjust sig)
  let moves <- argumentMoves adjust 0 0 sig.params
  return [.subImm .esp (BitVec.ofInt 32 adjust)]
    ++ moves
    ++ Instr.callAbs .bits32 .eax target
    ++ afterCall sig.result helper
    ++ hostForm sig.result
    ++ [.addImm .esp (BitVec.ofInt 32 adjust), .ret]

end I386
end NativeCall
