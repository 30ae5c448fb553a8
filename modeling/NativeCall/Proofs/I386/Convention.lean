import NativeCall.Proofs.BufferPath
import NativeCall.Proofs.X86.Frame

/-!
# Calling conventions of i386

The managed caller packs its arguments onto the stack behind two context words, in host
slots of four and eight bytes. A native function expects a block of its own, in which each
argument has the words of its native type. Results are in the accumulator, those of 64 bits
in two registers, and floats on top of the floating-point stack.
-/

namespace NativeCall
namespace I386

open X86 (Core FloatFormat Gpr KeepsFrame State step32)

/-- The registers that a function gives back as it found them, besides the stack pointer. -/
def calleeSaved : List Gpr :=
  [⟨3⟩, ⟨5⟩, ⟨6⟩, ⟨7⟩]

abbrev Returned (called back : State 32) : Prop :=
  X86.Returned calleeSaved called back

/-- A function has left the return address of a trampoline as it was. The argument block
between the two is the function's own. -/
def KeepsHome (entry called back : State 32) : Prop :=
  forall n, n < 4 ->
    back.memory (entry.gpr .esp + BitVec.ofNat 32 n) =
      called.memory (entry.gpr .esp + BitVec.ofNat 32 n)

/-!
# Arguments
-/

def hostBytes (params : List Slot) : Nat :=
  (params.map (·.host.slotSize)).sum

/-- Bytes of a native argument, which fills whole words. -/
def nativeSize (kind : ValueClass) : Nat :=
  max 4 kind.width.bytes

def nativeBytes (params : List Slot) : Nat :=
  (params.map fun slot => (slot.kind.map nativeSize).getD 0).sum

/-- Where the host slots begin, above the return address and two context words. -/
def hostStart : Nat := 12

/-- Where the argument block begins, above the return address of a called function. -/
def blockStart : Nat := 4

/-- A doubleword in the form that a class of at most 32 bits gives it. -/
def extendWord (kind : ValueClass) (word : BitVec 32) : BitVec 32 :=
  (HostValue.extend kind (word.setWidth 64)).setWidth 32

/-- A native argument in one memory is the native form of the host slot in another. -/
def Passes (kind : ValueClass) (host : HostType) (slots : Memory 32) (src : BitVec 32)
    (block : Memory 32) (dst : BitVec 32) : Prop :=
  if kind.width = .w64 then
    block.read 8 dst =
      if host.slotSize = 8 then slots.read 8 src else (slots.read 4 src).signExtend 64
  else
    block.read 4 dst = extendWord kind (slots.read 4 src)

/-- The called function finds the arguments of the trampoline's caller, each behind the
native arguments before it. -/
def PassesAll (sig : Signature) (entry called : State 32) : Prop :=
  forall (k : Nat) (slot : Slot) (kind : ValueClass),
    sig.params[k]? = some slot -> slot.kind = some kind ->
      Passes kind slot.host
        entry.memory
        (entry.gpr .esp + BitVec.ofNat 32 (hostStart + hostBytes (sig.params.take k)))
        called.memory
        (called.gpr .esp + BitVec.ofNat 32 (blockStart + nativeBytes (sig.params.take k)))

/-- The stack that the trampoline was entered with is as it was. -/
def KeepsIncoming (sig : Signature) (entry called : State 32) : Prop :=
  forall n, n < hostStart + hostBytes sig.params ->
    called.memory (entry.gpr .esp + BitVec.ofNat 32 n) =
      entry.memory (entry.gpr .esp + BitVec.ofNat 32 n)

/-!
# Results
-/

/-- The two result registers as one value. -/
def resultBits (c : Core 32) : Word :=
  (c.gpr .edx ++ c.gpr .eax : BitVec 64)

/-- A float is on top of the floating-point stack. -/
def HasFloat (c : Core 32) (v : X86.Extended) : Prop :=
  exists below, c.floats = v :: below

/-- What was on top of the floating-point stack at the return of a native function is there
again: it is the same number of the format, and the same value if it was a number of the
format at all. -/
def FindsFloat (f : FloatFormat) (native c : Core 32) : Prop :=
  forall v, HasFloat native v -> exists found, HasFloat c found ∧
    f.narrow native.rounding found = f.narrow native.rounding v ∧
      ((exists p, v = f.widen p) -> found = v)

/-- The managed caller finds the host form of the result that the native function left. -/
def Finds (result : Slot) (native s : State 32) : Prop :=
  match result.kind with
  | none => True
  | some kind =>
      let value := HostValue.ofNative kind result.host (resultBits native.toCore)
      match kind.register with
      | .single => FindsFloat .single native.toCore s.toCore
      | .double => FindsFloat .double native.toCore s.toCore
      | .integer =>
          match result.host with
          | .long => resultBits s.toCore = value
          | .boolean => s.gpr .eax = value.setWidth 32 ∧ (s.gpr .eax = 0 ∨ s.gpr .eax = 1)
          | _ => s.gpr .eax = value.setWidth 32

/-!
# Helpers
-/

/-- A helper has returned. It may leave anything in the other registers and on the
floating-point stack, as long as there is room for a result on it. -/
structure HelperReturned (entry called back : State 32) : Prop where
  returned : Returned called back
  keeps : KeepsFrame entry called back
  room : back.floats.length < X86.floatLimit

/-- The code goes on to call the helper, if there is one, and comes back from it. -/
def CallsHelper (image : Image 32) (helper : Option Address) (entry : State 32)
    (goal : State 32 -> Prop) (s : State 32) : Prop :=
  match helper with
  | none => Reaches (step32 image) goal s
  | some helper =>
      Reaches (step32 image) (fun called =>
        called.pc = helper.setWidth 32 ∧
          forall back, HelperReturned entry called back -> Reaches (step32 image) goal back) s

end I386
end NativeCall
