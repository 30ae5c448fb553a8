import NativeCall.Proofs.BufferPath
import NativeCall.Proofs.X86.Frame

/-!
# Calling conventions of x86-64

What a managed caller hands to a trampoline, what a native function finds in its registers,
and what holds when a call returns. A function that is called may change all registers but
the saved ones.
-/

namespace NativeCall
namespace Amd64

open X86 (Gpr KeepsFrame State step64)

/-- The registers that a function gives back as it found them, besides the stack pointer. -/
def calleeSaved : List Gpr :=
  [⟨3⟩, ⟨5⟩, ⟨12⟩, ⟨13⟩, ⟨14⟩, ⟨15⟩]

abbrev Returned (called back : State 64) : Prop :=
  X86.Returned calleeSaved called back

/-!
# The managed caller
-/

/-- The words in which the managed caller passes integers, behind two context values. -/
def hostIntegers (entry : State 64) : List Word :=
  [entry.gpr .rdx, entry.gpr .rcx, entry.gpr .r8, entry.gpr .r9,
   entry.memory.read 8 (entry.gpr .rsp + 8), entry.memory.read 8 (entry.gpr .rsp + 16)]

/-- The managed caller passes these arguments. What a slot of four bytes or a float does not
fill of its register may be anything. -/
structure Hosts (sig : Signature) (args : List Word) (entry : State 64) : Prop where
  int : forall (i : Nat) (word : Word) (slot : Slot) (kind : ValueClass) (arg : Word),
    (hostIntegers entry)[i]? = some word ->
      (sig.integerPairs args)[i]? = some (slot, kind, arg) -> HostValue.Holds slot.host word arg
  float : forall (i : Nat) (slot : Slot) (kind : ValueClass) (arg : Word),
    (sig.floatPairs args)[i]? = some (slot, kind, arg) ->
      (entry.vector ⟨BitVec.ofNat 8 i⟩).setWidth kind.width.bits = arg.setWidth kind.width.bits

/-- The managed caller finds a value where it expects a result of its type. -/
def Finds (s : State 64) (host : HostType) (value : Word) : Prop :=
  match host with
  | .void => True
  | .boolean => s.gpr .rax = value ∧ (value = 0 ∨ value = 1)
  | .byte | .short | .char | .int => (s.gpr .rax).setWidth 32 = value.setWidth 32
  | .long => s.gpr .rax = value
  | .float => (s.vector .xmm0).setWidth 32 = value.setWidth 32
  | .double => (s.vector .xmm0).setWidth 64 = value

/-!
# The native function
-/

/-- The argument registers of a native function. -/
def argumentRegisters (called : State 64) : Registers where
  int := fun i =>
    match i with
    | 0 => called.gpr .rdi
    | 1 => called.gpr .rsi
    | 2 => called.gpr .rdx
    | 3 => called.gpr .rcx
    | 4 => called.gpr .r8
    | 5 => called.gpr .r9
  float := fun i => (called.vector ⟨BitVec.ofNat 8 i.val⟩).setWidth 64

/-- A native function answers in the result register of the class. -/
def Answers (back : State 64) (result : Slot) (bits : Word) : Prop :=
  match result.kind with
  | none => True
  | some kind =>
      match kind.register with
      | .integer => back.gpr .rax = bits
      | .single => (back.vector .xmm0).setWidth 32 = bits.setWidth 32
      | .double => (back.vector .xmm0).setWidth 64 = bits

/-!
# Calls
-/

/-- The code goes on to call the helper, if there is one, and comes back from it. -/
def CallsHelper (image : Image 64) (helper : Option Address) (entry : State 64)
    (goal : State 64 -> Prop) (s : State 64) : Prop :=
  match helper with
  | none => Reaches (step64 image) goal s
  | some helper =>
      Reaches (step64 image) (fun called =>
        called.pc = helper ∧
          forall back, Returned called back -> KeepsFrame entry called back ->
            Reaches (step64 image) goal back) s

end Amd64
end NativeCall
