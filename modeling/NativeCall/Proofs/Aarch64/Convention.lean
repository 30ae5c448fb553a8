import NativeCall.Proofs.A64.Execution
import NativeCall.Proofs.BufferPath

/-!
# Calling conventions of AArch64

What a managed caller hands to a trampoline, what a native function finds in its registers,
and what holds when a call returns. A function that is called may change all registers but
the saved ones, and of the saved vector registers all but the low half.
-/

namespace NativeCall
namespace Aarch64

open A64 (Core Reg State VReg)

/-- The registers that a function gives back as it found them, besides the stack pointer. -/
def calleeSaved : List Reg :=
  [⟨19⟩, ⟨20⟩, ⟨21⟩, ⟨22⟩, ⟨23⟩, ⟨24⟩, ⟨25⟩, ⟨26⟩, ⟨27⟩, ⟨28⟩, ⟨29⟩]

/-- The vector registers whose low halves a function gives back as it found them. -/
def savedVectors : List VReg :=
  [⟨8⟩, ⟨9⟩, ⟨10⟩, ⟨11⟩, ⟨12⟩, ⟨13⟩, ⟨14⟩, ⟨15⟩]

/-- A function that was called has returned to the address in its link register. -/
structure Returned (called back : State) : Prop where
  pc : back.pc = called.gpr .lr
  sp : back.sp = called.sp
  saved : forall r, r ∈ calleeSaved -> back.gpr r = called.gpr r
  vectors : forall v, v ∈ savedVectors ->
    (back.vector v).setWidth 64 = (called.vector v).setWidth 64

/-- A function has left the frame of a trampoline as it was, that is what lies between its own
stack pointer and the one that the trampoline was entered with. -/
def KeepsFrame (entry called back : State) : Prop :=
  forall n, n < (entry.sp - called.sp).toNat ->
    back.memory (called.sp + BitVec.ofNat 64 n) = called.memory (called.sp + BitVec.ofNat 64 n)

/-!
# Arguments
-/

/-- The register of an integer argument of the native function, the first one from zero on. -/
def nativeRegister (k : Nat) : Reg :=
  ⟨BitVec.ofNat 8 k⟩

/-- The register of an integer argument of the managed caller, behind two context values. -/
def hostRegister (k : Nat) : Reg :=
  ⟨BitVec.ofNat 8 (2 + k)⟩

/-- The called function finds the integers of the trampoline's caller in their native form,
and its floats as they were. -/
structure PassesAll (sig : Signature) (entry called : State) : Prop where
  int : forall (k : Nat) (slot : Slot) (kind : ValueClass),
    sig.integerParams[k]? = some (slot, kind) ->
      called.gpr (nativeRegister k) =
        HostValue.toNative kind slot.host (entry.gpr (hostRegister k))
  float : forall k, k < 8 ->
    called.vector ⟨BitVec.ofNat 8 k⟩ = entry.vector ⟨BitVec.ofNat 8 k⟩

/-!
# Results
-/

/-- An integer value is found in the result register, as far as its host type looks. -/
def FindsInteger (host : HostType) (value : Word) (s : State) : Prop :=
  match host with
  | .long => s.gpr .x0 = value
  | .boolean => s.gpr .x0 = value ∧ (value = 0 ∨ value = 1)
  | _ => (s.gpr .x0).setWidth 32 = value.setWidth 32

/-- The managed caller finds the host form of the result that the native function left. -/
def Finds (result : Slot) (native s : State) : Prop :=
  match result.kind with
  | none => True
  | some kind =>
      match kind.register with
      | .single => (s.vector .v0).setWidth 32 = (native.vector .v0).setWidth 32
      | .double => (s.vector .v0).setWidth 64 = (native.vector .v0).setWidth 64
      | .integer =>
          FindsInteger result.host (HostValue.ofNative kind result.host (native.gpr .x0)) s

/-- The code goes on to call the helper, if there is one, and comes back from it. -/
def CallsHelper (image : Image 64) (helper : Option Address) (entry : State)
    (goal : State -> Prop) (s : State) : Prop :=
  match helper with
  | none => Reaches (A64.step image) goal s
  | some helper =>
      Reaches (A64.step image) (fun called =>
        called.pc = helper ∧
          forall back, Returned called back -> KeepsFrame entry called back ->
            Reaches (A64.step image) goal back) s

end Aarch64
end NativeCall
