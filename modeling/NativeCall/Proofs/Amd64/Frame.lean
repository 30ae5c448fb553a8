import NativeCall.Proofs.Amd64.Convention

/-!
# Frames on x86-64

The frame of a wrapped trampoline has one spill slot, at the stack pointer.
-/

namespace NativeCall
namespace Amd64

open X86 (Core Gpr KeepsFrame State)

def frameBytes (result : Slot) : Nat :=
  if result.kind.any (·.isFloat) then 24 else 8

theorem frameBytes_bounds (result : Slot) : 8 ≤ frameBytes result ∧ frameBytes result ≤ 24 := by
  unfold frameBytes
  split <;> decide

theorem frameSpace_eq (result : Slot) :
    (frameSpace result).signExtend 64 = BitVec.ofNat 64 (frameBytes result) := by
  unfold frameSpace frameBytes
  split <;> decide

theorem address_slot (c : Core 64) : c.address (stack 0) = c.gpr .rsp := by
  have hzero : (BitVec.ofNat 32 0).signExtend 64 = 0#64 := by decide
  show c.gpr .rsp + (BitVec.ofNat 32 0).signExtend 64 = c.gpr .rsp
  rw [hzero, BitVec.add_zero]

abbrev InFrame (entry : State 64) (result : Slot) (c : Core 64) : Prop :=
  X86.InFrame calleeSaved entry (frameBytes result) c

namespace InFrame

variable {entry : State 64} {result : Slot} {c : Core 64}

theorem spill (h : InFrame entry result c) {count : Nat} (value : BitVec (8 * count))
    (hcount : count ≤ 8) : InFrame entry result (c.store count (stack 0) value) := by
  rcases frameBytes_bounds result with ⟨hlow, hhigh⟩
  refine X86.InFrame.store h (n := 0) value ?_ (by omega) (by omega)
  rw [address_slot, BitVec.add_zero]

/-- A call returns into the frame, with the spill slot as it was. -/
theorem afterReturn {next : Word} {called back : State 64} (h : InFrame entry result c)
    (hcalled : called.toCore = c.push next) (hback : Returned called back)
    (hkeeps : KeepsFrame entry called back) :
    back.pc = next ∧ InFrame entry result back.toCore ∧
      back.memory.read 8 (back.gpr .rsp) = c.memory.read 8 (c.gpr .rsp) := by
  rcases frameBytes_bounds result with ⟨hlow, hhigh⟩
  have hread : forall n, n ≤ frameBytes result ->
      back.memory.read 8 (c.gpr .rsp + BitVec.ofNat 64 n) =
        called.memory.read 8 (c.gpr .rsp + BitVec.ofNat 64 n) := by
    intro n hn
    exact X86.InFrame.read_of_keepsFrame h (by omega) hcalled hkeeps (by omega)
  have hhome := hread (frameBytes result) (Nat.le_refl _)
  rw [← h.sp] at hhome
  have hsp : back.gpr .rsp = c.gpr .rsp := by
    rw [hback.sp, hcalled, ← c.gpr_rsp_eq next]
  rcases X86.InFrame.returned h (by decide) (by omega) (by decide) hcalled hback hhome with
    ⟨hnext, hframe⟩
  refine ⟨hnext, hframe, ?_⟩
  have hslot := hread 0 (Nat.zero_le _)
  rw [BitVec.add_zero] at hslot
  rw [hsp, hslot, hcalled, c.gpr_rsp_eq next]
  exact c.read_push next (by decide) (by decide) (by decide)

end InFrame
end Amd64
end NativeCall
