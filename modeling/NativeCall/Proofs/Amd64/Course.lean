import NativeCall.Proofs.Amd64.EndToEnd
import NativeCall.Proofs.X86.Course

/-!
# Courses of x86-64 trampolines

Argument moves and work on the result store nothing. The one store of a trampoline fills the
spill slot, at the bottom of a frame that has no block.
-/

namespace NativeCall
namespace Amd64

open X86 (Ahead CallsReturn Closes Core Gpr Instr KeepsFrame Opens Spills State)

abbrev machine : Machine :=
  X86.machine .bits64 64

/-- A function that was called from a trampoline has returned, and the frame is as it was. -/
def Returns (entry called back : State 64) : Prop :=
  Returned called back ∧ KeepsFrame entry called back

def layout (sig : Signature) : Layout :=
  { size := frameBytes sig.result, block := 0, slot := 0, slotSize := 8 }

theorem fits_layout (sig : Signature) : (layout sig).Fits machine := by
  rcases frameBytes_bounds sig.result with ⟨hlow, hhigh⟩
  refine ⟨Nat.zero_le _, ?_, ?_⟩
  · show 0 + 8 ≤ frameBytes sig.result
    omega
  · show frameBytes sig.result + 8 < 2 ^ 64
    omega

def resultBits (result : Slot) (c : Core 64) : Word :=
  match result.kind with
  | none => 0
  | some kind =>
      match kind.register with
      | .integer => c.gpr .rax
      | .single | .double => (c.vector .xmm0).setWidth 64

/-!
# Stretches
-/

theorem isQuiet_extendInto (dst : Gpr) (src : X86.Rm) (kind : ValueClass) (host : HostType) :
    (extendInto dst src kind host).isQuiet = true := by
  unfold extendInto
  split
  · rfl
  · split <;> rfl

theorem isQuiet_argumentMoves (sig : Signature) : forall instr,
    instr ∈ argumentMoves sig -> instr.isQuiet = true := by
  intro instr hmem
  rw [argumentMoves_eq] at hmem
  rcases List.mem_map.mp hmem with ⟨move, _, rfl⟩
  exact isQuiet_extendInto move.2.2 move.2.1 move.1.2 move.1.1.host

theorem callsReturn (entry : State 64) (sig : Signature) :
    CallsReturn .bits64 calleeSaved entry (layout sig) .r11 (Returns entry) where
  width := by decide
  pushed := by decide
  word := by decide
  ne_rsp := by decide
  not_saved := by decide
  returned := by
    intro c next called back hframe hcalled hback
    rcases InFrame.afterReturn hframe hcalled hback.left hback.right with ⟨hnext, hkept, _⟩
    exact ⟨hnext, hkept⟩

theorem opens (entry : State 64) (sig : Signature) :
    Opens .bits64 calleeSaved entry (layout sig) (argumentMoves sig ++ enter sig.result) := by
  have hquiet : forall instr, instr ∈ argumentMoves sig ++ enter sig.result ->
      instr.isQuiet = true := by
    refine List.forall_mem_append.mpr ⟨isQuiet_argumentMoves sig, ?_⟩
    intro instr hmem
    rcases List.mem_pair.mp hmem with rfl | rfl <;> rfl
  refine ⟨fun instr hmem => Instr.isStraight_of_isQuiet (hquiet instr hmem), ?_, ?_⟩
  · intro e hmem
    exact (Core.does_quiet .bits64 entry.toCore hquiet e hmem).mono
      fun _ h => Action.IsQuiet.storesIn h _ _ _
  · rw [Core.effects_append]
    exact inFrame_enter entry sig

theorem spills_spillResult (entry : State 64) {sig : Signature} {kind : ValueClass}
    (hkind : sig.result.kind = some kind) :
    Spills .bits64 calleeSaved entry (layout sig) (resultBits sig.result) [spillResult kind] where
  straight := straight_spillResult kind
  frame := fun c hframe => InFrame.spillResult hframe kind
  spills := by
    intro c hframe e hmem
    have hslot : c.address (stack 0) =
        machine.spillSlot entry.toCore (layout sig) + BitVec.ofNat 64 0 := by
      rw [address_slot, BitVec.add_zero, X86.InFrame.sp_eq_base hframe]
      exact (BitVec.add_zero _).symm
    have hlow : forall bits : BitVec 64, bits = bits.extractLsb' 0 64 := by
      intro bits
      rw [← BitVec.setWidth_eq_extractLsb' (Nat.le_refl 64), BitVec.setWidth_eq]
    rw [List.mem_singleton.mp hmem]
    refine c.does_effect .bits64 (straight_spillResult kind _ List.mem_cons_self) ?_
    unfold spillResult resultBits
    simp only [hkind]
    cases kind.register with
    | integer =>
        exact ⟨0, hslot, Nat.le_refl 8, (BitVec.setWidth_eq _).trans (hlow _)⟩
    | single =>
        refine ⟨0, hslot, (by decide : 0 + 4 ≤ 8), ?_⟩
        show (c.vector .xmm0).setWidth 32 = ((c.vector .xmm0).setWidth 64).extractLsb' 0 32
        rw [← BitVec.setWidth_eq_extractLsb' (by decide),
          BitVec.setWidth_setWidth_of_le _ (by decide)]
    | double =>
        exact ⟨0, hslot, Nat.le_refl 8, hlow _⟩

theorem closes_normalizeBoolean (entry : State 64) (sig : Signature) :
    Closes calleeSaved entry (layout sig) (normalizeBoolean sig.result) where
  quiet := by
    unfold normalizeBoolean
    split <;> simp [Instr.isQuiet]
  frame := fun c hframe => InFrame.normalizeBoolean hframe

theorem closes_reloadResult (entry : State 64) (sig : Signature) (kind : ValueClass) :
    Closes calleeSaved entry (layout sig) [reloadResult kind] where
  quiet := by
    intro instr hmem
    rw [List.mem_singleton.mp hmem, reloadResult]
    cases kind.register with
    | integer => exact isQuiet_extendInto .rax (.mem (stack 0)) kind .long
    | single => rfl
    | double => rfl
  frame := fun c hframe => InFrame.reloadResult hframe kind

theorem closes_afterCall (entry : State 64) (sig : Signature) :
    Closes calleeSaved entry (layout sig) (afterCall sig.result none) where
  quiet := by
    unfold afterCall extendResult
    cases sig.result.kind with
    | none => simp
    | some kind =>
        cases kind.isInteger <;> by_cases hwide : kind.width = .w64 <;>
          simp [hwide, isQuiet_extendInto]
  frame := fun c hframe => InFrame.afterCall hframe

/-!
# Courses
-/

section Courses

variable {image : Image 64} {sig : Signature} {target : Address} {entry : State 64}

theorem runs_direct (hahead : Ahead .bits64 image (code sig target none .direct) entry.pc) :
    machine.Runs image (Returns entry) (machine.Course entry.toCore (layout sig)
      (resultBits sig.result) (target.setWidth 64) .direct none) entry := by
  refine X86.runs_jmpAbs (by decide) (by decide) (isQuiet_argumentMoves sig) hahead ?_
  intro called opening hcalled hpc hquiet
  have hmoves := effects_moves entry.toCore (moves sig)
  rw [← argumentMoves_eq] at hmoves
  have hsp : called.gpr .rsp = entry.gpr .rsp := by
    rw [hcalled, Core.gpr_set_of_ne _ _ (by decide)]
    exact gpr_argumentMoves_of_not_mem sig entry.toCore (by decide)
  have htop : called.toCore.top = entry.toCore.top := by
    have hmemory : called.memory = entry.memory := by
      rw [hcalled, hmoves]
      rfl
    rw [Core.top, Core.top, hsp, hmemory]
  exact @Machine.Course.jump machine _ _ _ _ _ _ hquiet hsp htop rfl hpc

theorem runs_wrapped {helper : Option Address}
    (hahead : Ahead .bits64 image (code sig target helper .wrapped) entry.pc) :
    machine.Runs image (Returns entry) (machine.Course entry.toCore (layout sig)
      (resultBits sig.result) (target.setWidth 64) .wrapped (helper.map (·.setWidth 64)))
      entry := by
  have hcalls := callsReturn entry sig
  have himm := frameSpace_eq sig.result
  have hopens := opens entry sig
  have hnormal := closes_normalizeBoolean entry sig
  cases helper with
  | none =>
      refine X86.runs_wrapped hcalls himm hopens ((closes_afterCall entry sig).append hnormal) ?_
      simpa [code, enter] using hahead
  | some helper =>
      cases hkind : sig.result.kind with
      | none =>
          refine X86.runs_capture hcalls himm hopens .nil hnormal ?_
          simpa [code, enter, afterCall, hkind] using hahead
      | some kind =>
          refine X86.runs_capture hcalls himm hopens (spills_spillResult entry hkind)
            ((closes_reloadResult entry sig kind).append hnormal) ?_
          simpa [code, enter, afterCall, hkind] using hahead

end Courses
end Amd64
end NativeCall
