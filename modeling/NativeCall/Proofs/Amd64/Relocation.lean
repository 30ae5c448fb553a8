import NativeCall.Proofs.Amd64.Course
import NativeCall.Proofs.X86.Relocation

/-!
# x86-64 trampolines at two places

What follows the call of the target works in registers and in the spill slot at the bottom of
the frame.
-/

namespace NativeCall
namespace Amd64

open Machine (InStep)
open X86 (Ahead Core Gpr Instr Rm Spacious Spills State)

/-!
# Work in the frame
-/

theorem spacious (sig : Signature) : Spacious 64 (layout sig) where
  wide := by decide
  narrow := by decide
  room := by
    have hbounds := frameBytes_bounds sig.result
    show frameBytes sig.result + 2 * 8 ≤ 2 ^ 64
    omega

theorem isLocal_extendInto {dst : Gpr} {src : Rm} (hdst : (dst != .rsp) = true)
    (hsrc : src.isLocal = true) (kind : ValueClass) (host : HostType) :
    (extendInto dst src kind host).isLocal = true := by
  have hboth : (dst != .rsp && src.isLocal) = true := Bool.and_eq_true_iff.mpr ⟨hdst, hsrc⟩
  unfold extendInto
  split
  · exact hboth
  · split <;> exact hboth

theorem isLocal_spillResult (kind : ValueClass) : (spillResult kind).isLocal = true := by
  unfold spillResult
  split <;> rfl

theorem isLocal_reloadResult (kind : ValueClass) : (reloadResult kind).isLocal = true := by
  unfold reloadResult
  split
  · decide
  · decide
  · exact isLocal_extendInto (by decide) (by decide) kind .long

theorem isLocal_normalizeBoolean (result : Slot) : forall instr,
    instr ∈ normalizeBoolean result -> instr.isLocal = true := by
  unfold normalizeBoolean
  split
  · decide
  · simp

theorem isLocal_afterCall (result : Slot) : forall instr,
    instr ∈ afterCall result none -> instr.isLocal = true := by
  have hextend : forall kind instr, instr ∈ extendResult kind -> instr.isLocal = true := by
    intro kind instr hmem
    unfold extendResult at hmem
    split at hmem
    · cases hmem
    · rw [List.mem_singleton.mp hmem]
      exact isLocal_extendInto (by decide) rfl kind .long
  intro instr hmem
  unfold afterCall at hmem
  cases hkind : result.kind with
  | none => simp [hkind] at hmem
  | some kind =>
      simp only [hkind] at hmem
      split at hmem
      · exact hextend kind instr hmem
      · cases hmem

/-!
# Trampolines
-/

section Trampolines

variable {image moved : Image 64} {sig : Signature} {target : Address} {entry other : State 64}
  (hcode : moved.code = image.code) (hsame : other.toCore = entry.toCore)

include hcode hsame

theorem inStep_direct (hahead : Ahead .bits64 image (code sig target none .direct) entry.pc)
    (hmoved : Ahead .bits64 moved (code sig target none .direct) other.pc) :
    InStep machine image moved (Returns entry)
      (Core.Alike (X86.frameBottom entry (layout sig))) entry other :=
  X86.inStep_jmpAbs (by decide) hcode
    (fun instr hmem => Instr.isStraight_of_isQuiet (isQuiet_argumentMoves sig instr hmem))
    hsame hahead hmoved

theorem inStep_wrapped {helper : Option Address}
    (hahead : Ahead .bits64 image (code sig target helper .wrapped) entry.pc)
    (hmoved : Ahead .bits64 moved (code sig target helper .wrapped) other.pc) :
    InStep machine image moved (Returns entry)
      (Core.Alike (X86.frameBottom entry (layout sig))) entry other := by
  have hcalls := callsReturn entry sig
  have hspace := spacious sig
  have himm := frameSpace_eq sig.result
  have hopens := opens entry sig
  have hnormal := closes_normalizeBoolean entry sig
  have hnormalLocal := isLocal_normalizeBoolean sig.result
  cases helper with
  | none =>
      refine X86.inStep_wrapped target hcalls hspace himm hcode hopens
        ((closes_afterCall entry sig).append hnormal) ?_ hsame ?_ ?_
      · exact List.forall_mem_append.mpr ⟨isLocal_afterCall sig.result, hnormalLocal⟩
      · simpa [code, enter] using hahead
      · simpa [code, enter] using hmoved
  | some helper =>
      cases hkind : sig.result.kind with
      | none =>
          have hnone : Spills .bits64 calleeSaved entry (layout sig) (resultBits sig.result) [] :=
            .nil
          refine X86.inStep_capture target helper hcalls hspace himm hcode hopens hnone hnormal
            hnormalLocal hsame ?_ ?_
          · simpa [code, enter, afterCall, hkind] using hahead
          · simpa [code, enter, afterCall, hkind] using hmoved
      | some kind =>
          refine X86.inStep_capture target helper hcalls hspace himm hcode hopens
            (spills_spillResult entry hkind) ((closes_reloadResult entry sig kind).append hnormal)
            ?_ hsame ?_ ?_
          · simpa using ⟨isLocal_spillResult kind, isLocal_reloadResult kind, hnormalLocal⟩
          · simpa [code, enter, afterCall, hkind] using hahead
          · simpa [code, enter, afterCall, hkind] using hmoved

end Trampolines
end Amd64
end NativeCall
