import NativeCall.Proofs.I386.Course
import NativeCall.Proofs.X86.Relocation

/-!
# i386 trampolines at two places

What follows the call of the target works in registers, on the floating-point stack and in the
spill slot at the bottom of the frame.
-/

namespace NativeCall
namespace I386

open Machine (InStep)
open X86 (Ahead Core Instr Rm Size Spacious Spills State)

/-!
# Work in the frame
-/

theorem spacious {sig : Signature} (hadjust : stackAdjust sig + 4 ≤ 2 ^ 31) :
    Spacious 32 (layout sig) where
  wide := by decide
  narrow := by decide
  room := by
    show stackAdjust sig + 2 * 4 ≤ 2 ^ 32
    omega

theorem isLocal_extendNarrow {src : Rm} (hsrc : src.isLocal = true) (kind : ValueClass)
    (size : Size) : (extendNarrow src kind size).isLocal = true := by
  have hboth : (X86.Gpr.eax != .rsp && src.isLocal) = true :=
    Bool.and_eq_true_iff.mpr ⟨by decide, hsrc⟩
  unfold extendNarrow
  split <;> exact hboth

theorem isLocal_spillResult (kind : ValueClass) : forall instr,
    instr ∈ spillResult kind -> instr.isLocal = true := by
  unfold spillResult
  split
  · decide
  · decide
  · split <;> decide

theorem isLocal_reloadResult (kind : ValueClass) : forall instr,
    instr ∈ reloadResult kind -> instr.isLocal = true := by
  unfold reloadResult
  split
  · decide
  · decide
  · split
    · decide
    · intro instr hmem
      rw [List.mem_singleton.mp hmem]
      exact isLocal_extendNarrow (by decide) kind _
    · decide

theorem isLocal_hostForm (result : Slot) : forall instr,
    instr ∈ hostForm result -> instr.isLocal = true := by
  unfold hostForm normalizeBoolean widenToLong
  split
  · simp
  · split
    · split <;> decide
    · split
      · split <;> decide
      · simp

theorem isLocal_afterCall (result : Slot) : forall instr,
    instr ∈ afterCall result none -> instr.isLocal = true := by
  have hextend : forall kind instr, instr ∈ extendResult kind -> instr.isLocal = true := by
    intro kind instr hmem
    unfold extendResult at hmem
    split at hmem
    · rw [List.mem_singleton.mp hmem]
      exact isLocal_extendNarrow rfl kind _
    · cases hmem
  intro instr hmem
  unfold afterCall at hmem
  cases hkind : result.kind with
  | none => simp [hkind] at hmem
  | some kind =>
      simp only [hkind] at hmem
      split at hmem
      · exact hextend kind instr hmem
      · cases hmem

/-!
# Trampolines
-/

theorem inStep_wrapped {image moved : Image 32} {sig : Signature} {target : Address}
    {helper : Option Address} {moves : List Instr} {entry other : State 32}
    (haccepted : sig.Accepted .i386) (hadjust : stackAdjust sig + 4 ≤ 2 ^ 31)
    (hmoves : argumentMoves (stackAdjust sig : Nat) (0 : Nat) (0 : Nat) sig.params = .ok moves)
    (hcode : moved.code = image.code) (hsame : other.toCore = entry.toCore)
    (hahead : Ahead .bits32 image (codeOf sig target helper moves) entry.pc)
    (hmoved : Ahead .bits32 moved (codeOf sig target helper moves) other.pc) :
    InStep machine image moved (Returns entry)
      (Core.Alike (X86.frameBottom entry (layout sig))) entry other := by
  have hcalls := callsReturn entry hadjust
  have hspace := spacious hadjust
  have himm := signExtend_ofInt (stackAdjust sig)
  have hopens := opens entry haccepted hadjust hmoves
  have hform := @closes_of_writesResult sig entry _ (writesResult_hostForm sig.result)
  have hformLocal := isLocal_hostForm sig.result
  cases helper with
  | none =>
      have hafter := @closes_of_writesResult sig entry _
        (fun instr hmem => (plain_afterCall sig.result instr hmem).right)
      have hlocal := List.forall_mem_append.mpr ⟨isLocal_afterCall sig.result, hformLocal⟩
      have hsplit : codeOf sig target none moves = (.subImm .esp
          (BitVec.ofInt 32 (stackAdjust sig : Nat)) :: moves) ++
            (Instr.callAbs .bits32 .eax target ++
              ((afterCall sig.result none ++ hostForm sig.result) ++
                [.addImm .esp (BitVec.ofInt 32 (stackAdjust sig : Nat)), .ret])) := by
        rw [List.append_assoc]
        rfl
      rw [hsplit] at hahead hmoved
      exact X86.inStep_wrapped target hcalls hspace himm hcode hopens (hafter.append hform) hlocal hsame
        hahead hmoved
  | some helper =>
      cases hkind : sig.result.kind with
      | none =>
          have hafter : afterCall sig.result (some helper) = Instr.callAbs .bits32 .eax helper := by
            simp only [afterCall, hkind]
          rw [codeOf, hafter] at hahead hmoved
          have hnone : Spills .bits32 calleeSaved entry (layout sig) (storedBits sig.result) [] :=
            .nil
          exact X86.inStep_capture target helper hcalls hspace himm hcode hopens hnone hform
            hformLocal hsame hahead hmoved
      | some kind =>
          have hreload := @closes_of_writesResult sig entry _ (writesResult_reloadResult kind)
          have hlocal := List.forall_mem_append.mpr ⟨isLocal_spillResult kind,
            List.forall_mem_append.mpr ⟨isLocal_reloadResult kind, hformLocal⟩⟩
          have hsplit : codeOf sig target (some helper) moves = (.subImm .esp
              (BitVec.ofInt 32 (stackAdjust sig : Nat)) :: moves) ++
                (Instr.callAbs .bits32 .eax target ++ (spillResult kind ++
                  (Instr.callAbs .bits32 .eax helper ++
                    ((reloadResult kind ++ hostForm sig.result) ++
                      [.addImm .esp (BitVec.ofInt 32 (stackAdjust sig : Nat)), .ret])))) := by
            simp only [codeOf, afterCall, hkind, List.append_assoc]
          rw [hsplit] at hahead hmoved
          exact X86.inStep_capture target helper hcalls hspace himm hcode hopens
            (spills_spillResult entry hadjust hkind) (hreload.append hform) hlocal hsame hahead
            hmoved

end I386
end NativeCall
