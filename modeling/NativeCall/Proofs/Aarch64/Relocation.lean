import NativeCall.Proofs.A64.Relocation
import NativeCall.Proofs.Aarch64.Course

/-!
# AArch64 trampolines at two places

Between the call of the target and the way out of the frame nothing names the link register,
and the way out loads it from the frame.
-/

namespace NativeCall
namespace Aarch64

open A64 (Ahead Core Instr Reg State machine)
open Machine (InStep)

/-!
# Work in the frame
-/

theorem avoidsLink_extendInto (kind : ValueClass) (host : HostType) : forall instr,
    instr ∈ extendInto .x0 .x0 kind host -> instr.avoidsLink = true := by
  unfold extendInto
  split
  case h_7 =>
    split
    · decide
    · split <;> decide
  all_goals decide

theorem avoidsLink_spillResult (kind : ValueClass) : (spillResult kind).avoidsLink = true := by
  unfold spillResult
  split <;> decide

theorem avoidsLink_reloadResult (kind : ValueClass) : (reloadResult kind).avoidsLink = true := by
  unfold reloadResult
  split
  · rfl
  · rfl
  · split <;> rfl

theorem avoidsLink_normalizeBoolean (result : Slot) : forall instr,
    instr ∈ normalizeBoolean result -> instr.avoidsLink = true := by
  unfold normalizeBoolean
  split
  · split
    · simp only [List.forall_mem_cons]
      exact ⟨rfl, rfl, by simp⟩
    · simp
  · simp

theorem avoidsLink_afterCall (result : Slot) : forall instr,
    instr ∈ afterCall result none -> instr.avoidsLink = true := by
  intro instr hmem
  unfold afterCall at hmem
  cases hkind : result.kind with
  | none => simp [hkind] at hmem
  | some kind =>
      simp only [hkind] at hmem
      split at hmem
      · exact avoidsLink_extendInto kind .long instr hmem
      · cases hmem

/-!
# Stretches of code
-/

section Stretches

variable {entry s other : State} {image moved : Image 64} {returns : State -> State -> Prop}

theorem InFrame.of_alike {c alike : Core} (h : InFrame entry c) (halike : c.Alike alike) :
    InFrame entry alike := by
  rcases halike with ⟨address, rfl⟩
  refine h.congr ?_ rfl rfl fun _ _ => rfl
  intro r hmem
  refine c.gpr_link address ?_
  exact ne_of_mem_of_not_mem hmem (by decide)

/-- Until the first call, the cores are the same. -/
theorem inStep_opening {opening rest : List Instr} (hcode : moved.code = image.code)
    (hstraight : forall instr, instr ∈ opening -> instr.isStraight = true)
    (hsame : other.toCore = s.toCore) (hahead : Ahead image (opening ++ rest) s.pc)
    (hmoved : Ahead moved (opening ++ rest) other.pc)
    (hgoal : forall t place : State, t.toCore = s.toCore.effects opening ->
      place.toCore = t.toCore -> Ahead image rest t.pc -> Ahead moved rest place.pc ->
        InStep machine image moved returns Core.Alike t place) :
    InStep machine image moved returns Core.Alike s other := by
  refine A64.performs.inStep hcode (fun c alike => alike = c) ?_ hstraight ?_ hahead hmoved
    hsame (fun t place hcore _ => hgoal t place hcore)
  · intro c alike heq
    rw [heq]
    exact Core.Alike.refl c
  · intro instr _ c alike heq
    rw [heq]
    exact ⟨rfl, rfl⟩

theorem inStep_avoids {body rest : List Instr} (hcode : moved.code = image.code)
    (havoids : forall instr, instr ∈ body -> instr.avoidsLink = true)
    (halike : s.toCore.Alike other.toCore) (hahead : Ahead image (body ++ rest) s.pc)
    (hmoved : Ahead moved (body ++ rest) other.pc)
    (hgoal : forall t place : State, t.toCore = s.toCore.effects body ->
      t.toCore.Alike place.toCore -> Ahead image rest t.pc -> Ahead moved rest place.pc ->
        InStep machine image moved returns Core.Alike t place) :
    InStep machine image moved returns Core.Alike s other :=
  A64.performs.inStep hcode Core.Alike (fun _ _ halike => halike)
    (fun instr hmem => Instr.isStraight_of_avoidsLink (havoids instr hmem))
    (fun instr hmem _ _ halike => halike.effect (havoids instr hmem)) hahead hmoved halike
    (fun t place hcore _ => hgoal t place hcore)

theorem inStep_callAbs {rest : List Instr} {address : Address} (hcode : moved.code = image.code)
    (hframe : InFrame entry s.toCore) (halike : s.toCore.Alike other.toCore)
    (hahead : Ahead image (callAbs address ++ rest) s.pc)
    (hmoved : Ahead moved (callAbs address ++ rest) other.pc)
    (hgoal : forall back resumed : State, InFrame entry back.toCore ->
      back.toCore.Alike resumed.toCore -> Ahead image rest back.pc -> Ahead moved rest resumed.pc ->
        InStep machine image moved (Returns entry) Core.Alike back resumed) :
    InStep machine image moved (Returns entry) Core.Alike s other := by
  have havoids : forall instr, instr ∈ Instr.movImm64 .x9 address -> instr.avoidsLink = true := by
    simp [Instr.movImm64, Instr.avoidsLink]
    decide
  rw [callAbs, List.append_assoc] at hahead hmoved
  refine inStep_avoids hcode havoids halike hahead hmoved ?_
  intro t place hcore hkept hcall hmovedCall
  have hloaded : InFrame entry t.toCore := by
    rw [hcore, A64.effects_movImm64 _ _ (by decide)]
    exact hframe.set _ (by decide)
  rcases Ahead.step hcall with ⟨next, hstep, hrest⟩
  rcases Ahead.step hmovedCall with ⟨follow, hother, hfollow⟩
  have hsame := Ahead.action hmovedCall
  have htarget : place.toCore.x .x9 = t.toCore.x .x9 := hkept.x_eq (by decide)
  have haction : place.toCore.action (.blr .x9) = .call (t.toCore.x .x9) :=
    congrArg Action.call htarget
  rw [haction] at hsame
  refine .call (hcall.offset_eq hcode hmovedCall) hstep hother (Ahead.action hcall) hsame htarget
    (hkept.set_lr next follow) ?_
  intro back resumed hback hresumed hbacks
  rcases hloaded.afterReturn rfl hback.left hback.right with ⟨hnext, hreturned, _⟩
  rcases (hloaded.of_alike hkept).afterReturn rfl hresumed.left hresumed.right with ⟨hplace, _⟩
  rw [← hnext] at hrest
  rw [← hplace] at hfollow
  exact hgoal back resumed hreturned hbacks hrest hfollow

/-- Work in the frame that ends with the way out of it, on which the link register is loaded. -/
theorem inStep_leave {body : List Instr} (hcode : moved.code = image.code)
    (havoids : forall instr, instr ∈ body -> instr.avoidsLink = true)
    (halike : s.toCore.Alike other.toCore)
    (hahead : Ahead image (body ++ [.ldpPost .fp .lr .sp frameSize, .ret]) s.pc)
    (hmoved : Ahead moved (body ++ [.ldpPost .fp .lr .sp frameSize, .ret]) other.pc) :
    InStep machine image moved returns Core.Alike s other := by
  refine inStep_avoids hcode havoids halike hahead hmoved ?_
  intro t place hcore hkept hleave hmovedLeave
  have hload : forall c alike : Core, c.Alike alike ->
      alike.effect (.ldpPost .fp .lr .sp frameSize) =
        c.effect (.ldpPost .fp .lr .sp frameSize) := by
    intro c alike halike
    rcases halike with ⟨address, rfl⟩
    exact c.effect_ldpPost_link address frameSize
  have hsplit : ([.ldpPost .fp .lr .sp frameSize, .ret] : List Instr) =
      [.ldpPost .fp .lr .sp frameSize] ++ [.ret] := rfl
  rw [hsplit] at hleave hmovedLeave
  refine A64.performs.inStep hcode Core.Alike (fun _ _ halike => halike) ?_ ?_ hleave hmovedLeave
    hkept ?_
  · intro instr hmem
    rw [List.mem_singleton.mp hmem]
    rfl
  · intro instr hmem c alike h
    rw [List.mem_singleton.mp hmem, hload c alike h]
    refine ⟨Core.Alike.refl _, ?_⟩
    rcases h with ⟨address, rfl⟩
    rfl
  intro last follow hlast hfollow _ hret hmovedRet
  have heq : follow.toCore = last.toCore := hfollow.trans ((hload _ _ hkept).trans hlast.symm)
  rcases Ahead.step hret with ⟨_, hstep, _⟩
  rcases Ahead.step hmovedRet with ⟨_, hother, _⟩
  have hsame := Ahead.action hmovedRet
  rw [heq] at hsame hother
  exact .last (hret.offset_eq hcode hmovedRet) hstep hother (Ahead.action hret) hsame rfl rfl
    (Core.Alike.refl _)

end Stretches

/-!
# Trampolines
-/

section Trampolines

variable {image moved : Image 64} {sig : Signature} {target : Address} {entry other : State}
  (hcount : sig.integerCount ≤ 6) (hcode : moved.code = image.code)
  (hsame : other.toCore = entry.toCore)

include hcount hcode hsame

theorem inStep_direct (hahead : Ahead image (code sig target none .direct) entry.pc)
    (hmoved : Ahead moved (code sig target none .direct) other.pc) :
    InStep machine image moved (Returns entry) Core.Alike entry other := by
  have hsplit : code sig target none .direct =
      (argumentMoves sig ++ Instr.movImm64 .x9 target) ++ [.br .x9] := by
    simp [code, jumpAbs]
  rw [hsplit] at hahead hmoved
  refine inStep_opening hcode ?_ hsame hahead hmoved ?_
  · exact List.forall_mem_append.mpr
      ⟨fun instr h => (isPlain_argumentMoves hcount instr h).straight, straight_movImm64 .x9 target⟩
  intro t place _ heq hjump hmovedJump
  rcases hjump.step with ⟨_, hstep, _⟩
  rcases hmovedJump.step with ⟨_, hother, _⟩
  have haction := hmovedJump.action
  rw [heq] at haction hother
  exact .last (hjump.offset_eq hcode hmovedJump) hstep hother hjump.action haction rfl rfl
    (Core.Alike.refl _)

theorem inStep_target {rest : List Instr}
    (hahead : Ahead image ((enter ++ argumentMoves sig) ++ (callAbs target ++ rest)) entry.pc)
    (hmoved : Ahead moved ((enter ++ argumentMoves sig) ++ (callAbs target ++ rest)) other.pc)
    (hgoal : forall back resumed : State, InFrame entry back.toCore ->
      back.toCore.Alike resumed.toCore -> Ahead image rest back.pc -> Ahead moved rest resumed.pc ->
        InStep machine image moved (Returns entry) Core.Alike back resumed) :
    InStep machine image moved (Returns entry) Core.Alike entry other := by
  refine inStep_opening hcode (straight_opening hcount) hsame hahead hmoved ?_
  intro t place hopened heq hcall hmovedCall
  have hframe : InFrame entry t.toCore := by
    rw [hopened]
    exact inFrame_opening hcount entry
  refine inStep_callAbs hcode hframe ?_ hcall hmovedCall hgoal
  rw [heq]
  exact Core.Alike.refl _

/-- A trampoline that calls its target from a frame, and then the helper. -/
theorem inStep_capture {spill closing : List Instr} (target helper : Address)
    (hspills : Spills entry (resultBits sig.result) spill)
    (hspill : forall instr, instr ∈ spill -> instr.avoidsLink = true)
    (hclosing : forall instr, instr ∈ closing -> instr.avoidsLink = true)
    (hahead : Ahead image ((enter ++ argumentMoves sig) ++ (callAbs target ++ (spill ++
      (callAbs helper ++ (closing ++ [.ldpPost .fp .lr .sp frameSize, .ret]))))) entry.pc)
    (hmoved : Ahead moved ((enter ++ argumentMoves sig) ++ (callAbs target ++ (spill ++
      (callAbs helper ++ (closing ++ [.ldpPost .fp .lr .sp frameSize, .ret]))))) other.pc) :
    InStep machine image moved (Returns entry) Core.Alike entry other := by
  refine inStep_target hcount hcode hsame hahead hmoved ?_
  intro native resumed hnative halike hrest hmovedRest
  refine inStep_avoids hcode hspill halike hrest hmovedRest ?_
  intro kept follow hspilled hkept hhelper hmovedHelper
  have hkeptFrame : InFrame entry kept.toCore := by
    rw [hspilled]
    exact hspills.frame _ hnative
  refine inStep_callAbs hcode hkeptFrame hkept hhelper hmovedHelper ?_
  intro back last _ hbacks hend hmovedEnd
  exact inStep_leave hcode hclosing hbacks hend hmovedEnd

theorem inStep_wrapped {helper : Option Address}
    (hahead : Ahead image (code sig target helper .wrapped) entry.pc)
    (hmoved : Ahead moved (code sig target helper .wrapped) other.pc) :
    InStep machine image moved (Returns entry) Core.Alike entry other := by
  have hnormal := avoidsLink_normalizeBoolean sig.result
  have hsplit : code sig target helper .wrapped =
      (enter ++ argumentMoves sig) ++ (callAbs target ++ (afterCall sig.result helper ++
        (normalizeBoolean sig.result ++ [.ldpPost .fp .lr .sp frameSize, .ret]))) := by
    simp [code, enter]
  rw [hsplit] at hahead hmoved
  cases helper with
  | none =>
      refine inStep_target hcount hcode hsame hahead hmoved ?_
      intro native resumed _ halike hrest hmovedRest
      -- Nothing is left to call, so all that follows is on the way back.
      rw [← List.append_assoc] at hrest hmovedRest
      exact inStep_leave hcode (List.forall_mem_append.mpr
        ⟨avoidsLink_afterCall sig.result, hnormal⟩) halike hrest hmovedRest
  | some helper =>
      cases hkind : sig.result.kind with
      | none =>
          -- There is no result to keep over the call of the helper.
          refine inStep_capture hcount hcode hsame target helper .nil (by simp) hnormal ?_ ?_
          · simpa [afterCall, hkind] using hahead
          · simpa [afterCall, hkind] using hmoved
      | some kind =>
          have hspill : forall instr, instr ∈ [spillResult kind] -> instr.avoidsLink = true :=
            List.forall_mem_singleton.mpr (avoidsLink_spillResult kind)
          have hclosing : forall instr, instr ∈ [reloadResult kind] ++ normalizeBoolean sig.result ->
              instr.avoidsLink = true :=
            List.forall_mem_append.mpr
              ⟨List.forall_mem_singleton.mpr (avoidsLink_reloadResult kind), hnormal⟩
          refine inStep_capture hcount hcode hsame target helper (spills_spillResult entry hkind)
            hspill hclosing ?_ ?_
          · simpa [afterCall, hkind] using hahead
          · simpa [afterCall, hkind] using hmoved

end Trampolines
end Aarch64
end NativeCall
