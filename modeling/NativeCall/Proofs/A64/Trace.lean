import NativeCall.Proofs.A64.Execution
import NativeCall.Proofs.Trace

/-!
# Traces of A64 code

The action of each instruction, and runs of assembled code with what they do. A pair of
registers is stored and loaded at once.
-/

namespace NativeCall
namespace A64
namespace Core

def action (c : Core) : Instr -> Action 64
  | .mov .. | .movW .. | .sxtb .. | .sxth .. | .sxtw .. | .uxtb .. | .uxth .. => .compute
  | .movz _ imm shift | .movk _ imm shift => .constant (imm.setWidth 64 <<< shift.toNat)
  | .stpPre rt rt2 base offset =>
      .store (c.base base + BitVec.ofInt 64 offset) 16 (c.x rt2 ++ c.x rt : BitVec 128)
  | .ldpPost _ _ base _ => .load (c.base base) 16
  | .addImm .. | .cmpZero .. | .cset .. => .compute
  | .str rt base offset access =>
      .store (c.address base offset) access.scale ((c.x rt).setWidth (8 * access.scale))
  | .ldr _ base offset access | .ldrs _ base offset access | .ldrFp _ base offset access =>
      .load (c.address base offset) access.scale
  | .strFp rt base offset access =>
      .store (c.address base offset) access.scale ((c.vector rt).setWidth (8 * access.scale))
  | .blr target => .call (c.x target)
  | .br target => .jump (c.x target)
  | .ret => .ret (c.x .lr)
  | .raw _ => .compute

theorem isStraight_action (c : Core) {instr : Instr} (h : instr.isStraight = true) :
    (c.action instr).isStraight = true := by
  cases instr <;> first | rfl | cases h

theorem memory_setBase (c : Core) (r : Reg) (value : Word) :
    (c.setBase r value).memory = c.memory := by
  unfold setBase
  split
  · rfl
  · exact c.memory_set r value

theorem memory_effect (c : Core) {instr : Instr} (h : instr.isStraight = true) :
    (c.effect instr).memory = (c.action instr).apply c.memory := by
  cases instr with
  | stpPre rt rt2 base offset =>
      have hpair := c.memory.write_append (c.base base + BitVec.ofInt 64 offset) (c.x rt) (c.x rt2)
        (by decide)
      rw [← c.memory_setBase base (c.base base + BitVec.ofInt 64 offset)] at hpair
      exact hpair.trans (by rw [c.memory_setBase]; rfl)
  | ldpPost rt rt2 base offset =>
      exact (memory_set _ rt2 _).trans ((memory_set _ rt _).trans (c.memory_setBase base _))
  | addImm dst src imm => exact c.memory_setBase dst _
  | str rt base offset access => rfl
  | strFp rt base offset access => rfl
  | ldrFp rt base offset access => rfl
  | cmpZero src wide => rfl
  | raw word => rfl
  | blr target => cases h
  | br target => cases h
  | ret => cases h
  | _ => exact c.memory_set _ _

theorem action_canonical (c : Core) (instr : Instr) : c.action instr.canonical = c.action instr := by
  cases instr with
  | ldrs rt base offset access => cases access <;> rfl
  | _ => rfl

def transitions (c : Core) : List Instr -> List (Transition Core 64)
  | [] => []
  | instr :: code => ⟨c, c.action instr, c.effect instr⟩ :: (c.effect instr).transitions code

theorem transitions_append (c : Core) (code rest : List Instr) :
    c.transitions (code ++ rest) = c.transitions code ++ (c.effects code).transitions rest := by
  induction code generalizing c with
  | nil => rfl
  | cons instr code ih => exact congrArg (_ :: ·) (ih _)

end Core

/-!
# Runs
-/

/-- A frame is linked to that of the caller by the frame pointer and the link register. -/
abbrev machine : Machine where
  width := 64
  core := Core
  state := State
  toCore := State.toCore
  pc := State.pc
  step := step
  action? := fun image s =>
    (decodeBytes (image.codeFrom s.pc)).map fun (instr, _) => s.toCore.action instr
  sp := Core.sp
  memory := Core.memory
  pushed := 0
  returnAddress := fun c => c.gpr .lr
  linkage := fun c => [c.gpr .fp, c.gpr .lr]

section Runs

variable {image : Image 64} {returns : State -> State -> Prop}
  {goal : machine.Trace -> State -> Prop} {s : State}

theorem Ahead.action {instr : Instr} {code : List Instr} (h : Ahead image (instr :: code) s.pc) :
    machine.action? image s = some (s.toCore.action instr) := by
  rcases InstructionSet.Ahead.decode h with ⟨rest, hdecode, _⟩
  refine (congrArg (Option.map fun (instr, _) => s.toCore.action instr) hdecode).trans ?_
  exact congrArg some (s.toCore.action_canonical instr)

theorem runs_straight {body code : List Instr} (hahead : Ahead image (body ++ code) s.pc)
    (hstraight : forall instr, instr ∈ body -> instr.isStraight = true)
    (hgoal : forall t : State, t.toCore = s.toCore.effects body -> Ahead image code t.pc ->
      machine.Runs image returns (fun trace => goal (s.toCore.transitions body ++ trace)) t) :
    machine.Runs image returns goal s := by
  induction body generalizing s goal with
  | nil => exact hgoal s rfl hahead
  | cons instr body ih =>
      have hfirst := hstraight instr List.mem_cons_self
      rcases hahead.step with ⟨next, hstep, hrest⟩
      have haction := hahead.action
      rw [s.toCore.perform_straight next hfirst] at hstep
      refine .next hstep haction (s.toCore.isStraight_action hfirst) (ih hrest ?_ ?_)
      · intro other hmem
        exact hstraight other (List.mem_cons_of_mem instr hmem)
      · intro t hcore hcode
        exact hgoal t hcore hcode

theorem runs_blr {target : Reg} {code : List Instr}
    (hahead : Ahead image (.blr target :: code) s.pc)
    (hgoal : forall (next : Word) (called back : State), called.toCore = s.toCore.set .lr next ->
      Ahead image code next -> returns called back ->
        machine.Runs image returns (fun trace => goal
          (⟨s.toCore, .call (s.toCore.x target), called.toCore⟩ ::
            ⟨called.toCore, .resume, back.toCore⟩ :: trace)) back) :
    machine.Runs image returns goal s := by
  rcases hahead.step with ⟨next, hstep, hrest⟩
  have haction := hahead.action
  refine .call hstep haction ?_
  intro back hback
  exact hgoal next _ back rfl hrest hback

theorem runs_br {target : Reg} {code : List Instr}
    (hahead : Ahead image (.br target :: code) s.pc)
    (hgoal : forall t : State, t.toCore = s.toCore -> t.pc = s.toCore.x target ->
      goal [⟨s.toCore, .jump (s.toCore.x target), t.toCore⟩] t) :
    machine.Runs image returns goal s := by
  rcases hahead.step with ⟨next, hstep, _⟩
  have haction := hahead.action
  exact .last hstep haction rfl (hgoal _ rfl rfl)

theorem runs_ret {code : List Instr} (hahead : Ahead image (.ret :: code) s.pc)
    (hgoal : forall t : State, t.toCore = s.toCore -> t.pc = s.toCore.x .lr ->
      goal [⟨s.toCore, .ret (s.toCore.x .lr), t.toCore⟩] t) :
    machine.Runs image returns goal s := by
  rcases hahead.step with ⟨next, hstep, _⟩
  have haction := hahead.action
  exact .last hstep haction rfl (hgoal _ rfl rfl)

end Runs
end A64
end NativeCall
