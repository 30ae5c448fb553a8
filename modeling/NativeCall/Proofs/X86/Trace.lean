import NativeCall.Proofs.Trace
import NativeCall.Proofs.X86.Frame

/-!
# Traces of x86 code

The action of each instruction, and runs of assembled code with what they do.
-/

namespace NativeCall
namespace X86

namespace Core

variable {w : Nat}

def readAction (c : Core w) (size : Size) : Rm -> Action w
  | .reg _ => .compute
  | .mem place => .load (c.address place) size.bytes

/-- The top of the floating-point stack in a format, as it is stored. -/
def packTop (c : Core w) (size : Size) : BitVec (8 * size.bytes) :=
  ((stackFormat size).narrow c.rounding (c.floats.headD Extended.indefinite)).pack (8 * size.bytes)

def action (c : Core w) : Instr -> Action w
  | .movsx _ src size | .movzx _ src size | .mov _ src size => c.readAction size src
  | .store dst src size => .store (c.address dst) size.bytes (c.low src size)
  | .movImm _ imm size => .constant ((imm.setWidth (8 * size.bytes)).setWidth w)
  | .addImm .. | .subImm .. | .xor .. | .or .. | .test .. | .sar .. | .setne _ => .compute
  | .movssStore dst src => .store (c.address dst) 4 ((c.vector src).setWidth 32)
  | .movsdStore dst src => .store (c.address dst) 8 ((c.vector src).setWidth 64)
  | .movssLoad _ src => .load (c.address src) 4
  | .movsdLoad _ src => .load (c.address src) 8
  | .fstp dst size => .store (c.address dst) size.bytes (c.packTop size)
  | .fld src size => .load (c.address src) size.bytes
  | .call target => .call (c.gpr target)
  | .jmp target => .jump (c.gpr target)
  | .ret => .ret c.top

def operationAction (c : Core w) : Operation -> Action w
  | .plain instr => c.action instr
  | .movsxHigh .. | .movzxHigh .. | .setneHigh .. => .compute

theorem isStraight_readAction (c : Core w) (size : Size) (rm : Rm) :
    (c.readAction size rm).isStraight = true := by
  cases rm <;> rfl

theorem isStraight_action (c : Core w) {instr : Instr} (h : instr.isStraight = true) :
    (c.action instr).isStraight = true := by
  cases instr with
  | movsx dst src size => exact c.isStraight_readAction size src
  | movzx dst src size => exact c.isStraight_readAction size src
  | mov dst src size => exact c.isStraight_readAction size src
  | call target => cases h
  | jmp target => cases h
  | ret => cases h
  | _ => rfl

theorem apply_readAction (c : Core w) (size : Size) (rm : Rm) (m : Memory w) :
    (c.readAction size rm).apply m = m := by
  cases rm <;> rfl

theorem memory_effect (c : Core w) {instr : Instr} (h : instr.isStraight = true) :
    (c.effect instr).memory = (c.action instr).apply c.memory := by
  cases instr with
  | movsx dst src size => exact (c.apply_readAction size src _).symm
  | movzx dst src size => exact (c.apply_readAction size src _).symm
  | mov dst src size => exact (c.apply_readAction size src _).symm
  | sar dst count size =>
      simp only [effect]
      generalize count.toNat % (if size = .qword then 64 else 32) = steps
      by_cases hsteps : steps = 0
      · rw [if_pos hsteps]
        rfl
      · rw [if_neg hsteps]
        rfl
  | call target => cases h
  | jmp target => cases h
  | ret => cases h
  | _ => rfl

theorem action_canonical (c : Core w) (instr : Instr) :
    c.action instr.canonical = c.action instr := by
  cases instr with
  | movsx dst src size => cases size <;> rfl
  | movzx dst src size => cases size <;> rfl
  | movImm dst imm size =>
      cases size with
      | dword =>
          have hlow : ((imm.setWidth 32).setWidth 64).setWidth 32 = imm.setWidth 32 := by
            exact BitVec.setWidth_setWidth_of_le _ (by decide)
          exact congrArg (fun low => Action.constant (BitVec.setWidth w low)) hlow
      | _ => rfl
  | _ => rfl

def transitions (c : Core w) : List Instr -> List (Transition (Core w) w)
  | [] => []
  | instr :: code => ⟨c, c.action instr, c.effect instr⟩ :: (c.effect instr).transitions code

end Core

/-!
# Runs
-/

abbrev machine (mode : Mode) (w : Nat) : Machine where
  width := w
  core := Core w
  state := State w
  toCore := State.toCore
  pc := State.pc
  step := step mode
  action? := fun image s =>
    (decode mode (image.codeFrom s.pc)).map fun (operation, _) => s.toCore.operationAction operation
  sp := fun c => c.gpr .rsp
  memory := Core.memory
  pushed := w / 8
  returnAddress := Core.top
  linkage := fun _ => []

section Runs

variable {w : Nat} {mode : Mode} {image : Image w} {returns : State w -> State w -> Prop}
  {goal : (machine mode w).Trace -> State w -> Prop} {s : State w}

theorem Ahead.action {instr : Instr} {code : List Instr}
    (h : Ahead mode image (instr :: code) s.pc) :
    (machine mode w).action? image s = some (s.toCore.action instr) := by
  rcases InstructionSet.Ahead.decode h with ⟨rest, hdecode, _⟩
  refine (congrArg (Option.map fun (operation, _) =>
    s.toCore.operationAction operation) hdecode).trans ?_
  exact congrArg some (s.toCore.action_canonical instr)

theorem runs_straight (hw : w ≤ 64) {body code : List Instr}
    (hahead : Ahead mode image (body ++ code) s.pc)
    (hstraight : forall instr, instr ∈ body -> instr.isStraight = true)
    (hgoal : forall t : State w, t.toCore = s.toCore.effects body -> Ahead mode image code t.pc ->
      (machine mode w).Runs image returns (fun trace => goal (s.toCore.transitions body ++ trace)) t) :
    (machine mode w).Runs image returns goal s := by
  induction body generalizing s goal with
  | nil => exact hgoal s rfl hahead
  | cons instr body ih =>
      have hfirst := hstraight instr List.mem_cons_self
      rcases hahead.step with ⟨next, hstep, hrest⟩
      have haction := hahead.action
      rw [s.toCore.perform_straight next hw hfirst] at hstep
      refine .next hstep haction (s.toCore.isStraight_action hfirst) (ih hrest ?_ ?_)
      · intro other hmem
        exact hstraight other (List.mem_cons_of_mem instr hmem)
      · intro t hcore hcode
        exact hgoal t hcore hcode

theorem runs_call {target : Gpr} {code : List Instr}
    (hahead : Ahead mode image (.call target :: code) s.pc)
    (hgoal : forall (next : BitVec w) (called back : State w),
      called.toCore = s.toCore.push next -> Ahead mode image code next -> returns called back ->
        (machine mode w).Runs image returns (fun trace => goal
          (⟨s.toCore, .call (s.gpr target), called.toCore⟩ ::
            ⟨called.toCore, .resume, back.toCore⟩ :: trace)) back) :
    (machine mode w).Runs image returns goal s := by
  rcases hahead.step with ⟨next, hstep, hrest⟩
  have haction := hahead.action
  refine .call hstep haction ?_
  intro back hback
  exact hgoal next _ back rfl hrest hback

theorem runs_jmp {target : Gpr} {code : List Instr}
    (hahead : Ahead mode image (.jmp target :: code) s.pc)
    (hgoal : forall t : State w, t.toCore = s.toCore -> t.pc = s.gpr target ->
      goal [⟨s.toCore, .jump (s.gpr target), t.toCore⟩] t) :
    (machine mode w).Runs image returns goal s := by
  rcases hahead.step with ⟨next, hstep, _⟩
  have haction := hahead.action
  exact .last hstep haction rfl (hgoal _ rfl rfl)

theorem runs_ret {code : List Instr} (hahead : Ahead mode image (.ret :: code) s.pc)
    (hgoal : forall t : State w, t.toCore = s.toCore.drop -> t.pc = s.toCore.top ->
      goal [⟨s.toCore, .ret s.toCore.top, t.toCore⟩] t) :
    (machine mode w).Runs image returns goal s := by
  rcases hahead.step with ⟨next, hstep, _⟩
  have haction := hahead.action
  exact .last hstep haction rfl (hgoal _ rfl rfl)

end Runs
end X86
end NativeCall
