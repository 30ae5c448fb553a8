import NativeCall.Proofs.Course
import NativeCall.Proofs.X86.Trace

/-!
# Courses of x86 trampolines

The stretches that x86 trampolines are made of: instructions that store nothing, calls of
absolute addresses from a frame, and the way out of it.
-/

namespace NativeCall
namespace X86

open Machine (Calls Leaves)

def Instr.isQuiet : Instr -> Bool
  | .call _ | .jmp _ | .ret => false
  | .store .. | .movssStore .. | .movsdStore .. | .fstp .. => false
  | _ => true

theorem Instr.isStraight_of_isQuiet {instr : Instr} (h : instr.isQuiet = true) :
    instr.isStraight = true := by
  cases instr <;> first | rfl | cases h

variable {w : Nat} {mode : Mode}

namespace Core

theorem isQuiet_action (c : Core w) {instr : Instr} (h : instr.isQuiet = true) :
    (c.action instr).IsQuiet := by
  have hread : forall size rm, (c.readAction size rm).IsQuiet := by
    intro size rm
    cases rm <;> rfl
  cases instr with
  | movsx dst src size => exact hread size src
  | movzx dst src size => exact hread size src
  | mov dst src size => exact hread size src
  | store dst src size => cases h
  | movssStore dst src => cases h
  | movsdStore dst src => cases h
  | fstp dst size => cases h
  | _ => rfl

theorem does_effect (mode : Mode) (c : Core w) {instr : Instr} {allowed : Action w -> Prop}
    (h : instr.isStraight = true) (hallowed : allowed (c.action instr)) :
    (machine mode w).Does allowed ⟨c, c.action instr, c.effect instr⟩ :=
  ⟨c.isStraight_action h, hallowed, c.memory_effect h⟩

theorem does_quiet (mode : Mode) (c : Core w) {code : List Instr}
    (h : forall instr, instr ∈ code -> instr.isQuiet = true) : forall e, e ∈ c.transitions code ->
      (machine mode w).Does Action.IsQuiet e := by
  induction code generalizing c with
  | nil =>
      intro e hmem
      cases hmem
  | cons instr code ih =>
      have hquiet := h instr List.mem_cons_self
      intro e hmem
      rcases List.mem_cons.mp hmem with rfl | hrest
      · exact does_effect mode c (Instr.isStraight_of_isQuiet hquiet) (c.isQuiet_action hquiet)
      · exact ih _ (fun other hother => h other (List.mem_cons_of_mem instr hother)) e hrest

theorem transitions_append (c : Core w) (code rest : List Instr) :
    c.transitions (code ++ rest) = c.transitions code ++ (c.effects code).transitions rest := by
  induction code generalizing c with
  | nil => rfl
  | cons instr code ih => exact congrArg (_ :: ·) (ih _)

end Core

/-!
# Calls from a frame
-/

section Frames

variable {saved : List Gpr} {entry : State w} {space : Nat} {layout : Layout}

theorem InFrame.sp_eq_base {c : Core w} (h : InFrame saved entry layout.size c) :
    c.gpr .rsp = (machine mode w).base entry.toCore layout := by
  have hbase : (machine mode w).base entry.toCore layout =
      entry.gpr .rsp - BitVec.ofNat w layout.size := rfl
  rw [hbase, h.sp, BitVec.add_sub_cancel]

theorem calls_push {c : Core w} {next : BitVec w} (target : BitVec w) (native : Core w)
    (h : InFrame saved entry layout.size c) (hsize : w / 8 < 2 ^ w) :
    (machine mode w).Calls entry.toCore layout target native
      [⟨c, .call target, c.push next⟩, ⟨c.push next, .resume, native⟩] := by
  refine @Calls.intro (machine mode w) entry.toCore layout target native c (c.push next)
    h.sp_eq_base ?_
  intro n hn
  have hpushed : n + w / 8 < 2 ^ w := hn
  have hplace : (machine mode w).base entry.toCore layout + BitVec.ofNat w n =
      (c.push next).gpr .rsp + BitVec.ofNat w (w / 8 + n) := by
    rw [← h.sp_eq_base, c.gpr_rsp_eq next, Memory.offset_add]
  have hread := @Core.read_push w c next (w / 8 + n) 1 (Nat.le_of_lt hsize)
    (Nat.le_add_right _ _) (by omega)
  rw [← hplace] at hread
  exact Memory.byte_congr hread

/-- Calls through a scratch register return into the frame. -/
structure CallsReturn (mode : Mode) (saved : List Gpr) (entry : State w) (layout : Layout)
    (scratch : Gpr) (returns : State w -> State w -> Prop) : Prop where
  width : w ≤ 64
  pushed : w / 8 < 2 ^ w
  word : w ≤ 8 * mode.wordSize.bytes
  ne_rsp : scratch ≠ .rsp
  not_saved : scratch ∉ saved
  returned : forall (c : Core w) (next : BitVec w) (called back : State w),
    InFrame saved entry layout.size c -> called.toCore = c.push next -> returns called back ->
      back.pc = next ∧ InFrame saved entry layout.size back.toCore

variable {image : Image w} {returns : State w -> State w -> Prop}
  {goal : (machine mode w).Trace -> State w -> Prop} {s : State w} {scratch : Gpr}

/-- Straight code that ends with the call of an absolute address, and the return to what
follows it. -/
theorem runs_callAbs {body rest : List Instr} {address : Address}
    (hcalls : CallsReturn mode saved entry layout scratch returns)
    (hbody : forall instr, instr ∈ body -> instr.isStraight = true)
    (hframe : InFrame saved entry layout.size (s.toCore.effects body))
    (hahead : Ahead mode image (body ++ (Instr.callAbs mode scratch address ++ rest)) s.pc)
    (hgoal : forall (back : State w) (call : (machine mode w).Trace),
      (machine mode w).Calls entry.toCore layout (address.setWidth w) back.toCore call ->
        InFrame saved entry layout.size back.toCore -> Ahead mode image rest back.pc ->
          (machine mode w).Runs image returns (fun trace => goal
            (s.toCore.transitions body ++
              ((s.toCore.effects body).transitions [.movImm scratch address mode.wordSize] ++
                (call ++ trace)))) back) :
    (machine mode w).Runs image returns goal s := by
  have hsplit : body ++ (Instr.callAbs mode scratch address ++ rest) =
      (body ++ [.movImm scratch address mode.wordSize]) ++ (.call scratch :: rest) := by
    simp [Instr.callAbs]
  rw [hsplit] at hahead
  refine runs_straight hcalls.width hahead ?_ ?_
  · intro instr hmem
    rcases List.mem_append.mp hmem with hbodyMem | hload
    · exact hbody instr hbodyMem
    · rw [List.mem_singleton.mp hload]
      rfl
  intro t hcore hcode
  rw [Core.effects_append, effects_loadScratch _ scratch address hcalls.word] at hcore
  have hloaded : InFrame saved entry layout.size t.toCore := by
    rw [hcore]
    exact hframe.set _ hcalls.ne_rsp hcalls.not_saved
  have htarget : t.gpr scratch = address.setWidth w := by
    rw [hcore]
    exact Core.gpr_set_self _ scratch _
  refine runs_call hcode ?_
  intro next called back hcalled hrest hback
  rcases hcalls.returned t.toCore next called back hloaded hcalled hback with
    ⟨hnext, hreturned⟩
  rw [← hnext] at hrest
  rw [htarget, hcalled, Core.transitions_append]
  simp only [List.append_assoc]
  exact hgoal back _ (calls_push _ back.toCore hloaded hcalls.pushed) hreturned hrest

/-- Code that stores nothing and then leaves the frame. -/
theorem runs_leave {body : List Instr} {imm : BitVec 32} (hw : w ≤ 64)
    (himm : imm.signExtend w = BitVec.ofNat w space)
    (hbody : forall instr, instr ∈ body -> instr.isQuiet = true)
    (hframe : InFrame saved entry space (s.toCore.effects body))
    (hahead : Ahead mode image (body ++ [.addImm .rsp imm, .ret]) s.pc)
    (hgoal : forall back trace, (machine mode w).Leaves entry.toCore back trace ->
      goal trace back) :
    (machine mode w).Runs image returns goal s := by
  have hsplit : body ++ [.addImm .rsp imm, .ret] = (body ++ [.addImm .rsp imm]) ++ [.ret] := by
    simp
  have hquiet : forall instr, instr ∈ body ++ [.addImm .rsp imm] -> instr.isQuiet = true := by
    intro instr hmem
    rcases List.mem_append.mp hmem with hbodyMem | hleave
    · exact hbody instr hbodyMem
    · rw [List.mem_singleton.mp hleave]
      rfl
  rw [hsplit] at hahead
  refine runs_straight hw hahead
    (fun instr hmem => Instr.isStraight_of_isQuiet (hquiet instr hmem)) ?_
  intro t hcore hcode
  refine runs_ret hcode ?_
  intro back hback hpc
  have hleft : t.toCore = (s.toCore.effects body).effect (.addImm .rsp imm) := by
    rw [hcore, Core.effects_append]
    rfl
  have hsp : t.gpr .rsp = entry.gpr .rsp := by
    rw [hleft, hframe.sp, ← himm]
    exact ((s.toCore.effects body).gpr_set_self .rsp _).trans (BitVec.setWidth_eq _)
  have htop : t.toCore.top = entry.toCore.top := by
    have hmemory : t.memory = (s.toCore.effects body).memory := by
      rw [hleft]
      rfl
    rw [Core.top, Core.top, hsp, hmemory]
    exact congrArg (BitVec.setWidth w) hframe.home
  have hmemory : back.memory = t.memory := by
    rw [hback]
    rfl
  have hpopped : back.gpr .rsp = entry.gpr .rsp + BitVec.ofNat w (w / 8) := by
    rw [hback, ← hsp]
    exact t.gpr_set_self .rsp _
  rw [htop]
  exact hgoal back _ (@Leaves.intro (machine mode w) entry.toCore back _ t.toCore
    (Core.does_quiet mode s.toCore hquiet) hsp rfl hmemory (hpc.trans htop) hpopped)

/-!
# Wrapped trampolines
-/

theorem constants_loadScratch (c : Core w) (address : Address)
    (hword : w ≤ 8 * mode.wordSize.bytes) :
    (machine mode w).constants (c.transitions [.movImm scratch address mode.wordSize]) =
      address.setWidth w := by
  show (address.setWidth (8 * mode.wordSize.bytes)).setWidth w ||| 0 = _
  rw [BitVec.setWidth_setWidth_of_le address hword]
  exact BitVec.or_zero

theorem does_loadScratch (c : Core w) (address : Address) : forall e,
    e ∈ c.transitions [.movImm scratch address mode.wordSize] ->
      (machine mode w).Does Action.IsConstant e := by
  intro e hmem
  rw [List.mem_singleton.mp hmem]
  exact c.does_effect mode rfl rfl

/-- The code builds the frame and fills the block in it. -/
structure Opens (mode : Mode) (saved : List Gpr) (entry : State w) (layout : Layout)
    (opening : List Instr) : Prop where
  straight : forall instr, instr ∈ opening -> instr.isStraight = true
  fills : forall e, e ∈ entry.toCore.transitions opening ->
    (machine mode w).Does
      (Action.StoresIn ((machine mode w).base entry.toCore layout) 0 layout.block) e
  frame : InFrame saved entry layout.size (entry.toCore.effects opening)

/-- The code puts the result into the spill slot. -/
structure Spills (mode : Mode) (saved : List Gpr) (entry : State w) (layout : Layout)
    (result : Core w -> Word) (spill : List Instr) : Prop where
  straight : forall instr, instr ∈ spill -> instr.isStraight = true
  spills : forall c, InFrame saved entry layout.size c -> forall e, e ∈ c.transitions spill ->
    (machine mode w).Does
      (Action.Spills ((machine mode w).spillSlot entry.toCore layout) layout.slotSize (result c)) e
  frame : forall c, InFrame saved entry layout.size c ->
    InFrame saved entry layout.size (c.effects spill)

theorem Spills.nil {result : Core w -> Word} : Spills mode saved entry layout result [] where
  straight := by simp
  spills := by
    intro c _ e hmem
    cases hmem
  frame := fun _ hframe => hframe

/-- The code works on the result in registers. -/
structure Closes (saved : List Gpr) (entry : State w) (layout : Layout)
    (closing : List Instr) : Prop where
  quiet : forall instr, instr ∈ closing -> instr.isQuiet = true
  frame : forall c, InFrame saved entry layout.size c ->
    InFrame saved entry layout.size (c.effects closing)

theorem Closes.append {first rest : List Instr} (hfirst : Closes saved entry layout first)
    (hrest : Closes saved entry layout rest) : Closes saved entry layout (first ++ rest) where
  quiet := List.forall_mem_append.mpr ⟨hfirst.quiet, hrest.quiet⟩
  frame := by
    intro c hframe
    rw [Core.effects_append]
    exact hrest.frame _ (hfirst.frame c hframe)

theorem Opens.fills_append {opening : List Instr} (h : Opens mode saved entry layout opening)
    (c : Core w) (target : Address) : forall e,
      e ∈ entry.toCore.transitions opening ++ c.transitions [.movImm scratch target mode.wordSize] ->
        (machine mode w).Does
          (Action.StoresIn ((machine mode w).base entry.toCore layout) 0 layout.block) e := by
  refine List.forall_mem_append.mpr ⟨h.fills, ?_⟩
  intro e hmem
  exact (does_loadScratch c target e hmem).mono fun _ h => h.isQuiet.storesIn _ _ _

variable {opening spill closing : List Instr} {target helper : Address} {imm : BitVec 32}
  {result : Core w -> Word}

/-- A trampoline that calls its target from a frame, and no helper. -/
theorem runs_wrapped (hcalls : CallsReturn mode saved entry layout scratch returns)
    (himm : imm.signExtend w = BitVec.ofNat w layout.size)
    (hopens : Opens mode saved entry layout opening) (hcloses : Closes saved entry layout closing)
    (hahead : Ahead mode image (opening ++ (Instr.callAbs mode scratch target ++
      (closing ++ [.addImm .rsp imm, .ret]))) entry.pc) :
    (machine mode w).Runs image returns ((machine mode w).Course entry.toCore layout result
      (target.setWidth w) .wrapped none) entry := by
  refine runs_callAbs hcalls hopens.straight hopens.frame hahead ?_
  intro back call hcall hback hrest
  refine runs_leave hcalls.width himm hcloses.quiet (hcloses.frame _ hback) hrest ?_
  intro last trace hleaves
  rw [← List.append_assoc]
  exact @Machine.Course.call (machine mode w) _ _ _ _ _ _ _ _ _ (hopens.fills_append _ target)
    hcall hleaves

/-- A trampoline that calls its target from a frame, and then the helper. -/
theorem runs_capture (hcalls : CallsReturn mode saved entry layout scratch returns)
    (himm : imm.signExtend w = BitVec.ofNat w layout.size)
    (hopens : Opens mode saved entry layout opening)
    (hspills : Spills mode saved entry layout result spill)
    (hcloses : Closes saved entry layout closing)
    (hahead : Ahead mode image (opening ++ (Instr.callAbs mode scratch target ++
      (spill ++ (Instr.callAbs mode scratch helper ++
        (closing ++ [.addImm .rsp imm, .ret]))))) entry.pc) :
    (machine mode w).Runs image returns ((machine mode w).Course entry.toCore layout result
      (target.setWidth w) .wrapped (some (helper.setWidth w))) entry := by
  refine runs_callAbs hcalls hopens.straight hopens.frame hahead ?_
  intro native call hcall hnative hrest
  refine runs_callAbs hcalls hspills.straight (hspills.frame _ hnative) hrest ?_
  intro back helperCall hhelper hback hend
  refine runs_leave hcalls.width himm hcloses.quiet (hcloses.frame _ hback) hend ?_
  intro last trace hleaves
  rw [← List.append_assoc]
  exact @Machine.Course.capture (machine mode w) _ _ _ _ _ _ _ _ _ _ _ _ _ _
    (hopens.fills_append _ target) hcall (hspills.spills _ hnative) (does_loadScratch _ helper)
    (constants_loadScratch _ helper hcalls.word) hhelper hleaves

end Frames

/-!
# Direct trampolines
-/

theorem runs_jmpAbs {image : Image w} {returns : State w -> State w -> Prop}
    {goal : (machine mode w).Trace -> State w -> Prop} {s : State w} {body : List Instr}
    {scratch : Gpr} {address : Address} (hw : w ≤ 64) (hword : w ≤ 8 * mode.wordSize.bytes)
    (hbody : forall instr, instr ∈ body -> instr.isQuiet = true)
    (hahead : Ahead mode image (body ++ Instr.jmpAbs mode scratch address) s.pc)
    (hgoal : forall (called : State w) (opening : (machine mode w).Trace),
      called.toCore = (s.toCore.effects body).set scratch (address.setWidth w) ->
        called.pc = address.setWidth w ->
          (forall e, e ∈ opening -> (machine mode w).Does Action.IsQuiet e) ->
            goal (opening ++
              [⟨called.toCore, .jump (address.setWidth w), called.toCore⟩]) called) :
    (machine mode w).Runs image returns goal s := by
  have hsplit : body ++ Instr.jmpAbs mode scratch address =
      (body ++ [.movImm scratch address mode.wordSize]) ++ [.jmp scratch] := by
    simp [Instr.jmpAbs]
  have hquiet : forall instr, instr ∈ body ++ [.movImm scratch address mode.wordSize] ->
      instr.isQuiet = true := by
    intro instr hmem
    rcases List.mem_append.mp hmem with hbodyMem | hload
    · exact hbody instr hbodyMem
    · rw [List.mem_singleton.mp hload]
      rfl
  rw [hsplit] at hahead
  refine runs_straight hw hahead
    (fun instr hmem => Instr.isStraight_of_isQuiet (hquiet instr hmem)) ?_
  intro t hcore hcode
  have hloaded := hcore
  rw [Core.effects_append, effects_loadScratch _ scratch address hword] at hloaded
  have htarget : t.gpr scratch = address.setWidth w := by
    rw [hloaded]
    exact Core.gpr_set_self _ scratch _
  refine runs_jmp hcode ?_
  intro called hcalled hpc
  rw [htarget, ← hcalled]
  exact hgoal called _ (hcalled.trans hloaded) (hpc.trans htarget)
    (Core.does_quiet mode s.toCore hquiet)

end X86
end NativeCall
