import NativeCall.Proofs.X86.Machine
import NativeCall.Proofs.X86.RoundTrip

/-!
# Running assembled x86 code

Runs of instructions without jumps are taken in one go, calls and jumps one by one.
-/

namespace NativeCall
namespace X86

def Instr.isStraight : Instr -> Bool
  | .call _ | .jmp _ | .ret => false
  | _ => true

namespace Core

variable {w : Nat}

def effects (c : Core w) (code : List Instr) : Core w :=
  code.foldl effect c

@[simp] theorem effects_nil (c : Core w) : c.effects [] = c := rfl

@[simp] theorem effects_cons (c : Core w) (instr : Instr) (code : List Instr) :
    c.effects (instr :: code) = (c.effect instr).effects code := rfl

theorem effects_append (c : Core w) (code rest : List Instr) :
    c.effects (code ++ rest) = (c.effects code).effects rest := by
  exact List.foldl_append

theorem effect_canonical (c : Core w) (instr : Instr) (hw : w ≤ 64) :
    c.effect instr.canonical = c.effect instr := by
  cases instr with
  | movsx dst src size =>
      cases size with
      | qword => exact congrArg (c.set dst) (BitVec.signExtend_eq_setWidth_of_le _ hw).symm
      | _ => rfl
  | movzx dst src size => cases size <;> rfl
  | movImm dst imm size =>
      cases size with
      | dword =>
          have hlow : ((imm.setWidth 32).setWidth 64).setWidth 32 = imm.setWidth 32 := by
            exact BitVec.setWidth_setWidth_of_le _ (by decide)
          exact congrArg (fun low => c.set dst (BitVec.setWidth w low)) hlow
      | _ => rfl
  | _ => rfl

theorem perform_straight (c : Core w) (next : BitVec w) {instr : Instr} (hw : w ≤ 64)
    (h : instr.isStraight = true) :
    c.perform next (.plain instr.canonical) = { c.effect instr with pc := next } := by
  rw [← c.effect_canonical instr hw]
  cases instr with
  | movsx dst src size => cases size <;> rfl
  | movzx dst src size => cases size <;> rfl
  | movImm dst imm size => cases size <;> rfl
  | call target => cases h
  | jmp target => cases h
  | ret => cases h
  | _ => rfl

end Core

/-!
# Assembled code
-/

def isa (mode : Mode) : InstructionSet Instr Operation where
  encode := fun instr => instr.encode mode
  decode := decode mode
  Encodable := fun instr => instr.Encodable mode
  meaning := fun instr => .plain instr.canonical
  readsBack := fun _ h => Instr.readsBack h

theorem assemble_isa (mode : Mode) (code : List Instr) :
    (isa mode).assemble code = assemble mode code := by
  induction code with
  | nil => rfl
  | cons instr code ih =>
      rw [InstructionSet.assemble, ih]
      rfl

theorem exists_assemble {mode : Mode} {code : List Instr}
    (h : forall instr, instr ∈ code -> instr.Encodable mode) :
    exists bytes, assemble mode code = .ok bytes := by
  rw [← assemble_isa]
  exact InstructionSet.exists_assemble h

abbrev Ahead {w : Nat} (mode : Mode) (image : Image w) (code : List Instr) (pc : BitVec w) :
    Prop :=
  InstructionSet.Ahead (isa mode) image code pc

namespace Ahead

variable {w : Nat} {mode : Mode} {image : Image w} {code : List Instr}

theorem start (hencodable : forall instr, instr ∈ code -> instr.Encodable mode)
    (hcode : assemble mode code = .ok image.code) : Ahead mode image code image.base := by
  rw [← assemble_isa] at hcode
  exact InstructionSet.Ahead.start hencodable hcode

theorem step {instr : Instr} {s : State w} (h : Ahead mode image (instr :: code) s.pc) :
    exists next, X86.step mode image s = some (s.toCore.perform next (.plain instr.canonical)) ∧
      Ahead mode image code next := by
  rcases InstructionSet.Ahead.decode h with ⟨rest, hdecode, hahead⟩
  refine ⟨image.addressOfRest rest, ?_, hahead⟩
  exact congrArg (Option.map fun read =>
    s.toCore.perform (image.addressOfRest read.2) read.1) hdecode

end Ahead

/-!
# Runs
-/

section Runs

variable {w : Nat} {mode : Mode} {image : Image w} {goal : State w -> Prop} {s : State w}

theorem reaches_straight (hw : w ≤ 64) {body code : List Instr}
    (hahead : Ahead mode image (body ++ code) s.pc)
    (hstraight : forall instr, instr ∈ body -> instr.isStraight = true)
    (hgoal : forall t : State w, t.toCore = s.toCore.effects body -> Ahead mode image code t.pc ->
      Reaches (step mode image) goal t) :
    Reaches (step mode image) goal s := by
  induction body generalizing s with
  | nil => exact hgoal s rfl hahead
  | cons instr body ih =>
      rcases hahead.step with ⟨next, hstep, hrest⟩
      rw [s.toCore.perform_straight next hw (hstraight instr List.mem_cons_self)] at hstep
      refine Reaches.later hstep (ih hrest ?_ ?_)
      · intro other hmem
        exact hstraight other (List.mem_cons_of_mem instr hmem)
      · intro t hcore hcode
        exact hgoal t hcore hcode

theorem reaches_call {target : Gpr} {code : List Instr}
    (hahead : Ahead mode image (.call target :: code) s.pc)
    (hgoal : forall next (t : State w), t.toCore = s.toCore.push next -> t.pc = s.gpr target ->
      Ahead mode image code next -> Reaches (step mode image) goal t) :
    Reaches (step mode image) goal s := by
  rcases hahead.step with ⟨next, hstep, hrest⟩
  exact Reaches.later hstep (hgoal next _ rfl rfl hrest)

theorem reaches_jmp {target : Gpr} {code : List Instr}
    (hahead : Ahead mode image (.jmp target :: code) s.pc)
    (hgoal : forall t : State w, t.toCore = s.toCore -> t.pc = s.gpr target ->
      Reaches (step mode image) goal t) :
    Reaches (step mode image) goal s := by
  rcases hahead.step with ⟨next, hstep, _⟩
  exact Reaches.later hstep (hgoal _ rfl rfl)

theorem reaches_ret {code : List Instr} (hahead : Ahead mode image (.ret :: code) s.pc)
    (hgoal : forall t : State w, t.toCore = s.toCore.drop -> t.pc = s.toCore.top ->
      Reaches (step mode image) goal t) :
    Reaches (step mode image) goal s := by
  rcases hahead.step with ⟨next, hstep, _⟩
  exact Reaches.later hstep (hgoal _ rfl rfl)

end Runs
end X86
end NativeCall
