import NativeCall.Proofs.A64.Trace
import NativeCall.Proofs.Relocation

/-!
# A64 code at two places

A call leaves its return address in the link register. Cores that differ there alone are alike,
and instructions that do not name the register do not see the difference.
-/

namespace NativeCall
namespace A64

/-- The instruction goes on to the next one and does not name the link register. -/
def Instr.avoidsLink : Instr -> Bool
  | .mov dst src | .movW dst src | .sxtb dst src | .sxth dst src | .sxtw dst src | .uxtb dst src
  | .uxth dst src | .addImm dst src _ | .str dst src _ _ | .ldr dst src _ _ | .ldrs dst src _ _ =>
      dst != .lr && src != .lr
  | .movz dst _ _ | .movk dst _ _ | .cset dst _ => dst != .lr
  | .strFp _ base _ _ | .ldrFp _ base _ _ => base != .lr
  | .cmpZero src _ => src != .lr
  | _ => false

theorem Instr.isStraight_of_avoidsLink {instr : Instr} (h : instr.avoidsLink = true) :
    instr.isStraight = true := by
  cases instr <;> first | rfl | cases h

namespace Core

def link (c : Core) (address : Word) : Core :=
  { c with gpr := fun r => if r = .lr then address else c.gpr r }

/-- All is equal but for the link register. -/
def Alike (c other : Core) : Prop :=
  exists address, other = c.link address

section Registers

variable (c : Core) (address : Word) {r : Reg}

theorem set_lr : c.set .lr address = c.link address :=
  if_neg (by decide)

theorem link_link (other : Word) : (c.link other).link address = c.link address := by
  unfold link
  simp only [Core.mk.injEq, and_true]
  funext r
  split <;> rfl

theorem link_self : c.link (c.gpr .lr) = c := by
  unfold link
  have hgpr : (fun r => if r = .lr then c.gpr .lr else c.gpr r) = c.gpr := by
    funext r
    split
    next heq => rw [heq]
    next => rfl
  rw [hgpr]

theorem gpr_link (hr : r ≠ .lr) : (c.link address).gpr r = c.gpr r :=
  if_neg hr

theorem x_link (hr : r ≠ .lr) : (c.link address).x r = c.x r := by
  unfold x
  rw [c.gpr_link address hr]

theorem base_link (hr : r ≠ .lr) : (c.link address).base r = c.base r := by
  unfold base
  rw [c.gpr_link address hr]
  rfl

theorem set_link (hr : r ≠ .lr) (value : Word) :
    (c.link address).set r value = (c.set r value).link address := by
  unfold set link
  split
  · rfl
  · simp only [Core.mk.injEq, and_true]
    funext other
    by_cases heq : other = r
    · rw [if_pos heq, if_neg (by rw [heq]; exact hr), if_pos heq]
    · rw [if_neg heq, if_neg heq]

theorem setBase_link (hr : r ≠ .lr) (value : Word) :
    (c.link address).setBase r value = (c.setBase r value).link address := by
  unfold setBase
  split
  · rfl
  · exact c.set_link address hr value

theorem address_link (hr : r ≠ .lr) (offset : BitVec 16) :
    (c.link address).address r offset = c.address r offset :=
  congrArg (· + offset.setWidth 64) (c.base_link address hr)

/-- A load of the link register replaces what differs. -/
theorem effect_ldpPost_link (offset : Int) :
    (c.link address).effect (.ldpPost .fp .lr .sp offset) =
      c.effect (.ldpPost .fp .lr .sp offset) := by
  simp only [effect]
  rw [c.base_link address (by decide), c.setBase_link address (by decide),
    set_link _ address (by decide), set_lr, set_lr, link_link]
  rfl

end Registers

namespace Alike

variable {c other : Core}

theorem refl (c : Core) : c.Alike c :=
  ⟨c.gpr .lr, c.link_self.symm⟩

theorem set_lr (h : c.Alike other) (next place : Word) :
    (c.set .lr next).Alike (other.set .lr place) := by
  rcases h with ⟨address, rfl⟩
  rw [Core.set_lr, Core.set_lr, link_link]
  exact ⟨place, (c.link_link place next).symm⟩

theorem x_eq (h : c.Alike other) {r : Reg} (hr : r ≠ .lr) : other.x r = c.x r := by
  rcases h with ⟨address, rfl⟩
  exact c.x_link address hr

/-- An instruction that does not name the link register keeps cores alike and does the same in
both. -/
theorem effect (h : c.Alike other) {instr : Instr} (havoids : instr.avoidsLink = true) :
    (c.effect instr).Alike (other.effect instr) ∧ other.action instr = c.action instr := by
  rcases h with ⟨address, rfl⟩
  cases instr with
  | mov dst src | movW dst src | sxtb dst src | sxth dst src | sxtw dst src | uxtb dst src
  | uxth dst src =>
      rcases Bool.and_eq_true_iff.mp havoids with ⟨hdst, hsrc⟩
      refine ⟨⟨address, ?_⟩, rfl⟩
      rw [Core.effect, c.x_link address (bne_iff_ne.mp hsrc),
        c.set_link address (bne_iff_ne.mp hdst)]
      rfl
  | movz dst imm shift =>
      exact ⟨⟨address, c.set_link address (bne_iff_ne.mp havoids) _⟩, rfl⟩
  | movk dst imm shift =>
      have hdst : dst ≠ .lr := bne_iff_ne.mp havoids
      refine ⟨⟨address, ?_⟩, rfl⟩
      rw [Core.effect, c.x_link address hdst, c.set_link address hdst]
      rfl
  | addImm dst src imm =>
      rcases Bool.and_eq_true_iff.mp havoids with ⟨hdst, hsrc⟩
      refine ⟨⟨address, ?_⟩, rfl⟩
      rw [Core.effect, c.base_link address (bne_iff_ne.mp hsrc),
        c.setBase_link address (bne_iff_ne.mp hdst)]
      rfl
  | str rt base offset access =>
      rcases Bool.and_eq_true_iff.mp havoids with ⟨hrt, hbase⟩
      have hplace := c.address_link address (bne_iff_ne.mp hbase) offset
      have hvalue := c.x_link address (bne_iff_ne.mp hrt)
      refine ⟨⟨address, ?_⟩, ?_⟩
      · rw [Core.effect, hplace, hvalue]
        rfl
      · rw [action, hplace, hvalue]
        rfl
  | ldr rt base offset access | ldrs rt base offset access =>
      rcases Bool.and_eq_true_iff.mp havoids with ⟨hrt, hbase⟩
      have hplace := c.address_link address (bne_iff_ne.mp hbase) offset
      refine ⟨⟨address, ?_⟩, ?_⟩
      · rw [Core.effect, hplace, c.set_link address (bne_iff_ne.mp hrt)]
        rfl
      · rw [action, hplace]
        rfl
  | strFp rt base offset access | ldrFp rt base offset access =>
      have hplace := c.address_link address (bne_iff_ne.mp havoids) offset
      refine ⟨⟨address, ?_⟩, ?_⟩
      · rw [Core.effect, hplace]
        rfl
      · rw [action, hplace]
        rfl
  | cmpZero src wide =>
      refine ⟨⟨address, ?_⟩, rfl⟩
      rw [Core.effect, c.base_link address (bne_iff_ne.mp havoids)]
      rfl
  | cset dst cond =>
      exact ⟨⟨address, c.set_link address (bne_iff_ne.mp havoids) _⟩, rfl⟩
  | _ => cases havoids

end Alike
end Core

theorem performs : machine.Performs isa Instr.isStraight Core.effect Core.action where
  action_eq := fun hahead => Ahead.action hahead
  step := by
    intro image s first rest hahead hstraight
    rcases Ahead.step hahead with ⟨next, hstep, hrest⟩
    rw [s.toCore.perform_straight next hstraight] at hstep
    exact ⟨_, hstep, rfl, hrest⟩
  straight := fun c _ hstraight => c.isStraight_action hstraight

end A64
end NativeCall
