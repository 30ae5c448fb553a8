import NativeCall.Proofs.Amd64.Convention
import NativeCall.Proofs.X86.Execution

/-!
# Argument moves on x86-64

No move overwrites what a later one reads, so the moves together act as if all of them were
made at once.
-/

namespace NativeCall
namespace Amd64

open X86 (Core Gpr Instr Rm Size State)

/-!
# One move
-/

theorem operand_eq_setWidth (c : Core 64) (size : Size) (rm : Rm) :
    c.operand size rm = (c.operand .qword rm).setWidth (8 * size.bytes) := by
  have hbytes : size.bytes ≤ 8 := by cases size <;> decide
  cases rm with
  | reg r =>
      have hfull : (c.gpr r).setWidth (8 * Size.qword.bytes) = c.gpr r := BitVec.setWidth_eq _
      exact congrArg (BitVec.setWidth (8 * size.bytes)) hfull.symm
  | mem place => exact (Memory.read_setWidth c.memory (c.address place) hbytes).symm

theorem effect_extendInto (c : Core 64) (dst : Gpr) (src : Rm) (kind : ValueClass)
    (host : HostType) :
    c.effect (extendInto dst src kind host) =
      c.set dst (HostValue.toNative kind host (c.operand .qword src)) := by
  unfold extendInto HostValue.toNative HostValue.extend
  split
  next =>
    show c.set dst ((c.operand .dword src).signExtend 64) = _
    rw [operand_eq_setWidth]
    rfl
  next =>
    split
    next =>
      show c.set dst ((c.operand (widthSize kind.width) src).signExtend 64) = _
      rw [operand_eq_setWidth]
      cases kind.width <;> rfl
    next =>
      show c.set dst ((c.operand (widthSize kind.width) src).setWidth 64) = _
      rw [operand_eq_setWidth]
      cases kind.width <;> rfl

/-!
# All moves
-/

/-- A parameter with its class, and the move that its argument makes. -/
abbrev Move := (Slot × ValueClass) × (Rm × Gpr)

namespace Move

def instr (move : Move) : Instr :=
  extendInto move.2.2 move.2.1 move.1.2 move.1.1.host

def value (c : Core 64) (move : Move) : Word :=
  HostValue.toNative move.1.2 move.1.1.host (c.operand .qword move.2.1)

end Move

def Apart (place : Rm) (r : Gpr) : Prop :=
  match place with
  | .reg src => src ≠ r
  | .mem place => place.base ≠ r

instance (place : Rm) (r : Gpr) : Decidable (Apart place r) := by
  unfold Apart
  cases place <;> exact inferInstance

theorem operand_set {c : Core 64} {place : Rm} {r : Gpr} (value : Word) (h : Apart place r) :
    (c.set r value).operand .qword place = c.operand .qword place := by
  cases place with
  | reg src =>
      have hne : src ≠ r := h
      simp [Core.operand, Core.low, Core.set, hne]
  | mem place =>
      have hne : place.base ≠ r := h
      simp [Core.operand, Core.address, Core.set, hne]

theorem effects_moves (c : Core 64) (moves : List Move) :
    c.effects (moves.map Move.instr) =
      { c with gpr := (c.effects (moves.map Move.instr)).gpr } := by
  induction moves generalizing c with
  | nil => rfl
  | cons move moves ih =>
      rw [List.map_cons, Core.effects_cons, Move.instr, effect_extendInto]
      exact ih _

theorem gpr_effects_moves_of_ne {c : Core 64} {moves : List Move} {r : Gpr}
    (h : forall move, move ∈ moves -> r ≠ move.2.2) :
    (c.effects (moves.map Move.instr)).gpr r = c.gpr r := by
  induction moves generalizing c with
  | nil => rfl
  | cons move moves ih =>
      have hne := h move List.mem_cons_self
      rw [List.map_cons, Core.effects_cons, Move.instr, effect_extendInto,
        ih (fun other hmem => h other (List.mem_cons_of_mem move hmem))]
      exact if_neg hne

/-- If no destination is overwritten or read later, each one gets the value that its source
had before the first move. -/
theorem gpr_effects_moves {c : Core 64} {moves : List Move}
    (h : moves.Pairwise fun first later =>
      first.2.2 ≠ later.2.2 ∧ Apart later.2.1 first.2.2) :
    forall move, move ∈ moves ->
      (c.effects (moves.map Move.instr)).gpr move.2.2 = move.value c := by
  induction moves generalizing c with
  | nil =>
      intro move hmem
      cases hmem
  | cons first moves ih =>
      rcases List.pairwise_cons.mp h with ⟨hfirst, hrest⟩
      intro move hmem
      rw [List.map_cons, Core.effects_cons, Move.instr, effect_extendInto]
      rcases List.mem_cons.mp hmem with heq | hlater
      · rw [heq, gpr_effects_moves_of_ne (fun other hother => (hfirst other hother).left)]
        exact if_pos rfl
      · rw [ih hrest move hlater, Move.value, operand_set _ (hfirst move hlater).right]
        rfl

/-!
# The moves of a signature
-/

def moves (sig : Signature) : List Move :=
  sig.integerParams.zip (argumentSources.zip argumentTargets)

theorem argumentMoves_eq (sig : Signature) : argumentMoves sig = (moves sig).map Move.instr := rfl

theorem sources_apart : (argumentSources.zip argumentTargets).Pairwise fun first later =>
    first.2 ≠ later.2 ∧ Apart later.1 first.2 := by
  decide

theorem moves_apart (sig : Signature) : (moves sig).Pairwise fun first later =>
    first.2.2 ≠ later.2.2 ∧ Apart later.2.1 first.2.2 := by
  rw [List.pairwise_iff_getElem]
  intro i j hi hj hlt
  have hzip := hj
  rw [moves, List.length_zip] at hzip
  have hplaces := List.pairwise_iff_getElem.mp sources_apart i j (by omega) (by omega) hlt
  simpa only [moves, List.getElem_zip] using hplaces

theorem getElem?_moves {sig : Signature} {i : Nat} {slot : Slot} {kind : ValueClass} {src : Rm}
    {dst : Gpr} (hparam : sig.integerParams[i]? = some (slot, kind))
    (hsrc : argumentSources[i]? = some src) (hdst : argumentTargets[i]? = some dst) :
    (moves sig)[i]? = some ((slot, kind), (src, dst)) := by
  simp [moves, List.getElem?_zip_eq_some, hparam, hsrc, hdst]

theorem mem_argumentTargets {sig : Signature} {move : Move} (h : move ∈ moves sig) :
    move.2.2 ∈ argumentTargets := by
  have hplace : move.2 ∈ argumentSources.zip argumentTargets := (List.of_mem_zip h).right
  exact (List.of_mem_zip hplace).right

/-- Each argument register gets the native form of its argument. -/
theorem gpr_argumentMoves {sig : Signature} {i : Nat} {slot : Slot} {kind : ValueClass} {src : Rm}
    {dst : Gpr} (c : Core 64) (hparam : sig.integerParams[i]? = some (slot, kind))
    (hsrc : argumentSources[i]? = some src) (hdst : argumentTargets[i]? = some dst) :
    (c.effects (argumentMoves sig)).gpr dst =
      HostValue.toNative kind slot.host (c.operand .qword src) := by
  have hmem := List.mem_of_getElem? (getElem?_moves hparam hsrc hdst)
  exact gpr_effects_moves (moves_apart sig) _ hmem

theorem gpr_argumentMoves_of_not_mem (sig : Signature) (c : Core 64) {r : Gpr}
    (h : r ∉ argumentTargets) : (c.effects (argumentMoves sig)).gpr r = c.gpr r := by
  apply gpr_effects_moves_of_ne
  intro move hmem heq
  rw [heq] at h
  exact h (mem_argumentTargets hmem)

end Amd64
end NativeCall
