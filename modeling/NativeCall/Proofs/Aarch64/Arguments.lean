import NativeCall.Trampoline
import NativeCall.Proofs.Aarch64.Convention

/-!
# Argument moves on AArch64

Each move fills the register two below the one that it reads, so no move overwrites what a
later one reads.
-/

namespace NativeCall
namespace Aarch64

open A64 (Core Instr Reg State)

/-!
# One move
-/

theorem set_gpr_self (c : Core) (r : Reg) : c.set r (c.gpr r) = c := by
  unfold Core.set
  split
  · rfl
  · have hgpr : (fun other => if other = r then c.gpr r else c.gpr other) = c.gpr := by
      funext other
      split
      next heq => rw [heq]
      next => rfl
    rw [hgpr]

theorem effects_extendInto (c : Core) {dst src : Reg} (kind : ValueClass) (host : HostType)
    (hsrc : src ≠ .sp) :
    c.effects (extendInto dst src kind host) =
      c.set dst (HostValue.toNative kind host (c.gpr src)) := by
  have hx : c.x src = c.gpr src := c.x_eq hsrc
  rcases kind with ⟨register, width, signedness⟩
  cases width with
  | w8 | w16 | w32 =>
      rw [← hx]
      cases signedness <;> rfl
  | w64 =>
      by_cases hsmall : host.slotSize < 8
      · have hcode : extendInto dst src ⟨register, .w64, signedness⟩ host = [.sxtw dst src] :=
          if_pos hsmall
        have hvalue : HostValue.toNative ⟨register, .w64, signedness⟩ host (c.gpr src) =
            ((c.gpr src).setWidth 32).signExtend 64 := if_pos ⟨rfl, hsmall⟩
        rw [hcode, hvalue, ← hx]
        rfl
      · have hvalue : HostValue.toNative ⟨register, .w64, signedness⟩ host (c.gpr src) =
            c.gpr src := by
          rw [HostValue.toNative, if_neg (fun h => hsmall h.right)]
          exact HostValue.extend_of_w64 _ rfl
        rw [hvalue]
        by_cases hsame : dst = src
        · have hcode : extendInto dst src ⟨register, .w64, signedness⟩ host = [] :=
            (if_neg hsmall).trans (if_pos hsame)
          rw [hcode, hsame]
          exact (set_gpr_self c src).symm
        · have hcode : extendInto dst src ⟨register, .w64, signedness⟩ host = [.mov dst src] :=
            (if_neg hsmall).trans (if_neg hsame)
          rw [hcode, ← hx]
          rfl

/-!
# All moves
-/

def movesFrom (start : Nat) (params : List (Slot × ValueClass)) : List Instr :=
  (params.zipIdx start).flatMap fun ((slot, kind), index) =>
    extendInto (register index) (register (index + 2)) kind slot.host

theorem movesFrom_cons (start : Nat) (slot : Slot) (kind : ValueClass)
    (params : List (Slot × ValueClass)) :
    movesFrom start ((slot, kind) :: params) =
      extendInto (register start) (register (start + 2)) kind slot.host ++
        movesFrom (start + 1) params := by
  rfl

theorem register_inj {i j : Nat} (hi : i < 256) (hj : j < 256)
    (h : register i = register j) : i = j := by
  have hnumber := congrArg (fun r => r.number.toNat) h
  simpa [register, Nat.mod_eq_of_lt hi, Nat.mod_eq_of_lt hj] using hnumber

theorem register_ne_sp {i : Nat} (hi : i < 31) : register i ≠ .sp := by
  intro h
  have hsame : i = 31 := register_inj (by omega) (by decide) h
  omega

/-- Nothing has changed but general registers. -/
structure KeepsRest (c moved : Core) : Prop where
  sp : moved.sp = c.sp
  vector : moved.vector = c.vector
  memory : moved.memory = c.memory

namespace KeepsRest

theorem refl (c : Core) : KeepsRest c c :=
  ⟨rfl, rfl, rfl⟩

theorem trans {c middle moved : Core} (h : KeepsRest c middle) (hnext : KeepsRest middle moved) :
    KeepsRest c moved :=
  ⟨hnext.sp.trans h.sp, hnext.vector.trans h.vector, hnext.memory.trans h.memory⟩

theorem set (c : Core) (r : Reg) (value : Word) : KeepsRest c (c.set r value) :=
  ⟨c.sp_set r value, c.vector_set r value, c.memory_set r value⟩

end KeepsRest

/-- The moves fill the registers from `start` on and leave the others as they were. The
induction is on the parameters left: what they still read lies above what is filled. -/
theorem effects_movesFrom {start : Nat} {params : List (Slot × ValueClass)} (c : Core)
    (hroom : start + params.length + 2 ≤ 31) :
    KeepsRest c (c.effects (movesFrom start params)) ∧
      (forall r, (forall k, k < params.length -> r ≠ register (start + k)) ->
        (c.effects (movesFrom start params)).gpr r = c.gpr r) ∧
      forall (k : Nat) (slot : Slot) (kind : ValueClass), params[k]? = some (slot, kind) ->
        (c.effects (movesFrom start params)).gpr (register (start + k)) =
          HostValue.toNative kind slot.host (c.gpr (register (start + k + 2))) := by
  induction params generalizing start c with
  | nil =>
      refine ⟨KeepsRest.refl c, fun _ _ => rfl, ?_⟩
      intro k slot kind hslot
      cases hslot
  | cons first params ih =>
      rcases first with ⟨firstSlot, firstKind⟩
      rw [List.length_cons] at hroom
      have hfirst : c.effects (extendInto (register start) (register (start + 2)) firstKind
          firstSlot.host) = c.set (register start)
            (HostValue.toNative firstKind firstSlot.host (c.gpr (register (start + 2)))) :=
        effects_extendInto c firstKind firstSlot.host (register_ne_sp (by omega))
      rw [movesFrom_cons, Core.effects_append, hfirst]
      generalize hvalue : HostValue.toNative firstKind firstSlot.host
        (c.gpr (register (start + 2))) = value
      rcases ih (c.set (register start) value) (by omega : start + 1 + params.length + 2 ≤ 31) with
        ⟨hkeeps, hothers, hfilled⟩
      refine ⟨(KeepsRest.set c _ value).trans hkeeps, ?_, ?_⟩
      · intro r hne
        have hhead : r ≠ register start := hne 0 (Nat.zero_lt_succ _)
        rw [hothers r, c.gpr_set_of_ne value hhead]
        intro k hk
        have htail := hne (k + 1) (Nat.succ_lt_succ hk)
        rw [← Nat.add_assoc, Nat.add_right_comm] at htail
        exact htail
      · intro k slot kind hslot
        cases k with
        | zero =>
            cases hslot
            have hkept : forall k, k < params.length ->
                register start ≠ register (start + 1 + k) := by
              intro k hk heq
              have hsame := register_inj (by omega) (by omega) heq
              omega
            show _ = HostValue.toNative firstKind firstSlot.host (c.gpr (register (start + 2)))
            rw [hvalue]
            exact (hothers _ hkept).trans (c.gpr_set_self value (register_ne_sp (by omega)))
        | succ k =>
            rw [List.getElem?_cons_succ] at hslot
            have hk : k < params.length := (List.getElem?_eq_some_iff.mp hslot).1
            have hne : register (start + 1 + k + 2) ≠ register start := by
              intro heq
              have hsame := register_inj (by omega) (by omega) heq
              omega
            have hlast := hfilled k slot kind hslot
            rw [c.gpr_set_of_ne value hne, Nat.add_assoc start, Nat.add_comm 1] at hlast
            exact hlast

/-!
# The moves of a signature
-/

theorem passesAll_of_argumentMoves {sig : Signature} {entry called : State} {c : Core}
    (hcount : sig.integerCount ≤ 6)
    (hhost : forall k, k < 6 -> c.gpr (hostRegister k) = entry.gpr (hostRegister k))
    (hgpr : forall k, k < 6 ->
      called.gpr (register k) = (c.effects (argumentMoves sig)).gpr (register k))
    (hvector : called.vector = entry.vector) : PassesAll sig entry called where
  int := by
    intro k slot kind hslot
    have hlength := sig.length_integerParams
    have hk : k < sig.integerParams.length := (List.getElem?_eq_some_iff.mp hslot).1
    have hmoves := (effects_movesFrom c
      (by omega : 0 + sig.integerParams.length + 2 ≤ 31)).right.right k slot kind hslot
    rw [Nat.zero_add, Nat.add_comm k] at hmoves
    rw [← hhost k (by omega)]
    exact (hgpr k (by omega)).trans hmoves
  float := by
    intro k _
    rw [hvector]

theorem gpr_argumentMoves_of_ne {sig : Signature} (c : Core) {r : Reg}
    (hcount : sig.integerCount ≤ 6) (h : forall k, k < 6 -> r ≠ register k) :
    (c.effects (argumentMoves sig)).gpr r = c.gpr r := by
  have hlength := sig.length_integerParams
  refine (effects_movesFrom c
    (by omega : 0 + sig.integerParams.length + 2 ≤ 31)).right.left r ?_
  intro k hk
  rw [Nat.zero_add]
  exact h k (by omega)

theorem keepsRest_argumentMoves {sig : Signature} (c : Core) (hcount : sig.integerCount ≤ 6) :
    KeepsRest c (c.effects (argumentMoves sig)) := by
  have hlength := sig.length_integerParams
  exact (effects_movesFrom c (by omega : 0 + sig.integerParams.length + 2 ≤ 31)).left

end Aarch64
end NativeCall
