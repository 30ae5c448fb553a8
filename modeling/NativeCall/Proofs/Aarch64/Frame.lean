import NativeCall.Proofs.Aarch64.Arguments

/-!
# Frames on AArch64

The frame of a wrapped trampoline holds the frame pointer and the link register of its
caller, and above them one spill slot. Calls from the frame return into it.
-/

namespace NativeCall
namespace Aarch64

open A64 (Access Ahead Core Instr Reg State)

/-!
# Calls
-/

section Absolute

variable {s : State} {image : Image 64} {address : Address} {goal : State -> Prop}

theorem straight_movImm64 (dst : Reg) (value : Word) : forall instr,
    instr ∈ Instr.movImm64 dst value -> instr.isStraight = true := by
  simp [Instr.movImm64, Instr.isStraight]

theorem reaches_callAbs {rest : List Instr} (hahead : Ahead image (callAbs address ++ rest) s.pc)
    (hgoal : forall (next : Word) (called : State),
      called.toCore = (s.toCore.set .x9 address).set .lr next -> called.pc = address ->
        Ahead image rest next -> goal called) :
    Reaches (A64.step image) goal s := by
  rw [callAbs, List.append_assoc] at hahead
  refine A64.reaches_straight hahead (straight_movImm64 .x9 address) ?_
  intro t hcore hcode
  rw [A64.effects_movImm64 _ _ (by decide)] at hcore
  refine A64.reaches_blr hcode ?_
  intro next called hcalled hpc hrest
  rw [hcore] at hcalled
  refine Reaches.here (hgoal next called hcalled ?_ hrest)
  rw [hpc, hcore, Core.x_eq _ (by decide)]
  exact s.toCore.gpr_set_self address (by decide)

theorem reaches_jumpAbs (hahead : Ahead image (jumpAbs address) s.pc)
    (hgoal : forall called : State, called.toCore = s.toCore.set .x9 address ->
      called.pc = address -> goal called) :
    Reaches (A64.step image) goal s := by
  rw [jumpAbs] at hahead
  refine A64.reaches_straight hahead (straight_movImm64 .x9 address) ?_
  intro t hcore hcode
  rw [A64.effects_movImm64 _ _ (by decide)] at hcore
  refine A64.reaches_br hcode ?_
  intro called hcalled hpc
  refine Reaches.here (hgoal called (hcalled.trans hcore) ?_)
  rw [hpc, hcore, Core.x_eq _ (by decide)]
  exact s.toCore.gpr_set_self address (by decide)

end Absolute

/-!
# Frames
-/

theorem saved_ne_register : forall r, r ∈ calleeSaved -> forall k, k < 6 -> r ≠ register k := by
  decide

/-- The machine is in the frame of a trampoline. -/
structure InFrame (entry : State) (c : Core) : Prop where
  sp : entry.sp = c.sp + BitVec.ofNat 64 32
  fp : c.gpr .fp = c.sp
  saved : forall r, r ∈ calleeSaved -> r ≠ .fp -> c.gpr r = entry.gpr r
  vectors : forall v, v ∈ savedVectors ->
    (c.vector v).setWidth 64 = (entry.vector v).setWidth 64
  record : c.memory.read 8 c.sp = entry.gpr .fp
  link : c.memory.read 8 (c.sp + BitVec.ofNat 64 8) = entry.gpr .lr

def enter : List Instr :=
  [.stpPre .fp .lr .sp (-frameSize), .addImm .fp .sp 0]

def frameBase (entry : State) : Word :=
  entry.sp + BitVec.ofInt 64 (-frameSize)

theorem sp_eq_frameBase (entry : State) : entry.sp = frameBase entry + BitVec.ofNat 64 32 := by
  have hround : BitVec.ofInt 64 (-frameSize) + BitVec.ofNat 64 32 = 0#64 := by decide
  rw [frameBase, BitVec.add_assoc, hround, BitVec.add_zero]

theorem effect_stpPre (entry : State) :
    entry.toCore.effect (.stpPre .fp .lr .sp (-frameSize)) =
      ({ entry.toCore with sp := frameBase entry } : Core).storePair (frameBase entry)
        (entry.gpr .fp) (entry.gpr .lr) := by
  have hfp : entry.toCore.x .fp = entry.gpr .fp := entry.toCore.x_eq (by decide)
  have hlr : entry.toCore.x .lr = entry.gpr .lr := entry.toCore.x_eq (by decide)
  simp only [Core.effect, hfp, hlr, Core.base, Core.setBase, if_true, frameBase]

theorem effect_setFp (c : Core) : c.effect (.addImm .fp .sp 0) = c.set .fp c.sp := by
  have hsp : c.base .sp + (0 : BitVec 16).setWidth 64 = c.sp := BitVec.add_zero c.sp
  rw [Core.effect, hsp, Core.setBase, if_neg (by decide)]

theorem effects_enter (entry : State) :
    entry.toCore.effects enter =
      (({ entry.toCore with sp := frameBase entry } : Core).storePair (frameBase entry)
        (entry.gpr .fp) (entry.gpr .lr)).set .fp (frameBase entry) := by
  rw [enter, Core.effects_cons, Core.effects_cons, Core.effects_nil, effect_stpPre, effect_setFp]
  rfl

namespace InFrame

variable {entry : State} {c : Core}

theorem enter (entry : State) : InFrame entry (entry.toCore.effects Aarch64.enter) := by
  rw [effects_enter]
  have hsp := sp_eq_frameBase entry
  generalize frameBase entry = a at hsp ⊢
  refine ⟨?_, ?_, ?_, ?_, ?_, ?_⟩
  · rw [Core.sp_set]
    exact hsp
  · rw [Core.sp_set, Core.gpr_set_self _ _ (by decide)]
    rfl
  · intro r _ hfp
    exact Core.gpr_set_of_ne _ _ hfp
  · intro v _
    rw [Core.vector_set]
    rfl
  · rw [Core.memory_set, Core.sp_set]
    have hapart := Memory.read_write_apart (entry.memory.write 8 a (entry.gpr .fp)) a (n := 0)
      (k := 8) (entry.gpr .lr) (by decide : 0 + 8 ≤ 2 ^ 64) (by decide : 8 + 8 ≤ 2 ^ 64) (by decide)
    rw [BitVec.add_zero] at hapart
    exact hapart.trans (Memory.read_write_self _ _ _ (by decide))
  · rw [Core.memory_set, Core.sp_set]
    exact Memory.read_write_self _ _ _ (by decide)

theorem congr {other : Core} (h : InFrame entry c)
    (hgpr : forall r, r ∈ calleeSaved -> other.gpr r = c.gpr r) (hsp : other.sp = c.sp)
    (hmemory : other.memory = c.memory)
    (hvectors : forall v, v ∈ savedVectors -> other.vector v = c.vector v) :
    InFrame entry other where
  sp := by
    rw [hsp]
    exact h.sp
  fp := by
    rw [hgpr .fp (by decide), hsp]
    exact h.fp
  saved := by
    intro r hmem hfp
    rw [hgpr r hmem]
    exact h.saved r hmem hfp
  vectors := by
    intro v hmem
    rw [hvectors v hmem]
    exact h.vectors v hmem
  record := by
    rw [hmemory, hsp]
    exact h.record
  link := by
    rw [hmemory, hsp]
    exact h.link

/-- Registers that are not saved are not part of the frame, not even the link register. -/
theorem set (h : InFrame entry c) {r : Reg} (value : Word) (hr : r ∉ calleeSaved) :
    InFrame entry (c.set r value) := by
  refine h.congr ?_ (c.sp_set r value) (c.memory_set r value) ?_
  · intro other hmem
    have hne : other ≠ r := by
      intro heq
      rw [heq] at hmem
      exact hr hmem
    exact c.gpr_set_of_ne value hne
  · intro v _
    rw [c.vector_set]

theorem argumentMoves {sig : Signature} (h : InFrame entry c) (hcount : sig.integerCount ≤ 6) :
    InFrame entry (c.effects (Aarch64.argumentMoves sig)) := by
  have hkeeps := keepsRest_argumentMoves c hcount
  refine h.congr ?_ hkeeps.sp hkeeps.memory ?_
  · intro r hmem
    exact gpr_argumentMoves_of_ne c hcount (saved_ne_register r hmem)
  · intro v _
    rw [hkeeps.vector]

theorem address_slot (h : InFrame entry c) :
    c.address .fp spillOffset = c.sp + BitVec.ofNat 64 16 := by
  show c.gpr .fp + (16 : BitVec 16).setWidth 64 = _
  rw [h.fp]
  rfl

theorem spill (h : InFrame entry c) {count : Nat} (value : BitVec (8 * count))
    (hcount : count ≤ 8) : InFrame entry (c.store count (c.address .fp spillOffset) value) where
  sp := h.sp
  fp := h.fp
  saved := h.saved
  vectors := h.vectors
  record := by
    have hapart := Memory.read_write_apart c.memory c.sp (n := 0) (k := 16) value
      (by decide : 0 + 8 ≤ 2 ^ 64) (by omega) (by omega)
    rw [BitVec.add_zero] at hapart
    rw [h.address_slot]
    exact hapart.trans h.record
  link := by
    have hapart := Memory.read_write_apart c.memory c.sp (n := 8) (k := 16) value
      (by decide : 8 + 8 ≤ 2 ^ 64) (by omega) (by omega)
    rw [h.address_slot]
    exact hapart.trans h.link

/-- A call returns into the frame, with the spill slot as it was. -/
theorem afterReturn {next : Word} {called back : State} (h : InFrame entry c)
    (hcalled : called.toCore = c.set .lr next) (hback : Returned called back)
    (hkeeps : KeepsFrame entry called back) :
    back.pc = next ∧ InFrame entry back.toCore ∧
      forall count, count ≤ 8 ->
        back.memory.read count (back.sp + BitVec.ofNat 64 16) =
          c.memory.read count (c.sp + BitVec.ofNat 64 16) := by
  have hframe : InFrame entry (c.set .lr next) := h.set next (by decide)
  have hlink : called.gpr .lr = next := by
    rw [hcalled]
    exact c.gpr_set_self next (by decide)
  have hmemory : called.memory = c.memory := by
    rw [hcalled, c.memory_set]
  have hstack : called.sp = c.sp := by
    rw [hcalled, c.sp_set]
  rw [← hcalled] at hframe
  have hread : forall n count, n + count ≤ 32 ->
      back.memory.read count (called.sp + BitVec.ofNat 64 n) =
        called.memory.read count (called.sp + BitVec.ofNat 64 n) := by
    intro n count hn
    apply Memory.read_congr
    intro i hi
    rw [Memory.offset_add]
    refine hkeeps (n + i) ?_
    rw [hframe.sp, Memory.toNat_offset_sub _ (by decide)]
    omega
  refine ⟨hback.pc.trans hlink, ⟨?_, ?_, ?_, ?_, ?_, ?_⟩, ?_⟩
  · rw [hback.sp]
    exact hframe.sp
  · rw [hback.saved .fp (by decide), hback.sp]
    exact hframe.fp
  · intro r hmem hfp
    rw [hback.saved r hmem]
    exact hframe.saved r hmem hfp
  · intro v hmem
    rw [hback.vectors v hmem]
    exact hframe.vectors v hmem
  · have hrecord := hread 0 8 (by decide)
    rw [BitVec.add_zero] at hrecord
    rw [hback.sp, hrecord]
    exact hframe.record
  · rw [hback.sp, hread 8 8 (by decide)]
    exact hframe.link
  · intro count hcount
    rw [hback.sp, hread 16 count (by omega), hmemory, hstack]

theorem reaches_leave {image : Image 64} {s : State} {goal : State -> Prop}
    (h : InFrame entry s.toCore)
    (hahead : Ahead image [.ldpPost .fp .lr .sp frameSize, .ret] s.pc)
    (hgoal : forall back : State, Returned entry back -> back.gpr .x0 = s.gpr .x0 ->
      back.vector = s.vector -> goal back) :
    Reaches (A64.step image) goal s := by
  have hsplit : ([.ldpPost .fp .lr .sp frameSize, .ret] : List Instr) =
      [.ldpPost .fp .lr .sp frameSize] ++ [.ret] := rfl
  rw [hsplit] at hahead
  refine A64.reaches_straight hahead (by simp [Instr.isStraight]) ?_
  intro t hcore hcode
  refine A64.reaches_ret hcode ?_
  intro back hback hpc
  rw [hcore] at hback
  have hlink : t.gpr .lr = entry.gpr .lr := by
    rw [hcore]
    exact h.link
  have hother : forall r, r ≠ .lr -> r ≠ .fp -> back.gpr r = s.gpr r := by
    intro r hlr hfp
    rw [hback]
    exact (if_neg hlr).trans (if_neg hfp)
  refine Reaches.here (hgoal back ⟨?_, ?_, ?_, ?_⟩ ?_ ?_)
  · rw [hpc, Core.x_eq _ (by decide)]
    exact hlink
  · rw [hback, h.sp]
    rfl
  · intro r hmem
    by_cases hfp : r = .fp
    · rw [hfp, hback]
      exact h.record
    · have hlr : r ≠ .lr := ne_of_mem_of_not_mem hmem (by decide)
      rw [hother r hlr hfp]
      exact h.saved r hmem hfp
  · intro v hmem
    rw [hback]
    exact h.vectors v hmem
  · exact hother .x0 (by decide) (by decide)
  · rw [hback]
    rfl

end InFrame
end Aarch64
end NativeCall
