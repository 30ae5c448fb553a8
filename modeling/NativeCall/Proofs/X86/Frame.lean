import NativeCall.Proofs.X86.Execution
import NativeCall.Proofs.X86.Stack

/-!
# Frames of x86 trampolines

Between its first and its last instruction, a wrapped trampoline stays in its frame: the
stack pointer is a fixed way below where it was, and the saved registers and the return
address are those of its caller. Calls from the frame return into it.
-/

namespace NativeCall
namespace X86

variable {w : Nat} {saved : List Gpr}

/-!
# Calls
-/

/-- A function that was called has returned to the address on top of its stack, with the
saved registers as it found them. -/
structure Returned (saved : List Gpr) (called back : State w) : Prop where
  pc : back.pc = called.top
  sp : back.gpr .rsp = called.gpr .rsp + BitVec.ofNat w (w / 8)
  saved : forall r, r ∈ saved -> back.gpr r = called.gpr r

/-- A function has left the frame of a trampoline as it was, that is what lies above its own
return address up to the return address that the trampoline was entered with. -/
def KeepsFrame (entry called back : State w) : Prop :=
  forall n, n < (entry.gpr .rsp - called.gpr .rsp).toNat ->
    back.memory (called.gpr .rsp + BitVec.ofNat w (w / 8 + n)) =
      called.memory (called.gpr .rsp + BitVec.ofNat w (w / 8 + n))

theorem effects_loadScratch {mode : Mode} (c : Core w) (scratch : Gpr) (address : Address)
    (hword : w ≤ 8 * mode.wordSize.bytes) :
    c.effects [.movImm scratch address mode.wordSize] = c.set scratch (address.setWidth w) := by
  exact congrArg (c.set scratch) (BitVec.setWidth_setWidth_of_le address hword)

section Absolute

variable {mode : Mode} {s : State w} {image : Image w} {scratch : Gpr} {address : Address}
  {goal : State w -> Prop}

theorem reaches_callAbs {rest : List Instr} (hw : w ≤ 64) (hword : w ≤ 8 * mode.wordSize.bytes)
    (hahead : Ahead mode image (Instr.callAbs mode scratch address ++ rest) s.pc)
    (hgoal : forall (next : BitVec w) (called : State w),
      called.toCore = (s.toCore.set scratch (address.setWidth w)).push next ->
        called.pc = address.setWidth w -> Ahead mode image rest next -> goal called) :
    Reaches (step mode image) goal s := by
  have hsplit : Instr.callAbs mode scratch address ++ rest =
      [.movImm scratch address mode.wordSize] ++ (.call scratch :: rest) := rfl
  rw [hsplit] at hahead
  refine reaches_straight hw hahead (by simp [Instr.isStraight]) ?_
  intro t hcore hcode
  rw [effects_loadScratch _ scratch address hword] at hcore
  refine reaches_call hcode ?_
  intro next called hcalled hpc hrest
  rw [hcore] at hcalled
  refine Reaches.here (hgoal next called hcalled ?_ hrest)
  rw [hpc, hcore]
  exact s.toCore.gpr_set_self scratch _

theorem reaches_jmpAbs (hw : w ≤ 64) (hword : w ≤ 8 * mode.wordSize.bytes)
    (hahead : Ahead mode image (Instr.jmpAbs mode scratch address) s.pc)
    (hgoal : forall called : State w,
      called.toCore = s.toCore.set scratch (address.setWidth w) ->
        called.pc = address.setWidth w -> goal called) :
    Reaches (step mode image) goal s := by
  have hsplit : Instr.jmpAbs mode scratch address =
      [.movImm scratch address mode.wordSize] ++ [.jmp scratch] := rfl
  rw [hsplit] at hahead
  refine reaches_straight hw hahead (by simp [Instr.isStraight]) ?_
  intro t hcore hcode
  rw [effects_loadScratch _ scratch address hword] at hcore
  refine reaches_jmp hcode ?_
  intro called hcalled hpc
  refine Reaches.here (hgoal called (hcalled.trans hcore) ?_)
  rw [hpc, hcore]
  exact s.toCore.gpr_set_self scratch _

end Absolute

/-!
# Frames
-/

/-- The machine is in a frame of so many bytes below the entry of the trampoline. -/
structure InFrame (saved : List Gpr) (entry : State w) (space : Nat) (c : Core w) : Prop where
  sp : entry.gpr .rsp = c.gpr .rsp + BitVec.ofNat w space
  saved : forall r, r ∈ saved -> c.gpr r = entry.gpr r
  home : c.memory.read (w / 8) (entry.gpr .rsp) = entry.memory.read (w / 8) (entry.gpr .rsp)

namespace InFrame

variable {entry : State w} {space : Nat} {c : Core w}

theorem congr {other : Core w} (h : InFrame saved entry space c) (hgpr : other.gpr = c.gpr)
    (hmemory : other.memory = c.memory) : InFrame saved entry space other where
  sp := by
    rw [hgpr]
    exact h.sp
  saved := by
    rw [hgpr]
    exact h.saved
  home := by
    rw [hmemory]
    exact h.home

theorem set (h : InFrame saved entry space c) {r : Gpr} (value : BitVec w) (hsp : r ≠ .rsp)
    (hsaved : r ∉ saved) : InFrame saved entry space (c.set r value) where
  sp := by
    rw [c.gpr_set_of_ne value hsp.symm]
    exact h.sp
  saved := by
    intro other hmem
    have hne : other ≠ r := by
      intro heq
      rw [heq] at hmem
      exact hsaved hmem
    rw [c.gpr_set_of_ne value hne]
    exact h.saved other hmem
  home := h.home

theorem store (h : InFrame saved entry space c) {n count : Nat} {place : Mem}
    (value : BitVec (8 * count)) (hplace : c.address place = c.gpr .rsp + BitVec.ofNat w n)
    (hspace : n + count ≤ space) (hhigh : space + w / 8 ≤ 2 ^ w) :
    InFrame saved entry space (c.store count place value) where
  sp := h.sp
  saved := h.saved
  home := by
    have hlow : n + count ≤ 2 ^ w := by omega
    have hapart := Memory.read_write_apart c.memory (c.gpr .rsp) value hhigh hlow (Or.inr hspace)
    rw [← hplace, ← h.sp] at hapart
    exact hapart.trans h.home

/-!
# Calls from a frame
-/

section Calls

variable {next : BitVec w} {called back : State w}

theorem sp_called (h : InFrame saved entry space c) (hcalled : called.toCore = c.push next) :
    entry.gpr .rsp = called.gpr .rsp + BitVec.ofNat w (w / 8 + space) := by
  rw [h.sp, c.gpr_rsp_eq next, hcalled, Memory.offset_add]

/-- A call returns into the frame, if the return address of the trampoline is kept. -/
theorem returned (h : InFrame saved entry space c) (hword : w ≤ 8 * (w / 8))
    (hhigh : 2 * (w / 8) + space < 2 ^ w) (hsaved : .rsp ∉ saved)
    (hcalled : called.toCore = c.push next) (hback : Returned saved called back)
    (hhome : back.memory.read (w / 8) (entry.gpr .rsp) =
      called.memory.read (w / 8) (entry.gpr .rsp)) :
    back.pc = next ∧ InFrame saved entry space back.toCore := by
  have hsp : back.gpr .rsp = c.gpr .rsp := by
    rw [hback.sp, hcalled, ← c.gpr_rsp_eq next]
  refine ⟨?_, ⟨?_, ?_, ?_⟩⟩
  · rw [hback.pc, hcalled]
    exact c.top_push next hword (by omega)
  · rw [hsp]
    exact h.sp
  · intro r hmem
    have hne : r ≠ .rsp := by
      intro heq
      rw [heq] at hmem
      exact hsaved hmem
    rw [hback.saved r hmem, hcalled, c.gpr_push_of_ne next hne]
    exact h.saved r hmem
  · rw [hhome, h.sp_called hcalled, hcalled, c.read_push next (by omega) (by omega) (by omega),
      ← hcalled, ← h.sp_called hcalled]
    exact h.home

theorem read_of_keepsFrame (h : InFrame saved entry space c)
    (hhigh : 2 * (w / 8) + space < 2 ^ w) (hcalled : called.toCore = c.push next)
    (hkeeps : KeepsFrame entry called back) {n count : Nat} (hn : n + count ≤ space + w / 8) :
    back.memory.read count (c.gpr .rsp + BitVec.ofNat w n) =
      called.memory.read count (c.gpr .rsp + BitVec.ofNat w n) := by
  have hsize : (entry.gpr .rsp - called.gpr .rsp).toNat = w / 8 + space := by
    rw [h.sp_called hcalled]
    exact Memory.toNat_offset_sub _ (by omega)
  apply Memory.read_congr
  intro i hi
  rw [c.gpr_rsp_eq next, ← hcalled, Memory.offset_add, Memory.offset_add]
  refine hkeeps (n + i) ?_
  rw [hsize]
  omega

end Calls

theorem reaches_leave {mode : Mode} {image : Image w} {s : State w} {imm : BitVec 32}
    {goal : State w -> Prop} (h : InFrame saved entry space s.toCore) (hw : w ≤ 64)
    (himm : imm.signExtend w = BitVec.ofNat w space) (hsaved : .rsp ∉ saved)
    (hahead : Ahead mode image [.addImm .rsp imm, .ret] s.pc)
    (hgoal : forall back : State w, Returned saved entry back ->
      (forall r, r ≠ .rsp -> back.gpr r = s.gpr r) ->
        (exists gpr zero, back.toCore = { s.toCore with gpr, zero }) -> goal back) :
    Reaches (step mode image) goal s := by
  have hsplit : ([.addImm .rsp imm, .ret] : List Instr) = [.addImm .rsp imm] ++ [.ret] := rfl
  rw [hsplit] at hahead
  refine reaches_straight hw hahead (by simp [Instr.isStraight]) ?_
  intro t hcore hcode
  refine reaches_ret hcode ?_
  intro back hback hpc
  have hsp : t.gpr .rsp = entry.gpr .rsp := by
    rw [hcore, h.sp, ← himm]
    exact (s.toCore.gpr_set_self .rsp _).trans (BitVec.setWidth_eq _)
  have hother : forall r, r ≠ .rsp -> back.gpr r = s.gpr r := by
    intro r hne
    rw [hback, hcore]
    exact (if_neg hne).trans (if_neg hne)
  have hmemory : t.memory = s.memory := by
    rw [hcore]
    rfl
  refine Reaches.here (hgoal back ⟨?_, ?_, ?_⟩ hother ?_)
  · rw [hpc, Core.top, Core.top, hsp, hmemory]
    exact congrArg (BitVec.setWidth w) h.home
  · rw [hback, ← hsp]
    exact t.gpr_set_self .rsp _
  · intro r hmem
    have hne : r ≠ .rsp := by
      intro heq
      rw [heq] at hmem
      exact hsaved hmem
    rw [hother r hne]
    exact h.saved r hmem
  · rw [hback, hcore]
    exact ⟨_, _, rfl⟩

end InFrame
end X86
end NativeCall
