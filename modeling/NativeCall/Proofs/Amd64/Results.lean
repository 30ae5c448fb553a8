import NativeCall.Proofs.Amd64.Arguments
import NativeCall.Proofs.Amd64.Frame

/-!
# Results on x86-64

Whatever a native function leaves in its result register, a wrapped trampoline turns it into
the value that the buffer path gives, whether or not a helper is called in between.
-/

namespace NativeCall
namespace Amd64

open X86 (Ahead Core Gpr Instr State step64)

/-- The result is in its register, an integer one extended as its class asks for. -/
def Ready (c : Core 64) (result : Slot) (bits : Word) : Prop :=
  match result.kind with
  | none => True
  | some kind =>
      match kind.register with
      | .integer => c.gpr .rax = HostValue.extend kind bits
      | .single => (c.vector .xmm0).setWidth 32 = bits.setWidth 32
      | .double => (c.vector .xmm0).setWidth 64 = bits

/-!
# The host form
-/

theorem finds_of_rax {s : State 64} {host : HostType} {value : Word}
    (hintegral : host.isIntegral = true) (hrax : s.gpr .rax = value)
    (hboolean : host = .boolean -> value = 0 ∨ value = 1) : Finds s host value := by
  cases host with
  | boolean => exact ⟨hrax, hboolean rfl⟩
  | byte => exact congrArg (BitVec.setWidth 32) hrax
  | short => exact congrArg (BitVec.setWidth 32) hrax
  | char => exact congrArg (BitVec.setWidth 32) hrax
  | int => exact congrArg (BitVec.setWidth 32) hrax
  | long => exact hrax
  | void => cases hintegral
  | float => cases hintegral
  | double => cases hintegral

/-- The host finds a result that is ready, once a Boolean one is zero or one. -/
theorem finds_of_ready {c : Core 64} {s : State 64} {result : Slot} {bits : Word}
    (hresult : result.IsResult)
    (hready : Ready c result bits)
    (hrax : s.gpr .rax =
      if result.host = .boolean then HostValue.ofBool (c.gpr .rax != 0) else c.gpr .rax)
    (hvector : s.vector = c.vector) :
    Finds s result.host (Invoker.hostResult result bits) := by
  rcases hresult with ⟨_, hhost, _⟩ | ⟨kind, hclass, _⟩
  · rw [hhost]
    trivial
  · unfold Ready at hready
    unfold Invoker.hostResult ValueClass.isInteger
    simp only [hclass.kind_eq] at hready ⊢
    cases hregister : kind.register with
    | integer =>
        simp only [hregister] at hready
        rw [hready, ← HostValue.ofNative_eq] at hrax
        refine finds_of_rax (hclass.isIntegral hregister) hrax ?_
        intro hboolean
        rw [HostValue.ofNative_eq, if_pos hboolean]
        exact HostValue.ofBool_eq_zero_or_one _
    | single =>
        simp only [hregister] at hready
        rw [hclass.host_of_single hregister]
        show (s.vector .xmm0).setWidth 32 = bits.setWidth 32
        rw [hvector]
        exact hready
    | double =>
        simp only [hregister] at hready
        rw [hclass.host_of_double hregister]
        show (s.vector .xmm0).setWidth 64 = bits
        rw [hvector]
        exact hready

/-!
# The end of the frame
-/

theorem rax_not_saved : Gpr.rax ∉ calleeSaved := by
  decide

theorem gpr_normalizeBoolean (c : Core 64) (result : Slot) :
    (c.effects (normalizeBoolean result)).gpr .rax =
      if result.host = .boolean then HostValue.ofBool (c.gpr .rax != 0) else c.gpr .rax := by
  unfold normalizeBoolean
  split
  next =>
    have hflag : (c.low .rax .qword &&& c.low .rax .qword == 0) = (c.gpr .rax == 0) := by
      show ((c.gpr .rax).setWidth 64 &&& (c.gpr .rax).setWidth 64 == 0) = _
      rw [BitVec.setWidth_eq, BitVec.and_self]
    show ((X86.replaceByte (c.gpr .rax) 0
      (if c.low .rax .qword &&& c.low .rax .qword == 0 then 0 else 1)).setWidth 8).setWidth 64 = _
    rw [hflag, X86.setWidth_replaceByte _ _ (by decide)]
    by_cases hzero : c.gpr .rax = 0#64 <;> simp [hzero, HostValue.ofBool]
  next => rfl

theorem vector_normalizeBoolean (c : Core 64) (result : Slot) :
    (c.effects (normalizeBoolean result)).vector = c.vector := by
  unfold normalizeBoolean
  split <;> rfl

theorem InFrame.normalizeBoolean {entry : State 64} {result : Slot} {c : Core 64}
    (h : InFrame entry result c) :
    InFrame entry result (c.effects (Amd64.normalizeBoolean result)) := by
  unfold Amd64.normalizeBoolean
  split
  next =>
    have htest : InFrame entry result (c.effect (.test .rax .rax .qword)) := h.congr rfl rfl
    exact (htest.set _ (by decide) rax_not_saved).set _ (by decide) rax_not_saved
  next => exact h

theorem straight_normalizeBoolean (result : Slot) : forall instr,
    instr ∈ normalizeBoolean result -> instr.isStraight = true := by
  unfold normalizeBoolean
  split <;> simp [Instr.isStraight]

theorem reaches_end {entry s : State 64} {image : Image 64} {result : Slot} {bits : Word}
    (hresult : result.IsResult) (hframe : InFrame entry result s.toCore)
    (hready : Ready s.toCore result bits)
    (hahead : Ahead .bits64 image
      (normalizeBoolean result ++ [.addImm .rsp (frameSpace result), .ret]) s.pc) :
    Reaches (step64 image) (fun back => Returned entry back ∧
      Finds back result.host (Invoker.hostResult result bits)) s := by
  refine X86.reaches_straight (by decide) hahead (straight_normalizeBoolean result) ?_
  intro t hcore hcode
  have hnormal : InFrame entry result t.toCore := by
    rw [hcore]
    exact hframe.normalizeBoolean
  refine X86.InFrame.reaches_leave hnormal (by decide) (frameSpace_eq result) (by decide) hcode ?_
  intro back hback hother hrest
  refine ⟨hback, finds_of_ready hresult hready ?_ ?_⟩
  · rw [hother .rax (by decide), hcore]
    exact gpr_normalizeBoolean s.toCore result
  · rcases hrest with ⟨gpr, zero, hleft⟩
    rw [hleft, hcore]
    exact vector_normalizeBoolean s.toCore result

/-!
# Without a helper
-/

theorem ready_afterCall {s : State 64} {result : Slot} {bits : Word}
    (h : Answers s result bits) : Ready (s.toCore.effects (afterCall result none)) result bits := by
  unfold Answers at h
  unfold Ready afterCall ValueClass.isInteger
  cases hkind : result.kind with
  | none => trivial
  | some kind =>
      simp only [hkind] at h ⊢
      cases hregister : kind.register with
      | single =>
          simp only [hregister] at h ⊢
          exact h
      | double =>
          simp only [hregister] at h ⊢
          exact h
      | integer =>
          simp only [hregister] at h ⊢
          show (s.toCore.effects (extendResult kind)).gpr .rax = _
          unfold extendResult
          split
          next hwide => exact h.trans (HostValue.extend_of_w64 bits hwide).symm
          next =>
            rw [Core.effects_cons, effect_extendInto, Core.effects_nil, Core.gpr_set_self]
            show HostValue.toNative kind .long ((s.gpr .rax).setWidth 64) = _
            rw [BitVec.setWidth_eq, h]
            exact HostValue.toNative_long kind bits

theorem straight_extendInto (dst : Gpr) (src : X86.Rm) (kind : ValueClass) (host : HostType) :
    (extendInto dst src kind host).isStraight = true := by
  unfold extendInto
  split
  · rfl
  · split <;> rfl

theorem straight_afterCall (result : Slot) : forall instr,
    instr ∈ afterCall result none -> instr.isStraight = true := by
  unfold afterCall extendResult
  cases result.kind with
  | none => simp
  | some kind =>
      cases kind.isInteger <;> by_cases hwide : kind.width = .w64 <;>
        simp [hwide, straight_extendInto]

theorem InFrame.afterCall {entry : State 64} {result : Slot} {c : Core 64}
    (h : InFrame entry result c) :
    InFrame entry result (c.effects (Amd64.afterCall result none)) := by
  unfold Amd64.afterCall
  cases result.kind with
  | none => exact h
  | some kind =>
      show InFrame entry result (c.effects (if kind.isInteger then extendResult kind else []))
      unfold extendResult
      split
      next =>
        split
        next => exact h
        next =>
          rw [Core.effects_cons, effect_extendInto]
          exact h.set _ (by decide) rax_not_saved
      next => exact h

theorem reaches_without_helper {entry s : State 64} {image : Image 64} {result : Slot}
    {bits : Word}
    (hresult : result.IsResult)
    (hframe : InFrame entry result s.toCore) (hanswers : Answers s result bits)
    (hahead : Ahead .bits64 image (afterCall result none ++
      (normalizeBoolean result ++ [.addImm .rsp (frameSpace result), .ret])) s.pc) :
    Reaches (step64 image) (fun back => Returned entry back ∧
      Finds back result.host (Invoker.hostResult result bits)) s := by
  refine X86.reaches_straight (by decide) hahead (straight_afterCall result) ?_
  intro t hcore hcode
  refine reaches_end hresult ?_ ?_ hcode
  · rw [hcore]
    exact hframe.afterCall
  · rw [hcore]
    exact ready_afterCall hanswers

/-!
# With a helper
-/

def Spilled (c : Core 64) (kind : ValueClass) (bits : Word) : Prop :=
  match kind.register with
  | .integer | .double => c.memory.read 8 (c.gpr .rsp) = bits
  | .single => c.memory.read 4 (c.gpr .rsp) = bits.setWidth 32

theorem spilled_spillResult {s : State 64} {result : Slot} {kind : ValueClass} {bits : Word}
    (hkind : result.kind = some kind) (h : Answers s result bits) :
    Spilled (s.toCore.effect (spillResult kind)) kind bits := by
  unfold Answers at h
  unfold Spilled spillResult
  simp only [hkind] at h
  cases hregister : kind.register with
  | integer =>
      simp only [hregister] at h ⊢
      show (s.memory.write 8 (s.toCore.address (stack 0)) ((s.gpr .rax).setWidth 64)).read 8
        (s.gpr .rsp) = bits
      rw [address_slot, Memory.read_write_self _ _ _ (by decide), h]
      exact BitVec.setWidth_eq bits
  | single =>
      simp only [hregister] at h ⊢
      show (s.memory.write 4 (s.toCore.address (stack 0)) ((s.vector .xmm0).setWidth 32)).read 4
        (s.gpr .rsp) = _
      rw [address_slot, Memory.read_write_self _ _ _ (by decide), h]
  | double =>
      simp only [hregister] at h ⊢
      show (s.memory.write 8 (s.toCore.address (stack 0)) ((s.vector .xmm0).setWidth 64)).read 8
        (s.gpr .rsp) = _
      rw [address_slot, Memory.read_write_self _ _ _ (by decide), h]

theorem straight_spillResult (kind : ValueClass) : forall instr,
    instr ∈ [spillResult kind] -> instr.isStraight = true := by
  intro instr hmem
  rw [List.mem_singleton.mp hmem, spillResult]
  cases kind.register <;> rfl

theorem InFrame.spillResult {entry : State 64} {result : Slot} {c : Core 64}
    (h : InFrame entry result c) (kind : ValueClass) :
    InFrame entry result (c.effect (Amd64.spillResult kind)) := by
  unfold Amd64.spillResult
  cases kind.register with
  | integer => exact h.spill _ (by decide)
  | single => exact h.spill _ (by decide)
  | double => exact h.spill _ (by decide)

theorem Spilled.congr {c other : Core 64} {kind : ValueClass} {bits : Word}
    (h : Spilled c kind bits)
    (hslot : other.memory.read 8 (other.gpr .rsp) = c.memory.read 8 (c.gpr .rsp)) :
    Spilled other kind bits := by
  unfold Spilled at h ⊢
  cases hregister : kind.register with
  | integer =>
      simp only [hregister] at h ⊢
      exact hslot.trans h
  | double =>
      simp only [hregister] at h ⊢
      exact hslot.trans h
  | single =>
      simp only [hregister] at h ⊢
      have hlow := Memory.read_setWidth other.memory (other.gpr .rsp) (by decide : 4 ≤ 8)
      rw [hslot, Memory.read_setWidth c.memory (c.gpr .rsp) (by decide)] at hlow
      exact hlow.symm.trans h

theorem ready_reloadResult {c : Core 64} {result : Slot} {kind : ValueClass} {bits : Word}
    (hkind : result.kind = some kind) (h : Spilled c kind bits) :
    Ready (c.effect (reloadResult kind)) result bits := by
  unfold Spilled at h
  unfold Ready reloadResult
  simp only [hkind]
  cases hregister : kind.register with
  | integer =>
      simp only [hregister] at h ⊢
      rw [effect_extendInto, Core.gpr_set_self]
      show HostValue.toNative kind .long (c.memory.read 8 (c.address (stack 0))) = _
      rw [address_slot, h]
      exact HostValue.toNative_long kind bits
  | single =>
      simp only [hregister] at h ⊢
      show ((c.memory.read 4 (c.address (stack 0))).setWidth 128).setWidth 32 = _
      rw [address_slot, BitVec.setWidth_setWidth_of_le _ (by decide), h]
      exact BitVec.setWidth_eq _
  | double =>
      simp only [hregister] at h ⊢
      show ((c.memory.read 8 (c.address (stack 0))).setWidth 128).setWidth 64 = _
      rw [address_slot, BitVec.setWidth_setWidth_of_le _ (by decide), h]
      exact BitVec.setWidth_eq _

theorem straight_reloadResult (kind : ValueClass) : forall instr,
    instr ∈ [reloadResult kind] -> instr.isStraight = true := by
  intro instr hmem
  rw [List.mem_singleton.mp hmem, reloadResult]
  cases kind.register with
  | integer => exact straight_extendInto .rax (.mem (stack 0)) kind .long
  | single => rfl
  | double => rfl

theorem InFrame.reloadResult {entry : State 64} {result : Slot} {c : Core 64}
    (h : InFrame entry result c) (kind : ValueClass) :
    InFrame entry result (c.effect (Amd64.reloadResult kind)) := by
  unfold Amd64.reloadResult
  cases kind.register with
  | integer =>
      show InFrame entry result (c.effect (extendInto _ _ _ _))
      rw [effect_extendInto]
      exact h.set _ (by decide) rax_not_saved
  | single => exact h.congr rfl rfl
  | double => exact h.congr rfl rfl

end Amd64
end NativeCall
