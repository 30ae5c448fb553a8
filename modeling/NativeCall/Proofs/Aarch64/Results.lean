import NativeCall.Proofs.Aarch64.Code

/-!
# Results on AArch64

Whatever a native function leaves in its result register, a wrapped trampoline turns it into
the form that the managed caller expects, whether or not a helper is called in between.
-/

namespace NativeCall
namespace Aarch64

open A64 (Access Ahead Core Instr Reg State VReg)

/-- The result is in its register, an integer one extended as its class asks for. -/
def Ready (c : Core) (result : Slot) (native : Core) : Prop :=
  match result.kind with
  | none => True
  | some kind =>
      match kind.register with
      | .integer => c.gpr .x0 = HostValue.extend kind (native.gpr .x0)
      | .single => (c.vector .v0).setWidth 32 = (native.vector .v0).setWidth 32
      | .double => (c.vector .v0).setWidth 64 = (native.vector .v0).setWidth 64

theorem x0_not_saved : Reg.x0 ∉ calleeSaved := by
  decide

theorem x_x0 (c : Core) : c.x .x0 = c.gpr .x0 :=
  c.x_eq (by decide)

/-!
# The host form
-/

theorem normalizeBoolean_eq {result : Slot} {kind : ValueClass} (hclass : result.HasClass kind) :
    normalizeBoolean result =
      if kind.register = .integer ∧ result.host = .boolean then
        [.cmpZero .x0 (kind.width == .w64), .cset .x0 .ne]
      else [] := by
  unfold normalizeBoolean
  by_cases hregister : kind.register = .integer
  · rw [hclass.integerClass?_of_integer hregister]
    simp [hregister]
  · rw [hclass.integerClass?_of_float hregister]
    simp [hregister]

/-- A value that is ready is compared in full. -/
theorem zero_cmpZero {c : Core} {kind : ValueClass} {bits : Word}
    (h : c.gpr .x0 = HostValue.extend kind bits) :
    (c.effect (.cmpZero .x0 (kind.width == .w64))).zero = (HostValue.extend kind bits == 0) := by
  have hbase : c.base .x0 = c.gpr .x0 := if_neg (by decide)
  rw [← h]
  by_cases hwide : kind.width = .w64
  · rw [beq_iff_eq.mpr hwide, ← hbase]
    rfl
  · have hnarrow : (kind.width == .w64) = false := beq_eq_false_iff_ne.mpr hwide
    have hzero := HostValue.extend_eq_zero_iff bits hwide
    rw [← h, ← hbase] at hzero
    rw [hnarrow, ← hbase]
    show ((c.base .x0).setWidth 32 == 0) = (c.base .x0 == 0)
    rw [Bool.eq_iff_iff, beq_iff_eq, beq_iff_eq, hzero]

theorem x0_normalizeBoolean {c : Core} {kind : ValueClass} {bits : Word}
    (h : c.gpr .x0 = HostValue.extend kind bits) :
    (c.effects [.cmpZero .x0 (kind.width == .w64), .cset .x0 .ne]).gpr .x0 =
      HostValue.ofBool (HostValue.extend kind bits != 0) := by
  have hzero := zero_cmpZero h
  rw [Core.effects_cons, Core.effects_cons, Core.effects_nil]
  generalize c.effect (.cmpZero .x0 (kind.width == .w64)) = compared at hzero ⊢
  have hset : (compared.effect (.cset .x0 .ne)).gpr .x0 = if !compared.zero then 1 else 0 :=
    compared.gpr_set_self _ (by decide)
  rw [hset, hzero]
  rfl

theorem vector_normalizeBoolean (c : Core) (result : Slot) :
    (c.effects (normalizeBoolean result)).vector = c.vector := by
  unfold normalizeBoolean
  split
  · split
    · exact Core.vector_set _ .x0 _
    · rfl
  · rfl

theorem InFrame.normalizeBoolean {entry : State} {c : Core} (h : InFrame entry c)
    (result : Slot) : InFrame entry (c.effects (Aarch64.normalizeBoolean result)) := by
  unfold Aarch64.normalizeBoolean
  split
  · split
    · next kind _ _ =>
        have hcompare : InFrame entry (c.effect (.cmpZero .x0 (kind.width == .w64))) :=
          h.congr (fun _ _ => rfl) rfl rfl (fun _ _ => rfl)
        exact hcompare.set _ x0_not_saved
    · exact h
  · exact h

theorem findsInteger_of_x0 {s : State} {host : HostType} {value : Word} (hx0 : s.gpr .x0 = value)
    (hboolean : host = .boolean -> value = 0 ∨ value = 1) : FindsInteger host value s := by
  cases host with
  | boolean => exact ⟨hx0, hboolean rfl⟩
  | long => exact hx0
  | _ => exact congrArg (BitVec.setWidth 32) hx0

/-- The host finds a result that is ready, once a Boolean one is zero or one. -/
theorem finds_of_ready {c : Core} {native s : State} {result : Slot}
    (hresult : result.IsResult) (hready : Ready c result native.toCore)
    (hx0 : s.gpr .x0 = (c.effects (normalizeBoolean result)).gpr .x0)
    (hvector : s.vector = c.vector) : Finds result native s := by
  rcases hresult with ⟨hnone, _, _⟩ | ⟨kind, hclass, _⟩
  · unfold Finds
    simp only [hnone]
  · unfold Ready at hready
    unfold Finds
    rw [normalizeBoolean_eq hclass] at hx0
    simp only [hclass.kind_eq] at hready ⊢
    cases hregister : kind.register with
    | integer =>
        simp only [hregister] at hready ⊢
        refine findsInteger_of_x0 ?_ ?_
        · rw [HostValue.ofNative_eq]
          by_cases hboolean : result.host = .boolean
          · rw [if_pos ⟨hregister, hboolean⟩, x0_normalizeBoolean hready] at hx0
            rw [if_pos hboolean]
            exact hx0
          · rw [if_neg (fun h => hboolean h.right)] at hx0
            rw [if_neg hboolean, ← hready]
            exact hx0
        · intro hboolean
          rw [HostValue.ofNative_eq, if_pos hboolean]
          exact HostValue.ofBool_eq_zero_or_one _
    | single =>
        simp only [hregister] at hready ⊢
        rw [hvector]
        exact hready
    | double =>
        simp only [hregister] at hready ⊢
        rw [hvector]
        exact hready

theorem reaches_end {entry native s : State} {image : Image 64} {result : Slot}
    (hresult : result.IsResult) (hframe : InFrame entry s.toCore)
    (hready : Ready s.toCore result native.toCore)
    (hahead : Ahead image (normalizeBoolean result ++ [.ldpPost .fp .lr .sp frameSize, .ret])
      s.pc) :
    Reaches (A64.step image) (fun back => Returned entry back ∧ Finds result native back) s := by
  refine A64.reaches_straight hahead
    (fun instr hmem => (isPlain_normalizeBoolean result instr hmem).straight) ?_
  intro t hcore hcode
  have hleave : InFrame entry t.toCore := by
    rw [hcore]
    exact hframe.normalizeBoolean result
  refine hleave.reaches_leave hcode ?_
  intro back hback hx0 hvector
  refine ⟨hback, finds_of_ready hresult hready ?_ ?_⟩
  · rw [hx0, hcore]
  · rw [hvector, hcore]
    exact vector_normalizeBoolean s.toCore result

/-!
# Without a helper
-/

theorem x0_extendInto (c : Core) (kind : ValueClass) :
    (c.effects (extendInto .x0 .x0 kind .long)).gpr .x0 = HostValue.extend kind (c.gpr .x0) := by
  rw [effects_extendInto c kind .long (by decide), c.gpr_set_self _ (by decide)]
  exact HostValue.toNative_long kind _

theorem ready_afterCall (c : Core) (result : Slot) :
    Ready (c.effects (afterCall result none)) result c := by
  unfold Ready afterCall ValueClass.isInteger
  cases hkind : result.kind with
  | none => trivial
  | some kind =>
      dsimp only
      cases hregister : kind.register with
      | integer => exact x0_extendInto c kind
      | single => rfl
      | double => rfl

theorem InFrame.afterCall {entry : State} {c : Core} (h : InFrame entry c) (result : Slot) :
    InFrame entry (c.effects (Aarch64.afterCall result none)) := by
  unfold Aarch64.afterCall
  cases result.kind with
  | none => exact h
  | some kind =>
      dsimp only
      split
      · rw [effects_extendInto c kind .long (by decide)]
        exact h.set _ x0_not_saved
      · exact h

theorem isPlain_afterCall (result : Slot) : forall instr,
    instr ∈ afterCall result none -> IsPlain instr := by
  intro instr hmem
  unfold afterCall at hmem
  split at hmem
  next hsome _ => cases hsome
  next hsome _ => cases hsome
  next =>
    split at hmem
    · exact isPlain_extendInto _ .long (by decide) (by decide) instr hmem
    · cases hmem
  next => cases hmem

theorem reaches_without_helper {entry native : State} {image : Image 64} {result : Slot}
    (hresult : result.IsResult) (hframe : InFrame entry native.toCore)
    (hahead : Ahead image (afterCall result none ++
      (normalizeBoolean result ++ [.ldpPost .fp .lr .sp frameSize, .ret])) native.pc) :
    Reaches (A64.step image) (fun back => Returned entry back ∧ Finds result native back)
      native := by
  refine A64.reaches_straight hahead
    (fun instr hmem => (isPlain_afterCall result instr hmem).straight) ?_
  intro t hcore hcode
  refine reaches_end hresult ?_ ?_ hcode
  · rw [hcore]
    exact hframe.afterCall result
  · rw [hcore]
    exact ready_afterCall native.toCore result

/-!
# With a helper
-/

def Spilled (c : Core) (kind : ValueClass) (native : Core) : Prop :=
  let slot := c.sp + BitVec.ofNat 64 16
  match kind.register with
  | .integer => c.memory.read 8 slot = native.gpr .x0
  | .single => c.memory.read 4 slot = (native.vector .v0).setWidth 32
  | .double => c.memory.read 8 slot = (native.vector .v0).setWidth 64

theorem spilled_spillResult {entry : State} {c : Core} (hframe : InFrame entry c)
    (kind : ValueClass) : Spilled (c.effect (spillResult kind)) kind c := by
  have hslot := hframe.address_slot
  unfold Spilled spillResult
  cases kind.register with
  | integer =>
      show (c.memory.write 8 (c.address .fp spillOffset) ((c.x .x0).setWidth 64)).read 8
        (c.sp + BitVec.ofNat 64 16) = _
      rw [hslot, Memory.read_write_self _ _ _ (by decide), x_x0]
      exact BitVec.setWidth_eq _
  | single =>
      show (c.memory.write 4 (c.address .fp spillOffset) ((c.vector .v0).setWidth 32)).read 4
        (c.sp + BitVec.ofNat 64 16) = _
      rw [hslot, Memory.read_write_self _ _ _ (by decide)]
  | double =>
      show (c.memory.write 8 (c.address .fp spillOffset) ((c.vector .v0).setWidth 64)).read 8
        (c.sp + BitVec.ofNat 64 16) = _
      rw [hslot, Memory.read_write_self _ _ _ (by decide)]

theorem InFrame.spillResult {entry : State} {c : Core} (h : InFrame entry c)
    (kind : ValueClass) : InFrame entry (c.effect (Aarch64.spillResult kind)) := by
  unfold Aarch64.spillResult
  cases kind.register with
  | integer => exact h.spill _ (by decide)
  | single => exact h.spill _ (by decide)
  | double => exact h.spill _ (by decide)

theorem Spilled.congr {c other native : Core} {kind : ValueClass} (h : Spilled c kind native)
    (hslot : forall count, count ≤ 8 ->
      other.memory.read count (other.sp + BitVec.ofNat 64 16) =
        c.memory.read count (c.sp + BitVec.ofNat 64 16)) :
    Spilled other kind native := by
  unfold Spilled at h ⊢
  cases hregister : kind.register with
  | integer =>
      simp only [hregister] at h ⊢
      exact (hslot 8 (by decide)).trans h
  | single =>
      simp only [hregister] at h ⊢
      exact (hslot 4 (by decide)).trans h
  | double =>
      simp only [hregister] at h ⊢
      exact (hslot 8 (by decide)).trans h

theorem extend_read_integerAccess (m : Memory 64) (a : Word) (kind : ValueClass) :
    HostValue.extend kind (m.read 8 a) =
      if kind.isSigned then (m.read (integerAccess kind.width).scale a).signExtend 64
      else (m.read (integerAccess kind.width).scale a).setWidth 64 := by
  have hlow := m.read_setWidth a (by cases kind.width <;> decide :
    (integerAccess kind.width).scale ≤ 8)
  rw [← hlow]
  rcases kind with ⟨register, width, signedness⟩
  cases width <;> rfl

theorem effect_reloadResult {c native : Core} {entry : State} {kind : ValueClass}
    (hframe : InFrame entry c) (hregister : kind.register = .integer)
    (h : Spilled c kind native) :
    c.effect (reloadResult kind) = c.set .x0 (HostValue.extend kind (native.gpr .x0)) := by
  unfold Spilled at h
  simp only [hregister] at h
  rw [← h, extend_read_integerAccess, ← hframe.address_slot, reloadResult, hregister]
  dsimp only
  split <;> rfl

theorem ready_reloadResult {c native : Core} {entry : State} {result : Slot} {kind : ValueClass}
    (hframe : InFrame entry c) (hkind : result.kind = some kind) (h : Spilled c kind native) :
    Ready (c.effect (reloadResult kind)) result native := by
  unfold Ready
  simp only [hkind]
  cases hregister : kind.register with
  | integer =>
      dsimp only
      rw [effect_reloadResult hframe hregister h]
      exact c.gpr_set_self _ (by decide)
  | single =>
      unfold Spilled at h
      simp only [hregister] at h
      rw [reloadResult, hregister]
      show ((c.memory.read 4 (c.address .fp spillOffset)).setWidth 128).setWidth 32 = _
      rw [hframe.address_slot, BitVec.setWidth_setWidth_of_le _ (by decide), h]
      exact BitVec.setWidth_eq _
  | double =>
      unfold Spilled at h
      simp only [hregister] at h
      rw [reloadResult, hregister]
      show ((c.memory.read 8 (c.address .fp spillOffset)).setWidth 128).setWidth 64 = _
      rw [hframe.address_slot, BitVec.setWidth_setWidth_of_le _ (by decide), h]
      exact BitVec.setWidth_eq _

theorem InFrame.reloadResult {entry : State} {c : Core} (h : InFrame entry c)
    (kind : ValueClass) : InFrame entry (c.effect (Aarch64.reloadResult kind)) := by
  have hvector : forall value, InFrame entry (c.setVector .v0 value) := by
    intro value
    refine h.congr (fun _ _ => rfl) rfl rfl ?_
    intro v hmem
    have hne : v ≠ .v0 := ne_of_mem_of_not_mem hmem (by decide)
    exact if_neg hne
  unfold Aarch64.reloadResult
  cases kind.register with
  | integer =>
      dsimp only
      split
      · exact h.set _ x0_not_saved
      · exact h.set _ x0_not_saved
  | single => exact hvector _
  | double => exact hvector _

end Aarch64
end NativeCall
