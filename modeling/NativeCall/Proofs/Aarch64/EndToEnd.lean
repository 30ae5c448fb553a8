import NativeCall.Proofs.Aarch64.Results

/-!
# Calls through AArch64 trampolines

A trampoline that is entered by the managed caller enters the target with its arguments in
native form, and comes back with the host form of the result that the target left.
-/

namespace NativeCall
namespace Aarch64

open A64 (Ahead Core Instr Reg State VReg)

/-!
# Calls of helpers
-/

theorem reaches_callHelper {entry s : State} {image : Image 64} {helper : Address}
    {rest : List Instr} {goal : State -> Prop} (hframe : InFrame entry s.toCore)
    (hahead : Ahead image (callAbs helper ++ rest) s.pc)
    (hgoal : forall back : State, InFrame entry back.toCore ->
      (forall count, count ≤ 8 ->
        back.memory.read count (back.sp + BitVec.ofNat 64 16) =
          s.memory.read count (s.sp + BitVec.ofNat 64 16)) ->
      Ahead image rest back.pc -> Reaches (A64.step image) goal back) :
    CallsHelper image (some helper) entry goal s := by
  refine reaches_callAbs hahead ?_
  intro next called hcalled hpc hrest
  refine ⟨hpc, ?_⟩
  intro back hback hkeeps
  have hloaded : InFrame entry (s.toCore.set .x9 helper) := hframe.set _ (by decide)
  rcases hloaded.afterReturn hcalled hback hkeeps with ⟨hnext, hback', hslot⟩
  refine hgoal back hback' ?_ ?_
  · intro count hcount
    rw [hslot count hcount, Core.memory_set, Core.sp_set]
  · rw [hnext]
    exact hrest

theorem reaches_with_helper {entry native : State} {image : Image 64} {result : Slot}
    {helper : Address} (hresult : result.IsResult) (hframe : InFrame entry native.toCore)
    (hahead : Ahead image (afterCall result (some helper) ++
      (normalizeBoolean result ++ [.ldpPost .fp .lr .sp frameSize, .ret])) native.pc) :
    CallsHelper image (some helper) entry
      (fun back => Returned entry back ∧ Finds result native back) native := by
  cases hkind : result.kind with
  | none =>
      have hcode : afterCall result (some helper) = callAbs helper := by
        simp only [afterCall, hkind]
      rw [hcode] at hahead
      refine reaches_callHelper hframe hahead ?_
      intro back hback _ hrest
      refine reaches_end hresult hback ?_ hrest
      unfold Ready
      simp only [hkind]
  | some kind =>
      have hcode : afterCall result (some helper) ++
          (normalizeBoolean result ++ [.ldpPost .fp .lr .sp frameSize, .ret]) =
          [spillResult kind] ++ (callAbs helper ++ ([reloadResult kind] ++
            (normalizeBoolean result ++ [.ldpPost .fp .lr .sp frameSize, .ret]))) := by
        simp [afterCall, hkind]
      rw [hcode] at hahead
      refine A64.reaches_straight hahead ?_ ?_
      · intro instr hmem
        rw [List.mem_singleton.mp hmem]
        exact (isPlain_spillResult kind).straight
      intro t hcore hcall
      have hspilled : Spilled t.toCore kind native.toCore := by
        rw [hcore]
        exact spilled_spillResult hframe kind
      have hspill : InFrame entry t.toCore := by
        rw [hcore]
        exact hframe.spillResult kind
      refine reaches_callHelper hspill hcall ?_
      intro back hback hslot hreload
      refine A64.reaches_straight hreload ?_ ?_
      · intro instr hmem
        rw [List.mem_singleton.mp hmem]
        exact (isPlain_reloadResult kind).straight
      intro u hreloaded hrest
      refine reaches_end hresult ?_ ?_ hrest
      · rw [hreloaded]
        exact hback.reloadResult kind
      · rw [hreloaded]
        exact ready_reloadResult hback hkind (hspilled.congr hslot)

/-!
# Jumps
-/

/-- What the machine does from the entry of a trampoline on: it enters the target with the
arguments, and it comes back with the result once the target and the helper have returned. -/
def Calls (image : Image 64) (sig : Signature) (target : Address) (helper : Option Address)
    (entry : State) : Prop :=
  Reaches (A64.step image) (fun called =>
    called.pc = target ∧ PassesAll sig entry called ∧
      forall native, Returned called native -> KeepsFrame entry called native ->
        CallsHelper image helper entry (fun back =>
          Returned entry back ∧ Finds sig.result native back) native) entry

theorem finds_of_passesThrough {result : Slot} {native : State} (hresult : result.IsResult)
    (hpasses : result.passesThrough = true) : Finds result native native := by
  unfold Finds
  rcases hresult with ⟨hnone, _, _⟩ | ⟨kind, hclass, hvoid⟩
  · simp only [hnone]
  · simp only [hclass.kind_eq]
    cases hregister : kind.register with
    | single => trivial
    | double => trivial
    | integer =>
        dsimp only
        rcases Slot.integer_of_passesThrough hpasses hvoid hclass.kind_eq hregister with
          ⟨hwidth, hhost⟩ | ⟨hwidth, hhost⟩
        · have hlow := HostValue.setWidth_extend kind (native.gpr .x0)
          rw [hwidth] at hlow
          rw [hhost]
          exact hlow.symm
        · rw [hhost]
          exact (HostValue.extend_of_w64 (native.gpr .x0) hwidth).symm

theorem register_ne_x9 : forall k, k < 6 -> register k ≠ .x9 := by
  decide

theorem register_ne_lr : forall k, k < 6 -> register k ≠ .lr := by
  decide

theorem hostRegister_ne_fp : forall k, k < 6 -> hostRegister k ≠ .fp := by
  decide

theorem calls_of_direct {image : Image 64} {sig : Signature} {target : Address} {entry : State}
    (hresult : sig.result.IsResult) (hcount : sig.integerCount ≤ 6)
    (hpasses : sig.result.passesThrough = true)
    (hahead : Ahead image (code sig target none .direct) entry.pc) :
    Calls image sig target none entry := by
  refine A64.reaches_straight hahead
    (fun instr hmem => (isPlain_argumentMoves hcount instr hmem).straight) ?_
  intro t hcore hjump
  refine reaches_jumpAbs hjump ?_
  intro called hcalled hpc
  have hkeeps := keepsRest_argumentMoves entry.toCore hcount
  have hgpr : forall r, r ≠ .x9 ->
      called.gpr r = (entry.toCore.effects (argumentMoves sig)).gpr r := by
    intro r hne
    rw [hcalled, hcore]
    exact Core.gpr_set_of_ne _ target hne
  have hkept : forall r, (forall k, k < 6 -> r ≠ register k) -> r ≠ .x9 ->
      called.gpr r = entry.gpr r := by
    intro r hne hscratch
    rw [hgpr r hscratch]
    exact gpr_argumentMoves_of_ne entry.toCore hcount hne
  have hvector : called.vector = entry.vector := by
    rw [hcalled, Core.vector_set, hcore]
    exact hkeeps.vector
  refine ⟨hpc, ?_, ?_⟩
  · exact passesAll_of_argumentMoves hcount (fun _ _ => rfl)
      (fun k hk => hgpr _ (register_ne_x9 k hk)) hvector
  · intro native hnative _
    refine Reaches.here ⟨⟨?_, ?_, ?_, ?_⟩, finds_of_passesThrough hresult hpasses⟩
    · rw [hnative.pc]
      exact hkept .lr (by decide) (by decide)
    · rw [hnative.sp, hcalled, Core.sp_set, hcore]
      exact hkeeps.sp
    · intro r hmem
      rw [hnative.saved r hmem]
      refine hkept r (saved_ne_register r hmem) ?_
      exact ne_of_mem_of_not_mem hmem (by decide)
    · intro v hmem
      rw [hnative.vectors v hmem, hvector]

/-!
# Calls from a frame
-/

theorem gpr_enter (entry : State) {r : Reg} (h : r ≠ .fp) :
    (entry.toCore.effects enter).gpr r = entry.gpr r := by
  rw [effects_enter, Core.gpr_set_of_ne _ _ h, Core.gpr_storePair]

theorem vector_enter (entry : State) : (entry.toCore.effects enter).vector = entry.vector := by
  rw [effects_enter, Core.vector_set, Core.vector_storePair]

theorem calls_of_wrapped {image : Image 64} {sig : Signature} {target : Address}
    {helper : Option Address} {entry : State} (hresult : sig.result.IsResult)
    (hcount : sig.integerCount ≤ 6)
    (hahead : Ahead image (code sig target helper .wrapped) entry.pc) :
    Calls image sig target helper entry := by
  have hcode : code sig target helper .wrapped =
      (enter ++ argumentMoves sig) ++ (callAbs target ++ (afterCall sig.result helper ++
        (normalizeBoolean sig.result ++ [.ldpPost .fp .lr .sp frameSize, .ret]))) := by
    simp [code, enter]
  rw [hcode] at hahead
  refine A64.reaches_straight hahead ?_ ?_
  · intro instr hmem
    rcases List.mem_append.mp hmem with henter | hmove
    · exact (isPlain_enter instr henter).straight
    · exact (isPlain_argumentMoves hcount instr hmove).straight
  intro t hcore hcall
  rw [Core.effects_append] at hcore
  refine reaches_callAbs hcall ?_
  intro next called hcalled hpc hrest
  refine ⟨hpc, ?_, ?_⟩
  · refine @passesAll_of_argumentMoves sig entry called (entry.toCore.effects enter) hcount ?_ ?_ ?_
    · intro k hk
      exact gpr_enter entry (hostRegister_ne_fp k hk)
    · intro k hk
      rw [hcalled, Core.gpr_set_of_ne _ next (register_ne_lr k hk),
        Core.gpr_set_of_ne _ target (register_ne_x9 k hk), hcore]
    · rw [hcalled, Core.vector_set, Core.vector_set, hcore,
        (keepsRest_argumentMoves _ hcount).vector]
      exact vector_enter entry
  · intro native hnative hkeeps
    have hframe : InFrame entry (t.toCore.set .x9 target) := by
      rw [hcore]
      exact ((InFrame.enter entry).argumentMoves hcount).set _ (by decide)
    rcases hframe.afterReturn hcalled hnative hkeeps with ⟨hnext, hback, _⟩
    rw [← hnext] at hrest
    cases helper with
    | none => exact reaches_without_helper hresult hback hrest
    | some helper => exact reaches_with_helper hresult hback hrest

/-!
# All trampolines
-/

/-- A compiled trampoline passes the arguments on to its target and the result back. -/
theorem compile_calls_target {sig : Signature} (target : Address) (helper : Option Address)
    (hbuilt : sig.Built) (haccepts : Trampoline.accepts .aarch64 sig = true)
    (hhelper : sig.capturesError = true -> helper.isSome = true) :
    exists trampoline,
      Trampoline.compile .aarch64 sig target helper = .ok trampoline ∧
      forall (image : Image 64) (entry : State),
        image.code = trampoline.code -> entry.pc = image.base ->
          Reaches (A64.step image) (fun called =>
            called.pc = target ∧ PassesAll sig entry called ∧
            forall native, Returned called native -> KeepsFrame entry called native ->
              CallsHelper image (sig.calledHelper helper) entry (fun back =>
                Returned entry back ∧ Finds sig.result native back) native) entry := by
  have haccepted := hbuilt.accepted haccepts
  have hbudget : sig.integerCount ≤ 6 ∧ sig.floatCount ≤ 8 := by
    simpa [Signature.fitsBudget, Arch.registerBudget] using haccepted.fits
  have hcount := hbudget.left
  rcases exists_compile target haccepts hcount hhelper with ⟨trampoline, hcompile, hassemble⟩
  refine ⟨trampoline, hcompile, ?_⟩
  intro image entry hcode hpc
  rw [← hcode] at hassemble
  have hahead := A64.Ahead.start
    (encodable_code target (sig.calledHelper helper) sig.frame hcount) hassemble
  rw [← hpc] at hahead
  cases hframe : sig.frame with
  | direct =>
      rcases sig.of_frame_eq_direct hframe with ⟨hcaptures, hpasses⟩
      have hnone : sig.calledHelper helper = none := by
        simp [Signature.calledHelper, hcaptures]
      rw [hframe, hnone] at hahead
      rw [hnone]
      exact calls_of_direct haccepted.result hcount hpasses hahead
  | wrapped =>
      rw [hframe] at hahead
      exact calls_of_wrapped haccepted.result hcount hahead

/-- A 64-bit integer in an `int` slot, and a byte for a Boolean host whose register also holds
other bits: the target gets the sign-extension, and the host finds zero after the helper. -/
theorem compile_calls_target_slonglong_boolean :
    exists trampoline,
      Trampoline.compile .aarch64 (.ofTypes .aarch64 [(.slonglong, .int)] (.uchar, .boolean) true)
        0x1000 (some 0x2000) = .ok trampoline ∧
      forall (image : Image 64) (entry : State),
        image.code = trampoline.code -> entry.pc = image.base ->
          Reaches (A64.step image) (fun called => called.pc = 0x1000 ∧
            called.gpr ⟨0⟩ = ((entry.gpr ⟨2⟩).setWidth 32).signExtend 64 ∧
            forall native, Returned called native -> KeepsFrame entry called native ->
              native.gpr .x0 = 0x100 ->
                CallsHelper image (some 0x2000) entry (fun back =>
                  back.pc = entry.gpr .lr ∧ back.gpr .x0 = 0) native) entry := by
  rcases compile_calls_target 0x1000 (some 0x2000)
      (.ofTypes .aarch64 [(.slonglong, .int)] (.uchar, .boolean) true) (by decide)
      (fun _ => rfl) with ⟨trampoline, hcompile, hcalls⟩
  refine ⟨trampoline, hcompile, ?_⟩
  intro image entry hcode hpc
  refine (hcalls image entry hcode hpc).mono ?_
  intro called hcalled
  refine ⟨hcalled.left, hcalled.right.left.int 0 _ _ rfl, ?_⟩
  intro native hnative hkeeps hx0
  refine (hcalled.right.right native hnative hkeeps).mono ?_
  intro inHelper hhelper
  refine ⟨hhelper.left, ?_⟩
  intro back hback hframe
  refine (hhelper.right back hback hframe).mono ?_
  intro done hdone
  have hfinds : done.gpr .x0 = HostValue.ofNative ⟨.integer, .w8, .unsigned⟩ .boolean
      (native.gpr .x0) := hdone.right.left
  refine ⟨hdone.left.pc, ?_⟩
  rw [hfinds, hx0]
  decide

end Aarch64
end NativeCall
