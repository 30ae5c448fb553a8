import NativeCall.Proofs.Aarch64.Frame
import NativeCall.Proofs.Compilation

/-!
# Code of AArch64 trampolines

Every instruction of a trampoline has its operands in range, so that each accepted signature
is compiled.
-/

namespace NativeCall
namespace Aarch64

open A64 (Access Instr Reg)

/-!
# Plain instructions
-/

structure IsPlain (instr : Instr) : Prop where
  encodable : instr.Encodable
  straight : instr.isStraight = true

theorem isNamed_register {i : Nat} (hi : i < 32) : (register i).IsNamed := by
  show (BitVec.ofNat 8 i).toNat < 32
  rw [BitVec.toNat_ofNat]
  omega

theorem isPlain_extendInto {dst src : Reg} (kind : ValueClass) (host : HostType)
    (hdst : dst.IsNamed) (hsrc : src.IsNamed) : forall instr,
      instr ∈ extendInto dst src kind host -> IsPlain instr := by
  intro instr hmem
  unfold extendInto at hmem
  split at hmem
  case h_7 =>
    split at hmem
    · rw [List.mem_singleton.mp hmem]
      exact ⟨⟨hdst, hsrc⟩, rfl⟩
    · split at hmem
      · cases hmem
      · rw [List.mem_singleton.mp hmem]
        exact ⟨⟨hdst, hsrc⟩, rfl⟩
  all_goals
    rw [List.mem_singleton.mp hmem]
    exact ⟨⟨hdst, hsrc⟩, rfl⟩

theorem isPlain_argumentMoves {sig : Signature} (hcount : sig.integerCount ≤ 6) : forall instr,
    instr ∈ argumentMoves sig -> IsPlain instr := by
  intro instr hmem
  rcases List.mem_flatMap.mp hmem with ⟨⟨⟨slot, kind⟩, index⟩, hparam, hmove⟩
  have hindex : index < sig.integerParams.length := by
    have hlt := List.snd_lt_of_mem_zipIdx hparam
    omega
  rw [Signature.length_integerParams] at hindex
  exact isPlain_extendInto kind slot.host (isNamed_register (by omega))
    (isNamed_register (by omega)) instr hmove

theorem isPlain_enter : forall instr, instr ∈ enter -> IsPlain instr := by
  intro instr hmem
  rcases List.mem_pair.mp hmem with rfl | rfl
  · refine ⟨⟨by decide, by decide, by decide, ⟨by decide, by decide, by decide⟩⟩, rfl⟩
  · exact ⟨⟨by decide, by decide, by decide⟩, rfl⟩

theorem isOffset_spillOffset (access : Access) : A64.IsOffset access spillOffset := by
  cases access <;> exact ⟨by decide, by decide⟩

theorem isInteger_integerAccess (width : Width) : (integerAccess width).IsInteger := by
  cases width <;> simp [integerAccess, Access.IsInteger]

theorem isPlain_spillResult (kind : ValueClass) : IsPlain (spillResult kind) := by
  have hfp : Reg.fp.IsNamed := by decide
  unfold spillResult
  split
  · exact ⟨⟨by decide, hfp, Or.inl rfl, isOffset_spillOffset _⟩, rfl⟩
  · exact ⟨⟨by decide, hfp, Or.inr rfl, isOffset_spillOffset _⟩, rfl⟩
  · exact ⟨⟨by decide, hfp, isInteger_integerAccess .w64, isOffset_spillOffset _⟩, rfl⟩

theorem isPlain_reloadResult (kind : ValueClass) : IsPlain (reloadResult kind) := by
  have hfp : Reg.fp.IsNamed := by decide
  have hinteger := isInteger_integerAccess kind.width
  unfold reloadResult
  split
  · exact ⟨⟨by decide, hfp, Or.inl rfl, isOffset_spillOffset _⟩, rfl⟩
  · exact ⟨⟨by decide, hfp, Or.inr rfl, isOffset_spillOffset _⟩, rfl⟩
  · split
    · exact ⟨⟨by decide, hfp, hinteger, isOffset_spillOffset _⟩, rfl⟩
    · exact ⟨⟨by decide, hfp, hinteger, isOffset_spillOffset _⟩, rfl⟩

theorem isPlain_normalizeBoolean (result : Slot) : forall instr,
    instr ∈ normalizeBoolean result -> IsPlain instr := by
  have hx0 : Reg.x0.IsNamed := by decide
  intro instr hmem
  unfold normalizeBoolean at hmem
  split at hmem
  · split at hmem
    · rcases List.mem_pair.mp hmem with rfl | rfl
      · exact ⟨hx0, rfl⟩
      · exact ⟨hx0, rfl⟩
    · cases hmem
  · cases hmem

/-!
# The whole code
-/

theorem encodable_movImm64 {dst : Reg} (value : Word) (hdst : dst.IsNamed) : forall instr,
    instr ∈ Instr.movImm64 dst value -> instr.Encodable := by
  intro instr hmem
  simp only [Instr.movImm64, List.mem_cons, List.not_mem_nil, or_false] at hmem
  rcases hmem with rfl | rfl | rfl | rfl
  · exact ⟨hdst, Or.inl rfl⟩
  · exact ⟨hdst, Or.inr (Or.inl rfl)⟩
  · exact ⟨hdst, Or.inr (Or.inr (Or.inl rfl))⟩
  · exact ⟨hdst, Or.inr (Or.inr (Or.inr rfl))⟩

theorem encodable_callAbs (address : Address) : forall instr,
    instr ∈ callAbs address -> instr.Encodable := by
  have hscratch : Reg.x9.IsNamed := by decide
  intro instr hmem
  rcases List.mem_append.mp hmem with hload | hcall
  · exact encodable_movImm64 address hscratch instr hload
  · rw [List.mem_singleton.mp hcall]
    exact hscratch

theorem encodable_jumpAbs (address : Address) : forall instr,
    instr ∈ jumpAbs address -> instr.Encodable := by
  have hscratch : Reg.x9.IsNamed := by decide
  intro instr hmem
  rcases List.mem_append.mp hmem with hload | hjump
  · exact encodable_movImm64 address hscratch instr hload
  · rw [List.mem_singleton.mp hjump]
    exact hscratch

theorem encodable_afterCall (result : Slot) (helper : Option Address) : forall instr,
    instr ∈ afterCall result helper -> instr.Encodable := by
  have hx0 : Reg.x0.IsNamed := by decide
  intro instr hmem
  unfold afterCall at hmem
  split at hmem
  · simp only [List.cons_append, List.mem_cons, List.mem_append, List.not_mem_nil,
      or_false] at hmem
    rcases hmem with rfl | hcall | rfl
    · exact (isPlain_spillResult _).encodable
    · exact encodable_callAbs _ instr hcall
    · exact (isPlain_reloadResult _).encodable
  · exact encodable_callAbs _ instr hmem
  · split at hmem
    · exact (isPlain_extendInto _ .long hx0 hx0 instr hmem).encodable
    · cases hmem
  · cases hmem

theorem encodable_code {sig : Signature} (target : Address) (helper : Option Address)
    (frame : NativeCall.Frame) (hcount : sig.integerCount ≤ 6) : forall instr,
      instr ∈ code sig target helper frame -> instr.Encodable := by
  intro instr hmem
  cases frame with
  | direct =>
      rcases List.mem_append.mp hmem with hmove | hjump
      · exact (isPlain_argumentMoves hcount instr hmove).encodable
      · exact encodable_jumpAbs target instr hjump
  | wrapped =>
      simp only [code, List.mem_append] at hmem
      rcases hmem with ((((henter | hmove) | hcall) | hafter) | hnormal) | hleave
      · exact (isPlain_enter instr henter).encodable
      · exact (isPlain_argumentMoves hcount instr hmove).encodable
      · exact encodable_callAbs target instr hcall
      · exact encodable_afterCall sig.result helper instr hafter
      · exact (isPlain_normalizeBoolean sig.result instr hnormal).encodable
      · rcases List.mem_pair.mp hleave with rfl | rfl
        · exact ⟨by decide, by decide, by decide, ⟨by decide, by decide, by decide⟩⟩
        · trivial

theorem exists_compile {sig : Signature} (target : Address) {helper : Option Address}
    (haccepts : Trampoline.accepts .aarch64 sig = true) (hcount : sig.integerCount ≤ 6)
    (hhelper : sig.capturesError = true -> helper.isSome = true) :
    exists trampoline, Trampoline.compile .aarch64 sig target helper = .ok trampoline ∧
      A64.assemble (code sig target (sig.calledHelper helper) sig.frame) =
        .ok trampoline.code := by
  rcases A64.exists_assemble (encodable_code target (sig.calledHelper helper) sig.frame hcount) with
    ⟨bytes, hbytes⟩
  have hchecked : sig.IsChecked .aarch64 target helper :=
    { accepts := haccepts, helped := hhelper, reachable := nofun }
  exact ⟨_, hchecked.compile_eq hbytes, hbytes⟩

end Aarch64
end NativeCall
