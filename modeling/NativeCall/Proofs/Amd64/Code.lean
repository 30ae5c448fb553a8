import NativeCall.Proofs.Amd64.Arguments
import NativeCall.Proofs.Compilation

/-!
# Code of x86-64 trampolines

Every instruction of a trampoline exists in 64-bit code, so that each accepted signature is
compiled.
-/

namespace NativeCall
namespace Amd64

open X86 (Gpr Instr Mode Rm)

theorem encodable_extendInto {dst : Gpr} {src : Rm} (kind : ValueClass) (host : HostType)
    (hdst : Mode.bits64.Names dst.number) (hsrc : Mode.bits64.Names src.number) :
    (extendInto dst src kind host).Encodable .bits64 := by
  have hbyte : Mode.bits64.NamesByte src := ⟨hsrc, by intro h; cases h⟩
  unfold extendInto
  split
  · exact ⟨hdst, hsrc, fun _ => hbyte, by intro h; cases h⟩
  · split
    · exact ⟨hdst, hsrc, fun _ => hbyte, by intro h; cases h⟩
    · exact ⟨hdst, hsrc, fun _ => hbyte, by intro h; cases h⟩

theorem encodable_argumentMoves (sig : Signature) : forall instr,
    instr ∈ argumentMoves sig -> instr.Encodable .bits64 := by
  have hplaces : forall place, place ∈ argumentSources.zip argumentTargets ->
      Mode.bits64.Names place.2.number ∧ Mode.bits64.Names place.1.number := by
    decide
  intro instr hmem
  rw [argumentMoves_eq] at hmem
  rcases List.mem_map.mp hmem with ⟨move, hmove, rfl⟩
  have hplace := hplaces move.2 (List.of_mem_zip hmove).right
  exact encodable_extendInto move.1.2 move.1.1.host hplace.left hplace.right

theorem encodable_callAbs (address : Address) : forall instr,
    instr ∈ Instr.callAbs .bits64 .r11 address -> instr.Encodable .bits64 := by
  have hscratch : Mode.bits64.Names Gpr.r11.number := by decide
  intro instr hmem
  rcases List.mem_pair.mp hmem with rfl | rfl
  · exact ⟨hscratch, Or.inr ⟨rfl, rfl⟩⟩
  · exact hscratch

theorem encodable_afterCall (result : Slot) (helper : Option Address) : forall instr,
    instr ∈ afterCall result helper -> instr.Encodable .bits64 := by
  have hrax : Mode.bits64.Names Gpr.rax.number := by decide
  have hslot : Mode.bits64.Names (Rm.mem (stack 0)).number := by decide
  have hresult : Mode.bits64.Names X86.Xmm.xmm0.number := by decide
  intro instr hmem
  unfold afterCall at hmem
  cases helper with
  | none =>
      cases hkind : result.kind with
      | none =>
          rw [hkind] at hmem
          cases hmem
      | some kind =>
          simp only [hkind] at hmem
          have hextend : instr = extendInto .rax (.reg .rax) kind .long := by
            unfold extendResult at hmem
            split at hmem
            · split at hmem
              · cases hmem
              · exact List.mem_singleton.mp hmem
            · cases hmem
          rw [hextend]
          exact encodable_extendInto kind .long hrax hrax
  | some helper =>
      cases hkind : result.kind with
      | none =>
          rw [hkind] at hmem
          exact encodable_callAbs helper instr hmem
      | some kind =>
          simp only [hkind, List.cons_append, List.mem_cons, List.mem_append,
            List.not_mem_nil, or_false] at hmem
          rcases hmem with rfl | hcall | rfl
          · unfold spillResult
            cases kind.register with
            | integer => exact ⟨hslot, hrax, Or.inr ⟨rfl, rfl⟩⟩
            | single => exact ⟨hresult, hslot⟩
            | double => exact ⟨hresult, hslot⟩
          · exact encodable_callAbs helper instr hcall
          · unfold reloadResult
            cases kind.register with
            | integer => exact encodable_extendInto kind .long hrax hslot
            | single => exact ⟨hresult, hslot⟩
            | double => exact ⟨hresult, hslot⟩

theorem encodable_normalizeBoolean (result : Slot) : forall instr,
    instr ∈ normalizeBoolean result -> instr.Encodable .bits64 := by
  have hrax : Mode.bits64.Names Gpr.rax.number := by decide
  have hbyte : Mode.bits64.NamesByte (.reg .rax) := ⟨hrax, by intro h; cases h⟩
  intro instr hmem
  unfold normalizeBoolean at hmem
  split at hmem
  · simp only [List.mem_cons, List.not_mem_nil, or_false] at hmem
    rcases hmem with rfl | rfl | rfl
    · exact ⟨hrax, hrax, Or.inr ⟨rfl, rfl⟩⟩
    · exact hbyte
    · exact ⟨hrax, hrax, fun _ => hbyte, by intro h; cases h⟩
  · cases hmem

theorem encodable_code (sig : Signature) (target : Address) (helper : Option Address)
    (frame : NativeCall.Frame) : forall instr,
      instr ∈ code sig target helper frame -> instr.Encodable .bits64 := by
  have hrsp : Mode.bits64.Names Gpr.rsp.number := by decide
  have hrax : Mode.bits64.Names Gpr.rax.number := by decide
  have hscratch : Mode.bits64.Names Gpr.r11.number := by decide
  intro instr hmem
  cases frame with
  | direct =>
      simp only [code, Instr.jmpAbs, List.mem_append, List.mem_cons, List.not_mem_nil,
        or_false] at hmem
      rcases hmem with hmove | rfl | rfl
      · exact encodable_argumentMoves sig instr hmove
      · exact ⟨hscratch, Or.inr ⟨rfl, rfl⟩⟩
      · exact hscratch
  | wrapped =>
      simp only [code, List.mem_append, List.mem_cons, List.not_mem_nil, or_false] at hmem
      rcases hmem with ((((hmove | rfl | rfl) | hcall) | hafter) | hnormal) | rfl | rfl
      · exact encodable_argumentMoves sig instr hmove
      · exact hrsp
      · exact ⟨hrax, hrax, Or.inl rfl⟩
      · exact encodable_callAbs target instr hcall
      · exact encodable_afterCall sig.result helper instr hafter
      · exact encodable_normalizeBoolean sig.result instr hnormal
      · exact hrsp
      · trivial

theorem exists_compile {sig : Signature} (target : Address) {helper : Option Address}
    (haccepts : Trampoline.accepts .amd64 sig = true)
    (hhelper : sig.capturesError = true -> helper.isSome = true) :
    exists trampoline, Trampoline.compile .amd64 sig target helper = .ok trampoline ∧
      X86.assemble .bits64 (code sig target (sig.calledHelper helper) sig.frame) =
        .ok trampoline.code := by
  rcases X86.exists_assemble (encodable_code sig target (sig.calledHelper helper) sig.frame) with
    ⟨bytes, hbytes⟩
  have hchecked : sig.IsChecked .amd64 target helper :=
    { accepts := haccepts, helped := hhelper, reachable := nofun }
  exact ⟨_, hchecked.compile_eq hbytes, hbytes⟩

end Amd64
end NativeCall
