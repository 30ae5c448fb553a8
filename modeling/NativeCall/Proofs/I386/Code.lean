import NativeCall.Proofs.Compilation
import NativeCall.Proofs.I386.Frame

/-!
# Code of i386 trampolines

Every instruction of a trampoline exists in 32-bit code, so that an accepted signature is
compiled whenever its addresses and its stack offsets fit 32 bits.
-/

namespace NativeCall
namespace I386

open X86 (Gpr Instr Mode Rm Size)

/-!
# Plain instructions
-/

structure IsPlain (instr : Instr) : Prop where
  encodable : instr.Encodable .bits32
  straight : instr.isStraight = true

theorem names_eax : Mode.bits32.Names Gpr.eax.number := by
  decide

theorem names_edx : Mode.bits32.Names Gpr.edx.number := by
  decide

theorem names_esp : Mode.bits32.Names Gpr.esp.number := by
  decide

theorem namesByte_eax : Mode.bits32.NamesByte (.reg .eax) := by
  refine ⟨names_eax, ?_⟩
  intro _ r heq
  rw [← Rm.reg.inj heq]
  decide

theorem namesByte_stack (offset : Int) : Mode.bits32.NamesByte (.mem (stack offset)) := by
  refine ⟨names_esp, ?_⟩
  intro _ r heq
  cases heq

theorem hasSize_dword : Mode.bits32.HasSize .dword :=
  Or.inl rfl

theorem isPlain_load (offset : Int) : IsPlain (load offset) :=
  ⟨⟨names_eax, names_esp, hasSize_dword⟩, rfl⟩

theorem isPlain_save (offset : Int) : IsPlain (save offset) :=
  ⟨⟨names_esp, names_eax, hasSize_dword⟩, rfl⟩

theorem isPlain_sar {r : Gpr} (hr : Mode.bits32.Names r.number) : IsPlain (.sar r 31 .dword) :=
  ⟨⟨hr, hasSize_dword⟩, rfl⟩

theorem isPlain_extendNarrow {src : Rm} {kind : ValueClass} {size : Size}
    (hsrc : Mode.bits32.NamesByte src) (hsize : narrowSize? kind.width = some size) :
    IsPlain (extendNarrow src kind size) := by
  have hsmall : size = .byte ∨ size = .word := by
    cases hwidth : kind.width <;> rw [hwidth] at hsize <;> cases hsize <;> decide
  unfold extendNarrow
  split
  next => exact ⟨⟨names_eax, hsrc.left, fun _ => hsrc, fun _ => hsmall⟩, rfl⟩
  next =>
    refine ⟨⟨names_eax, hsrc.left, fun _ => hsrc, ?_⟩, rfl⟩
    intro _ hquad
    rcases hsmall with hbyte | hword
    · rw [hbyte] at hquad
      cases hquad
    · rw [hword] at hquad
      cases hquad

/-!
# Runs of plain instructions
-/

theorem isPlain_copyArgument {slot : Slot} {kind : ValueClass} {src dst : Int}
    {moves : List Instr} (hok : copyArgument slot kind src dst = .ok moves) :
    forall instr, instr ∈ moves -> IsPlain instr := by
  unfold copyArgument at hok
  split at hok
  next =>
    rcases bind_eq_ok hok with ⟨high, hhigh, hok⟩
    rcases bind_eq_ok hok with ⟨place, _, hok⟩
    cases hok
    have hplain : IsPlain high := by
      unfold highHalf at hhigh
      split at hhigh
      next =>
        rcases map_eq_ok hhigh with ⟨next, _, rfl⟩
        exact isPlain_load next
      next =>
        cases hhigh
        exact isPlain_sar names_eax
    intro instr hmem
    simp only [List.mem_cons, List.not_mem_nil, or_false] at hmem
    rcases hmem with rfl | rfl | rfl | rfl
    · exact isPlain_load src
    · exact isPlain_save dst
    · exact hplain
    · exact isPlain_save place
  next =>
    split at hok
    next size hsize =>
      cases hok
      intro instr hmem
      rcases List.mem_pair.mp hmem with rfl | rfl
      · exact isPlain_extendNarrow (namesByte_stack src) hsize
      · exact isPlain_save dst
    next =>
      cases hok
      intro instr hmem
      rcases List.mem_pair.mp hmem with rfl | rfl
      · exact isPlain_load src
      · exact isPlain_save dst

theorem isPlain_argumentMoves {adjust src dst : Int} {slots : List Slot} {moves : List Instr}
    (hclass : forall slot, slot ∈ slots -> exists kind, slot.HasClass kind)
    (hok : argumentMoves adjust src dst slots = .ok moves) :
    forall instr, instr ∈ moves -> IsPlain instr := by
  induction slots generalizing src dst moves with
  | nil =>
      cases hok
      intro instr hmem
      cases hmem
  | cons first rest ih =>
      rcases hclass first List.mem_cons_self with ⟨kind, hfirst⟩
      rcases argumentMoves_cons hfirst.kind_eq hok with ⟨moves, others, rfl, _, hcopy, _, hothers⟩
      intro instr hmem
      rcases List.mem_append.mp hmem with hmove | hother
      · exact isPlain_copyArgument hcopy instr hmove
      · exact ih (fun other hmem => hclass other (List.mem_cons_of_mem first hmem)) hothers instr
          hother

theorem isPlain_spillResult (kind : ValueClass) : forall instr,
    instr ∈ spillResult kind -> IsPlain instr := by
  intro instr hmem
  unfold spillResult at hmem
  split at hmem
  · rw [List.mem_singleton.mp hmem]
    exact ⟨⟨names_esp, Or.inl rfl⟩, rfl⟩
  · rw [List.mem_singleton.mp hmem]
    exact ⟨⟨names_esp, Or.inr rfl⟩, rfl⟩
  · split at hmem
    · rcases List.mem_pair.mp hmem with rfl | rfl
      · exact isPlain_save 0
      · exact ⟨⟨names_esp, names_edx, hasSize_dword⟩, rfl⟩
    · rw [List.mem_singleton.mp hmem]
      exact isPlain_save 0

theorem isPlain_reloadResult (kind : ValueClass) : forall instr,
    instr ∈ reloadResult kind -> IsPlain instr := by
  intro instr hmem
  unfold reloadResult at hmem
  split at hmem
  · rw [List.mem_singleton.mp hmem]
    exact ⟨⟨names_esp, Or.inl rfl⟩, rfl⟩
  · rw [List.mem_singleton.mp hmem]
    exact ⟨⟨names_esp, Or.inr rfl⟩, rfl⟩
  · split at hmem
    · rcases List.mem_pair.mp hmem with rfl | rfl
      · exact isPlain_load 0
      · exact ⟨⟨names_edx, names_esp, hasSize_dword⟩, rfl⟩
    next hsize _ =>
      rw [List.mem_singleton.mp hmem]
      exact isPlain_extendNarrow (namesByte_stack 0) hsize
    · rw [List.mem_singleton.mp hmem]
      exact isPlain_load 0

theorem isPlain_extendResult (kind : ValueClass) : forall instr,
    instr ∈ extendResult kind -> IsPlain instr := by
  intro instr hmem
  unfold extendResult at hmem
  split at hmem
  next hsize =>
    rw [List.mem_singleton.mp hmem]
    exact isPlain_extendNarrow namesByte_eax hsize
  next => cases hmem

theorem isPlain_hostForm (result : Slot) : forall instr,
    instr ∈ hostForm result -> IsPlain instr := by
  intro instr hmem
  unfold hostForm at hmem
  split at hmem
  · cases hmem
  · split at hmem
    · simp only [normalizeBoolean, List.mem_cons, List.not_mem_nil, or_false] at hmem
      rcases hmem with rfl | rfl | rfl
      · split
        · exact ⟨⟨names_eax, names_edx, hasSize_dword⟩, rfl⟩
        · exact ⟨⟨names_eax, names_eax, hasSize_dword⟩, rfl⟩
      · exact ⟨namesByte_eax, rfl⟩
      · exact ⟨⟨names_eax, names_eax, fun _ => namesByte_eax, fun _ => by decide⟩, rfl⟩
    · split at hmem
      · unfold widenToLong at hmem
        split at hmem
        · rcases List.mem_pair.mp hmem with rfl | rfl
          · exact ⟨⟨names_edx, names_eax, hasSize_dword⟩, rfl⟩
          · exact isPlain_sar names_edx
        · rw [List.mem_singleton.mp hmem]
          exact ⟨⟨names_edx, hasSize_dword⟩, rfl⟩
      · cases hmem

/-!
# The whole code
-/

theorem encodable_callAbs (address : Address) : forall instr,
    instr ∈ Instr.callAbs .bits32 .eax address -> instr.Encodable .bits32 := by
  intro instr hmem
  rcases List.mem_pair.mp hmem with rfl | rfl
  · exact ⟨names_eax, hasSize_dword⟩
  · exact names_eax

theorem encodable_afterCall (result : Slot) (helper : Option Address) : forall instr,
    instr ∈ afterCall result helper -> instr.Encodable .bits32 := by
  intro instr hmem
  unfold afterCall at hmem
  split at hmem
  · rcases List.mem_append.mp hmem with hfirst | hreload
    · rcases List.mem_append.mp hfirst with hspill | hcall
      · exact (isPlain_spillResult _ instr hspill).encodable
      · exact encodable_callAbs _ instr hcall
    · exact (isPlain_reloadResult _ instr hreload).encodable
  · exact encodable_callAbs _ instr hmem
  · split at hmem
    · exact (isPlain_extendResult _ instr hmem).encodable
    · cases hmem
  · cases hmem

def codeOf (sig : Signature) (target : Address) (helper : Option Address)
    (moves : List Instr) : List Instr :=
  (.subImm .esp (BitVec.ofInt 32 (stackAdjust sig : Nat)) :: moves) ++
    (Instr.callAbs .bits32 .eax target ++ (afterCall sig.result helper ++
      (hostForm sig.result ++
        [.addImm .esp (BitVec.ofInt 32 (stackAdjust sig : Nat)), .ret])))

theorem code_eq_ok {sig : Signature} {target : Address} {helper : Option Address}
    {instrs : List Instr} (haccepted : sig.Accepted .i386)
    (hok : code sig target helper = .ok instrs) :
    stackAdjust sig + 4 ≤ 2 ^ 31 ∧ exists moves,
      argumentMoves (stackAdjust sig : Nat) (0 : Nat) (0 : Nat) sig.params = .ok moves ∧
      instrs = codeOf sig target helper moves := by
  have hlimit : offsetLimit = 2 ^ 31 := rfl
  rcases bind_eq_ok hok with ⟨moves, hmoves, hcode⟩
  have hend := end_lt_of_argumentMoves_eq_ok haccepted.params (by omega) hmoves
  have hadjust : stackAdjust sig + 4 ≤ 2 ^ 31 := stackAdjust_le (by omega)
  rw [wrapSize_of_lt (by omega)] at hmoves hcode
  refine ⟨hadjust, moves, hmoves, ?_⟩
  rw [← Except.ok.inj hcode]
  simp [codeOf]

theorem encodable_codeOf (sig : Signature) {moves : List Instr} (target : Address)
    (helper : Option Address) (hmoves : forall instr, instr ∈ moves -> IsPlain instr) :
    forall instr, instr ∈ codeOf sig target helper moves -> instr.Encodable .bits32 := by
  intro instr hmem
  simp only [codeOf, List.mem_append, List.mem_cons, List.not_mem_nil, or_false] at hmem
  rcases hmem with (rfl | hmove) | hcall | hafter | hform | rfl | rfl
  · exact names_esp
  · exact (hmoves instr hmove).encodable
  · exact encodable_callAbs target instr hcall
  · exact encodable_afterCall sig.result helper instr hafter
  · exact (isPlain_hostForm sig.result instr hform).encodable
  · exact names_esp
  · trivial

/-!
# Compilation
-/

theorem compile_eq_ok {sig : Signature} {target : Address} {helper : Option Address}
    {trampoline : Trampoline} (hbuilt : sig.Built)
    (hok : Trampoline.compile .i386 sig target helper = .ok trampoline) :
    sig.Accepted .i386 ∧ stackAdjust sig + 4 ≤ 2 ^ 31 ∧ exists moves,
      argumentMoves (stackAdjust sig : Nat) (0 : Nat) (0 : Nat) sig.params = .ok moves ∧
      X86.assemble .bits32 (codeOf sig target (sig.calledHelper helper) moves) =
        .ok trampoline.code := by
  rcases of_compile_eq_ok hok with ⟨hchecked, hbytes, _⟩
  have haccepted := hbuilt.accepted hchecked.accepts
  rcases bind_eq_ok hbytes with ⟨instrs, hinstrs, hassemble⟩
  rcases code_eq_ok haccepted hinstrs with ⟨hadjust, moves, hmoves, rfl⟩
  exact ⟨haccepted, hadjust, moves, hmoves, hassemble⟩

def IsReachable (address : Address) : Prop :=
  address.toNat < halfWordCount

instance (address : Address) : Decidable (IsReachable address) :=
  inferInstanceAs (Decidable (_ < _))

/-- An accepted signature whose host slots are within reach of the stack pointer is compiled,
if its addresses fit and there is a helper where one is needed. -/
theorem exists_compile {sig : Signature} {target : Address} {helper : Option Address}
    (hbuilt : sig.Built) (haccepts : Trampoline.accepts .i386 sig = true)
    (hhelper : sig.capturesError = true -> helper.isSome = true)
    (hreachable : forall address, address ∈ target :: (sig.calledHelper helper).toList ->
      IsReachable address)
    (hreach : stackAdjust sig + hostStart + hostBytes sig.params < 2 ^ 31) :
    exists trampoline, Trampoline.compile .i386 sig target helper = .ok trampoline := by
  have haccepted := hbuilt.accepted haccepts
  have hspace := nativeBytes_le_stackAdjust sig
  have hmoves : exists moves,
      argumentMoves (stackAdjust sig : Nat) (0 : Nat) (0 : Nat) sig.params = .ok moves :=
    exists_argumentMoves haccepted.params (by omega) (by omega)
  rcases hmoves with ⟨moves, hmoves⟩
  rcases X86.exists_assemble (encodable_codeOf sig target (sig.calledHelper helper)
    (isPlain_argumentMoves haccepted.params hmoves)) with ⟨bytes, hbytes⟩
  have hcode : code sig target (sig.calledHelper helper) =
      .ok (codeOf sig target (sig.calledHelper helper) moves) := by
    have hstart : argumentMoves (stackAdjust sig : Nat) 0 0 sig.params = .ok moves := hmoves
    unfold code
    rw [wrapSize_of_lt (by omega)]
    simp only [hstart, ok_bind]
    simp [codeOf, pure, Except.pure]
  have hassemble : Trampoline.bytes .i386 sig target (sig.calledHelper helper) = .ok bytes := by
    unfold Trampoline.bytes
    simp only [hcode, ok_bind]
    exact hbytes
  have hchecked : sig.IsChecked .i386 target helper :=
    { accepts := haccepts, helped := hhelper, reachable := fun _ => hreachable }
  exact ⟨_, hchecked.compile_eq hassemble⟩

end I386
end NativeCall
