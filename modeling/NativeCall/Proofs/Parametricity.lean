import NativeCall.Proofs.Aarch64.Code
import NativeCall.Proofs.Amd64.Code
import NativeCall.Proofs.I386.Code
import NativeCall.Proofs.Template

/-!
# Trampolines of different functions

The code of a signature is one template for all targets and helpers. So two trampolines of the
signature differ in the fields of their addresses at most, and each address is read back from
its field.
-/

namespace NativeCall

theorem helper_cases {helper : Option Address} {captures : Bool}
    (hhelped : helper.isSome = captures) :
    (captures = false ∧ helper = none) ∨
      (captures = true ∧ exists address, helper = some address) := by
  cases helper with
  | none => exact .inl ⟨hhelped.symm, rfl⟩
  | some address => exact .inr ⟨hhelped.symm, address, rfl⟩

/-!
# Templates of the architectures
-/

namespace Amd64

open X86 (Instr)

def loadAddress (address : Address) : List Instr :=
  [.movImm .r11 address .qword]

theorem assemble_loadAddress (address : Address) :
    (X86.isa .bits64).assemble (loadAddress address) = .ok (Arch.addressLoad .amd64 address) :=
  rfl

/-- The code around the loads. -/
def template (sig : Signature) : Template Instr :=
  let space := frameSpace sig.result
  let enter := argumentMoves sig ++ [.subImm .rsp space, .xor .rax .rax .dword]
  let leave := normalizeBoolean sig.result ++ [.addImm .rsp space, .ret]
  match sig.frame, sig.capturesError with
  | .direct, _ => { before := argumentMoves sig, middle := [.jmp .r11], after := [] }
  | .wrapped, false =>
      { before := enter, middle := .call .r11 :: (afterCall sig.result none ++ leave), after := [] }
  | .wrapped, true =>
      { before := enter
        middle := .call .r11 :: (sig.result.kind.map spillResult).toList
        after := .call .r11 :: ((sig.result.kind.map reloadResult).toList ++ leave) }

theorem code_eq_fill {sig : Signature} {target : Address} {helper : Option Address}
    (hhelped : helper.isSome = sig.capturesError) :
    code sig target helper sig.frame = (template sig).fill loadAddress target helper := by
  unfold template Template.fill
  rcases helper_cases hhelped with ⟨hplain, rfl⟩ | ⟨hcaptures, address, rfl⟩
  · cases hframe : sig.frame with
    | direct => rfl
    | wrapped => simp [code, loadAddress, Instr.callAbs, X86.Mode.wordSize, hplain]
  · cases hframe : sig.frame with
    | direct =>
        rw [(sig.of_frame_eq_direct hframe).left] at hcaptures
        cases hcaptures
    | wrapped =>
        cases hkind : sig.result.kind <;>
          simp [code, loadAddress, afterCall, hkind, hcaptures, Instr.callAbs, X86.Mode.wordSize]

end Amd64

namespace I386

open X86 (Instr)

def loadAddress (address : Address) : List Instr :=
  [.movImm .eax address .dword]

theorem assemble_loadAddress (address : Address) :
    (X86.isa .bits32).assemble (loadAddress address) = .ok (Arch.addressLoad .i386 address) :=
  rfl

def template (sig : Signature) (moves : List Instr) : Template Instr :=
  let adjust := BitVec.ofInt 32 (wrapSize (stackAdjust sig))
  let leave := hostForm sig.result ++ [.addImm .esp adjust, .ret]
  match sig.capturesError with
  | false =>
      { before := .subImm .esp adjust :: moves
        middle := .call .eax :: (afterCall sig.result none ++ leave), after := [] }
  | true =>
      { before := .subImm .esp adjust :: moves
        middle := .call .eax :: sig.result.kind.elim [] spillResult
        after := .call .eax :: (sig.result.kind.elim [] reloadResult ++ leave) }

theorem code_eq_fill {sig : Signature} {target : Address} {helper : Option Address}
    (hhelped : helper.isSome = sig.capturesError) :
    code sig target helper =
      (argumentMoves (wrapSize (stackAdjust sig)) 0 0 sig.params).map fun moves =>
        (template sig moves).fill loadAddress target helper := by
  unfold code
  cases hmoves : argumentMoves (wrapSize (stackAdjust sig)) 0 0 sig.params with
  | error fault =>
      simp only [hmoves]
      rfl
  | ok moves =>
      simp only [hmoves]
      refine congrArg Except.ok ?_
      unfold template Template.fill
      rcases helper_cases hhelped with ⟨hplain, rfl⟩ | ⟨hcaptures, address, rfl⟩
      · simp [loadAddress, Instr.callAbs, X86.Mode.wordSize, hplain]
      · cases hkind : sig.result.kind <;>
          simp [loadAddress, afterCall, hkind, hcaptures, Instr.callAbs, X86.Mode.wordSize]

end I386

namespace Aarch64

open A64 (Instr)

def loadAddress (address : Address) : List Instr :=
  Instr.movImm64 .x9 address

theorem assemble_loadAddress (address : Address) :
    A64.isa.assemble (loadAddress address) = .ok (Arch.addressLoad .aarch64 address) := by
  rw [A64.assemble_isa]
  exact A64.assemble_eq_wordBytes (encodable_movImm64 address (by decide))

def template (sig : Signature) : Template Instr :=
  let enter := [.stpPre .fp .lr .sp (-frameSize), .addImm .fp .sp 0] ++ argumentMoves sig
  let leave := normalizeBoolean sig.result ++ [.ldpPost .fp .lr .sp frameSize, .ret]
  match sig.frame, sig.capturesError with
  | .direct, _ => { before := argumentMoves sig, middle := [.br .x9], after := [] }
  | .wrapped, false =>
      { before := enter, middle := .blr .x9 :: (afterCall sig.result none ++ leave), after := [] }
  | .wrapped, true =>
      { before := enter
        middle := .blr .x9 :: (sig.result.kind.map spillResult).toList
        after := .blr .x9 :: ((sig.result.kind.map reloadResult).toList ++ leave) }

theorem code_eq_fill {sig : Signature} {target : Address} {helper : Option Address}
    (hhelped : helper.isSome = sig.capturesError) :
    code sig target helper sig.frame = (template sig).fill loadAddress target helper := by
  unfold template Template.fill
  rcases helper_cases hhelped with ⟨hplain, rfl⟩ | ⟨hcaptures, address, rfl⟩
  · cases hframe : sig.frame with
    | direct => simp [code, jumpAbs, loadAddress]
    | wrapped => simp [code, callAbs, loadAddress, hplain]
  · cases hframe : sig.frame with
    | direct =>
        rw [(sig.of_frame_eq_direct hframe).left] at hcaptures
        cases hcaptures
    | wrapped =>
        cases hkind : sig.result.kind <;>
          simp [code, callAbs, loadAddress, afterCall, hkind, hcaptures]

end Aarch64

/-!
# Bytes of trampolines
-/

namespace Trampoline

/-- Either the trampolines of a signature are filled from one template, or none can be written. -/
inductive HasTemplate (arch : Arch) (sig : Signature) : Prop where
  | faults {fault : Fault} (hfault : forall target helper, helper.isSome = sig.capturesError ->
      Trampoline.bytes arch sig target helper = .error fault) : HasTemplate arch sig
  | fills {template : Template Byte} (hfill : forall target helper,
      helper.isSome = sig.capturesError ->
        Trampoline.bytes arch sig target helper =
          .ok (template.fill arch.addressLoad target helper)) : HasTemplate arch sig

variable {arch : Arch} {sig : Signature}

theorem HasTemplate.of_instrs {instr operation : Type} {isa : InstructionSet instr operation}
    {load : Address -> List instr} (code : Template instr)
    (hload : forall address, isa.assemble (load address) = .ok (arch.addressLoad address))
    (hbytes : forall target helper, helper.isSome = sig.capturesError ->
      Trampoline.bytes arch sig target helper = isa.assemble (code.fill load target helper)) :
    HasTemplate arch sig := by
  rcases InstructionSet.exists_template hload code with ⟨fault, hfault⟩ | ⟨template, hfill⟩
  · refine @HasTemplate.faults arch sig fault ?_
    intro target helper hhelped
    exact (hbytes target helper hhelped).trans (hfault target helper)
  · refine @HasTemplate.fills arch sig template ?_
    intro target helper hhelped
    exact (hbytes target helper hhelped).trans (hfill target helper)

theorem hasTemplate (arch : Arch) (sig : Signature) : HasTemplate arch sig := by
  cases arch with
  | i386 =>
      cases hmoves : I386.argumentMoves (I386.wrapSize (I386.stackAdjust sig)) 0 0 sig.params with
      | error fault =>
          refine @HasTemplate.faults .i386 sig fault ?_
          intro target helper hhelped
          simp only [Trampoline.bytes, I386.code_eq_fill hhelped, hmoves]
          rfl
      | ok moves =>
          refine .of_instrs (I386.template sig moves) I386.assemble_loadAddress ?_
          intro target helper hhelped
          simp only [Trampoline.bytes, I386.code_eq_fill hhelped, hmoves, X86.assemble_isa]
          rfl
  | amd64 =>
      refine .of_instrs (Amd64.template sig) Amd64.assemble_loadAddress ?_
      intro target helper hhelped
      rw [← Amd64.code_eq_fill hhelped, X86.assemble_isa]
      rfl
  | aarch64 =>
      refine .of_instrs (Aarch64.template sig) Aarch64.assemble_loadAddress ?_
      intro target helper hhelped
      rw [← Aarch64.code_eq_fill hhelped, A64.assemble_isa]
      rfl

end Trampoline
end NativeCall
