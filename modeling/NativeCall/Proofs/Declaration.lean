import NativeCall.Proofs.CompiledCourse
import NativeCall.Proofs.DeclaredTypes

/-!
# Declarations

A signature is built up by calls that append a parameter, replace the result, or ask for the
error number or no longer for it. However these calls are mixed, what was declared is the list of
the parameters, the last result and the last word on the error number. It alone decides what a
compilation comes to.
-/

namespace NativeCall

/-!
# Building by steps
-/

inductive BuildStep where
  | param (native : NativeType) (host : HostType)
  | returns (native : NativeType) (host : HostType)
  | capture (enabled : Bool)
  deriving DecidableEq, Repr

namespace BuildStep

def apply (sig : Signature) : BuildStep -> Signature
  | .param native host => sig.param native host
  | .returns native host => sig.returns native host
  | .capture enabled => sig.capture enabled

def param? : BuildStep -> Option (NativeType × HostType)
  | .param native host => some (native, host)
  | .returns .. | .capture .. => none

def result? : BuildStep -> Option (NativeType × HostType)
  | .returns native host => some (native, host)
  | .param .. | .capture .. => none

def capture? : BuildStep -> Option Bool
  | .capture enabled => some enabled
  | .param .. | .returns .. => none

end BuildStep

/-- The steps one after the other, from no parameters and no result on. -/
def Signature.build (arch : Arch) (steps : List BuildStep) : Signature :=
  steps.foldl BuildStep.apply (Signature.empty arch)

theorem Signature.built_build (arch : Arch) (steps : List BuildStep) :
    (build arch steps).Built := by
  induction steps using List.reverseRecOn with
  | nil => exact .empty arch
  | append_singleton steps step ih =>
      rw [build, List.foldl_append]
      cases step with
      | param native host => exact ih.param native host
      | returns native host => exact ih.returns native host
      | capture enabled => exact ih.capture enabled

/-!
# What was declared
-/

structure Declaration where
  params : List (NativeType × HostType)
  result : NativeType × HostType
  capturesError : Bool
  deriving DecidableEq, Repr

namespace Declaration

/-- All parameters, the last result and the last word on the error number. -/
def ofSteps (steps : List BuildStep) : Declaration :=
  { params := steps.filterMap BuildStep.param?
    result := (steps.filterMap BuildStep.result?).getLast?.getD (.void, .void)
    capturesError := (steps.filterMap BuildStep.capture?).getLast?.getD false }

def signature (declaration : Declaration) (arch : Arch) : Signature :=
  { arch
    params := declaration.params.map fun types => Slot.classify arch types.1 types.2
    result := Slot.classify arch declaration.result.1 declaration.result.2
    capturesError := declaration.capturesError }

/-- The order of the steps is lost, but for that among parameters and the last ones of the other
kinds. -/
theorem build_eq (arch : Arch) (steps : List BuildStep) :
    Signature.build arch steps = (ofSteps steps).signature arch := by
  induction steps using List.reverseRecOn with
  | nil => rfl
  | append_singleton steps step ih =>
      rw [Signature.build, List.foldl_append]
      rw [Signature.build] at ih
      rw [ih]
      cases step with
      | param native host =>
          simp [signature, ofSteps, BuildStep.apply, BuildStep.param?, BuildStep.result?,
            BuildStep.capture?, Signature.param]
      | returns native host =>
          simp [signature, ofSteps, BuildStep.apply, BuildStep.param?, BuildStep.result?,
            BuildStep.capture?, Signature.returns]
      | capture enabled =>
          simp [signature, ofSteps, BuildStep.apply, BuildStep.param?, BuildStep.result?,
            BuildStep.capture?, Signature.capture]

end Declaration

/-!
# The rule
-/

namespace Declaration

/-- Each value is a primitive in a host type that it fits, and the values fit the registers of an
architecture that has some for them. -/
structure Fits (declaration : Declaration) (arch : Arch) : Prop where
  params : forall types, types ∈ declaration.params -> types.1.fitsHost types.2 = true
  result : declaration.result.1.fitsHost declaration.result.2 = true ∨
    declaration.result = (.void, .void)
  registers : arch ≠ .i386 ->
    declaration.params.countP (·.1.isInteger) ≤ 6 ∧ declaration.params.countP (·.1.isFloat) ≤ 8

section Rule

variable (declaration : Declaration) (arch : Arch)

theorem integerTypeCount_signature :
    (declaration.signature arch).integerTypeCount =
      declaration.params.countP (·.1.isInteger) :=
  List.countP_map

theorem floatTypeCount_signature :
    (declaration.signature arch).floatTypeCount = declaration.params.countP (·.1.isFloat) :=
  List.countP_map

theorem fits_iff :
    declaration.Fits arch <->
      (declaration.signature arch).HasPrimitiveTypes ∧
        (declaration.signature arch).TypesFitRegisters := by
  have hparams : (forall slot, slot ∈ (declaration.signature arch).params ->
      slot.native.fitsHost slot.host = true) <->
        forall types, types ∈ declaration.params -> types.1.fitsHost types.2 = true :=
    List.forall_mem_map
  rw [Signature.HasPrimitiveTypes, hparams, Signature.TypesFitRegisters,
    integerTypeCount_signature, floatTypeCount_signature]
  constructor
  · rintro ⟨hfits, hresult, hregisters⟩
    exact ⟨⟨hfits, hresult.imp_right Prod.ext_iff.mp⟩, hregisters⟩
  · rintro ⟨⟨hfits, hresult⟩, hregisters⟩
    exact ⟨hfits, hresult.imp_right Prod.ext_iff.mpr, hregisters⟩

theorem accepts_build_iff (compiler : Arch) (steps : List BuildStep) :
    Trampoline.accepts compiler (Signature.build arch steps) = true <->
      arch = compiler ∧ (ofSteps steps).Fits arch := by
  rw [(Signature.built_build arch steps).accepts_iff, build_eq, fits_iff]
  exact Iff.rfl

end Rule
end Declaration

/-!
# What it decides
-/

/-- A jump is written where nothing is left to do for an accepted signature after its call. -/
theorem Signature.frame_eq_direct_iff {sig : Signature} {arch : Arch}
    (h : Trampoline.accepts arch sig = true) :
    sig.frame = .direct <->
      arch ≠ .i386 ∧ sig.capturesError = false ∧ sig.result.passesThrough = true := by
  simp only [Trampoline.accepts, Bool.and_eq_true, beq_iff_eq] at h
  rcases h with ⟨⟨harch, _⟩, hfits⟩
  subst harch
  simp [frame, hfits, and_left_comm, and_assoc]

def Declaration.helper? (declaration : Declaration) (helper : Option Address) : Option Address :=
  if declaration.capturesError then helper else none

/-- The outcome of a compilation by what was declared. Code that is too long for the offsets of an
i386 frame is none of the errors, but a fault. -/
structure Declaration.Decides (declaration : Declaration) (arch compiler : Arch)
    (target : Address) (helper : Option Address) (outcome : Outcome CompileError Trampoline) :
    Prop where
  unsupported :
    outcome = .error (.error (.unsupported compiler (declaration.signature arch).text)) <->
      ¬(arch = compiler ∧ declaration.Fits arch)
  missingHelper :
    outcome = .error (.error .missingHelper) <->
      (arch = compiler ∧ declaration.Fits arch) ∧
        declaration.capturesError = true ∧ helper = none
  outOfRange (address : Address) :
    outcome = .error (.error (.addressOutOfRange address)) <->
      (arch = compiler ∧ declaration.Fits arch) ∧
        (declaration.capturesError = true -> helper.isSome = true) ∧
        compiler = .i386 ∧ IsFirstFar target (declaration.helper? helper) address
  compiled (hfits : arch = compiler ∧ declaration.Fits arch)
    (hhelped : declaration.capturesError = true -> helper.isSome = true)
    (hnear : compiler = .i386 ->
      forall address, ¬IsFirstFar target (declaration.helper? helper) address) :
    (exists trampoline, outcome = .ok trampoline ∧
      trampoline.arch = compiler ∧ trampoline.target = target ∧
      trampoline.frame = (declaration.signature arch).frame ∧
      (trampoline.frame = .direct <->
        compiler ≠ .i386 ∧ declaration.capturesError = false ∧
          (declaration.signature arch).result.passesThrough = true)) ∨
    compiler = .i386 ∧
      2 ^ 31 ≤ I386.stackAdjust (declaration.signature arch) + I386.hostStart +
        I386.hostBytes (declaration.signature arch).params ∧
      exists fault, outcome = .error (.fault fault)

theorem decides_compile (arch compiler : Arch) (steps : List BuildStep) (target : Address)
    (helper : Option Address) :
    (Declaration.ofSteps steps).Decides arch compiler target helper
      (Trampoline.compile compiler (Signature.build arch steps) target helper) := by
  have hrule := Declaration.accepts_build_iff arch compiler steps
  have hbuilt := Signature.built_build arch steps
  rw [Declaration.build_eq] at hrule hbuilt ⊢
  generalize Declaration.ofSteps steps = declaration at hrule hbuilt ⊢
  refine ⟨?_, ?_, ?_, ?_⟩
  · rw [compile_eq_unsupported_iff, ← hrule, Bool.not_eq_true]
  · rw [compile_eq_missingHelper_iff, hrule]
    exact Iff.rfl
  · intro address
    rw [compile_eq_addressOutOfRange_iff, hrule]
    exact Iff.rfl
  · intro hfits hhelped hnear
    have hchecked : (declaration.signature arch).IsChecked compiler target helper :=
      { accepts := hrule.mpr hfits
        helped := hhelped
        reachable := by
          intro harch address hmem
          by_contra hfar
          rcases exists_isFirstFar_iff.mpr ⟨address, hmem, Nat.not_lt.mp hfar⟩ with
            ⟨first, hfirst⟩
          exact hnear harch first hfirst }
    rcases hchecked.ok_or_fault with ⟨trampoline, hok⟩ | ⟨fault, hfault⟩
    · apply Or.inl
      rcases of_compile_eq_ok hok with ⟨_, _, harch, hframe, htarget⟩
      refine ⟨trampoline, hok, harch, htarget, hframe, ?_⟩
      rw [hframe]
      exact Signature.frame_eq_direct_iff hchecked.accepts
    · apply Or.inr
      rcases of_compile_eq_fault hbuilt hfault with ⟨harch, hrange⟩
      exact ⟨harch, hrange, fault, hfault⟩

/-- What was declared decides everything: the signature, its counts, which compiler accepts it, and
what its compilation comes to. -/
theorem build_decides (arch compiler : Arch) (steps : List BuildStep) (target : Address)
    (helper : Option Address) :
    Signature.build arch steps = (Declaration.ofSteps steps).signature arch ∧
      (Signature.build arch steps).integerCount =
        (Signature.build arch steps).integerParams.length ∧
      (Signature.build arch steps).integerCount =
        (Declaration.ofSteps steps).params.countP (·.1.isInteger) ∧
      (Signature.build arch steps).floatCount =
        (Declaration.ofSteps steps).params.countP (·.1.isFloat) ∧
      (Trampoline.accepts compiler (Signature.build arch steps) = true <->
        arch = compiler ∧ (Declaration.ofSteps steps).Fits arch) ∧
      (Declaration.ofSteps steps).Decides arch compiler target helper
        (Trampoline.compile compiler (Signature.build arch steps) target helper) := by
  have hbuilt := Signature.built_build arch steps
  refine ⟨Declaration.build_eq arch steps, ?_, ?_, ?_, ?_, ?_⟩
  · exact (Signature.length_integerParams _).symm
  · rw [hbuilt.integerCount_eq, Declaration.build_eq, Declaration.integerTypeCount_signature]
  · rw [hbuilt.floatCount_eq, Declaration.build_eq, Declaration.floatTypeCount_signature]
  · exact Declaration.accepts_build_iff arch compiler steps
  · exact decides_compile arch compiler steps target helper

/-- Six integers fill the registers; a seventh is one too many, wherever the result stands. -/
example :
    let integers := List.replicate 6 (BuildStep.param .sint .int)
    let result := BuildStep.returns .double .double
    Trampoline.accepts .amd64 (.build .amd64 (result :: integers)) = true ∧
      Trampoline.accepts .amd64 (.build .amd64 (.param .slong .long :: integers ++ [result])) =
        false := by
  decide

end NativeCall
