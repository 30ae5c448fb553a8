import NativeCall.Trampoline

/-!
# Signatures that trampolines are written for

A signature that was built up from the empty one has the classes of its native types. What
a trampoline is written for is then a list of parameters with classes, and a result with a
class or none at all.
-/

namespace NativeCall

def Slot.IsClassified (arch : Arch) (slot : Slot) : Prop :=
  slot.kind = ValueClass.ofNative? arch slot.native

namespace Signature

theorem length_integerParams (sig : Signature) : sig.integerParams.length = sig.integerCount := by
  rw [integerParams, integerCount, List.length_filterMap_eq_countP]
  congr 1
  funext slot
  cases slot.integerClass? <;> rfl

/-- The ways to build a signature. -/
inductive Built : Signature -> Prop where
  | empty (arch : Arch) : Built (empty arch)
  | param {sig : Signature} (native : NativeType) (host : HostType) :
      Built sig -> Built (sig.param native host)
  | returns {sig : Signature} (native : NativeType) (host : HostType) :
      Built sig -> Built (sig.returns native host)
  | capture {sig : Signature} (enabled : Bool) : Built sig -> Built (sig.capture enabled)

namespace Built

theorem isClassified {sig : Signature} (h : sig.Built) :
    (forall slot, slot ∈ sig.params -> slot.IsClassified sig.arch) ∧
      sig.result.IsClassified sig.arch := by
  induction h with
  | empty arch =>
      constructor
      · intro slot hmem
        cases hmem
      · rfl
  | param native host _ ih =>
      constructor
      · intro slot hmem
        rcases List.mem_append.mp hmem with hold | hnew
        · exact ih.left slot hold
        · rw [List.mem_singleton.mp hnew]
          rfl
      · exact ih.right
  | returns native host _ ih => exact ⟨ih.left, rfl⟩
  | capture enabled _ ih => exact ih

theorem ofTypes (arch : Arch) (params : List (NativeType × HostType))
    (result : NativeType × HostType) (capturesError : Bool) :
    Built (Signature.ofTypes arch params result capturesError) := by
  have hfold : forall start : Signature, start.Built ->
      (params.foldl (fun sig types => sig.param types.1 types.2) start).Built := by
    induction params with
    | nil =>
        intro start hstart
        exact hstart
    | cons first rest ih =>
        intro start hstart
        exact ih _ (hstart.param first.1 first.2)
  exact (hfold _ ((Built.empty arch).returns result.1 result.2)).capture capturesError

end Built
end Signature

/-!
# Classes
-/

namespace ValueClass

structure IsRegular (kind : ValueClass) : Prop where
  single : kind.register = .single -> kind.width = .w32
  double : kind.register = .double -> kind.width = .w64

theorem isRegular_of_ofNative? {arch : Arch} {native : NativeType} {kind : ValueClass}
    (h : ofNative? arch native = some kind) : kind.IsRegular := by
  cases native with
  | float =>
      cases h
      exact ⟨fun _ => rfl, by intro h; cases h⟩
  | double =>
      cases h
      exact ⟨(by intro h; cases h), fun _ => rfl⟩
  | _ =>
      cases arch <;> cases h <;> exact ⟨(by intro h; cases h), by intro h; cases h⟩

theorem isInteger_iff (kind : ValueClass) : kind.isInteger = true <-> kind.register = .integer := by
  exact beq_iff_eq

end ValueClass

/-- A slot with a class, in a host type that can carry it. -/
structure Slot.HasClass (slot : Slot) (kind : ValueClass) : Prop where
  kind_eq : slot.kind = some kind
  accepts : kind.acceptsHost slot.host = true
  regular : kind.IsRegular

/-- A result: nothing on either side, or a value of a class. -/
inductive Slot.IsResult (result : Slot) : Prop where
  | nothing (hkind : result.kind = none) (hhost : result.host = .void)
      (hvoid : result.isVoid = true)
  | value (kind : ValueClass) (hclass : result.HasClass kind) (hvoid : result.isVoid = false)

namespace Slot

theorem hasClass_of_isCompilable {arch : Arch} {slot : Slot} (hclass : slot.IsClassified arch)
    (h : slot.isCompilable = true) : exists kind, slot.HasClass kind := by
  cases hkind : slot.kind with
  | none => simp [isCompilable, hkind] at h
  | some kind =>
      rw [isCompilable, hkind] at h
      exact ⟨kind, hkind, h, ValueClass.isRegular_of_ofNative? (hclass.symm.trans hkind)⟩

namespace HasClass

variable {slot : Slot} {kind : ValueClass}

theorem isIntegral (h : slot.HasClass kind) (hinteger : kind.register = .integer) :
    slot.host.isIntegral = true := by
  have haccepts := h.accepts
  rw [ValueClass.acceptsHost, hinteger] at haccepts
  exact haccepts

theorem host_of_single (h : slot.HasClass kind) (hsingle : kind.register = .single) :
    slot.host = .float := by
  have haccepts := h.accepts
  rw [ValueClass.acceptsHost, hsingle] at haccepts
  exact eq_of_beq haccepts

theorem host_of_double (h : slot.HasClass kind) (hdouble : kind.register = .double) :
    slot.host = .double := by
  have haccepts := h.accepts
  rw [ValueClass.acceptsHost, hdouble] at haccepts
  exact eq_of_beq haccepts

theorem not_isIntegral (h : slot.HasClass kind) (hfloat : kind.register ≠ .integer) :
    ¬slot.host.isIntegral = true := by
  cases hregister : kind.register with
  | integer => exact absurd hregister hfloat
  | single =>
      rw [h.host_of_single hregister]
      exact Bool.false_ne_true
  | double =>
      rw [h.host_of_double hregister]
      exact Bool.false_ne_true

theorem integerClass?_of_integer (h : slot.HasClass kind) (hinteger : kind.register = .integer) :
    slot.integerClass? = some kind := by
  rw [integerClass?, h.kind_eq]
  exact Option.filter_eq_some_iff.mpr ⟨rfl, kind.isInteger_iff.mpr hinteger⟩

theorem integerClass?_of_float (h : slot.HasClass kind) (hfloat : kind.register ≠ .integer) :
    slot.integerClass? = none := by
  have hnot : ¬kind.isInteger = true := fun hinteger => hfloat (kind.isInteger_iff.mp hinteger)
  rw [integerClass?, h.kind_eq]
  simpa using hnot

end HasClass

/-- The integer results that need no work are those of the width of their host type. -/
theorem integer_of_passesThrough {result : Slot} {kind : ValueClass}
    (hpasses : result.passesThrough = true) (hvoid : result.isVoid = false)
    (hkind : result.kind = some kind) (hinteger : kind.register = .integer) :
    (kind.width = .w32 ∧ result.host = .int) ∨ (kind.width = .w64 ∧ result.host = .long) := by
  unfold passesThrough at hpasses
  simp only [hvoid, hkind, hinteger, Bool.false_eq_true, if_false] at hpasses
  split at hpasses
  next hwidth hhost => exact Or.inl ⟨hwidth, hhost⟩
  next hwidth hhost => exact Or.inr ⟨hwidth, hhost⟩
  next hfloat _ => cases hfloat
  next hfloat _ => cases hfloat
  next => cases hpasses

end Slot

/-!
# Accepted signatures
-/

namespace Signature

/-- What the trampoline of a signature has to do with. -/
structure Accepted (sig : Signature) (arch : Arch) : Prop where
  arch_eq : sig.arch = arch
  primitive : sig.isPrimitive = true
  fits : sig.fitsBudget arch = true
  params : forall slot, slot ∈ sig.params -> exists kind, slot.HasClass kind
  result : sig.result.IsResult

theorem Built.isResult {sig : Signature} (hbuilt : sig.Built)
    (hprimitive : sig.isPrimitive = true) : sig.result.IsResult := by
  have hresult := hbuilt.isClassified.right
  simp only [isPrimitive, Bool.and_eq_true, Bool.or_eq_true, beq_iff_eq] at hprimitive
  have hnone : sig.result.isVoid = true -> sig.result.kind = none := by
    intro hvoid
    rw [Slot.isVoid, beq_iff_eq] at hvoid
    rw [hresult, hvoid]
    rfl
  rcases hprimitive.left with ⟨hvoid, hhost⟩ | hcompilable
  · exact .nothing (hnone hvoid) hhost hvoid
  · rcases Slot.hasClass_of_isCompilable hresult hcompilable with ⟨kind, hclass⟩
    refine .value kind hclass ?_
    cases hvoid : sig.result.isVoid with
    | false => rfl
    | true =>
        have hsome := hclass.kind_eq
        rw [hnone hvoid] at hsome
        cases hsome

theorem Built.accepted {sig : Signature} {arch : Arch} (hbuilt : sig.Built)
    (h : Trampoline.accepts arch sig = true) : sig.Accepted arch := by
  simp only [Trampoline.accepts, Bool.and_eq_true, beq_iff_eq] at h
  rcases h with ⟨⟨harch, hprimitive⟩, hfits⟩
  refine ⟨harch, hprimitive, hfits, ?_, hbuilt.isResult hprimitive⟩
  intro slot hmem
  simp only [isPrimitive, Bool.and_eq_true, List.all_eq_true] at hprimitive
  exact Slot.hasClass_of_isCompilable (hbuilt.isClassified.left slot hmem)
    (hprimitive.right slot hmem)

theorem Accepted.hasClass {sig : Signature} {arch : Arch} {slot : Slot} {kind : ValueClass}
    (h : sig.Accepted arch) (hmem : slot ∈ sig.params) (hkind : slot.kind = some kind) :
    slot.HasClass kind := by
  rcases h.params slot hmem with ⟨other, hother⟩
  cases hother.kind_eq.symm.trans hkind
  exact hother

/-!
# Frames and helpers
-/

theorem of_frame_eq_direct {sig : Signature} (h : sig.frame = .direct) :
    sig.capturesError = false ∧ sig.result.passesThrough = true := by
  unfold frame at h
  split at h
  next hjump =>
    simp only [Bool.and_eq_true, Bool.not_eq_true'] at hjump
    exact ⟨hjump.left.left.left, hjump.right⟩
  next => cases h

def calledHelper (sig : Signature) (helper : Option Address) : Option Address :=
  if sig.capturesError then helper else none

theorem usedHelper_eq (sig : Signature) {helper : Option Address}
    (h : sig.capturesError = true -> helper.isSome = true) :
    Trampoline.usedHelper sig helper = .ok (sig.calledHelper helper) := by
  unfold Trampoline.usedHelper calledHelper
  cases hcaptures : sig.capturesError with
  | false => rfl
  | true =>
      cases helper with
      | none => cases h hcaptures
      | some address => rfl

end Signature
end NativeCall
