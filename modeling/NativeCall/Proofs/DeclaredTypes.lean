import NativeCall.Proofs.Signature

/-!
# Declared types

The classes, register counts and compatibility checks of a signature say no more than its
declared types do. Here they are said of the declared types alone, and the two are proved
equal for every signature that was built up from the empty one.
-/

namespace NativeCall
namespace NativeType

def isInteger : NativeType -> Bool
  | .schar | .uchar | .sshort | .ushort | .sint | .uint | .slong | .ulong | .slonglong
  | .ulonglong | .address => true
  | .void | .float | .double | .struct | .array | .string => false

def isFloat : NativeType -> Bool
  | .float | .double => true
  | _ => false

/-- Integers and pointers fit any integral host type, floats the one of their precision. -/
def fitsHost (native : NativeType) (host : HostType) : Bool :=
  match native with
  | .float => host == .float
  | .double => host == .double
  | _ => native.isInteger && host.isIntegral

/-- The values of the type have a size, and no more bytes than that. -/
def isWithin (native : NativeType) (arch : Arch) (bytes : Nat) : Bool :=
  (native.size arch).any (· ≤ bytes)

theorem isInteger_or_isFloat_of_fitsHost {native : NativeType} {host : HostType}
    (h : native.fitsHost host = true) : native.isInteger = true ∨ native.isFloat = true := by
  cases native with
  | float | double => exact Or.inr rfl
  | void | struct | array | string => cases h
  | _ => exact Or.inl rfl

end NativeType

/-!
# Classes of declared types
-/

section Classes

variable (arch : Arch) (native : NativeType)

theorem any_acceptsHost_ofNative? (host : HostType) :
    (ValueClass.ofNative? arch native).any (·.acceptsHost host) = native.fitsHost host := by
  cases arch <;> cases native <;> rfl

theorem isSome_filter_isInteger_ofNative? :
    ((ValueClass.ofNative? arch native).filter (·.isInteger)).isSome = native.isInteger := by
  cases arch <;> cases native <;> rfl

theorem isSome_filter_isFloat_ofNative? :
    ((ValueClass.ofNative? arch native).filter (·.isFloat)).isSome = native.isFloat := by
  cases arch <;> cases native <;> rfl

end Classes

namespace Slot.IsClassified

variable {arch : Arch} {slot : Slot} (h : slot.IsClassified arch)

include h

theorem isCompilable_eq : slot.isCompilable = slot.native.fitsHost slot.host := by
  rw [isCompilable, h]
  exact any_acceptsHost_ofNative? arch slot.native slot.host

theorem isSome_integerClass? : slot.integerClass?.isSome = slot.native.isInteger := by
  rw [integerClass?, h]
  exact isSome_filter_isInteger_ofNative? arch slot.native

theorem isSome_floatClass? : slot.floatClass?.isSome = slot.native.isFloat := by
  rw [floatClass?, h]
  exact isSome_filter_isFloat_ofNative? arch slot.native

end Slot.IsClassified

/-!
# Signatures by their declared types
-/

namespace Signature

def natives (sig : Signature) : List NativeType :=
  sig.params.map (·.native) ++ if sig.result.native = .void then [] else [sig.result.native]

theorem forall_mem_natives {sig : Signature} {P : NativeType -> Prop} :
    (forall native, native ∈ sig.natives -> P native) <->
      (sig.result.native = .void ∨ P sig.result.native) ∧
        forall slot, slot ∈ sig.params -> P slot.native := by
  unfold natives
  rw [List.forall_mem_append, List.forall_mem_map, and_comm]
  apply and_congr_left
  intro _
  by_cases hvoid : sig.result.native = .void <;> simp [hvoid]

/-- Each value is a primitive in a host type that it fits. A result may be void on both
sides. -/
def HasPrimitiveTypes (sig : Signature) : Prop :=
  (forall slot, slot ∈ sig.params -> slot.native.fitsHost slot.host = true) ∧
    (sig.result.native.fitsHost sig.result.host = true ∨
      sig.result.native = .void ∧ sig.result.host = .void)

instance (sig : Signature) : Decidable sig.HasPrimitiveTypes :=
  inferInstanceAs (Decidable (_ ∧ _))

def integerTypeCount (sig : Signature) : Nat :=
  sig.params.countP (·.native.isInteger)

def floatTypeCount (sig : Signature) : Nat :=
  sig.params.countP (·.native.isFloat)

/-- The parameters fit the registers where values travel in registers. -/
def TypesFitRegisters (sig : Signature) : Prop :=
  sig.arch ≠ .i386 -> sig.integerTypeCount ≤ 6 ∧ sig.floatTypeCount ≤ 8

instance (sig : Signature) : Decidable sig.TypesFitRegisters :=
  inferInstanceAs (Decidable (_ -> _))

namespace Built

variable {sig : Signature} (h : sig.Built)

include h

theorem isPrimitive_iff : sig.isPrimitive = true <-> sig.HasPrimitiveTypes := by
  rcases h.isClassified with ⟨hparams, hresult⟩
  have hslots : (forall slot, slot ∈ sig.params -> slot.isCompilable = true) <->
      forall slot, slot ∈ sig.params -> slot.native.fitsHost slot.host = true := by
    apply forall₂_congr
    intro slot hmem
    rw [(hparams slot hmem).isCompilable_eq]
  simp only [isPrimitive, HasPrimitiveTypes, Bool.and_eq_true, Bool.or_eq_true,
    List.all_eq_true, hresult.isCompilable_eq, Slot.isVoid, beq_iff_eq, hslots]
  exact and_comm.trans (and_congr_right fun _ => or_comm)

theorem integerCount_eq : sig.integerCount = sig.integerTypeCount := by
  apply List.countP_congr
  intro slot hmem
  rw [(h.isClassified.left slot hmem).isSome_integerClass?]

theorem floatCount_eq : sig.floatCount = sig.floatTypeCount := by
  apply List.countP_congr
  intro slot hmem
  rw [(h.isClassified.left slot hmem).isSome_floatClass?]

theorem fitsBudget_iff : sig.fitsBudget sig.arch = true <-> sig.TypesFitRegisters := by
  unfold fitsBudget TypesFitRegisters
  rw [h.integerCount_eq, h.floatCount_eq]
  cases sig.arch with
  | i386 => simp [Arch.registerBudget]
  | amd64 => simp [Arch.registerBudget]
  | aarch64 => simp [Arch.registerBudget]

theorem accepts_iff (arch : Arch) :
    Trampoline.accepts arch sig = true <->
      sig.arch = arch ∧ sig.HasPrimitiveTypes ∧ sig.TypesFitRegisters := by
  simp only [Trampoline.accepts, Bool.and_eq_true, beq_iff_eq, h.isPrimitive_iff, and_assoc]
  apply and_congr_right
  intro harch
  rw [← harch, h.fitsBudget_iff]

end Built
end Signature
end NativeCall
