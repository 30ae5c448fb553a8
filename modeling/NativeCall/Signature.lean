import NativeCall.Slot

/-!
# Signatures

A classified call signature: architecture, parameters, result, and whether the
error number is captured after the call. Signatures are built up from
`Signature.empty` by `param`, `returns` and `capture`.
-/

namespace NativeCall

structure Signature where
  arch : Arch
  params : List Slot
  result : Slot
  capturesError : Bool
  deriving DecidableEq, Repr

namespace Signature

/-!
# Building
-/

def empty (arch : Arch) : Signature :=
  { arch, params := [], result := Slot.classify arch .void .void, capturesError := false }

def param (sig : Signature) (native : NativeType) (host : HostType) : Signature :=
  { sig with params := sig.params ++ [Slot.classify sig.arch native host] }

def returns (sig : Signature) (native : NativeType) (host : HostType) : Signature :=
  { sig with result := Slot.classify sig.arch native host }

def capture (sig : Signature) (enabled : Bool) : Signature :=
  { sig with capturesError := enabled }

def ofTypes (arch : Arch) (params : List (NativeType × HostType))
    (result : NativeType × HostType) (capturesError : Bool) : Signature :=
  let start := (empty arch).returns result.1 result.2
  (params.foldl (fun sig (native, host) => sig.param native host) start).capture capturesError

/-!
# Register files
-/

def integerParams (sig : Signature) : List (Slot × ValueClass) :=
  sig.params.filterMap fun slot => slot.integerClass?.map (slot, ·)

def integerCount (sig : Signature) : Nat :=
  sig.params.countP (·.integerClass?.isSome)

def floatCount (sig : Signature) : Nat :=
  sig.params.countP (·.floatClass?.isSome)

/-- Whether the parameters fit the registers of `arch`; without a budget anything fits. -/
def fitsBudget (sig : Signature) (arch : Arch) : Bool :=
  match arch.registerBudget with
  | none => true
  | some budget => sig.integerCount ≤ budget.integers && sig.floatCount ≤ budget.floats

/-- Every value is a primitive in a host type that can carry it, or the result is void on
both sides. -/
def isPrimitive (sig : Signature) : Bool :=
  ((sig.result.isVoid && sig.result.host == .void) || sig.result.isCompilable)
    && sig.params.all (·.isCompilable)

/-!
# Text
-/

/-- The short form, such as `(i8, f64) -> u32 [errno]`. -/
def text (sig : Signature) : String :=
  let result := if sig.result.isVoid then "void" else sig.result.text
  let params := String.intercalate ", " (sig.params.map (·.text))
  "(" ++ params ++ ") -> " ++ result ++ (if sig.capturesError then " [errno]" else "")

end Signature
end NativeCall
