import NativeCall.NativeType
import NativeCall.HostType

/-!
# Value classes

What the code generators know about a value: the register file it travels in, its
width and its signedness. Classification depends on the native type and on the
architecture alone.
-/

namespace NativeCall

/-- The register file of a value, floats told apart by precision. -/
inductive RegisterClass where
  | integer
  | single
  | double
  deriving DecidableEq, Repr

inductive Width where
  | w8
  | w16
  | w32
  | w64
  deriving DecidableEq, Repr

inductive Signedness where
  | signed
  | unsigned
  | notApplicable
  deriving DecidableEq, Repr

structure ValueClass where
  register : RegisterClass
  width : Width
  signedness : Signedness
  deriving DecidableEq, Repr

namespace RegisterClass

def all : List RegisterClass :=
  [.integer, .single, .double]

def name : RegisterClass -> String
  | .integer => "Integer"
  | .single => "FloatSingle"
  | .double => "FloatDouble"

end RegisterClass

namespace Width

def all : List Width :=
  [.w8, .w16, .w32, .w64]

def bits : Width -> Nat
  | .w8 => 8
  | .w16 => 16
  | .w32 => 32
  | .w64 => 64

def bytes (width : Width) : Nat :=
  width.bits / 8

def ofBytes? : Nat -> Option Width
  | 1 => some .w8
  | 2 => some .w16
  | 4 => some .w32
  | 8 => some .w64
  | _ => none

theorem ofBytes?_bytes (width : Width) : ofBytes? width.bytes = some width := by
  cases width <;> rfl

theorem bits_pos (width : Width) : 0 < width.bits := by
  cases width <;> decide

theorem bits_le (width : Width) : width.bits ≤ 64 := by
  cases width <;> decide

theorem bits_le_of_ne_w64 {width : Width} (h : width ≠ .w64) : width.bits ≤ 32 := by
  cases width with
  | w64 => exact absurd rfl h
  | _ => decide

end Width

namespace Signedness

def all : List Signedness :=
  [.signed, .unsigned, .notApplicable]

def name : Signedness -> String
  | .signed => "Signed"
  | .unsigned => "Unsigned"
  | .notApplicable => "NotApplicable"

end Signedness

def NativeType.signedness? : NativeType -> Option Signedness
  | .schar | .sshort | .sint | .slong | .slonglong => some .signed
  | .uchar | .ushort | .uint | .ulong | .ulonglong | .address => some .unsigned
  | .void | .float | .double | .struct | .array | .string => none

namespace ValueClass

/-- The class of a native type; void and composite types have none. -/
def ofNative? (arch : Arch) (native : NativeType) : Option ValueClass :=
  match native with
  | .float => some ⟨.single, .w32, .notApplicable⟩
  | .double => some ⟨.double, .w64, .notApplicable⟩
  | _ => do
      let signedness <- native.signedness?
      let size <- native.size arch
      let width <- Width.ofBytes? size
      return ⟨.integer, width, signedness⟩

def isInteger (kind : ValueClass) : Bool :=
  kind.register == .integer

def isFloat (kind : ValueClass) : Bool :=
  !kind.isInteger

def isSigned (kind : ValueClass) : Bool :=
  kind.signedness == .signed

/-- Integers travel as any integral host type, floats only as the one of equal precision. -/
def acceptsHost (kind : ValueClass) (host : HostType) : Bool :=
  match kind.register with
  | .integer => host.isIntegral
  | .single => host == .float
  | .double => host == .double

def text (kind : ValueClass) : String :=
  match kind.register with
  | .single => "f32"
  | .double => "f64"
  | .integer => (if kind.isSigned then "i" else "u") ++ kind.width.bits.repr

end ValueClass
end NativeCall
