import NativeCall.Arch

/-!
# Native types

The types that a native declaration can give to a parameter or a result.
-/

namespace NativeCall

inductive NativeType where
  | void
  | schar
  | uchar
  | sshort
  | ushort
  | sint
  | uint
  | slong
  | ulong
  | slonglong
  | ulonglong
  | float
  | double
  | address
  | struct
  | array
  | string
  deriving DecidableEq, Repr

namespace NativeType

def all : List NativeType :=
  [.void, .schar, .uchar, .sshort, .ushort, .sint, .uint, .slong, .ulong, .slonglong,
   .ulonglong, .float, .double, .address, .struct, .array, .string]

theorem mem_all (native : NativeType) : native ∈ all := by
  cases native <;> decide

def name : NativeType -> String
  | .void => "Void"
  | .schar => "SChar"
  | .uchar => "UChar"
  | .sshort => "SShort"
  | .ushort => "UShort"
  | .sint => "SInt"
  | .uint => "UInt"
  | .slong => "SLong"
  | .ulong => "ULong"
  | .slonglong => "SLongLong"
  | .ulonglong => "ULongLong"
  | .float => "Float"
  | .double => "Double"
  | .address => "Address"
  | .struct => "Struct"
  | .array => "Array"
  | .string => "String"

/-- Bytes of a value; void and composite types have no size of their own. -/
def size (arch : Arch) : NativeType -> Option Nat
  | .schar | .uchar => some 1
  | .sshort | .ushort => some 2
  | .sint | .uint | .float => some 4
  | .slonglong | .ulonglong | .double => some 8
  | .slong | .ulong | .address => some arch.pointerSize
  | .void | .struct | .array | .string => none

def isComposite : NativeType -> Bool
  | .struct | .array | .string => true
  | _ => false

end NativeType
end NativeCall
