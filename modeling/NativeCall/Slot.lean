import NativeCall.ValueClass

/-!
# Slots

One parameter or the result of a call: its native type, the host type that carries
it, and its value class.
-/

namespace NativeCall

structure Slot where
  native : NativeType
  host : HostType
  kind : Option ValueClass
  deriving DecidableEq, Repr

namespace Slot

def classify (arch : Arch) (native : NativeType) (host : HostType) : Slot :=
  { native, host, kind := ValueClass.ofNative? arch native }

def isCompilable (slot : Slot) : Bool :=
  slot.kind.any (·.acceptsHost slot.host)

def isVoid (slot : Slot) : Bool :=
  slot.native == .void

def integerClass? (slot : Slot) : Option ValueClass :=
  slot.kind.filter (·.isInteger)

def floatClass? (slot : Slot) : Option ValueClass :=
  slot.kind.filter (·.isFloat)

def text (slot : Slot) : String :=
  match slot.kind with
  | some kind => kind.text
  | none => slot.native.name

/-- Whether the native result already has the form in which the host expects it. -/
def passesThrough (result : Slot) : Bool :=
  if result.isVoid then
    result.host == .void
  else
    match result.kind with
    | none => false
    | some kind =>
        match kind.register, kind.width, result.host with
        | .integer, .w32, .int => true
        | .integer, .w64, .long => true
        | .single, _, .float => true
        | .double, _, .double => true
        | _, _, _ => false

end Slot
end NativeCall
