import NativeCall.Word
import NativeCall.ValueClass

/-!
# Host values

A host value is one 64-bit word. An integer is stored sign-extended from the width of its
host type, a float as its bits, those of single precision in the low half.
-/

namespace NativeCall
namespace HostValue

/-!
# Conversions
-/

def void : Word :=
  0

def ofBool (b : Bool) : Word :=
  if b then 1 else 0

def ofInt32 (n : BitVec 32) : Word :=
  n.signExtend 64

def ofSingle (bits : BitVec 32) : Word :=
  bits.setWidth 64

def toInt32 (word : Word) : BitVec 32 :=
  word.setWidth 32

def toSingle (word : Word) : BitVec 32 :=
  word.setWidth 32

def toBool (word : Word) : Bool :=
  word != 0

/-!
# Native values
-/

/-- Read the low bits of a word as a value of a class: as many as the class is wide, with
the sign copied upward if it has one. -/
def extend (kind : ValueClass) (bits : Word) : Word :=
  let low := bits.setWidth kind.width.bits
  if kind.isSigned then low.signExtend 64 else low.setWidth 64

/-- The host form of a native integer result; a Boolean host asks only whether it is zero. -/
def ofNative (kind : ValueClass) (host : HostType) (bits : Word) : Word :=
  let value := extend kind bits
  match host with
  | .boolean => ofBool (value != 0)
  | _ => value

end HostValue
end NativeCall
