import NativeCall.Word

/-!
# Arithmetic on the bits of floats

Doubles and singles as the bits that registers hold. An operand that is not a number is
passed on with its quiet bit set, the first one of two. Where the operands give no number
although both are numbers, the result is the quiet pattern with the sign set.
-/

namespace NativeCall

namespace Double

def infinity : Word := 0x7FF0000000000000

def signMask : Word := 0x8000000000000000

def quietBit : Word := 0x0008000000000000

/-- The result of an operation without an answer. -/
def invalid : Word := 0xFFF8000000000000

def isNaN (bits : Word) : Bool :=
  infinity.toNat < (bits &&& ~~~signMask).toNat

def toFloat (bits : Word) : Float :=
  Float.ofBits (UInt64.ofBitVec bits)

def combine (operation : Float -> Float -> Float) (a b : Word) : Word :=
  if isNaN a then a ||| quietBit
  else if isNaN b then b ||| quietBit
  else
    let result := operation (toFloat a) (toFloat b)
    if result.isNaN then invalid else result.toBits.toBitVec

def add : Word -> Word -> Word :=
  combine (· + ·)

def mul : Word -> Word -> Word :=
  combine (· * ·)

def ofNat (n : Nat) : Word :=
  (Float.ofNat n).toBits.toBitVec

end Double

namespace Single

def infinity : BitVec 32 := 0x7F800000

def signMask : BitVec 32 := 0x80000000

def quietBit : BitVec 32 := 0x00400000

def isNaN (bits : BitVec 32) : Bool :=
  infinity.toNat < (bits &&& ~~~signMask).toNat

/-- Half of a single, which is a number whenever the single is one. -/
def halve (bits : BitVec 32) : BitVec 32 :=
  if isNaN bits then bits ||| quietBit
  else (Float32.ofBits (UInt32.ofBitVec bits) * 0.5).toBits.toBitVec

end Single
end NativeCall
