import NativeCall.Word

/-!
# Native functions

A native function sees the argument registers and the system's error number. It answers
with a result register and the error number that it leaves behind.
-/

namespace NativeCall

structure Registers where
  int : Fin 6 -> Word
  float : Fin 8 -> Word

namespace Registers

def integerLimit : Nat := 6

def floatLimit : Nat := 8

/-- Arguments in order fill each register file from its start; the rest is zero. -/
def ofArguments (ints floats : List Word) : Registers :=
  { int := fun i => ints.getD i 0, float := fun i => floats.getD i 0 }

end Registers

abbrev NativeFunction := Registers -> Int -> Word × Int

end NativeCall
