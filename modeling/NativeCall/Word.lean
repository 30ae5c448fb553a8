/-!
# Words

Bytes, machine words and addresses, and the little-endian form in which instructions
hold them.
-/

namespace NativeCall

abbrev Byte := BitVec 8

abbrev Word := BitVec 64

abbrev Address := BitVec 64

def wordCount : Nat := 0x1_0000_0000_0000_0000

/-- How many words are negative as signed numbers. -/
def negativeWordCount : Nat := 0x8000_0000_0000_0000

/-- How many words have a zero high half. -/
def halfWordCount : Nat := 0x1_0000_0000

/-- The lowest `count` bytes of a value, lowest first. -/
def littleEndian {width : Nat} (count : Nat) (value : BitVec width) : List Byte :=
  (List.range count).map fun i => value.extractLsb' (8 * i) 8

theorem length_littleEndian {width : Nat} (count : Nat) (value : BitVec width) :
    (littleEndian count value).length = count := by
  simp [littleEndian]

end NativeCall
