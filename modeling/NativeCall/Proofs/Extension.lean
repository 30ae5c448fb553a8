import NativeCall.Proofs.BufferPath

/-!
# Extensions as numbers

A value class has its numbers among the words. The extension of a word for a class is the one
number of the class with the same low bits. It is also what two shifts make of the word, none of
them by as many bits as a word has.
-/

namespace NativeCall

/-- The word is a number of the class, with a sign or without one. -/
def ValueClass.Contains (kind : ValueClass) (word : Word) : Prop :=
  if kind.isSigned then
    -2 ^ (kind.width.bits - 1) ≤ word.toInt ∧ word.toInt < 2 ^ (kind.width.bits - 1)
  else
    word.toNat < 2 ^ kind.width.bits

namespace HostValue

/-!
# Numbers of a class
-/

/-- The numbers of a class are what extension leaves as it is. -/
theorem extend_eq_self_iff (kind : ValueClass) (word : Word) :
    extend kind word = word <-> kind.Contains word := by
  unfold extend ValueClass.Contains
  dsimp only
  split
  · exact Bits.signExtend_setWidth_eq_iff word kind.width.bits_pos kind.width.bits_le
  · exact Bits.setWidth_setWidth_eq_iff word kind.width.bits_le

theorem extend_extend (kind : ValueClass) (bits : Word) :
    extend kind (extend kind bits) = extend kind bits :=
  extend_congr (setWidth_extend kind bits)

theorem contains_extend (kind : ValueClass) (bits : Word) : kind.Contains (extend kind bits) :=
  (extend_eq_self_iff kind _).mp (extend_extend kind bits)

theorem extend_extend_of_le {kind wide : ValueClass} (bits : Word)
    (h : kind.width.bits ≤ wide.width.bits) :
    extend kind (extend wide bits) = extend kind bits :=
  extend_congr (setWidth_of_setWidth_eq h (setWidth_extend wide bits))

/-!
# Low bits
-/

theorem modEq_iff (width : Nat) (word bits : Word) :
    word.toNat ≡ bits.toNat [MOD 2 ^ width] <-> word.setWidth width = bits.setWidth width := by
  rw [← BitVec.toNat_inj, BitVec.toNat_setWidth, BitVec.toNat_setWidth]
  exact Iff.rfl

theorem extend_eq_extend_iff (kind : ValueClass) (bits other : Word) :
    extend kind bits = extend kind other <->
      bits.setWidth kind.width.bits = other.setWidth kind.width.bits := by
  constructor
  · intro h
    rw [← setWidth_extend kind bits, h, setWidth_extend]
  · exact extend_congr

theorem setWidth_eq_iff (width : Nat) (bits other : Word) :
    bits.setWidth width = other.setWidth width <->
      forall i, i < width -> bits.getLsbD i = other.getLsbD i := by
  constructor
  · intro h i hi
    have hbit := congrArg (fun low => low.getLsbD i) h
    simpa [hi] using hbit
  · intro h
    apply BitVec.eq_of_getLsbD_eq
    intro i hi
    simpa [hi] using h i hi

theorem eq_extend_iff (kind : ValueClass) (bits word : Word) :
    word = extend kind bits <->
      word.toNat ≡ bits.toNat [MOD 2 ^ kind.width.bits] ∧ kind.Contains word := by
  rw [modEq_iff]
  constructor
  · rintro rfl
    exact ⟨setWidth_extend kind bits, contains_extend kind bits⟩
  · rintro ⟨hlow, hcontains⟩
    calc
      word = extend kind word := ((extend_eq_self_iff kind word).mpr hcontains).symm
      _ = extend kind bits := extend_congr hlow

/-!
# Shifts
-/

/-- Shift a word. A shift by all of its bits or more has no meaning. -/
def shift? (shift : Word -> Nat -> Word) (word : Word) (distance : Nat) : Option Word :=
  if distance < 64 then some (shift word distance) else none

/-- Extension by shifts: the bits of the class to the top of the word, and back with the sign or
without it. What is as wide as a word stays in its place. -/
def extendByShifts? (kind : ValueClass) (bits : Word) : Option Word :=
  if kind.width = .w64 then
    some bits
  else do
    let distance := 64 - kind.width.bits
    let high <- shift? BitVec.shiftLeft bits distance
    shift? (if kind.isSigned then BitVec.sshiftRight else BitVec.ushiftRight) high distance

theorem shift?_eq_some {distance : Nat} (shift : Word -> Nat -> Word) (word : Word)
    (h : distance < 64) : shift? shift word distance = some (shift word distance) :=
  if_pos h

/-- The shifts of an extension are all in range, and extend. -/
theorem extendByShifts?_eq (kind : ValueClass) (bits : Word) :
    extendByShifts? kind bits = some (extend kind bits) := by
  have hpos := kind.width.bits_pos
  have hle := kind.width.bits_le
  have hdistance : 64 - kind.width.bits < 64 := by omega
  unfold extendByShifts?
  by_cases hwide : kind.width = .w64
  · rw [if_pos hwide, extend_of_w64 bits hwide]
  · rw [if_neg hwide]
    dsimp only
    rw [shift?_eq_some _ _ hdistance, Option.bind_eq_bind, Option.bind_some,
      shift?_eq_some _ _ hdistance, extend]
    cases kind.isSigned
    · exact congrArg some (Bits.ushiftRight_shiftLeft bits hle)
    · exact congrArg some (Bits.sshiftRight_shiftLeft bits hpos hle)

/-!
# Boolean results
-/

theorem extend_eq_zero_iff_low (kind : ValueClass) (bits : Word) :
    extend kind bits = 0 <-> forall i, i < kind.width.bits -> bits.getLsbD i = false := by
  have hzero : extend kind 0 = 0 := by
    rcases kind with ⟨_, width, signedness⟩
    cases width <;> cases signedness <;> rfl
  have hnone : forall i, (0 : Word).getLsbD i = false := fun i => BitVec.getLsbD_zero
  rw [← hzero, extend_eq_extend_iff, setWidth_eq_iff]
  simp only [hnone]

theorem ofNative_boolean (kind : ValueClass) (bits : Word) :
    (ofNative kind .boolean bits = 1 <->
      exists i, i < kind.width.bits ∧ bits.getLsbD i = true) ∧
    (ofNative kind .boolean bits = 0 <->
      forall i, i < kind.width.bits -> bits.getLsbD i = false) := by
  rw [ofNative_eq, if_pos rfl, ← extend_eq_zero_iff_low]
  have hnot : (exists i, i < kind.width.bits ∧ bits.getLsbD i = true) <->
      ¬extend kind bits = 0 := by
    rw [extend_eq_zero_iff_low]
    simp
  rw [hnot]
  by_cases hzero : extend kind bits = 0 <;> simp [hzero, ofBool]

/-!
# Extensions
-/

/-- What the extension of a word is as a number, and as a function of the word. -/
structure IsExtension (kind : ValueClass) (bits value : Word) : Prop where
  /-- It is the only number of the class that is congruent to the word. -/
  number : forall word : Word, word = value <->
    word.toNat ≡ bits.toNat [MOD 2 ^ kind.width.bits] ∧ kind.Contains word
  shifted : extendByShifts? kind bits = some value
  again : extend kind value = value
  low : forall other : Word, extend kind other = value <->
    forall i, i < kind.width.bits -> other.getLsbD i = bits.getLsbD i
  narrowed : forall narrow : ValueClass, narrow.width.bits ≤ kind.width.bits ->
    extend narrow value = extend narrow bits
  boolean : (ofNative kind .boolean bits = 1 <->
      exists i, i < kind.width.bits ∧ bits.getLsbD i = true) ∧
    (ofNative kind .boolean bits = 0 <->
      forall i, i < kind.width.bits -> bits.getLsbD i = false)

/-- Extension is the reading of the low bits of a word as a number of the class. -/
theorem extend_reads_number (kind : ValueClass) (bits : Word) :
    IsExtension kind bits (extend kind bits) where
  number := eq_extend_iff kind bits
  shifted := extendByShifts?_eq kind bits
  again := extend_extend kind bits
  low := by
    intro other
    rw [extend_eq_extend_iff, setWidth_eq_iff]
  narrowed := fun _ h => extend_extend_of_le bits h
  boolean := ofNative_boolean kind bits

/-- A signed byte of an unsigned halfword, which itself is part of a word. -/
theorem extend_reads_number_schar :
    extend ⟨.integer, .w8, .signed⟩ (extend ⟨.integer, .w16, .unsigned⟩ 0x7_FF80) = -128 ∧
      forall word : Word, word.toNat ≡ 0x7_FF80 [MOD 2 ^ 8] ->
        -2 ^ 7 ≤ word.toInt ∧ word.toInt < 2 ^ 7 -> word = -128 := by
  constructor
  · rw [(extend_reads_number ⟨.integer, .w16, .unsigned⟩ 0x7_FF80).narrowed
      ⟨.integer, .w8, .signed⟩ (by decide)]
    decide
  · intro word hlow hrange
    exact ((extend_reads_number ⟨.integer, .w8, .signed⟩ 0x7_FF80).number word).mpr
      ⟨hlow, hrange⟩

end HostValue
end NativeCall
