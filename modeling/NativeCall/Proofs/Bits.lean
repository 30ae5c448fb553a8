import Mathlib.Data.BitVec

/-!
# Widths of bit vectors

How truncation, extension and concatenation of words go together.
-/

namespace NativeCall
namespace Bits

theorem setWidth_signExtend_of_le {k v w : Nat} (x : BitVec w) (h : k ≤ v) :
    (x.signExtend v).setWidth k = x.signExtend k := by
  apply BitVec.eq_of_getLsbD_eq
  intro i hi
  have hv : i < v := Nat.lt_of_lt_of_le hi h
  rw [BitVec.getLsbD_setWidth, BitVec.getLsbD_signExtend, BitVec.getLsbD_signExtend]
  simp [hi, hv]

theorem setWidth_signExtend {v w : Nat} (x : BitVec w) (h : w ≤ v) :
    (x.signExtend v).setWidth w = x := by
  rw [setWidth_signExtend_of_le x h, BitVec.signExtend_eq]

theorem signExtend_signExtend {k v w : Nat} (x : BitVec w) (hw : w ≤ v) (hk : v ≤ k) :
    (x.signExtend v).signExtend k = x.signExtend k := by
  apply BitVec.eq_of_toInt_eq
  rw [BitVec.toInt_signExtend_of_le hk, BitVec.toInt_signExtend_of_le hw,
    BitVec.toInt_signExtend_of_le (Nat.le_trans hw hk)]

/-!
# Words that are extensions
-/

section Extensions

variable {v w : Nat} (x : BitVec v)

/-- A word is the sign-extension of its low bits if it is a signed number of that many bits. -/
theorem signExtend_setWidth_eq_iff (hpos : 0 < w) (hle : w ≤ v) :
    (x.setWidth w).signExtend v = x <->
      -2 ^ (w - 1) ≤ x.toInt ∧ x.toInt < 2 ^ (w - 1) := by
  constructor
  · intro h
    rw [← h, BitVec.toInt_signExtend_of_le hle]
    exact ⟨BitVec.le_toInt _, BitVec.toInt_lt⟩
  · rintro ⟨hlow, hhigh⟩
    have hpow : ((2 ^ w : Nat) : Int) = 2 * 2 ^ (w - 1) := by
      rw [← Nat.two_pow_pred_mul_two hpos, Nat.mul_comm]
      push_cast
      rfl
    -- Cutting a word takes its number modulo a smaller power of two, which is harmless in range.
    apply BitVec.eq_of_toInt_eq
    calc
      ((x.setWidth w).signExtend v).toInt = (x.setWidth w).toInt :=
            BitVec.toInt_signExtend_of_le hle
      _ = (x.toNat : Int).bmod (2 ^ w) := BitVec.toInt_setWidth x
      _ = ((x.toNat : Int).bmod (2 ^ v)).bmod (2 ^ w) :=
            (Int.bmod_bmod_of_dvd (Nat.pow_dvd_pow 2 hle)).symm
      _ = x.toInt.bmod (2 ^ w) := by rw [BitVec.toInt_eq_toNat_bmod]
      _ = x.toInt := Int.bmod_eq_of_le (by omega) (by omega)

/-- A word is its low bits alone if it is an unsigned number of that many bits. -/
theorem setWidth_setWidth_eq_iff (hle : w ≤ v) :
    (x.setWidth w).setWidth v = x <-> x.toNat < 2 ^ w := by
  have hlow : ((x.setWidth w).setWidth v).toNat = x.toNat % 2 ^ w := by
    rw [BitVec.toNat_setWidth_of_le hle, BitVec.toNat_setWidth]
  rw [← BitVec.toNat_inj, hlow]
  constructor
  · intro h
    rw [← h]
    exact Nat.mod_lt _ (Nat.two_pow_pos w)
  · exact Nat.mod_eq_of_lt

/-- Shifted to the top and back with its sign, a word is left with the extension of its low
bits. -/
theorem sshiftRight_shiftLeft (hpos : 0 < w) (hle : w ≤ v) :
    (x <<< (v - w)).sshiftRight (v - w) = (x.setWidth w).signExtend v := by
  have hmsb : (x <<< (v - w)).msb = (x.setWidth w).msb := by
    rw [BitVec.msb_eq_getLsbD_last, BitVec.msb_eq_getLsbD_last, BitVec.getLsbD_shiftLeft,
      BitVec.getLsbD_setWidth]
    simp [show v - 1 < v by omega, show ¬v - 1 < v - w by omega, show w - 1 < w by omega,
      show v - 1 - (v - w) = w - 1 by omega]
  apply BitVec.eq_of_getLsbD_eq
  intro i hi
  rw [BitVec.getLsbD_sshiftRight, BitVec.getLsbD_signExtend, BitVec.getLsbD_shiftLeft,
    BitVec.getLsbD_setWidth, hmsb]
  by_cases hlow : i < w
  · simp [hi, hlow, show ¬v ≤ i by omega, show v - w + i < v by omega]
  · simp [hi, hlow, show ¬v - w + i < v by omega]

theorem ushiftRight_shiftLeft (hle : w ≤ v) :
    (x <<< (v - w)) >>> (v - w) = (x.setWidth w).setWidth v := by
  apply BitVec.eq_of_getLsbD_eq
  intro i hi
  rw [BitVec.getLsbD_ushiftRight, BitVec.getLsbD_shiftLeft, BitVec.getLsbD_setWidth,
    BitVec.getLsbD_setWidth]
  by_cases hlow : i < w
  · simp [hi, hlow, show v - w + i < v by omega]
  · simp [hlow, show ¬v - w + i < v by omega]

end Extensions

/-!
# Words in two halves
-/

theorem append_eq_zero_iff (high low : BitVec 32) :
    (high ++ low : BitVec 64) = 0 <-> low ||| high = 0 := by
  have hor : low ||| high = 0 <-> low = 0 ∧ high = 0 := BitVec.or_eq_zero_iff
  rw [hor]
  constructor
  · intro h
    have hlow : low = (high ++ low : BitVec 64).setWidth 32 :=
      BitVec.setWidth_append_eq_right.symm
    have hhigh : high = (high ++ low : BitVec 64).extractLsb' 32 32 := by
      rw [BitVec.extractLsb'_append_eq_left]
    rw [h] at hlow hhigh
    exact ⟨hlow, hhigh⟩
  · intro h
    rw [h.left, h.right]
    rfl

theorem signExtend_eq_append (x : BitVec 32) :
    x.signExtend 64 = (x.sshiftRight 31 ++ x : BitVec 64) := by
  apply BitVec.eq_of_getLsbD_eq
  intro i hi
  rw [BitVec.getLsbD_signExtend, BitVec.getLsbD_append, BitVec.getLsbD_sshiftRight]
  rcases Nat.lt_or_ge i 32 with hlt | hge
  · simp [hlt, hi]
  · have hnot : ¬i < 32 := by omega
    have hhigh : ¬32 ≤ i - 32 := by omega
    rw [if_neg hnot, if_neg hnot]
    rcases Nat.eq_or_lt_of_le hge with heq | hlt
    · subst heq
      simp [BitVec.msb_eq_getLsbD_last]
    · have hout : ¬31 + (i - 32) < 32 := by omega
      simp [hi, hhigh, hout]

end Bits
end NativeCall
