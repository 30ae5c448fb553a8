import Mathlib.Data.BitVec
import NativeCall.Word

/-!
# Reading little-endian bytes

Decoders take constants and instruction words off a list of bytes, lowest byte first.
-/

namespace NativeCall

def takeValue : (count : Nat) -> List Byte -> Option (BitVec (8 * count) × List Byte)
  | 0, bytes => some (0#0, bytes)
  | _ + 1, [] => none
  | count + 1, byte :: bytes =>
      (takeValue count bytes).map fun (high, rest) => (high ++ byte, rest)

theorem littleEndian_succ {width : Nat} (count : Nat) (value : BitVec width) :
    littleEndian (count + 1) value = value.extractLsb' 0 8 :: littleEndian count (value >>> 8) := by
  have htail : forall i, value.extractLsb' (8 * (i + 1)) 8 = (value >>> 8).extractLsb' (8 * i) 8 := by
    intro i
    apply BitVec.eq_of_getLsbD_eq
    intro j hj
    rw [BitVec.getLsbD_extractLsb', BitVec.getLsbD_extractLsb', BitVec.getLsbD_ushiftRight]
    have hindex : 8 * (i + 1) + j = 8 + (8 * i + j) := by omega
    rw [hindex]
  simp [littleEndian, List.range_succ_eq_map, htail]

theorem takeValue_littleEndian {width : Nat} (count : Nat) (value : BitVec width)
    (rest : List Byte) :
    takeValue count (littleEndian count value ++ rest) =
      some (value.setWidth (8 * count), rest) := by
  induction count generalizing value with
  | zero =>
      have hnil : value.setWidth (8 * 0) = 0#0 := BitVec.eq_nil _
      rw [hnil]
      rfl
  | succ count ih =>
      have hjoin : (value >>> 8).setWidth (8 * count) ++ value.extractLsb' 0 8 =
          value.setWidth (8 * count + 8) := by
        apply BitVec.eq_of_getLsbD_eq
        intro i hi
        rw [BitVec.getLsbD_append, BitVec.getLsbD_setWidth]
        rcases Nat.lt_or_ge i 8 with hlt | hge
        · simp [hlt, show i < 8 * count + 8 by omega]
        · have hindex : 8 + (i - 8) = i := by omega
          rw [if_neg (by omega), BitVec.getLsbD_setWidth, BitVec.getLsbD_ushiftRight, hindex]
          simp [show i - 8 < 8 * count by omega, hi]
      rw [littleEndian_succ, List.cons_append]
      unfold takeValue
      rw [ih, Option.map_some]
      exact congrArg (fun joined => some (joined, rest)) hjoin

theorem takeValue_cons (byte : Byte) (rest : List Byte) :
    takeValue 1 (byte :: rest) = some (byte, rest) := by
  have hjoin : (0#0 ++ byte : BitVec (0 + 8)) = byte := by
    apply BitVec.eq_of_getLsbD_eq
    intro i hi
    rw [BitVec.getLsbD_append, if_pos (by omega)]
  exact congrArg (fun value => some (value, rest)) hjoin

end NativeCall
