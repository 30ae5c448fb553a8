import NativeCall.Proofs.Bits
import NativeCall.Word

/-!
# Memory

A memory gives a byte for each address. Values of several bytes lie lowest byte first, and
addresses wrap around at the top.
-/

namespace NativeCall

abbrev Memory (w : Nat) := BitVec w -> Byte

namespace Memory

variable {w : Nat}

/-- The value of `count` bytes from an address on. -/
def read (m : Memory w) : (count : Nat) -> BitVec w -> BitVec (8 * count)
  | 0, _ => 0#0
  | count + 1, a => m.read count (a + 1) ++ m a

def write (m : Memory w) (count : Nat) (a : BitVec w) (value : BitVec (8 * count)) : Memory w :=
  fun b =>
    if (b - a).toNat < count then value.extractLsb' (8 * (b - a).toNat) 8 else m b

/-!
# Addresses

An address is seen as an offset from a base, and offsets below the size of the memory are
numbers.
-/

theorem toNat_offset_sub (a : BitVec w) {n : Nat} (h : n < 2 ^ w) :
    (a + BitVec.ofNat w n - a).toNat = n := by
  rw [BitVec.add_comm, BitVec.add_sub_cancel, BitVec.toNat_ofNat]
  exact Nat.mod_eq_of_lt h

theorem offset_add (a : BitVec w) (m n : Nat) :
    a + BitVec.ofNat w m + BitVec.ofNat w n = a + BitVec.ofNat w (m + n) := by
  rw [BitVec.add_assoc, ← BitVec.ofNat_add]

theorem toNat_sub_offsets (a : BitVec w) {m n : Nat} (hm : m < 2 ^ w) (hn : n ≤ 2 ^ w) :
    (a + BitVec.ofNat w m - (a + BitVec.ofNat w n)).toNat = (2 ^ w - n + m) % 2 ^ w := by
  have hcancel : a + BitVec.ofNat w m - (a + BitVec.ofNat w n) =
      BitVec.ofNat w m - BitVec.ofNat w n := by
    exact add_sub_add_left_eq_sub _ _ a
  rw [hcancel, BitVec.toNat_sub, BitVec.toNat_ofNat, BitVec.toNat_ofNat, Nat.mod_eq_of_lt hm]
  rcases Nat.lt_or_eq_of_le hn with hlt | heq
  · rw [Nat.mod_eq_of_lt hlt]
  · rw [heq, Nat.mod_self]
    simp

/-- A byte outside of a stretch of offsets is not found in it by wrapping around either. -/
theorem le_toNat_sub_offsets (a : BitVec w) {m n count : Nat} (hm : m < 2 ^ w)
    (hn : n + count ≤ 2 ^ w) (hapart : n + count ≤ m ∨ m < n) :
    count ≤ (a + BitVec.ofNat w m - (a + BitVec.ofNat w n)).toNat := by
  rw [toNat_sub_offsets a hm (by omega)]
  rcases hapart with habove | hbelow
  · have hwrap : 2 ^ w - n + m = 2 ^ w + (m - n) := by omega
    rw [hwrap, Nat.add_mod_left, Nat.mod_eq_of_lt (by omega)]
    omega
  · rw [Nat.mod_eq_of_lt (by omega)]
    omega

/-!
# Reading bytes

A read is described by its bits: each is a bit of the byte that lies that far away.
-/

theorem getLsbD_read (m : Memory w) (count : Nat) (a : BitVec w) {i : Nat}
    (hi : i < 8 * count) :
    (m.read count a).getLsbD i = (m (a + BitVec.ofNat w (i / 8))).getLsbD (i % 8) := by
  induction count generalizing a i with
  | zero => omega
  | succ count ih =>
      simp only [read, BitVec.getLsbD_append]
      rcases Nat.lt_or_ge i 8 with hlt | hge
      · rw [if_pos hlt, Nat.div_eq_of_lt hlt, Nat.mod_eq_of_lt hlt]
        simp
      · have hstep : a + 1 + BitVec.ofNat w ((i - 8) / 8) = a + BitVec.ofNat w (i / 8) := by
          have hdiv : i / 8 = 1 + (i - 8) / 8 := by omega
          rw [hdiv]
          exact offset_add a 1 ((i - 8) / 8)
        have hmod : (i - 8) % 8 = i % 8 := by omega
        rw [if_neg (by omega), ih (a + 1) (by omega), hstep, hmod]

theorem read_congr {m m' : Memory w} {count : Nat} {a : BitVec w}
    (h : forall n, n < count -> m (a + BitVec.ofNat w n) = m' (a + BitVec.ofNat w n)) :
    m.read count a = m'.read count a := by
  apply BitVec.eq_of_getLsbD_eq
  intro i hi
  rw [getLsbD_read m count a hi, getLsbD_read m' count a hi, h (i / 8) (by omega)]

theorem byte_congr {m m' : Memory w} {a b : BitVec w} (h : m.read 1 a = m'.read 1 b) :
    m a = m' b := by
  apply BitVec.eq_of_getLsbD_eq
  intro i hi
  have hbit := congrArg (BitVec.getLsbD · i) h
  rw [getLsbD_read m 1 a (by omega), getLsbD_read m' 1 b (by omega), Nat.div_eq_of_lt hi,
    Nat.mod_eq_of_lt hi, BitVec.add_zero, BitVec.add_zero] at hbit
  exact hbit

theorem read_setWidth (m : Memory w) {low count : Nat} (a : BitVec w) (h : low ≤ count) :
    (m.read count a).setWidth (8 * low) = m.read low a := by
  apply BitVec.eq_of_getLsbD_eq
  intro i hi
  rw [BitVec.getLsbD_setWidth, getLsbD_read m low a hi, getLsbD_read m count a (by omega)]
  simp [hi]

theorem read_eight (m : Memory w) (a : BitVec w) :
    m.read 8 a = m.read 4 (a + BitVec.ofNat w 4) ++ m.read 4 a := by
  apply BitVec.eq_of_getLsbD_eq
  intro i hi
  rw [getLsbD_read m 8 a hi, BitVec.getLsbD_append]
  rcases Nat.lt_or_ge i (8 * 4) with hlt | hge
  · rw [if_pos hlt, getLsbD_read m 4 a hlt]
  · have hdiv : 4 + (i - 8 * 4) / 8 = i / 8 := by omega
    have hmod : (i - 8 * 4) % 8 = i % 8 := by omega
    rw [if_neg (by omega), getLsbD_read m 4 _ (by omega), offset_add, hdiv, hmod]

/-!
# Writing bytes
-/

theorem write_of_le (m : Memory w) {count : Nat} {a b : BitVec w} (value : BitVec (8 * count))
    (h : count ≤ (b - a).toNat) : m.write count a value b = m b := by
  rw [write, if_neg (by omega)]

theorem read_write_self (m : Memory w) {count : Nat} (a : BitVec w) (value : BitVec (8 * count))
    (hcount : count ≤ 2 ^ w) : (m.write count a value).read count a = value := by
  apply BitVec.eq_of_getLsbD_eq
  intro i hi
  have hoffset : (a + BitVec.ofNat w (i / 8) - a).toNat = i / 8 :=
    toNat_offset_sub a (by omega)
  have hbit : 8 * (i / 8) + i % 8 = i := Nat.div_add_mod i 8
  rw [getLsbD_read _ count a hi, write, hoffset, if_pos (by omega), BitVec.getLsbD_extractLsb',
    hbit]
  simp [Nat.mod_lt i (by decide : 0 < 8)]

/-- A write is not seen by a read of other offsets. -/
theorem read_write_apart (m : Memory w) {count other : Nat} (a : BitVec w) {n k : Nat}
    (value : BitVec (8 * other)) (hn : n + count ≤ 2 ^ w) (hk : k + other ≤ 2 ^ w)
    (hapart : n + count ≤ k ∨ k + other ≤ n) :
    (m.write other (a + BitVec.ofNat w k) value).read count (a + BitVec.ofNat w n) =
      m.read count (a + BitVec.ofNat w n) := by
  apply read_congr
  intro i hi
  rw [offset_add]
  exact write_of_le m value (le_toNat_sub_offsets a (by omega) hk (by omega))

theorem write_append (m : Memory w) (a : BitVec w) (low high : BitVec 64) (hw : 16 ≤ 2 ^ w) :
    (m.write 8 a low).write 8 (a + BitVec.ofNat w 8) high =
      m.write 16 a (high ++ low : BitVec 128) := by
  funext b
  have hb : b = a + BitVec.ofNat w (b - a).toNat := by
    rw [BitVec.ofNat_toNat, BitVec.setWidth_eq, BitVec.add_comm, BitVec.sub_add_cancel]
  have hlt : (b - a).toNat < 2 ^ w := (b - a).isLt
  generalize (b - a).toNat = n at hb hlt
  rw [hb]
  rcases Nat.lt_or_ge n 8 with hlow | hhigh
  · have hapart : 8 ≤ (a + BitVec.ofNat w n - (a + BitVec.ofNat w 8)).toNat :=
      le_toNat_sub_offsets a hlt (by omega) (Or.inr hlow)
    rw [write_of_le _ _ hapart, write, write, toNat_offset_sub a hlt, if_pos hlow,
      if_pos (by omega), BitVec.extractLsb'_append_eq_of_add_le (by omega)]
  · have hoffset : (a + BitVec.ofNat w n - (a + BitVec.ofNat w 8)).toNat = n - 8 := by
      have hwrap : 2 ^ w - 8 + n = 2 ^ w + (n - 8) := by omega
      rw [toNat_sub_offsets a hlt (by omega), hwrap, Nat.add_mod_left,
        Nat.mod_eq_of_lt (by omega)]
    have hshift : 8 * (n - 8) = 8 * n - 64 := by omega
    rw [write, write, write, hoffset, toNat_offset_sub a hlt, if_neg (by omega : ¬n < 8),
      hshift, BitVec.extractLsb'_append_eq_of_le (by omega)]
    by_cases hend : n < 16
    · rw [if_pos (by omega), if_pos hend]
    · rw [if_neg (by omega), if_neg hend]

end Memory
end NativeCall
