import NativeCall.Proofs.X86.Machine

/-!
# The stack of an x86 machine

A pushed address is found on top of the stack, and what lies above it is as before.
-/

namespace NativeCall
namespace X86
namespace Core

variable {w : Nat}

@[simp] theorem gpr_set_self (c : Core w) (r : Gpr) (value : BitVec w) :
    (c.set r value).gpr r = value := by
  simp [set]

theorem gpr_set_of_ne (c : Core w) {r other : Gpr} (value : BitVec w) (h : other ≠ r) :
    (c.set r value).gpr other = c.gpr other := by
  exact if_neg h

@[simp] theorem vector_push (c : Core w) (value : BitVec w) : (c.push value).vector = c.vector :=
  rfl

theorem gpr_rsp_push (c : Core w) (value : BitVec w) :
    (c.push value).gpr .rsp = c.gpr .rsp - BitVec.ofNat w (w / 8) := by
  exact c.gpr_set_self .rsp _

theorem gpr_push_of_ne (c : Core w) {r : Gpr} (value : BitVec w) (h : r ≠ .rsp) :
    (c.push value).gpr r = c.gpr r := by
  exact if_neg h

theorem gpr_rsp_eq (c : Core w) (value : BitVec w) :
    c.gpr .rsp = (c.push value).gpr .rsp + BitVec.ofNat w (w / 8) := by
  rw [gpr_rsp_push, BitVec.sub_add_cancel]

theorem memory_push (c : Core w) (value : BitVec w) :
    (c.push value).memory = c.memory.write (w / 8) ((c.push value).gpr .rsp)
      (value.setWidth (8 * (w / 8))) := by
  rw [gpr_rsp_push]
  rfl

theorem top_push (c : Core w) (value : BitVec w) (hw : w ≤ 8 * (w / 8))
    (hsize : w / 8 ≤ 2 ^ w) : (c.push value).top = value := by
  rw [top, memory_push, Memory.read_write_self _ _ _ hsize, BitVec.setWidth_setWidth_of_le _ hw,
    BitVec.setWidth_eq]

theorem read_push (c : Core w) (value : BitVec w) {n count : Nat} (hsize : w / 8 ≤ 2 ^ w)
    (hn : w / 8 ≤ n) (htop : n + count ≤ 2 ^ w) :
    (c.push value).memory.read count ((c.push value).gpr .rsp + BitVec.ofNat w n) =
      c.memory.read count ((c.push value).gpr .rsp + BitVec.ofNat w n) := by
  have hapart := Memory.read_write_apart c.memory ((c.push value).gpr .rsp) (n := n) (k := 0)
    (value.setWidth (8 * (w / 8))) htop (by omega) (Or.inr (by omega))
  rw [BitVec.add_zero] at hapart
  rw [memory_push]
  exact hapart

end Core

/-!
# Bytes of registers
-/

theorem setWidth_replaceByte {w : Nat} (value : BitVec w) (byte : Byte) (hw : 8 ≤ w) :
    (replaceByte value 0 byte).setWidth 8 = byte := by
  have hones : (0xFF : BitVec w).setWidth 8 = BitVec.allOnes 8 := BitVec.setWidth_ofNat_of_le hw 0xFF
  rw [replaceByte, BitVec.shiftLeft_zero, BitVec.shiftLeft_zero, BitVec.setWidth_or,
    BitVec.setWidth_and, BitVec.setWidth_not hw, hones, BitVec.setWidth_setWidth_of_le byte hw,
    BitVec.setWidth_eq]
  simp

end X86
end NativeCall
