import NativeCall.A64.Encoding
import NativeCall.Proofs.A64.Decoder

/-!
# Fields of A64 instructions

The operands of an instruction are values of a few bits each. In the word of an instruction
they stand side by side in an opcode that is zero there.
-/

namespace NativeCall
namespace A64

/-!
# Fields of words
-/

/-- Write a field into a word that is zero there. -/
def withField {m : Nat} (word : BitVec 32) (k : Nat) (value : BitVec m) : BitVec 32 :=
  word ||| (value.setWidth 32 <<< k)

@[simp] theorem bitsAt_withField_apart {m : Nat} {word : BitVec 32} {k low count : Nat} (value : BitVec m)
    (h : low + count ≤ k ∨ k + m ≤ low) :
    bitsAt (withField word k value) low count = bitsAt word low count := by
  apply BitVec.eq_of_getLsbD_eq
  intro i hi
  unfold bitsAt withField
  rw [BitVec.getLsbD_extractLsb', BitVec.getLsbD_extractLsb', BitVec.getLsbD_or,
    BitVec.getLsbD_shiftLeft, BitVec.getLsbD_setWidth]
  rcases h with hbelow | habove
  · simp [show low + i < k by omega]
  · simp [BitVec.getLsbD_of_ge value (low + i - k) (by omega)]

@[simp] theorem bitsAt_withField_self {m : Nat} {word : BitVec 32} {k : Nat} (value : BitVec m)
    (hk : k + m ≤ 32) (hzero : bitsAt word k m = 0) :
    bitsAt (withField word k value) k m = value := by
  apply BitVec.eq_of_getLsbD_eq
  intro i hi
  have hbit := congrArg (BitVec.getLsbD · i) hzero
  unfold bitsAt at hbit ⊢
  unfold withField
  simp only [BitVec.getLsbD_extractLsb', hi, decide_true, Bool.true_and, BitVec.ofNat_eq_ofNat,
    BitVec.getLsbD_zero] at hbit
  rw [BitVec.getLsbD_extractLsb', BitVec.getLsbD_or, hbit, BitVec.getLsbD_shiftLeft,
    BitVec.getLsbD_setWidth]
  simp [hi, show k + i < 32 by omega, show k + i - k = i by omega, show i < 32 by omega]

theorem bitsAt_ofNat (n low count : Nat) :
    bitsAt (BitVec.ofNat 32 n) low count = BitVec.ofNat count ((n % 2 ^ 32) >>> low) := by
  apply BitVec.eq_of_toNat_eq
  simp [bitsAt]

/-!
# Register numbers
-/

def Reg.index (r : Reg) : BitVec 5 :=
  r.number.setWidth 5

def VReg.index (r : VReg) : BitVec 5 :=
  r.number.setWidth 5

def Reg.IsNamed (r : Reg) : Prop :=
  r.number.toNat < 32

def VReg.IsNamed (r : VReg) : Prop :=
  r.number.toNat < 32

instance (r : Reg) : Decidable r.IsNamed :=
  inferInstanceAs (Decidable (_ < _))

instance (r : VReg) : Decidable r.IsNamed :=
  inferInstanceAs (Decidable (_ < _))

theorem setWidth_number {number : Byte} (h : number.toNat < 32) :
    (number.setWidth 5).setWidth 32 = number.setWidth 32 ∧
      (number.setWidth 5).setWidth 8 = number := by
  constructor
  · apply BitVec.eq_of_toNat_eq
    simp only [BitVec.toNat_setWidth]
    omega
  · apply BitVec.eq_of_toNat_eq
    simp only [BitVec.toNat_setWidth]
    omega

theorem Reg.IsNamed.field_eq {r : Reg} (h : r.IsNamed) : r.field = r.index.setWidth 32 :=
  (setWidth_number h).left.symm

theorem VReg.IsNamed.field_eq {r : VReg} (h : r.IsNamed) : r.field = r.index.setWidth 32 :=
  (setWidth_number h).left.symm

theorem Reg.IsNamed.eq_of_index {r : Reg} (h : r.IsNamed) : (⟨r.index.setWidth 8⟩ : Reg) = r :=
  congrArg Reg.mk (setWidth_number h).right

theorem VReg.IsNamed.eq_of_index {r : VReg} (h : r.IsNamed) : (⟨r.index.setWidth 8⟩ : VReg) = r :=
  congrArg VReg.mk (setWidth_number h).right

/-!
# Words by their fields
-/

theorem unaryWord_eq {opcode : BitVec 32} {dst src : Reg} (hdst : dst.IsNamed)
    (hsrc : src.IsNamed) :
    unaryWord opcode dst src = withField (withField opcode 5 src.index) 0 dst.index := by
  rw [unaryWord, withField, withField, BitVec.shiftLeft_zero, hdst.field_eq, hsrc.field_eq]

theorem moveWord_eq {opcode : BitVec 32} {dst src : Reg} (hdst : dst.IsNamed)
    (hsrc : src.IsNamed) :
    moveWord opcode dst src = withField (withField opcode 16 src.index) 0 dst.index := by
  rw [moveWord, withField, withField, BitVec.shiftLeft_zero, hdst.field_eq, hsrc.field_eq]

/-- A shift that a constant move can make. -/
def IsShift (shift : Byte) : Prop :=
  shift = 0 ∨ shift = 16 ∨ shift = 32 ∨ shift = 48

def shiftSteps (shift : Byte) : BitVec 2 :=
  BitVec.ofNat 2 (shift.toNat / 16)

theorem IsShift.steps_eq {shift : Byte} (h : IsShift shift) :
    BitVec.ofNat 32 (shift.toNat / 16) = (shiftSteps shift).setWidth 32 ∧
      (shiftSteps shift).setWidth 8 * 16#8 = shift := by
  rcases h with rfl | rfl | rfl | rfl <;> decide

theorem constantWord_eq {opcode : BitVec 32} {dst : Reg} {imm : BitVec 16} {shift : Byte}
    (hdst : dst.IsNamed) (hshift : IsShift shift) :
    constantWord opcode dst imm shift =
      withField (withField (withField opcode 21 (shiftSteps shift)) 5 imm) 0 dst.index := by
  rw [constantWord, withField, withField, withField, BitVec.shiftLeft_zero, hdst.field_eq,
    hshift.steps_eq.left]

theorem and_allOnes (word : BitVec 32) {count : Nat} :
    word &&& (BitVec.allOnes count).setWidth 32 = (word.setWidth count).setWidth 32 := by
  apply BitVec.eq_of_getLsbD_eq
  intro i hi
  simp only [BitVec.getLsbD_and, BitVec.getLsbD_setWidth, BitVec.getLsbD_allOnes, hi, decide_true,
    Bool.true_and]
  exact Bool.and_comm _ _

theorem setWidth_ofInt (q : Int) : (BitVec.ofInt 32 q).setWidth 7 = BitVec.ofInt 7 q := by
  apply BitVec.eq_of_toInt_eq
  rw [BitVec.toInt_setWidth, BitVec.toInt_ofInt, BitVec.toNat_ofInt, Int.bmod_def, Int.bmod_def]
  omega

def pairSteps (offset : Int) : BitVec 7 :=
  BitVec.ofInt 7 (offset.tdiv 8)

theorem pairWord_eq {opcode : BitVec 32} {rt rt2 base : Reg} (offset : Int) (hrt : rt.IsNamed)
    (hrt2 : rt2.IsNamed) (hbase : base.IsNamed) :
    pairWord opcode rt rt2 base offset =
      withField (withField (withField (withField opcode 15 (pairSteps offset))
        10 rt2.index) 5 base.index) 0 rt.index := by
  have hmask : (0x7F : BitVec 32) = (BitVec.allOnes 7).setWidth 32 := by decide
  rw [pairWord, hmask, and_allOnes, setWidth_ofInt, withField, withField, withField, withField,
    BitVec.shiftLeft_zero, hrt.field_eq, hrt2.field_eq, hbase.field_eq, pairSteps]

structure IsPairOffset (offset : Int) : Prop where
  aligned : offset % 8 = 0
  low : -512 ≤ offset
  high : offset ≤ 504

theorem IsPairOffset.eq_of_steps {offset : Int} (h : IsPairOffset offset) :
    (pairSteps offset).toInt * 8 = offset := by
  rcases h with ⟨haligned, hlow, hhigh⟩
  have hdiv : offset.tdiv 8 * 8 = offset := Int.tdiv_mul_cancel (Int.dvd_of_emod_eq_zero haligned)
  rw [pairSteps, BitVec.toInt_ofInt, Int.bmod_eq_of_le (by omega) (by omega), hdiv]

structure IsOffset (access : Access) (offset : BitVec 16) : Prop where
  aligned : offset.toNat % access.scale = 0
  high : offset.toNat < 4096 * access.scale

def offsetSteps (access : Access) (offset : BitVec 16) : BitVec 12 :=
  BitVec.ofNat 12 (offset.toNat / access.scale)

theorem IsOffset.eq_of_steps {access : Access} {offset : BitVec 16} (h : IsOffset access offset) :
    BitVec.ofNat 16 ((offsetSteps access offset).toNat * access.scale) = offset := by
  have hlt : offset.toNat / access.scale < 2 ^ 12 :=
    Nat.div_lt_of_lt_mul (by rw [Nat.mul_comm]; exact h.high)
  rw [offsetSteps, BitVec.toNat_ofNat, Nat.mod_eq_of_lt hlt,
    Nat.div_mul_cancel (Nat.dvd_of_mod_eq_zero h.aligned), BitVec.ofNat_toNat, BitVec.setWidth_eq]

/-- An offset that is too high for its field loses its upper bits. -/
theorem accessWord_of_aligned {opcode : BitVec 32} {access : Access} {rt : BitVec 5} {base : Reg}
    {offset : BitVec 16} (hbase : base.IsNamed) (haligned : offset.toNat % access.scale = 0) :
    accessWord opcode access (rt.setWidth 32) base offset =
      .ok (withField (withField (withField opcode 10 (offsetSteps access offset)) 5 base.index)
        0 rt) := by
  have hmask : (0xFFF : BitVec 32) = (BitVec.allOnes 12).setWidth 32 := by decide
  rw [accessWord, if_pos haligned, hmask, and_allOnes, BitVec.setWidth_ofNat_of_le (by decide),
    withField, withField, withField, BitVec.shiftLeft_zero, hbase.field_eq]
  rfl

theorem accessWord_eq {opcode : BitVec 32} {access : Access} {rt : BitVec 5} {base : Reg}
    {offset : BitVec 16} (hbase : base.IsNamed) (hoffset : IsOffset access offset) :
    accessWord opcode access (rt.setWidth 32) base offset =
      .ok (withField (withField (withField opcode 10 (offsetSteps access offset)) 5 base.index)
        0 rt) :=
  accessWord_of_aligned hbase hoffset.aligned

/-- The opposite of a condition, as a conditional set names it. -/
def condSteps (cond : Cond) : BitVec 4 :=
  match cond with
  | .eq => 1
  | .ne => 0

theorem condSteps_eq (cond : Cond) : cond.code ^^^ 1 = (condSteps cond).setWidth 32 := by
  cases cond <;> decide

/-!
# Encodable instructions
-/

namespace Access

def IsInteger (access : Access) : Prop :=
  access = .byte ∨ access = .half ∨ access = .word ∨ access = .double

def IsFloat (access : Access) : Prop :=
  access = .single ∨ access = .floatDouble

end Access

namespace Instr

/-- The operands of the instruction are in its range. -/
def Encodable : Instr -> Prop
  | .raw _ => False
  | .mov dst src | .movW dst src | .sxtb dst src | .sxth dst src | .sxtw dst src
  | .uxtb dst src | .uxth dst src => dst.IsNamed ∧ src.IsNamed
  | .movz dst _ shift | .movk dst _ shift => dst.IsNamed ∧ IsShift shift
  | .blr target | .br target => target.IsNamed
  | .ret => True
  | .stpPre rt rt2 base offset | .ldpPost rt rt2 base offset =>
      rt.IsNamed ∧ rt2.IsNamed ∧ base.IsNamed ∧ IsPairOffset offset
  | .addImm dst src imm => dst.IsNamed ∧ src.IsNamed ∧ imm.toNat < 4096
  | .str rt base offset access | .ldr rt base offset access | .ldrs rt base offset access =>
      rt.IsNamed ∧ base.IsNamed ∧ access.IsInteger ∧ IsOffset access offset
  | .strFp rt base offset access | .ldrFp rt base offset access =>
      rt.IsNamed ∧ base.IsNamed ∧ access.IsFloat ∧ IsOffset access offset
  | .cmpZero src _ => src.IsNamed
  | .cset dst _ => dst.IsNamed

end Instr
end A64
end NativeCall
