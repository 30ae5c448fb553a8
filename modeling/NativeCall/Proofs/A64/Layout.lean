import Mathlib.Tactic.MkIffOfInductiveProp
import NativeCall.Proofs.A64.Fields

/-!
# Layouts of A64 instructions

An instruction word is an opcode with the operands in fields of it. No two fields of a word
have a bit in common, and the opcode has no bit in a field. So each field keeps its operand
and the bits around the fields keep the opcode.
-/

namespace NativeCall
namespace A64

/-- A value in the bits of a word from one on. -/
structure Field where
  low : Nat
  width : Nat
  value : BitVec width

namespace Field

def reg (low : Nat) (r : Reg) : Field :=
  ⟨low, 5, r.index⟩

def IsApart (field other : Field) : Prop :=
  field.low + field.width ≤ other.low ∨ other.low + other.width ≤ field.low

end Field

structure Layout where
  opcode : BitVec 32
  fields : List Field

namespace Layout

/-- The opcode with all fields written into it. -/
def word (layout : Layout) : BitVec 32 :=
  layout.fields.foldl (fun word field => withField word field.low field.value) layout.opcode

theorem word_cons (opcode : BitVec 32) (field : Field) (rest : List Field) :
    word ⟨opcode, field :: rest⟩ = word ⟨withField opcode field.low field.value, rest⟩ :=
  rfl

/-- The opcode and the fields have no bit in common. -/
@[mk_iff] structure IsApart (layout : Layout) : Prop where
  inside : forall field, field ∈ layout.fields -> field.low + field.width ≤ 32
  clear : forall field, field ∈ layout.fields ->
    bitsAt layout.opcode field.low field.width = 0
  apart : layout.fields.Pairwise Field.IsApart

/-!
# What is found in a word
-/

theorem bitsAt_word_of_apart {layout : Layout} {low count : Nat}
    (h : forall field, field ∈ layout.fields ->
      low + count ≤ field.low ∨ field.low + field.width ≤ low) :
    bitsAt layout.word low count = bitsAt layout.opcode low count := by
  rcases layout with ⟨opcode, fields⟩
  induction fields generalizing opcode with
  | nil => rfl
  | cons field rest ih =>
      rw [word_cons, ih _ fun other hmem => h other (List.mem_cons_of_mem field hmem)]
      exact bitsAt_withField_apart field.value (h field List.mem_cons_self)

/-- Once a field is written, it is a part of the opcode of the others. -/
theorem IsApart.tail {opcode : BitVec 32} {field : Field} {rest : List Field}
    (h : IsApart ⟨opcode, field :: rest⟩) :
    IsApart ⟨withField opcode field.low field.value, rest⟩ where
  inside := fun other hmem => h.inside other (List.mem_cons_of_mem field hmem)
  clear := by
    intro other hmem
    -- The written field is apart from the other one, so the other one is still zero.
    have hapart : field.IsApart other := List.rel_of_pairwise_cons h.apart hmem
    rw [bitsAt_withField_apart field.value hapart.symm]
    exact h.clear other (List.mem_cons_of_mem field hmem)
  apart := List.Pairwise.of_cons h.apart

/-- Each field keeps its operand. -/
theorem IsApart.bitsAt_word {layout : Layout} {field : Field} (h : layout.IsApart)
    (hmem : field ∈ layout.fields) : bitsAt layout.word field.low field.width = field.value := by
  rcases layout with ⟨opcode, fields⟩
  induction fields generalizing opcode with
  | nil => cases hmem
  | cons first rest ih =>
      rcases List.mem_cons.mp hmem with rfl | hlater
      · rw [word_cons, bitsAt_word_of_apart fun other => List.rel_of_pairwise_cons h.apart]
        exact bitsAt_withField_self field.value (h.inside field List.mem_cons_self)
          (h.clear field List.mem_cons_self)
      · exact ih _ h.tail hlater

/-!
# Forms
-/

def unary (opcode : BitVec 32) (dst src : Reg) : Layout :=
  ⟨opcode, [.reg 5 src, .reg 0 dst]⟩

def move (opcode : BitVec 32) (dst src : Reg) : Layout :=
  ⟨opcode, [.reg 16 src, .reg 0 dst]⟩

def constant (opcode : BitVec 32) (dst : Reg) (imm : BitVec 16) (shift : Byte) : Layout :=
  ⟨opcode, [⟨21, 2, shiftSteps shift⟩, ⟨5, 16, imm⟩, .reg 0 dst]⟩

def single (opcode : BitVec 32) (r : Reg) : Layout :=
  ⟨opcode, [.reg 5 r]⟩

def pair (opcode : BitVec 32) (rt rt2 base : Reg) (offset : Int) : Layout :=
  ⟨opcode, [⟨15, 7, pairSteps offset⟩, .reg 10 rt2, .reg 5 base, .reg 0 rt]⟩

def wide (opcode : BitVec 32) (rt : BitVec 5) (base : Reg) (imm : BitVec 12) : Layout :=
  ⟨opcode, [⟨10, 12, imm⟩, .reg 5 base, ⟨0, 5, rt⟩]⟩

def conditional (opcode : BitVec 32) (dst : Reg) (cond : Cond) : Layout :=
  ⟨opcode, [⟨12, 4, condSteps cond⟩, .reg 0 dst]⟩

section Forms

variable {opcode : BitVec 32}

theorem word_unary (dst src : Reg) :
    (unary opcode dst src).word = withField (withField opcode 5 src.index) 0 dst.index :=
  rfl

theorem word_move (dst src : Reg) :
    (move opcode dst src).word = withField (withField opcode 16 src.index) 0 dst.index :=
  rfl

theorem word_constant (dst : Reg) (imm : BitVec 16) (shift : Byte) :
    (constant opcode dst imm shift).word =
      withField (withField (withField opcode 21 (shiftSteps shift)) 5 imm) 0 dst.index :=
  rfl

theorem word_single (r : Reg) : (single opcode r).word = withField opcode 5 r.index :=
  rfl

theorem word_pair (rt rt2 base : Reg) (offset : Int) :
    (pair opcode rt rt2 base offset).word =
      withField (withField (withField (withField opcode 15 (pairSteps offset))
        10 rt2.index) 5 base.index) 0 rt.index :=
  rfl

theorem word_wide (rt : BitVec 5) (base : Reg) (imm : BitVec 12) :
    (wide opcode rt base imm).word =
      withField (withField (withField opcode 10 imm) 5 base.index) 0 rt :=
  rfl

theorem word_conditional (dst : Reg) (cond : Cond) :
    (conditional opcode dst cond).word =
      withField (withField opcode 12 (condSteps cond)) 0 dst.index :=
  rfl

theorem isApart_unary (dst src : Reg) (hsrc : bitsAt opcode 5 5 = 0)
    (hdst : bitsAt opcode 0 5 = 0) : (unary opcode dst src).IsApart := by
  simp [isApart_iff, unary, Field.reg, Field.IsApart, hsrc, hdst]

theorem isApart_move (dst src : Reg) (hsrc : bitsAt opcode 16 5 = 0)
    (hdst : bitsAt opcode 0 5 = 0) : (move opcode dst src).IsApart := by
  simp [isApart_iff, move, Field.reg, Field.IsApart, hsrc, hdst]

theorem isApart_constant (dst : Reg) (imm : BitVec 16) (shift : Byte)
    (hshift : bitsAt opcode 21 2 = 0) (himm : bitsAt opcode 5 16 = 0)
    (hdst : bitsAt opcode 0 5 = 0) : (constant opcode dst imm shift).IsApart := by
  simp [isApart_iff, constant, Field.reg, Field.IsApart, hshift, himm, hdst]

theorem isApart_single (r : Reg) (h : bitsAt opcode 5 5 = 0) : (single opcode r).IsApart := by
  simp [isApart_iff, single, Field.reg, h]

theorem isApart_pair (rt rt2 base : Reg) (offset : Int) (hoffset : bitsAt opcode 15 7 = 0)
    (hrt2 : bitsAt opcode 10 5 = 0) (hbase : bitsAt opcode 5 5 = 0) (hrt : bitsAt opcode 0 5 = 0) :
    (pair opcode rt rt2 base offset).IsApart := by
  simp [isApart_iff, pair, Field.reg, Field.IsApart, hoffset, hrt2, hbase, hrt]

theorem isApart_wide (rt : BitVec 5) (base : Reg) (imm : BitVec 12)
    (himm : bitsAt opcode 10 12 = 0) (hbase : bitsAt opcode 5 5 = 0)
    (hrt : bitsAt opcode 0 5 = 0) : (wide opcode rt base imm).IsApart := by
  simp [isApart_iff, wide, Field.reg, Field.IsApart, himm, hbase, hrt]

theorem isApart_conditional (dst : Reg) (cond : Cond) (hcond : bitsAt opcode 12 4 = 0)
    (hdst : bitsAt opcode 0 5 = 0) : (conditional opcode dst cond).IsApart := by
  simp [isApart_iff, conditional, Field.reg, Field.IsApart, hcond, hdst]

end Forms
end Layout

/-!
# Instructions
-/

namespace Instr

/-- Where the operands of an instruction are. -/
def layout : Instr -> Layout
  | .raw word => ⟨word, []⟩
  | .mov dst src => .move 0xAA0003E0 dst src
  | .movW dst src => .move 0x2A0003E0 dst src
  | .sxtb dst src => .unary 0x93401C00 dst src
  | .sxth dst src => .unary 0x93403C00 dst src
  | .sxtw dst src => .unary 0x93407C00 dst src
  | .uxtb dst src => .unary 0x53001C00 dst src
  | .uxth dst src => .unary 0x53003C00 dst src
  | .movz dst imm shift => .constant 0xD2800000 dst imm shift
  | .movk dst imm shift => .constant 0xF2800000 dst imm shift
  | .blr target => .single 0xD63F0000 target
  | .br target => .single 0xD61F0000 target
  | .ret => ⟨0xD65F03C0, []⟩
  | .stpPre rt rt2 base offset => .pair 0xA9800000 rt rt2 base offset
  | .ldpPost rt rt2 base offset => .pair 0xA8C00000 rt rt2 base offset
  | .addImm dst src imm => .wide 0x91000000 dst.index src (imm.setWidth 12)
  | .str rt base offset access =>
      .wide (storeOpcode access) rt.index base (offsetSteps access offset)
  | .ldr rt base offset access =>
      .wide (loadOpcode access) rt.index base (offsetSteps access offset)
  | .ldrs rt base offset access =>
      .wide (signedLoadOpcode access) rt.index base (offsetSteps access offset)
  | .strFp rt base offset access =>
      .wide (floatStoreOpcode access) rt.index base (offsetSteps (floatAccess access) offset)
  | .ldrFp rt base offset access =>
      .wide (floatLoadOpcode access) rt.index base (offsetSteps (floatAccess access) offset)
  | .cmpZero src wide => .single (if wide then 0xF100001F else 0x7100001F) src
  | .cset dst cond => .conditional 0x1A9F07E0 dst cond

theorem isApart_layout (instr : Instr) : instr.layout.IsApart := by
  cases instr with
  | raw word | ret => simp [layout, Layout.isApart_iff]
  | mov dst src | movW dst src => exact Layout.isApart_move dst src (by decide) (by decide)
  | sxtb dst src | sxth dst src | sxtw dst src | uxtb dst src | uxth dst src =>
      exact Layout.isApart_unary dst src (by decide) (by decide)
  | movz dst imm shift | movk dst imm shift =>
      exact Layout.isApart_constant dst imm shift (by decide) (by decide) (by decide)
  | blr target | br target => exact Layout.isApart_single target (by decide)
  | stpPre rt rt2 base offset | ldpPost rt rt2 base offset =>
      exact Layout.isApart_pair rt rt2 base offset (by decide) (by decide) (by decide) (by decide)
  | addImm dst src imm =>
      exact Layout.isApart_wide dst.index src _ (by decide) (by decide) (by decide)
  | str rt base offset access | ldr rt base offset access | ldrs rt base offset access
  | strFp rt base offset access | ldrFp rt base offset access =>
      apply Layout.isApart_wide <;> cases access <;> decide
  | cmpZero src wide => exact Layout.isApart_single src (by cases wide <;> decide)
  | cset dst cond => exact Layout.isApart_conditional dst cond (by decide) (by decide)

/-- The word of an instruction is written field by field. -/
theorem word_eq_layout {instr : Instr} (h : instr.Encodable) :
    instr.word = .ok instr.layout.word := by
  cases instr with
  | raw word => cases h
  | mov dst src | movW dst src => exact congrArg Except.ok (moveWord_eq h.left h.right)
  | sxtb dst src | sxth dst src | sxtw dst src | uxtb dst src | uxth dst src =>
      exact congrArg Except.ok (unaryWord_eq h.left h.right)
  | movz dst imm shift | movk dst imm shift =>
      exact congrArg Except.ok (constantWord_eq h.left h.right)
  | blr target | br target =>
      have htarget : target.IsNamed := h
      rw [word, htarget.field_eq]
      rfl
  | ret => rfl
  | stpPre rt rt2 base offset | ldpPost rt rt2 base offset =>
      exact congrArg Except.ok (pairWord_eq offset h.left h.right.left h.right.right.left)
  | addImm dst src imm =>
      have hmask : (0xFFF : BitVec 32) = (BitVec.allOnes 12).setWidth 32 := by decide
      have hlow : (imm.setWidth 32).setWidth 12 = imm.setWidth 12 :=
        BitVec.setWidth_setWidth_of_le imm (by decide)
      rw [word, hmask, and_allOnes, unaryWord_eq h.left h.right.left, hlow]
      rfl
  | str rt base offset access | ldr rt base offset access | ldrs rt base offset access =>
      rcases h with ⟨hrt, hbase, _, hoffset⟩
      rw [word, hrt.field_eq, accessWord_eq hbase hoffset]
      rfl
  | strFp rt base offset access | ldrFp rt base offset access =>
      rcases h with ⟨hrt, hbase, haccess, hoffset⟩
      have hsame : floatAccess access = access := by
        rcases haccess with rfl | rfl <;> rfl
      rw [word, hrt.field_eq, layout, hsame, accessWord_eq hbase hoffset]
      rfl
  | cmpZero src wide =>
      have hsrc : src.IsNamed := h
      rw [word, hsrc.field_eq]
      cases wide <;> rfl
  | cset dst cond =>
      have hdst : dst.IsNamed := h
      rw [word, hdst.field_eq, condSteps_eq, ← BitVec.shiftLeft_zero (dst.index.setWidth 32)]
      rfl

end Instr
end A64
end NativeCall
