import NativeCall.Proofs.A64.Layout

/-!
# Round trips of A64 instructions

The fields of an instruction word lie side by side, so that each is read back as it was
written, and the opcode around them tells the instruction.
-/

namespace NativeCall
namespace A64
namespace Instr

/-- The same instruction in the form that its word is read as. -/
def canonical : Instr -> Instr
  | .ldrs rt base offset .double => .ldr rt base offset .double
  | instr => instr

/-- The word of an instruction is read as that instruction. -/
def ReadsBack (instr : Instr) : Prop :=
  exists word, instr.word = .ok word ∧ decode word = some instr.canonical

/-- The opcode and the fields of a layout tell the instruction. -/
theorem decode_layout {instr : Instr} (h : instr.Encodable) :
    decode instr.layout.word = some instr.canonical := by
  cases instr with
  | raw word => cases h
  | mov dst src | movW dst src =>
      simp [decode, decodeGroup, bitsAt_ofNat, decodeMove, layout, Layout.word_move, regAt,
        h.left.eq_of_index, h.right.eq_of_index, canonical]
  | sxtb dst src | sxth dst src | sxtw dst src | uxtb dst src | uxth dst src =>
      simp [decode, decodeGroup, bitsAt_ofNat, decodeSignedCopy, decodeUnsignedCopy, layout,
        Layout.word_unary, regAt, h.left.eq_of_index, h.right.eq_of_index, canonical]
  | movz dst imm shift | movk dst imm shift =>
      simp [decode, decodeGroup, bitsAt_ofNat, layout, Layout.word_constant, regAt, shiftAt,
        h.left.eq_of_index, h.right.steps_eq, canonical]
  | blr target | br target =>
      have htarget : target.IsNamed := h
      simp [decode, decodeGroup, bitsAt_ofNat, decodeBranch, layout, Layout.word_single, regAt,
        htarget.eq_of_index, canonical]
  | ret => decide
  | stpPre rt rt2 base offset | ldpPost rt rt2 base offset =>
      rcases h with ⟨hrt, hrt2, hbase, hoffset⟩
      simp [decode, decodeGroup, bitsAt_ofNat, decodePair, layout, Layout.word_pair, regAt,
        pairOffsetAt, hrt.eq_of_index, hrt2.eq_of_index, hbase.eq_of_index, hoffset.eq_of_steps,
        canonical]
  | addImm dst src imm =>
      rcases h with ⟨hdst, hsrc, himm⟩
      have hlow : (imm.setWidth 12).setWidth 16 = imm := by
        apply BitVec.eq_of_toNat_eq
        simp only [BitVec.toNat_setWidth]
        omega
      simp only [layout]
      generalize imm.setWidth 12 = low at hlow
      simp [decode, decodeGroup, bitsAt_ofNat, decodeAdd, Layout.word_wide, regAt, hdst.eq_of_index,
        hsrc.eq_of_index, hlow, canonical]
  | str rt base offset access | ldr rt base offset access | ldrs rt base offset access =>
      rcases h with ⟨hrt, hbase, haccess, hoffset⟩
      rcases haccess with rfl | rfl | rfl | rfl <;>
        simp [decode, decodeGroup, bitsAt_ofNat, decodeAccess, decodeSignedLoad, layout,
          Layout.word_wide, storeOpcode, loadOpcode, signedLoadOpcode, regAt, offsetAt,
          hrt.eq_of_index, hbase.eq_of_index, hoffset.eq_of_steps, canonical]
  | strFp rt base offset access | ldrFp rt base offset access =>
      rcases h with ⟨hrt, hbase, haccess, hoffset⟩
      rcases haccess with rfl | rfl <;>
        simp [decode, decodeGroup, bitsAt_ofNat, decodeFloatAccess, layout, Layout.word_wide,
          floatAccess, floatStoreOpcode, floatLoadOpcode, regAt, vregAt, offsetAt, hrt.eq_of_index,
          hbase.eq_of_index, hoffset.eq_of_steps, canonical]
  | cmpZero src wide =>
      have hsrc : src.IsNamed := h
      cases wide <;>
        simp [decode, decodeGroup, bitsAt_ofNat, decodeCompare, layout, Layout.word_single, regAt,
          hsrc.eq_of_index, canonical]
  | cset dst cond =>
      have hdst : dst.IsNamed := h
      cases cond <;>
        simp [decode, decodeGroup, bitsAt_ofNat, decodeConditionalSet, layout,
          Layout.word_conditional, condSteps, regAt, hdst.eq_of_index, canonical]

theorem readsBack {instr : Instr} (h : instr.Encodable) : instr.ReadsBack :=
  ⟨instr.layout.word, word_eq_layout h, decode_layout h⟩

end Instr
end A64
end NativeCall
