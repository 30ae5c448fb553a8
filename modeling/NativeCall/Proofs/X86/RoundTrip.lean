import NativeCall.X86.Encoding
import NativeCall.Proofs.X86.Decoder

/-!
# Reading encoded x86 instructions back

An instruction whose operands exist in a mode has an encoding in it, and a decoder reads
that encoding as the same instruction, whatever code follows.
-/

namespace NativeCall
namespace X86

/-!
# Encodable instructions
-/

def Mode.registerCount : Mode -> Nat
  | .bits32 => 8
  | .bits64 => 16

def Mode.Names (mode : Mode) (number : Byte) : Prop :=
  number.toNat < mode.registerCount

instance (mode : Mode) (number : Byte) : Decidable (mode.Names number) :=
  inferInstanceAs (Decidable (_ < _))

/-- An operand whose low byte can be named: 32-bit code has no names for the low bytes of
the registers from the fifth on. -/
def Mode.NamesByte (mode : Mode) (rm : Rm) : Prop :=
  mode.Names rm.number ∧ (mode = .bits32 -> forall r, rm = .reg r -> r.number.toNat < 4)

def Mode.HasSize (mode : Mode) (size : Size) : Prop :=
  size = .dword ∨ (size = .qword ∧ mode = .bits64)

namespace Instr

/-- The operands of the instruction exist in the mode. -/
def Encodable (mode : Mode) : Instr -> Prop
  | .movsx dst src size =>
      mode.Names dst.number ∧ mode.Names src.number ∧
        (size = .byte -> mode.NamesByte src) ∧ (mode = .bits32 -> size = .byte ∨ size = .word)
  | .movzx dst src size =>
      mode.Names dst.number ∧ mode.Names src.number ∧
        (size = .byte -> mode.NamesByte src) ∧ (mode = .bits32 -> size ≠ .qword)
  | .mov dst src size => mode.Names dst.number ∧ mode.Names src.number ∧ mode.HasSize size
  | .store dst src size => mode.Names dst.base.number ∧ mode.Names src.number ∧ mode.HasSize size
  | .movImm dst _ size => mode.Names dst.number ∧ mode.HasSize size
  | .addImm dst _ | .subImm dst _ => mode.Names dst.number
  | .xor dst src size | .or dst src size | .test dst src size =>
      mode.Names dst.number ∧ mode.Names src.number ∧ mode.HasSize size
  | .sar dst _ size => mode.Names dst.number ∧ mode.HasSize size
  | .setne dst => mode.NamesByte (.reg dst)
  | .call target | .jmp target => mode.Names target.number
  | .ret => True
  | .movssStore place r | .movsdStore place r | .movssLoad r place | .movsdLoad r place =>
      mode.Names r.number ∧ mode.Names place.base.number
  | .fstp place size | .fld place size =>
      mode.Names place.base.number ∧ (size = .dword ∨ size = .qword)

/-- The same instruction in the form that its encoding is read as. -/
def canonical : Instr -> Instr
  | .movsx dst src .qword => .mov dst src .qword
  | .movzx dst src .dword => .mov dst src .dword
  | .movzx dst src .qword => .mov dst src .qword
  | .movImm dst imm .dword => .movImm dst ((imm.setWidth 32).setWidth 64) .dword
  | instr => instr

end Instr

theorem Mode.Names.lt_sixteen {mode : Mode} {number : Byte} (h : mode.Names number) :
    number.toNat < 16 := by
  cases mode with
  | bits32 => exact Nat.lt_trans h (by decide)
  | bits64 => exact h

theorem Mode.HasSize.qword {mode : Mode} (h : mode.HasSize .qword) : mode = .bits64 := by
  rcases h with h | ⟨_, h⟩
  · cases h
  · exact h

/-!
# REX bytes
-/

namespace Rex

def ofOperands (present wide : Bool) (reg : Byte) (rm : Rm) : Rex :=
  { present, wide, reg := reg.toNat / 8, index := 0, base := rm.number.toNat / 8 }

theorem wide_ofOperands (present wide : Bool) (reg : Byte) (rm : Rm) :
    (ofOperands present wide reg rm).wide = wide := rfl

theorem ofOperands_eq_absent {reg : Byte} {rm : Rm} (hreg : reg.toNat < 8)
    (hrm : rm.number.toNat < 8) : ofOperands false false reg rm = absent := by
  rw [ofOperands, Nat.div_eq_of_lt hreg, Nat.div_eq_of_lt hrm]
  rfl

theorem take_of_ne {mode : Mode} {byte : Byte} (rest : List Byte) (h : byte.toNat / 16 ≠ 4) :
    take mode (byte :: rest) = (absent, byte :: rest) := by
  simp [take, h]

theorem ofByte_eq_ofOperands (wide : Bool) {reg : Byte} {rm : Rm} (hreg : reg.toNat < 16)
    (hrm : rm.number.toNat < 16) {n : Nat}
    (hn : n = 0x40 + (if wide then 8 else 0) +
      (4 * (reg.toNat / 8 % 2) + rm.number.toNat / 8 % 2)) :
    (BitVec.ofNat 8 n).toNat / 16 = 4 ∧ ofByte (BitVec.ofNat 8 n) = ofOperands true wide reg rm := by
  have hsmall : (BitVec.ofNat 8 n).toNat = n := by
    rw [BitVec.toNat_ofNat]
    apply Nat.mod_eq_of_lt
    cases wide <;> simp at hn <;> omega
  constructor
  · rw [hsmall]
    cases wide <;> simp at hn <;> omega
  · unfold ofByte ofOperands
    rw [hsmall]
    congr 1
    · cases wide <;> simp at hn ⊢ <;> omega
    · cases wide <;> simp at hn <;> omega
    · cases wide <;> simp at hn <;> omega
    · cases wide <;> simp at hn <;> omega

/-- The bytes in front of an opcode are read as the REX byte of these operands, and a byte
operand as the low byte of its register. -/
structure Reads (mode : Mode) (byteOperand : Bool) (rm : Rm) (bytes : List Byte) (rex : Rex) :
    Prop where
  range : forall byte, byte ∈ bytes -> byte.toNat / 16 = 4
  low : byteOperand = true -> rex.highByte? rm = none
  taken : forall (opcode : Byte) (rest : List Byte), opcode.toNat / 16 ≠ 4 ->
    take mode (bytes ++ opcode :: rest) = (rex, opcode :: rest)

theorem reads_bits32 {byteOperand : Bool} {rm : Rm}
    (hbyte : byteOperand = true -> Mode.bits32.NamesByte rm) :
    Reads .bits32 byteOperand rm [] absent where
  range := by
    intro byte hmem
    cases hmem
  low := by
    intro h
    cases rm with
    | reg r =>
        have hlt := (hbyte h).right rfl r rfl
        simp [highByte?]
        omega
    | mem place => rfl
  taken := by
    intro opcode rest hopcode
    exact take_of_ne rest hopcode

theorem reads_present {byteOperand wide : Bool} {reg byte : Byte} {rm : Rm}
    (hrange : byte.toNat / 16 = 4) (hread : ofByte byte = ofOperands true wide reg rm) :
    Reads .bits64 byteOperand rm [byte] (ofOperands true wide reg rm) where
  range := by
    intro other hmem
    rw [List.mem_singleton.mp hmem]
    exact hrange
  low := by
    intro _
    cases rm <;> simp [highByte?, ofOperands]
  taken := by
    intro opcode rest _
    rw [List.singleton_append, take, if_pos ⟨rfl, hrange⟩, hread]

theorem reads_absent {byteOperand : Bool} {rm : Rm}
    (hlow : byteOperand = true -> rm.needsRexForByte = false) :
    Reads .bits64 byteOperand rm [] absent where
  range := by
    intro byte hmem
    cases hmem
  low := by
    intro h
    have hneeds := hlow h
    cases rm with
    | reg r =>
        simp [Rm.needsRexForByte] at hneeds
        simp [highByte?, absent]
        omega
    | mem place => rfl
  taken := by
    intro opcode rest hopcode
    exact take_of_ne rest hopcode

end Rex

section RexBytes

variable {wide byteOperand : Bool} {reg : Byte} {rm : Rm}

theorem rexByte_bits32 (hreg : Mode.bits32.Names reg) (hrm : Mode.bits32.Names rm.number)
    (hbyte : byteOperand = true -> Mode.bits32.NamesByte rm) :
    rexByte .bits32 false reg rm byteOperand = .ok [] ∧
      Rex.Reads .bits32 byteOperand rm [] (Rex.ofOperands false false reg rm) := by
  have hregLow : reg.toNat < 8 := hreg
  have hrmLow : rm.number.toNat < 8 := hrm
  constructor
  · simp [rexByte, hregLow, hrmLow]
  · rw [Rex.ofOperands_eq_absent hregLow hrmLow]
    exact Rex.reads_bits32 hbyte

theorem rexByte_bits64 (hreg : Mode.bits64.Names reg) (hrm : Mode.bits64.Names rm.number) :
    exists (bytes : List Byte) (present : Bool),
      rexByte .bits64 wide reg rm byteOperand = .ok bytes ∧
        Rex.Reads .bits64 byteOperand rm bytes (Rex.ofOperands present wide reg rm) := by
  let n := 0x40 + (if wide then 8 else 0) +
    (4 * (reg.toNat / 8 % 2) + rm.number.toNat / 8 % 2)
  have hregBound := hreg.lt_sixteen
  have hrmBound := hrm.lt_sixteen
  rcases Rex.ofByte_eq_ofOperands wide hregBound hrmBound (n := n) rfl with ⟨hrange, hread⟩
  by_cases hneeded : (n != 0x40 || (byteOperand && rm.needsRexForByte)) = true
  · exact ⟨[BitVec.ofNat 8 n], true, if_pos hneeded, Rex.reads_present hrange hread⟩
  · -- A byte that says nothing is left out, and so the operands need none of its bits.
    have hparts : n = 0x40 ∧ (byteOperand = true -> rm.needsRexForByte = false) := by
      simpa using hneeded
    have hzero := hparts.left
    cases wide with
    | true =>
        simp [n] at hzero
        omega
    | false =>
        simp [n] at hzero
        refine ⟨[], false, if_neg hneeded, ?_⟩
        rw [Rex.ofOperands_eq_absent (by omega) (by omega)]
        exact Rex.reads_absent hparts.right

/-- The REX byte, where there is one, is read as the operands that it was written for. -/
theorem rexByte_ok {mode : Mode} (hreg : mode.Names reg) (hrm : mode.Names rm.number)
    (hwide : wide = true -> mode = .bits64) (hbyte : byteOperand = true -> mode.NamesByte rm) :
    exists (bytes : List Byte) (present : Bool),
      rexByte mode wide reg rm byteOperand = .ok bytes ∧
        Rex.Reads mode byteOperand rm bytes (Rex.ofOperands present wide reg rm) := by
  cases mode with
  | bits64 => exact rexByte_bits64 hreg hrm
  | bits32 =>
      cases wide with
      | true => exact absurd (hwide rfl) (by decide)
      | false => exact ⟨[], false, rexByte_bits32 hreg hrm hbyte⟩

end RexBytes

/-!
# Operands
-/

theorem joinNumber_div_mod (number : Byte) :
    joinNumber (number.toNat / 8) (number.toNat % 8) = number := by
  unfold joinNumber
  rw [Nat.div_add_mod, BitVec.ofNat_toNat, BitVec.setWidth_eq]

theorem toNat_modRmByte (form : Nat) (reg rm : Byte) (hform : form < 4) :
    (modRmByte form reg rm).toNat = 64 * form + 8 * (reg.toNat % 8) + rm.toNat % 8 := by
  rw [modRmByte, BitVec.toNat_ofNat]
  apply Nat.mod_eq_of_lt
  omega

theorem signExtend_low_of_fitsByte {value : BitVec 32} (h : fitsByte value = true) :
    (value.setWidth 8).signExtend 32 = value := by
  simp only [fitsByte, Bool.and_eq_true, decide_eq_true_eq] at h
  have hsigned := BitVec.toInt_eq_toNat_cond value
  apply BitVec.eq_of_toInt_eq
  rw [BitVec.toInt_signExtend_of_le (by decide), BitVec.toInt_setWidth, Int.bmod_def]
  split at hsigned <;> split <;> omega

theorem decodeBase_base {rex : Rex} {form : Nat} {base : Byte} (rest : List Byte)
    (hindex : rex.index = 0) (hbase : rex.base = base.toNat / 8)
    (hform : form = 0 -> base.toNat % 8 ≠ 5) :
    decodeBase rex form (base.toNat % 8)
        ((if base.toNat % 8 = 4 then [0x24#8] else []) ++ rest) = some (base, rest) := by
  have hjoin : joinNumber rex.base (base.toNat % 8) = base := by
    rw [hbase]
    exact joinNumber_div_mod base
  by_cases hfour : base.toNat % 8 = 4
  · rw [hfour] at hjoin
    simp [decodeBase, hfour, hindex, hjoin]
  · have hplain : ¬(form = 0 ∧ base.toNat % 8 = 5) := by
      intro h
      exact hform h.left h.right
    simp [decodeBase, hfour, hplain, hjoin]

theorem decodeOperand_reg {rex : Rex} {reg : Byte} {r : Gpr} (rest : List Byte)
    (hreg : rex.reg = reg.toNat / 8) (hbase : rex.base = r.number.toNat / 8) :
    decodeOperand rex (operandBytes reg (.reg r) ++ rest) = some (reg, .reg r, rest) := by
  have hbyte := toNat_modRmByte 3 reg r.number (by decide)
  have hform : (modRmByte 3 reg r.number).toNat / 64 = 3 := by omega
  have hregLow : (modRmByte 3 reg r.number).toNat / 8 % 8 = reg.toNat % 8 := by omega
  have hbaseLow : (modRmByte 3 reg r.number).toNat % 8 = r.number.toNat % 8 := by omega
  simp only [operandBytes, List.singleton_append, decodeOperand, hform, hregLow, hbaseLow, if_true]
  rw [hreg, hbase, joinNumber_div_mod, joinNumber_div_mod]

/-- A place in memory is read back, however long its displacement is written. -/
theorem decodeOperand_place {rex : Rex} {form : Nat} {reg : Byte} {place : Mem}
    (displacement rest : List Byte) (hreg : rex.reg = reg.toNat / 8) (hindex : rex.index = 0)
    (hbase : rex.base = place.base.number.toNat / 8) (hform : form < 3)
    (hplain : form = 0 -> place.base.number.toNat % 8 ≠ 5)
    (hdisp : decodeDisplacement form (displacement ++ rest) = some (place.disp, rest)) :
    decodeOperand rex
        (modRmByte form reg place.base.number ::
          ((if place.base.number.toNat % 8 = 4 then [0x24#8] else []) ++ displacement) ++ rest) =
      some (reg, .mem place, rest) := by
  have hbyte := toNat_modRmByte form reg place.base.number (by omega)
  have hformRead : (modRmByte form reg place.base.number).toNat / 64 = form := by omega
  have hregLow : (modRmByte form reg place.base.number).toNat / 8 % 8 = reg.toNat % 8 := by omega
  have hbaseLow : (modRmByte form reg place.base.number).toNat % 8 =
      place.base.number.toNat % 8 := by omega
  have hmemory : form ≠ 3 := by omega
  simp only [List.cons_append, List.append_assoc, decodeOperand, hformRead, hregLow, hbaseLow,
    hmemory, if_false]
  rw [decodeBase_base _ hindex hbase hplain]
  simp only [Option.bind_eq_bind, Option.bind_some, hdisp]
  rw [hreg, joinNumber_div_mod]
  rfl

theorem decodeOperand_operandBytes {rex : Rex} {reg : Byte} {rm : Rm} (rest : List Byte)
    (hreg : rex.reg = reg.toNat / 8) (hindex : rex.index = 0)
    (hbase : rex.base = rm.number.toNat / 8) :
    decodeOperand rex (operandBytes reg rm ++ rest) = some (reg, rm, rest) := by
  cases rm with
  | reg r => exact decodeOperand_reg rest hreg hbase
  | mem place =>
      unfold operandBytes
      dsimp only
      split
      next hnone =>
        simp only [Bool.and_eq_true, decide_eq_true_eq, bne_iff_ne, ne_eq] at hnone
        have hdisp : decodeDisplacement 0 ([] ++ rest) = some (place.disp, rest) := by
          rw [hnone.left]
          rfl
        simpa using decodeOperand_place [] rest hreg hindex hbase (by decide)
          (fun _ => hnone.right) hdisp
      next =>
        split
        next hbyte =>
          refine decodeOperand_place _ rest hreg hindex hbase (by decide) (by intro h; cases h) ?_
          rw [decodeDisplacement, takeValue_littleEndian]
          exact congrArg (fun disp => some (disp, rest)) (signExtend_low_of_fitsByte hbyte)
        next =>
          refine decodeOperand_place _ rest hreg hindex hbase (by decide) (by intro h; cases h) ?_
          exact takeValue_littleEndian 4 place.disp rest

/-!
# Opcodes
-/

def IsOneByteOpcode (opcode : Byte) : Prop :=
  opcode.toNat / 16 ≠ 4 ∧ opcode ≠ 0xF3 ∧ opcode ≠ 0xF2 ∧ opcode ≠ 0x0F ∧
    opcode.toNat ≠ 0xC3 ∧ opcode.toNat / 8 ≠ 0xB8 / 8

instance (opcode : Byte) : Decidable (IsOneByteOpcode opcode) :=
  inferInstanceAs (Decidable (_ ∧ _))

theorem decode_eq_decodePlain {mode : Mode} {byteOperand : Bool} {rm : Rm} {bytes : List Byte}
    {rex : Rex} (hrex : Rex.Reads mode byteOperand rm bytes rex) {opcode : Byte}
    (rest : List Byte) (hthree : opcode ≠ 0xF3) (htwo : opcode ≠ 0xF2) :
    decode mode (bytes ++ opcode :: rest) = decodePlain mode (bytes ++ opcode :: rest) := by
  cases bytes with
  | nil =>
      show (if opcode = 0xF3 then _ else _) = _
      rw [if_neg hthree, if_neg htwo]
      rfl
  | cons byte others =>
      have hrange := hrex.range byte List.mem_cons_self
      have hnotThree : byte ≠ 0xF3 := by
        intro h
        rw [h] at hrange
        exact absurd hrange (by decide)
      have hnotTwo : byte ≠ 0xF2 := by
        intro h
        rw [h] at hrange
        exact absurd hrange (by decide)
      show (if byte = 0xF3 then _ else _) = _
      rw [if_neg hnotThree, if_neg hnotTwo]
      rfl

theorem decode_of_oneByteOpcode {mode : Mode} {byteOperand wide present : Bool} {reg : Byte}
    {rm : Rm} {bytes : List Byte}
    (hrex : Rex.Reads mode byteOperand rm bytes (Rex.ofOperands present wide reg rm))
    {opcode : Byte} (hopcode : IsOneByteOpcode opcode) (rest : List Byte) :
    decode mode (bytes ++ opcode :: (operandBytes reg rm ++ rest)) =
      oneByteOperation mode (Rex.ofOperands present wide reg rm) opcode.toNat reg rm rest := by
  rcases hopcode with ⟨hrange, hthree, htwo, hescape, hret, hconstant⟩
  rw [decode_eq_decodePlain hrex _ hthree htwo, decodePlain, hrex.taken opcode _ hrange]
  simp only [hescape, if_false]
  rw [decodeOneByte, if_neg hret, if_neg hconstant,
    decodeOperand_operandBytes rest rfl rfl rfl]
  rfl

theorem decode_of_escape {mode : Mode} {byteOperand wide present : Bool} {reg : Byte}
    {rm : Rm} {bytes : List Byte}
    (hrex : Rex.Reads mode byteOperand rm bytes (Rex.ofOperands present wide reg rm))
    (opcode : Byte) (rest : List Byte) :
    decode mode (bytes ++ 0x0F :: opcode :: (operandBytes reg rm ++ rest)) =
      escapedOperation mode (Rex.ofOperands present wide reg rm) opcode.toNat reg rm rest := by
  rw [decode_eq_decodePlain hrex _ (by decide) (by decide), decodePlain,
    hrex.taken 0x0F _ (by decide)]
  show (if (0x0F : Byte) = 0x0F then _ else _) = _
  rw [if_pos rfl, decodeEscaped, decodeOperand_operandBytes rest rfl rfl rfl]
  rfl

/-!
# Encoding and decoding of forms
-/

/-- Some bytes encode a form, and are read as an operation with any code behind them. -/
def ReadsBack (mode : Mode) (encoded : Except Fault (List Byte)) (operation : Operation) : Prop :=
  exists bytes, encoded = .ok bytes ∧
    forall rest, decode mode (bytes ++ rest) = some (operation, rest)

section Forms

variable {mode : Mode} {wide : Bool} {reg : Byte} {operation : Operation}

theorem readsBack_oneByte (rm : Rm) (hreg : mode.Names reg) (hrm : mode.Names rm.number)
    (hwide : wide = true -> mode = .bits64) {opcode : Byte} (hopcode : IsOneByteOpcode opcode)
    (hread : forall present rest, oneByteOperation mode (Rex.ofOperands present wide reg rm)
      opcode.toNat reg rm rest = some (operation, rest)) :
    ReadsBack mode (withOperand mode wide [opcode] reg rm false) operation := by
  have hbyte : false = true -> mode.NamesByte rm := by
    intro h
    cases h
  rcases rexByte_ok hreg hrm hwide hbyte with
    ⟨bytes, present, hencode, hrex⟩
  refine ⟨bytes ++ [opcode] ++ operandBytes reg rm, ?_, ?_⟩
  · rw [withOperand, hencode]
    rfl
  · intro rest
    simp only [List.append_assoc, List.cons_append, List.nil_append]
    rw [decode_of_oneByteOpcode hrex hopcode rest]
    exact hread present rest

/-- A form with a constant behind its operand bytes. -/
theorem readsBack_oneByte_append (rm : Rm) (hreg : mode.Names reg) (hrm : mode.Names rm.number)
    (hwide : wide = true -> mode = .bits64) {opcode : Byte} (hopcode : IsOneByteOpcode opcode)
    {constant : List Byte}
    (hread : forall present rest, oneByteOperation mode (Rex.ofOperands present wide reg rm)
      opcode.toNat reg rm (constant ++ rest) = some (operation, rest)) :
    ReadsBack mode (do
      let bytes <- withOperand mode wide [opcode] reg rm false
      return bytes ++ constant) operation := by
  have hbyte : false = true -> mode.NamesByte rm := by
    intro h
    cases h
  rcases rexByte_ok hreg hrm hwide hbyte with
    ⟨bytes, present, hencode, hrex⟩
  refine ⟨bytes ++ [opcode] ++ operandBytes reg rm ++ constant, ?_, ?_⟩
  · rw [withOperand, hencode]
    rfl
  · intro rest
    simp only [List.append_assoc, List.cons_append, List.nil_append]
    rw [decode_of_oneByteOpcode hrex hopcode]
    exact hread present rest

theorem readsBack_escaped (byteOperand : Bool) (rm : Rm) (hreg : mode.Names reg)
    (hrm : mode.Names rm.number) (hwide : wide = true -> mode = .bits64)
    (hbyte : byteOperand = true -> mode.NamesByte rm) {opcode : Byte}
    (hread : forall present rest,
      (byteOperand = true -> (Rex.ofOperands present wide reg rm).highByte? rm = none) ->
      escapedOperation mode (Rex.ofOperands present wide reg rm) opcode.toNat reg rm rest =
        some (operation, rest)) :
    ReadsBack mode (withOperand mode wide [0x0F, opcode] reg rm byteOperand) operation := by
  rcases rexByte_ok hreg hrm hwide hbyte with ⟨bytes, present, hencode, hrex⟩
  refine ⟨bytes ++ [0x0F, opcode] ++ operandBytes reg rm, ?_, ?_⟩
  · rw [withOperand, hencode]
    rfl
  · intro rest
    simp only [List.append_assoc, List.cons_append, List.nil_append]
    rw [decode_of_escape hrex opcode rest]
    exact hread present rest hrex.low

theorem readsBack_vectorMove (single : Bool) {r : Xmm} {place : Mem} (hreg : mode.Names r.number)
    (hplace : mode.Names place.base.number) {opcode : Byte}
    (hread : forall rest, vectorOperation single opcode.toNat r.number (.mem place) rest =
      some (operation, rest)) :
    ReadsBack mode (vectorMove mode (if single then 0xF3 else 0xF2) opcode r place) operation := by
  have hwide : false = true -> mode = .bits64 := by
    intro h
    cases h
  have hbyte : false = true -> mode.NamesByte (.mem place) := by
    intro h
    cases h
  have hrm : mode.Names (Rm.mem place).number := hplace
  rcases rexByte_ok hreg hrm hwide hbyte with ⟨bytes, present, hencode, hrex⟩
  refine ⟨(if single then 0xF3 else 0xF2) ::
    (bytes ++ [0x0F, opcode] ++ operandBytes r.number (.mem place)), ?_, ?_⟩
  · rw [vectorMove, withOperand, hencode]
    rfl
  · intro rest
    have hvector : decodeVector mode single
        (bytes ++ 0x0F :: opcode :: (operandBytes r.number (.mem place) ++ rest)) =
          some (operation, rest) := by
      rw [decodeVector, hrex.taken 0x0F _ (by decide)]
      show (if (0x0F : Byte) = 0x0F then _ else _) = _
      rw [if_pos rfl, decodeEscaped, decodeOperand_operandBytes rest rfl rfl rfl]
      exact hread rest
    cases single <;> simpa [decode] using hvector

end Forms

theorem readsBack_moveForm {mode : Mode} {size : Size} {reg : Byte} (rm : Rm)
    (hreg : mode.Names reg) (hrm : mode.Names rm.number) (hsize : mode.HasSize size)
    {opcode : Byte} (hopcode : IsOneByteOpcode opcode) {operation : Operation}
    (hread : forall rex rest, Rex.size rex = size ->
      oneByteOperation mode rex opcode.toNat reg rm rest = some (operation, rest)) :
    ReadsBack mode (moveForm mode size opcode reg rm) operation := by
  rcases hsize with rfl | ⟨rfl, hmode⟩
  · refine readsBack_oneByte rm hreg hrm (by intro h; cases h) hopcode ?_
    intro present rest
    exact hread _ rest rfl
  · refine readsBack_oneByte rm hreg hrm (fun _ => hmode) hopcode ?_
    intro present rest
    exact hread _ rest rfl

/-- A form of a general instruction whose operand size the REX byte tells. -/
theorem readsBack_sized {mode : Mode} {size : Size} {reg : Byte} (rm : Rm)
    (hreg : mode.Names reg) (hrm : mode.Names rm.number) (hsize : mode.HasSize size)
    {opcode : Byte} (hopcode : IsOneByteOpcode opcode) {operation : Operation}
    (hread : forall rex rest, Rex.size rex = size ->
      oneByteOperation mode rex opcode.toNat reg rm rest = some (operation, rest)) :
    ReadsBack mode (withOperand mode size.isQword [opcode] reg rm false) operation := by
  rcases hsize with rfl | ⟨rfl, hmode⟩
  · refine readsBack_oneByte rm hreg hrm (by intro h; cases h) hopcode ?_
    intro present rest
    exact hread _ rest rfl
  · refine readsBack_oneByte rm hreg hrm (fun _ => hmode) hopcode ?_
    intro present rest
    exact hread _ rest rfl

theorem Mode.names_of_lt_eight (mode : Mode) {number : Byte} (h : number.toNat < 8) :
    mode.Names number := by
  cases mode with
  | bits32 => exact h
  | bits64 => exact Nat.lt_trans h (by decide)

theorem readsBack_constantForm {mode : Mode} {extension : Byte} {dst : Gpr} {imm : BitVec 32}
    {operation : Operation} (hdst : mode.Names dst.number) (hextension : extension.toNat < 8)
    (hread : forall rex rest, rex.wide = mode.isWide ->
      constantOperation mode rex (extension.toNat % 8) dst (some (imm, rest)) =
        some (operation, rest)) :
    ReadsBack mode (constantForm mode extension dst imm) operation := by
  have hwide : (mode == .bits64) = true -> mode = .bits64 := by simp
  have hnames := mode.names_of_lt_eight hextension
  unfold constantForm
  dsimp only
  split
  next hbyte =>
    refine readsBack_oneByte_append (.reg dst) hnames hdst hwide (by decide) ?_
    intro present rest
    show constantOperation _ _ _ _ _ = _
    rw [takeValue_littleEndian]
    exact Eq.trans (congrArg (fun value => constantOperation mode _ _ dst (some (value, rest)))
      (signExtend_low_of_fitsByte hbyte)) (hread _ rest rfl)
  next =>
    refine readsBack_oneByte_append (.reg dst) hnames hdst hwide (by decide) ?_
    intro present rest
    show constantOperation _ _ _ _ _ = _
    rw [takeValue_littleEndian]
    exact hread _ rest rfl

theorem decode_of_constantOpcode {mode : Mode} {present wide : Bool} {dst : Gpr}
    {bytes : List Byte}
    (hrex : Rex.Reads mode false (.reg dst) bytes (Rex.ofOperands present wide 0 (.reg dst)))
    (rest : List Byte) :
    decode mode (bytes ++ movImmOpcode dst :: rest) =
      if wide then
        (takeValue 8 rest).map fun (imm, rest) => (.plain (.movImm dst imm .qword), rest)
      else
        (takeValue 4 rest).map fun (imm, rest) =>
          (.plain (.movImm dst (imm.setWidth 64) .dword), rest) := by
  have hopcode : (movImmOpcode dst).toNat = 0xB8 + dst.number.toNat % 8 := by
    rw [movImmOpcode, BitVec.toNat_ofNat]
    omega
  have hne : forall other : Byte, other.toNat < 0xB8 ∨ 0xBF < other.toNat ->
      movImmOpcode dst ≠ other := by
    intro other hother h
    rw [← h, hopcode] at hother
    omega
  have hlow : (movImmOpcode dst).toNat % 8 = dst.number.toNat % 8 := by omega
  rw [decode_eq_decodePlain hrex _ (hne _ (by decide)) (hne _ (by decide)), decodePlain,
    hrex.taken _ _ (by omega)]
  dsimp only
  rw [if_neg (hne _ (by decide)), decodeOneByte, if_neg (by omega), if_pos (by omega), hlow]
  have hjoin : joinNumber (Rex.ofOperands present wide 0 (.reg dst)).base
      (dst.number.toNat % 8) = dst.number := joinNumber_div_mod dst.number
  rw [hjoin]
  rfl

theorem readsBack_movImm {mode : Mode} {dst : Gpr} {imm : Word} {size : Size}
    (hdst : mode.Names dst.number) (hsize : mode.HasSize size) :
    ReadsBack mode ((Instr.movImm dst imm size).encode mode)
      (.plain (Instr.movImm dst imm size).canonical) := by
  have hzero : mode.Names 0 := mode.names_of_lt_eight (by decide)
  have hrm : mode.Names (Rm.reg dst).number := hdst
  have hbyte : false = true -> mode.NamesByte (.reg dst) := by
    intro h
    cases h
  have hwide : size.isQword = true -> mode = .bits64 := by
    intro h
    rcases hsize with rfl | ⟨_, hmode⟩
    · cases h
    · exact hmode
  rcases rexByte_ok hzero hrm hwide hbyte with ⟨bytes, present, hencode, hrex⟩
  refine ⟨bytes ++ movImmOpcode dst :: littleEndian (if size.isQword then 8 else 4) imm, ?_, ?_⟩
  · rw [Instr.encode, hencode]
    rfl
  · intro rest
    rw [List.append_assoc, List.cons_append, decode_of_constantOpcode hrex]
    rcases hsize with rfl | ⟨rfl, _⟩
    · have htaken := takeValue_littleEndian 4 imm rest
      simp [Size.isQword, htaken, Instr.canonical]
    · have htaken := takeValue_littleEndian 8 imm rest
      simp [Size.isQword, htaken, Instr.canonical]

theorem readsBack_stackMove {mode : Mode} {size : Size} {extension : Byte} {place : Mem}
    {operation : Operation} (hplace : mode.Names place.base.number)
    (hextension : extension.toNat < 8) (hsize : size = .dword ∨ size = .qword)
    (hread : forall rex rest, oneByteOperation mode rex (stackMoveOpcode size).toNat extension
      (.mem place) rest = some (operation, rest)) :
    ReadsBack mode (withOperand mode false [stackMoveOpcode size] extension (.mem place) false)
      operation := by
  have hopcode : IsOneByteOpcode (stackMoveOpcode size) := by
    rcases hsize with rfl | rfl <;> decide
  refine readsBack_oneByte (.mem place) (mode.names_of_lt_eight hextension) hplace
    (by intro h; cases h) hopcode ?_
  intro present rest
  exact hread _ rest

theorem oneByteOperation_sar (mode : Mode) (rex : Rex) (dst : Gpr) (count : Byte)
    (rest : List Byte) :
    oneByteOperation mode rex 0xC1 7 (.reg dst) (count :: rest) =
      some (.plain (.sar dst count rex.size), rest) := by
  simp [oneByteOperation, takeValue_cons]

theorem escapedOperation_setne {mode : Mode} {rex : Rex} {dst : Gpr} (reg : Byte)
    (rest : List Byte) (hlow : rex.highByte? (.reg dst) = none) :
    escapedOperation mode rex 0x95 reg (.reg dst) rest = some (.plain (.setne dst), rest) := by
  simp [escapedOperation, hlow]

/-!
# Instructions
-/

section Instructions

variable {mode : Mode} {dst : Gpr} {src : Rm} {size : Size}

theorem Instr.readsBack_movsx (h : (Instr.movsx dst src size).Encodable mode) :
    ReadsBack mode ((Instr.movsx dst src size).encode mode)
      (.plain (Instr.movsx dst src size).canonical) := by
  have hwide : (mode == .bits64) = true -> mode = .bits64 := by simp
  rcases h with ⟨hdst, hsrc, hbyte, hsizes⟩
  cases size with
  | byte =>
      refine readsBack_escaped true src hdst hsrc hwide (fun _ => hbyte rfl) ?_
      intro present rest hlow
      simp [escapedOperation, hlow rfl, Mode.isWide, Rex.wide_ofOperands, canonical]
  | word =>
      refine readsBack_escaped false src hdst hsrc hwide (by intro h; cases h) ?_
      intro present rest _
      simp [escapedOperation, Mode.isWide, Rex.wide_ofOperands, canonical]
  | dword =>
      cases mode with
      | bits32 => simp at hsizes
      | bits64 =>
          refine readsBack_oneByte src hdst hsrc (fun _ => rfl) (by decide) ?_
          intro present rest
          rfl
  | qword =>
      cases mode with
      | bits32 => simp at hsizes
      | bits64 =>
          refine readsBack_moveForm src hdst hsrc (Or.inr ⟨rfl, rfl⟩) (by decide) ?_
          intro rex rest hsize
          simp [oneByteOperation, hsize, canonical]

theorem Instr.readsBack_movzx (h : (Instr.movzx dst src size).Encodable mode) :
    ReadsBack mode ((Instr.movzx dst src size).encode mode)
      (.plain (Instr.movzx dst src size).canonical) := by
  have hnarrow : false = true -> mode = .bits64 := by intro h; cases h
  rcases h with ⟨hdst, hsrc, hbyte, hsizes⟩
  cases size with
  | byte =>
      refine readsBack_escaped true src hdst hsrc hnarrow (fun _ => hbyte rfl) ?_
      intro present rest hlow
      simp [escapedOperation, hlow rfl, canonical]
  | word =>
      refine readsBack_escaped false src hdst hsrc hnarrow (by intro h; cases h) ?_
      intro present rest _
      rfl
  | dword =>
      refine readsBack_moveForm src hdst hsrc (Or.inl rfl) (by decide) ?_
      intro rex rest hsize
      simp [oneByteOperation, hsize, canonical]
  | qword =>
      cases mode with
      | bits32 => exact absurd rfl (hsizes rfl)
      | bits64 =>
          refine readsBack_moveForm src hdst hsrc (Or.inr ⟨rfl, rfl⟩) (by decide) ?_
          intro rex rest hsize
          simp [oneByteOperation, hsize, canonical]

theorem Instr.readsBack_sar {count : Byte} (h : (Instr.sar dst count size).Encodable mode) :
    ReadsBack mode ((Instr.sar dst count size).encode mode)
      (.plain (Instr.sar dst count size).canonical) := by
  rcases h with ⟨hdst, hsize⟩
  have hwide : size.isQword = true -> mode = .bits64 := by
    intro hqword
    rcases hsize with rfl | ⟨_, hmode⟩
    · cases hqword
    · exact hmode
  refine readsBack_oneByte_append (.reg dst) (mode.names_of_lt_eight (by decide)) hdst hwide
    (by decide) ?_
  intro present rest
  have hrex : (Rex.ofOperands present size.isQword 7 (.reg dst)).size = size := by
    rcases hsize with rfl | ⟨rfl, _⟩ <;> rfl
  have hread := oneByteOperation_sar mode (Rex.ofOperands present size.isQword 7 (.reg dst))
    dst count rest
  rw [hrex] at hread
  exact hread

end Instructions

theorem Instr.readsBack {mode : Mode} {instr : Instr} (h : instr.Encodable mode) :
    ReadsBack mode (instr.encode mode) (.plain instr.canonical) := by
  have hnarrow : false = true -> mode = .bits64 := by intro h; cases h
  have hzero : mode.Names 0 := mode.names_of_lt_eight (by decide)
  cases instr with
  | movsx dst src size => exact readsBack_movsx h
  | movzx dst src size => exact readsBack_movzx h
  | mov dst src size =>
      rcases h with ⟨hdst, hsrc, hsize⟩
      refine readsBack_moveForm src hdst hsrc hsize (by decide) ?_
      intro rex rest hrex
      simp [oneByteOperation, hrex, canonical]
  | store dst src size =>
      rcases h with ⟨hdst, hsrc, hsize⟩
      refine readsBack_moveForm (.mem dst) hsrc hdst hsize (by decide) ?_
      intro rex rest hrex
      simp [oneByteOperation, hrex, canonical]
  | movImm dst imm size => exact readsBack_movImm h.left h.right
  | addImm dst imm =>
      refine readsBack_constantForm h (by decide) ?_
      intro rex rest hrex
      simp [constantOperation, hrex, canonical]
  | subImm dst imm =>
      refine readsBack_constantForm h (by decide) ?_
      intro rex rest hrex
      simp [constantOperation, hrex, canonical]
  | xor dst src size =>
      rcases h with ⟨hdst, hsrc, hsize⟩
      refine readsBack_sized (.reg dst) hsrc hdst hsize (by decide) ?_
      intro rex rest hrex
      simp [oneByteOperation, hrex, canonical]
  | or dst src size =>
      rcases h with ⟨hdst, hsrc, hsize⟩
      refine readsBack_sized (.reg dst) hsrc hdst hsize (by decide) ?_
      intro rex rest hrex
      simp [oneByteOperation, hrex, canonical]
  | test left right size =>
      rcases h with ⟨hleft, hright, hsize⟩
      refine readsBack_sized (.reg left) hright hleft hsize (by decide) ?_
      intro rex rest hrex
      simp [oneByteOperation, hrex, canonical]
  | sar dst count size => exact readsBack_sar h
  | setne dst =>
      refine readsBack_escaped true (.reg dst) hzero h.left hnarrow (fun _ => h) ?_
      intro present rest hlow
      exact escapedOperation_setne 0 rest (hlow rfl)
  | call target =>
      refine readsBack_oneByte (.reg target) (mode.names_of_lt_eight (by decide)) h hnarrow (by decide) ?_
      intro present rest
      rfl
  | jmp target =>
      refine readsBack_oneByte (.reg target) (mode.names_of_lt_eight (by decide)) h hnarrow (by decide) ?_
      intro present rest
      rfl
  | ret => exact ⟨[0xC3], rfl, fun rest => by cases mode <;> rfl⟩
  | movssStore place r =>
      exact readsBack_vectorMove true h.left h.right (fun rest => rfl)
  | movsdStore place r =>
      exact readsBack_vectorMove false h.left h.right (fun rest => rfl)
  | movssLoad r place =>
      exact readsBack_vectorMove true h.left h.right (fun rest => rfl)
  | movsdLoad r place =>
      exact readsBack_vectorMove false h.left h.right (fun rest => rfl)
  | fstp place size =>
      rcases h with ⟨hplace, rfl | rfl⟩
      · exact readsBack_stackMove hplace (by decide) (Or.inl rfl) (fun rex rest => rfl)
      · exact readsBack_stackMove hplace (by decide) (Or.inr rfl) (fun rex rest => rfl)
  | fld place size =>
      rcases h with ⟨hplace, rfl | rfl⟩
      · exact readsBack_stackMove hplace (by decide) (Or.inl rfl) (fun rex rest => rfl)
      · exact readsBack_stackMove hplace (by decide) (Or.inr rfl) (fun rex rest => rfl)

end X86
end NativeCall
