import NativeCall.Proofs.X86.Disassembly

/-!
# 32-bit code

Most operands that 32-bit code does not have are faults: a quadword in a general register, and
the extension of a doubleword to one. The low bytes of the registers from the fifth on are
not. Their numbers are written as they are, and a processor reads the second bytes of the first
four registers there.
-/

namespace NativeCall
namespace X86

/-!
# What is asked for and what is read
-/

def Size.IsGeneral (size : Size) : Prop :=
  size = .dword ∨ size = .qword

instance (size : Size) : Decidable size.IsGeneral :=
  inferInstanceAs (Decidable (_ ∨ _))

namespace Instr

/-- The registers are those of 32-bit code. Only extensions have operands below a doubleword. -/
def IsNarrow : Instr -> Prop
  | .movsx dst src _ | .movzx dst src _ =>
      Mode.bits32.Names dst.number ∧ Mode.bits32.Names src.number
  | .mov dst src size =>
      Mode.bits32.Names dst.number ∧ Mode.bits32.Names src.number ∧ size.IsGeneral
  | .store dst src size =>
      Mode.bits32.Names dst.base.number ∧ Mode.bits32.Names src.number ∧ size.IsGeneral
  | .movImm dst _ size | .sar dst _ size => Mode.bits32.Names dst.number ∧ size.IsGeneral
  | .addImm dst _ | .subImm dst _ => Mode.bits32.Names dst.number
  | .xor dst src size | .or dst src size | .test dst src size =>
      Mode.bits32.Names dst.number ∧ Mode.bits32.Names src.number ∧ size.IsGeneral
  | .setne dst => Mode.bits32.Names dst.number
  | .call target | .jmp target => Mode.bits32.Names target.number
  | .ret => True
  | .movssStore place r | .movsdStore place r | .movssLoad r place | .movsdLoad r place =>
      Mode.bits32.Names r.number ∧ Mode.bits32.Names place.base.number
  | .fstp place size | .fld place size =>
      Mode.bits32.Names place.base.number ∧ size.IsGeneral

/-- The instruction works on a quadword in general registers. -/
def needsWideCode : Instr -> Bool
  | .movsx _ _ size => size == .dword || size == .qword
  | .movzx _ _ size | .mov _ _ size | .store _ _ size | .movImm _ _ size | .xor _ _ size
  | .or _ _ size | .test _ _ size | .sar _ _ size => size == .qword
  | _ => false

/-- The operation on the second byte of a register that 32-bit code reads in the place of an
instruction on the low byte of another one. -/
def secondByte? : Instr -> Option Operation
  | .movsx dst (.reg src) .byte =>
      if 4 ≤ src.number.toNat then some (.movsxHigh dst ⟨src.number - 4⟩) else none
  | .movzx dst (.reg src) .byte =>
      if 4 ≤ src.number.toNat then some (.movzxHigh dst ⟨src.number - 4⟩) else none
  | .setne dst => if 4 ≤ dst.number.toNat then some (.setneHigh ⟨dst.number - 4⟩) else none
  | _ => none

def narrowReading (instr : Instr) : Operation :=
  instr.secondByte?.getD (.plain instr.canonical)

theorem secondByte?_ne_plain (instr other : Instr) : instr.secondByte? ≠ some (.plain other) := by
  unfold secondByte?
  split <;> simp

theorem narrowReading_eq_plain_iff (instr : Instr) :
    instr.narrowReading = .plain instr.canonical <-> instr.secondByte? = none := by
  unfold narrowReading
  cases hsecond : instr.secondByte? with
  | none => exact iff_of_true rfl rfl
  | some operation =>
      apply iff_of_false _ (Option.some_ne_none operation)
      rintro rfl
      exact instr.secondByte?_ne_plain instr.canonical hsecond

end Instr

/-!
# Faults
-/

theorem Instr.exists_fault {instr : Instr} (h : instr.needsWideCode = true) :
    exists fault, instr.encode .bits32 = .error fault := by
  cases instr with
  | movsx dst src size =>
      cases size with
      | dword => exact ⟨.operandSize, rfl⟩
      | qword => exact ⟨.wideOperand, rfl⟩
      | byte | word => cases h
  | movzx dst src size | mov dst src size | store dst src size | movImm dst imm size
  | xor dst src size | or dst src size | test dst src size | sar dst count size =>
      have hsize : size = .qword := eq_of_beq h
      rw [hsize]
      exact ⟨.wideOperand, rfl⟩
  | _ => cases h

/-!
# Operations on second bytes
-/

/-- A form behind the escape byte has no REX byte in 32-bit code. -/
theorem readsBack_escaped_bits32 (byteOperand : Bool) {reg : Byte} {rm : Rm} {opcode : Byte}
    {operation : Operation} (hreg : Mode.bits32.Names reg) (hrm : Mode.bits32.Names rm.number)
    (hread : forall rest, escapedOperation .bits32 Rex.absent opcode.toNat reg rm rest =
      some (operation, rest)) :
    ReadsBack .bits32 (withOperand .bits32 false [0x0F, opcode] reg rm byteOperand) operation := by
  have hregLow : reg.toNat < 8 := hreg
  have hrmLow : rm.number.toNat < 8 := hrm
  -- Both numbers are below eight, so that all bits of the REX byte would be zero.
  have habsent : Rex.ofOperands false false reg rm = Rex.absent := by
    rw [Rex.ofOperands, Nat.div_eq_of_lt hregLow, Nat.div_eq_of_lt hrmLow]
    rfl
  have hrex : Rex.Reads .bits32 false rm [] (Rex.ofOperands false false reg rm) := by
    rw [habsent]
    exact Rex.reads_bits32 (by intro h; cases h)
  have hnoByte : rexByte .bits32 false reg rm byteOperand = .ok [] := by
    simp [rexByte, hregLow, hrmLow]
  refine ⟨[0x0F, opcode] ++ operandBytes reg rm, ?_, ?_⟩
  · rw [withOperand, hnoByte]
    rfl
  · intro rest
    have hdecode := decode_of_escape hrex opcode rest
    rw [habsent, hread rest] at hdecode
    exact hdecode

theorem Rex.highByte?_absent {r : Gpr} (hnames : Mode.bits32.Names r.number)
    (hlow : 4 ≤ r.number.toNat) : Rex.absent.highByte? (.reg r) = some ⟨r.number - 4⟩ := by
  have hlt : r.number.toNat < 8 := hnames
  simp [highByte?, absent, hlow, hlt]

theorem Instr.readsBack_secondByte {instr : Instr} {operation : Operation} (h : instr.IsNarrow)
    (hsecond : instr.secondByte? = some operation) :
    ReadsBack .bits32 (instr.encode .bits32) operation := by
  unfold secondByte? at hsecond
  split at hsecond
  next dst src =>
    rcases Option.ite_none_right_eq_some.mp hsecond with ⟨hlow, ⟨⟩⟩
    apply readsBack_escaped_bits32 true h.left h.right
    intro rest
    have hfull : Rex.absent.wide = Mode.bits32.isWide := rfl
    simp [escapedOperation, hfull, Rex.highByte?_absent h.right hlow]
  next dst src =>
    rcases Option.ite_none_right_eq_some.mp hsecond with ⟨hlow, ⟨⟩⟩
    apply readsBack_escaped_bits32 true h.left h.right
    intro rest
    simp [escapedOperation, Rex.highByte?_absent h.right hlow]
  next dst =>
    rcases Option.ite_none_right_eq_some.mp hsecond with ⟨hlow, ⟨⟩⟩
    have hnames : Mode.bits32.Names (Rm.reg dst).number := h
    apply readsBack_escaped_bits32 true (Mode.bits32.names_of_lt_eight (by decide)) hnames
    intro rest
    simp [escapedOperation, Rex.highByte?_absent h hlow]
  next => cases hsecond

/-!
# Instructions of 32-bit code
-/

theorem Size.IsGeneral.hasSize {size : Size} (h : size.IsGeneral) (hnarrow : (size == .qword) = false) :
    Mode.bits32.HasSize size := by
  rcases h with rfl | rfl
  · exact Or.inl rfl
  · cases hnarrow

theorem Instr.encodable_bits32 {instr : Instr} (h : instr.IsNarrow)
    (hwide : instr.needsWideCode = false) (hsecond : instr.secondByte? = none) :
    instr.Encodable .bits32 := by
  -- Without a second byte to read, the register is one of the first four.
  have hlow : forall (r : Gpr) (operation : Operation),
      (if 4 ≤ r.number.toNat then some operation else none) = none -> r.number.toNat < 4 := by
    intro r operation hnone
    exact Nat.lt_of_not_le (by simpa using hnone)
  cases instr with
  | movsx dst src size =>
      refine ⟨h.left, h.right, ?_, ?_⟩
      · rintro rfl
        refine ⟨h.right, ?_⟩
        rintro _ r rfl
        exact hlow r _ hsecond
      · intro _
        cases size with
        | byte => exact Or.inl rfl
        | word => exact Or.inr rfl
        | dword | qword => cases hwide
  | movzx dst src size =>
      refine ⟨h.left, h.right, ?_, ?_⟩
      · rintro rfl
        refine ⟨h.right, ?_⟩
        rintro _ r rfl
        exact hlow r _ hsecond
      · rintro _ rfl
        cases hwide
  | setne dst =>
      refine ⟨h, ?_⟩
      rintro _ r ⟨⟩
      exact hlow dst _ hsecond
  | mov dst src size | store dst src size | xor dst src size | or dst src size
  | test dst src size => exact ⟨h.left, h.right.left, h.right.right.hasSize hwide⟩
  | movImm dst imm size | sar dst count size => exact ⟨h.left, h.right.hasSize hwide⟩
  | _ => exact h

theorem Instr.readsBack_bits32 {instr : Instr} (h : instr.IsNarrow)
    (hwide : instr.needsWideCode = false) :
    ReadsBack .bits32 (instr.encode .bits32) instr.narrowReading := by
  unfold narrowReading
  cases hsecond : instr.secondByte? with
  | none => exact Instr.readsBack (Instr.encodable_bits32 h hwide hsecond)
  | some operation => exact Instr.readsBack_secondByte h hsecond

/-!
# Programs of 32-bit code
-/

def narrowCode : InstructionSet Instr Operation where
  encode := Instr.encode .bits32
  decode := decode .bits32
  Encodable := fun instr => instr.IsNarrow ∧ instr.needsWideCode = false
  meaning := Instr.narrowReading
  readsBack := fun _ h => Instr.readsBack_bits32 h.left h.right

theorem disassemble_narrowCode (bytes : List Byte) :
    narrowCode.disassemble bytes = disassemble .bits32 bytes := by
  have hdecode : narrowCode.decode = (isa .bits32).decode := rfl
  exact InstructionSet.disassemble_congr hdecode bytes

theorem narrowCode_decode_nil : narrowCode.decode [] = none :=
  rfl

theorem assemble_narrowCode (code : List Instr) :
    narrowCode.assemble code = assemble .bits32 code := by
  induction code with
  | nil => rfl
  | cons instr code ih =>
      rw [InstructionSet.assemble, ih]
      rfl

namespace Line

def IsNarrow : Line -> Prop
  | .plain instr => instr.IsNarrow
  | .callAbs scratch _ | .jmpAbs scratch _ => Mode.bits32.Names scratch.number

def needsWideCode (line : Line) : Bool :=
  (line.instrs .bits32).any (·.needsWideCode)

def narrowReading (line : Line) : List Operation :=
  (line.instrs .bits32).map (·.narrowReading)

/-- The line names no byte of a register from the fifth on. -/
def NamesLowBytes (line : Line) : Prop :=
  forall instr, instr ∈ line.instrs .bits32 -> instr.secondByte? = none

theorem narrowReading_eq_meaning_iff (line : Line) :
    line.narrowReading = line.meaning .bits32 <-> line.NamesLowBytes := by
  unfold narrowReading meaning
  rw [List.map_inj_left]
  exact forall₂_congr fun instr _ => instr.narrowReading_eq_plain_iff

theorem isNarrow_instrs {line : Line} (h : line.IsNarrow) :
    forall instr, instr ∈ line.instrs .bits32 -> instr.IsNarrow := by
  cases line with
  | plain instr => exact List.forall_mem_singleton.mpr h
  | callAbs scratch address | jmpAbs scratch address =>
      intro instr hmem
      rcases List.mem_pair.mp hmem with rfl | rfl
      · exact ⟨h, Or.inl rfl⟩
      · exact h

theorem encodable_instrs_bits32 {line : Line} (h : line.IsNarrow)
    (hwide : line.needsWideCode = false) :
    forall instr, instr ∈ line.instrs .bits32 -> narrowCode.Encodable instr := by
  intro instr hmem
  have hany : (line.instrs .bits32).any (·.needsWideCode) = false := hwide
  rw [List.any_eq_false] at hany
  exact ⟨isNarrow_instrs h instr hmem, Bool.eq_false_iff.mpr (hany instr hmem)⟩

theorem exists_fault {line : Line} (hwide : line.needsWideCode = true) :
    exists instr, instr ∈ line.instrs .bits32 ∧
      exists fault, narrowCode.encode instr = .error fault := by
  rcases List.any_eq_true.mp hwide with ⟨instr, hmem, hneeds⟩
  exact ⟨instr, hmem, Instr.exists_fault hneeds⟩

theorem encode_narrowCode (line : Line) :
    line.encode .bits32 = narrowCode.assemble (line.instrs .bits32) :=
  (assemble_narrowCode _).symm

theorem exists_encode_eq_error {line : Line} (hwide : line.needsWideCode = true) :
    exists fault, line.encode .bits32 = .error fault := by
  rcases exists_fault hwide with ⟨instr, hmem, _, hfault⟩
  rw [encode_narrowCode]
  exact InstructionSet.exists_assemble_eq_error hmem hfault

theorem exists_piece {line : Line} (h : line.IsNarrow) (hwide : line.needsWideCode = false) :
    exists piece, line.encode .bits32 = .ok piece ∧
      disassemble .bits32 piece = some line.narrowReading := by
  have hencodable := encodable_instrs_bits32 h hwide
  rcases InstructionSet.exists_assemble hencodable with ⟨piece, hpiece⟩
  refine ⟨piece, ?_, ?_⟩
  · rw [encode_narrowCode]
    exact hpiece
  · rw [← disassemble_narrowCode]
    exact InstructionSet.disassemble_assemble narrowCode_decode_nil hencodable hpiece

end Line

theorem encodeLines_narrowCode (lines : List Line) :
    encodeLines .bits32 lines = narrowCode.assemble (lines.flatMap (·.instrs .bits32)) :=
  (assemble_narrowCode _).symm

theorem exists_encodeLines_eq_error {lines : List Line} {line : Line} (hmem : line ∈ lines)
    (hwide : line.needsWideCode = true) :
    exists fault, encodeLines .bits32 lines = .error fault := by
  rcases Line.exists_fault hwide with ⟨instr, hinstr, _, hfault⟩
  rw [encodeLines_narrowCode]
  exact InstructionSet.exists_assemble_eq_error
    (List.mem_flatMap.mpr ⟨line, hmem, hinstr⟩) hfault

theorem exists_encodeLines_eq_ok {lines : List Line} (h : forall line, line ∈ lines -> line.IsNarrow)
    (hwide : forall line, line ∈ lines -> line.needsWideCode = false) :
    exists bytes, encodeLines .bits32 lines = .ok bytes ∧
      disassemble .bits32 bytes = some (lines.flatMap (·.narrowReading)) := by
  have hencodable : forall instr, instr ∈ lines.flatMap (·.instrs .bits32) ->
      narrowCode.Encodable instr := by
    intro instr hmem
    rcases List.mem_flatMap.mp hmem with ⟨line, hline, hinstr⟩
    exact Line.encodable_instrs_bits32 (h line hline) (hwide line hline) instr hinstr
  rcases InstructionSet.exists_assemble hencodable with ⟨bytes, hbytes⟩
  have hread := InstructionSet.disassemble_assemble narrowCode_decode_nil hencodable hbytes
  rw [disassemble_narrowCode, List.map_flatMap] at hread
  refine ⟨bytes, ?_, hread⟩
  rw [encodeLines_narrowCode]
  exact hbytes

/-- A line of 32-bit code is a fault exactly if it works on a quadword in general registers.
Any other line is read back as itself, but for the low bytes of the registers from the fifth on:
what is read there is the second byte of one of the first four registers. -/
theorem disassemble_encodeLines_bits32 {lines : List Line}
    (h : forall line, line ∈ lines -> line.IsNarrow) :
    (forall line, line ∈ lines ->
      if line.needsWideCode then
        exists fault, line.encode .bits32 = .error fault
      else
        exists piece, line.encode .bits32 = .ok piece ∧
          disassemble .bits32 piece = some line.narrowReading ∧
          (line.NamesLowBytes <-> line.narrowReading = line.meaning .bits32)) ∧
      if lines.any (·.needsWideCode) then
        exists fault, encodeLines .bits32 lines = .error fault
      else
        exists bytes, encodeLines .bits32 lines = .ok bytes ∧
          disassemble .bits32 bytes = some (lines.flatMap (·.narrowReading)) := by
  constructor
  · intro line hmem
    cases hwide : line.needsWideCode with
    | true => exact Line.exists_encode_eq_error hwide
    | false =>
        rcases Line.exists_piece (h line hmem) hwide with ⟨piece, hpiece, hread⟩
        exact ⟨piece, hpiece, hread, line.narrowReading_eq_meaning_iff.symm⟩
  · cases hany : lines.any (·.needsWideCode) with
    | true =>
        rcases List.any_eq_true.mp hany with ⟨line, hmem, hwide⟩
        exact exists_encodeLines_eq_error hmem hwide
    | false =>
        rw [List.any_eq_false] at hany
        exact exists_encodeLines_eq_ok h fun line hmem => Bool.eq_false_iff.mpr (hany line hmem)

/-- The byte registers 1 and 6 have one form; only 1 is read back as itself. -/
def narrowLines : List Line :=
  [ .plain (.movsx .rax (.reg .rcx) .byte), .plain (.movsx .rax (.reg .rsi) .byte),
    .plain (.movzx .rdi (.mem ⟨.rsp, 8⟩) .word), .plain (.setne .rdi),
    .plain (.mov .rdx (.mem ⟨⟨5⟩, 0⟩) .dword), .plain (.fstp ⟨.rsp, -8⟩ .qword),
    .callAbs .rcx 0x1000, .plain .ret ]

theorem disassemble_encodeLines_bits32_sample :
    (forall line, line ∈ narrowLines -> line.IsNarrow) ∧
      exists bytes, encodeLines .bits32 narrowLines = .ok bytes ∧
        disassemble .bits32 bytes = some
          [ .plain (.movsx .rax (.reg .rcx) .byte), .movsxHigh .rax .rdx,
            .plain (.movzx .rdi (.mem ⟨.rsp, 8⟩) .word), .setneHigh ⟨3⟩,
            .plain (.mov .rdx (.mem ⟨⟨5⟩, 0⟩) .dword), .plain (.fstp ⟨.rsp, -8⟩ .qword),
            .plain (.movImm .rcx 0x1000 .dword), .plain (.call .rcx), .plain .ret ] := by
  have hlines : forall line, line ∈ narrowLines -> line.IsNarrow := by
    simp [narrowLines, Line.IsNarrow, Instr.IsNarrow, Size.IsGeneral, Mode.Names,
      Mode.registerCount, Rm.number, Gpr.rax, Gpr.rcx, Gpr.rdx, Gpr.rsp, Gpr.rsi, Gpr.rdi]
  have hfits : narrowLines.any (·.needsWideCode) = false := by decide
  have hrun := (disassemble_encodeLines_bits32 hlines).right
  rw [hfits] at hrun
  rcases hrun with ⟨bytes, hbytes, hread⟩
  exact ⟨hlines, bytes, hbytes, hread⟩

/-- 32-bit code is not always a fault or what was asked for. -/
theorem not_faults_or_reads_back :
    ¬ forall line : Line, line.IsNarrow ->
      (exists fault, line.encode .bits32 = .error fault) ∨
        exists piece, line.encode .bits32 = .ok piece ∧
          disassemble .bits32 piece = some (line.meaning .bits32) := by
  intro hsafe
  let line : Line := .plain (.movsx .rax (.reg .rsi) .byte)
  have hnarrow : line.IsNarrow := by
    constructor <;> decide
  rcases Line.exists_piece hnarrow rfl with ⟨piece, hpiece, hread⟩
  rcases hsafe line hnarrow with ⟨fault, hfault⟩ | ⟨other, hother, hmeant⟩
  · rw [hpiece] at hfault
    cases hfault
  · rw [hpiece] at hother
    cases hother
    rw [hread] at hmeant
    cases hmeant

end X86
end NativeCall
