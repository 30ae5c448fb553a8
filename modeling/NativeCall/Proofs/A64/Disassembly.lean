import NativeCall.Proofs.A64.Execution
import NativeCall.Proofs.A64.Layout
import NativeCall.Proofs.Disassembly

/-!
# Disassembly of A64 code

A program is one word after the other. Each word is read back as its instruction, whatever
the operands are. A line of a program is an instruction, a zero-extension of a word, which is
a move, or a constant of 64 bits, which takes four instructions.
-/

namespace NativeCall
namespace A64

def disassemble (bytes : List Byte) : Option (List Instr) :=
  isa.disassemble bytes

inductive Line where
  | plain (instr : Instr)
  | uxtw (dst src : Reg)
  | movImm64 (dst : Reg) (value : Word)
  deriving DecidableEq, Repr

def wordBytes (layouts : List Layout) : List Byte :=
  layouts.flatMap fun layout => littleEndian 4 layout.word

namespace Line

def instrs : Line -> List Instr
  | .plain instr => [instr]
  | .uxtw dst src => [Instr.uxtw dst src]
  | .movImm64 dst value => Instr.movImm64 dst value

def encode (line : Line) : Except Fault (List Byte) :=
  assemble line.instrs

def Encodable : Line -> Prop
  | .plain instr => instr.Encodable
  | .uxtw dst src => dst.IsNamed ∧ src.IsNamed
  | .movImm64 dst _ => dst.IsNamed

def layouts (line : Line) : List Layout :=
  line.instrs.map (·.layout)

/-- What a processor reads of the line: its instructions in the form that words have. -/
def meaning (line : Line) : List Instr :=
  line.instrs.map (·.canonical)

/-- The line is made of whole words, each with its operands in fields of their own, and these
are read back as the line. -/
structure IsRoundTrip (line : Line) : Prop where
  encodes : line.encode = .ok (wordBytes line.layouts)
  apart : forall layout, layout ∈ line.layouts -> layout.IsApart ∧
    forall field, field ∈ layout.fields ->
      bitsAt layout.word field.low field.width = field.value
  decodes : line.layouts.map (fun layout => decode layout.word) = line.meaning.map some
  reads : disassemble (wordBytes line.layouts) = some line.meaning

end Line

def encodeLines (lines : List Line) : Except Fault (List Byte) :=
  assemble (lines.flatMap (·.instrs))

/-!
# Words of instructions
-/

theorem assemble_eq_wordBytes {code : List Instr}
    (h : forall instr, instr ∈ code -> instr.Encodable) :
    assemble code = .ok (wordBytes (code.map (·.layout))) := by
  induction code with
  | nil => rfl
  | cons instr code ih =>
      have hinstr : instr.encode = .ok (littleEndian 4 instr.layout.word) := by
        rw [Instr.encode, Instr.word_eq_layout (h instr List.mem_cons_self)]
        rfl
      rw [assemble, hinstr, ih fun other hmem => h other (List.mem_cons_of_mem instr hmem)]
      rfl

theorem disassemble_wordBytes {code : List Instr}
    (h : forall instr, instr ∈ code -> instr.Encodable) :
    disassemble (wordBytes (code.map (·.layout))) = some (code.map (·.canonical)) := by
  have hnil : isa.decode [] = none := rfl
  have hbytes := assemble_eq_wordBytes h
  rw [← assemble_isa] at hbytes
  exact InstructionSet.disassemble_assemble hnil h hbytes

/-!
# Lines
-/

namespace Line

theorem encodable_instrs {line : Line} (h : line.Encodable) :
    forall instr, instr ∈ line.instrs -> instr.Encodable := by
  cases line with
  | plain instr => exact List.forall_mem_singleton.mpr h
  | uxtw dst src => exact List.forall_mem_singleton.mpr h
  | movImm64 dst value =>
      have hdst : dst.IsNamed := h
      simp [instrs, Instr.movImm64, Instr.Encodable, IsShift, hdst]

theorem isRoundTrip {line : Line} (h : line.Encodable) : line.IsRoundTrip where
  encodes := assemble_eq_wordBytes (encodable_instrs h)
  apart := by
    intro layout hmem
    rcases List.mem_map.mp hmem with ⟨instr, _, rfl⟩
    exact ⟨instr.isApart_layout, fun _ => instr.isApart_layout.bitsAt_word⟩
  decodes := by
    unfold layouts meaning
    rw [List.map_map, List.map_map]
    exact List.map_congr_left fun instr hmem => Instr.decode_layout (encodable_instrs h instr hmem)
  reads := disassemble_wordBytes (encodable_instrs h)

/-- The four words of a constant write it into their register. The zero register stays zero. -/
theorem effects_meaning_movImm64 (c : Core) (dst : Reg) (value : Word) :
    c.effects (Line.movImm64 dst value).meaning = c.set dst value := by
  by_cases hdst : dst = .sp
  · -- Number 31 is the zero register here, and writes to it are dropped.
    rw [hdst]
    rfl
  · exact effects_movImm64 c value hdst

end Line

/-!
# Programs
-/

/-- A program is read back line by line, without a byte left, as itself. A constant is in its
register after its four words, whatever its value. -/
theorem encodeLines_reads_back {lines : List Line}
    (h : forall line, line ∈ lines -> line.Encodable) :
    (forall line, line ∈ lines -> line.IsRoundTrip) ∧
      encodeLines lines = .ok (wordBytes (lines.flatMap (·.layouts))) ∧
      disassemble (wordBytes (lines.flatMap (·.layouts))) = some (lines.flatMap (·.meaning)) ∧
      forall dst value, Line.movImm64 dst value ∈ lines -> forall c : Core,
        c.effects (Line.movImm64 dst value).meaning = c.set dst value ∧
          (dst ≠ .sp -> (c.effects (Line.movImm64 dst value).meaning).x dst = value) := by
  have hinstrs : forall instr, instr ∈ lines.flatMap (·.instrs) -> instr.Encodable := by
    intro instr hmem
    rcases List.mem_flatMap.mp hmem with ⟨line, hline, hinstr⟩
    exact Line.encodable_instrs (h line hline) instr hinstr
  have hlayouts : (lines.flatMap (·.instrs)).map (·.layout) = lines.flatMap (·.layouts) :=
    List.map_flatMap
  refine ⟨fun line hmem => Line.isRoundTrip (h line hmem), ?_, ?_, ?_⟩
  · rw [← hlayouts]
    exact assemble_eq_wordBytes hinstrs
  · have hread := disassemble_wordBytes hinstrs
    rw [hlayouts, List.map_flatMap] at hread
    exact hread
  · intro dst value _ c
    have heffects := Line.effects_meaning_movImm64 c dst value
    refine ⟨heffects, fun hdst => ?_⟩
    rw [heffects, Core.x_eq _ hdst, c.gpr_set_self value hdst]

/-- The lowest offset of a pair, the highest ones of accesses, a condition that is encoded as
its opposite, and a constant with all bits of its second and fourth piece. -/
def sampleLines : List Line :=
  [ .plain (.stpPre .fp .lr .sp (-512)), .plain (.addImm .fp .sp 4095),
    .plain (.ldrs .x9 .x0 8190 .half), .plain (.ldrs .x0 .fp 32760 .double),
    .plain (.strFp ⟨31⟩ .sp 16380 .single), .plain (.cset .x0 .ne), .plain (.cmpZero .x9 false),
    .uxtw .x0 .x9, .movImm64 .x9 0xFFFF_0000_FFFF_0000, .plain (.blr .x9), .plain .ret ]

theorem encodeLines_reads_back_sample :
    (forall line, line ∈ sampleLines -> line.Encodable) ∧
      encodeLines sampleLines =
        .ok [0xFD, 0x7B, 0xA0, 0xA9, 0xFD, 0xFF, 0x3F, 0x91, 0x09, 0xFC, 0xBF, 0x79, 0xA0, 0xFF,
          0x7F, 0xF9, 0xFF, 0xFF, 0x3F, 0xBD, 0xE0, 0x07, 0x9F, 0x1A, 0x3F, 0x01, 0x00, 0x71, 0xE0,
          0x03, 0x09, 0x2A, 0x09, 0x00, 0x80, 0xD2, 0xE9, 0xFF, 0xBF, 0xF2, 0x09, 0x00, 0xC0, 0xF2,
          0xE9, 0xFF, 0xFF, 0xF2, 0x20, 0x01, 0x3F, 0xD6, 0xC0, 0x03, 0x5F, 0xD6] ∧
      disassemble (wordBytes (sampleLines.flatMap (·.layouts))) =
        some (sampleLines.flatMap (·.meaning)) ∧
      forall c : Core,
        (c.effects (Line.movImm64 .x9 0xFFFF_0000_FFFF_0000).meaning).x .x9 =
          0xFFFF_0000_FFFF_0000 := by
  have hpair : IsPairOffset (-512) := ⟨by decide, by decide, by decide⟩
  have hhalf : IsOffset .half 8190 := ⟨by decide, by decide⟩
  have hdouble : IsOffset .double 32760 := ⟨by decide, by decide⟩
  have hsingle : IsOffset .single 16380 := ⟨by decide, by decide⟩
  have hlines : forall line, line ∈ sampleLines -> line.Encodable := by
    simpa [sampleLines, Line.Encodable, Instr.Encodable, Reg.IsNamed, VReg.IsNamed,
      Access.IsInteger, Access.IsFloat, Reg.x0, Reg.x9, Reg.fp, Reg.lr, Reg.sp] using
      ⟨hpair, hhalf, hdouble, hsingle⟩
  rcases encodeLines_reads_back hlines with ⟨_, _, hread, hconstants⟩
  have hmem : Line.movImm64 .x9 0xFFFF_0000_FFFF_0000 ∈ sampleLines := by
    decide
  exact ⟨hlines, by decide +kernel, hread, fun c => (hconstants _ _ hmem c).right (by decide)⟩

end A64
end NativeCall
