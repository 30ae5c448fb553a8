import NativeCall.Proofs.Disassembly
import NativeCall.Proofs.X86.Execution

/-!
# Disassembly of x86 code

The bytes of a program are read back as the program, whatever its instructions and operands
are. A line of a program is an instruction, or a call or jump to an absolute address, which
takes two instructions.
-/

namespace NativeCall
namespace X86

def disassemble (mode : Mode) (bytes : List Byte) : Option (List Operation) :=
  (isa mode).disassemble bytes

inductive Line where
  | plain (instr : Instr)
  | callAbs (scratch : Gpr) (address : Address)
  | jmpAbs (scratch : Gpr) (address : Address)
  deriving DecidableEq, Repr

namespace Line

def instrs (mode : Mode) : Line -> List Instr
  | .plain instr => [instr]
  | .callAbs scratch address => Instr.callAbs mode scratch address
  | .jmpAbs scratch address => Instr.jmpAbs mode scratch address

def encode (mode : Mode) (line : Line) : Except Fault (List Byte) :=
  assemble mode (line.instrs mode)

def Encodable (mode : Mode) : Line -> Prop
  | .plain instr => instr.Encodable mode
  | .callAbs scratch _ | .jmpAbs scratch _ => mode.Names scratch.number

/-- What a processor reads of the line: its instructions in the form that encodings have. -/
def meaning (mode : Mode) (line : Line) : List Operation :=
  (line.instrs mode).map fun instr => .plain instr.canonical

end Line

def encodeLines (mode : Mode) (lines : List Line) : Except Fault (List Byte) :=
  assemble mode (lines.flatMap (·.instrs mode))

section ReadBack

variable {mode : Mode}

theorem Mode.hasSize_wordSize (mode : Mode) : mode.HasSize mode.wordSize := by
  cases mode with
  | bits32 => exact .inl rfl
  | bits64 => exact .inr ⟨rfl, rfl⟩

theorem Line.encodable_instrs {line : Line} (h : line.Encodable mode) :
    forall instr, instr ∈ line.instrs mode -> instr.Encodable mode := by
  cases line with
  | plain instr => exact List.forall_mem_singleton.mpr h
  | callAbs scratch address | jmpAbs scratch address =>
      intro instr hmem
      rcases List.mem_pair.mp hmem with rfl | rfl
      · exact ⟨h, mode.hasSize_wordSize⟩
      · exact h

theorem decode_nil (mode : Mode) : (isa mode).decode [] = none :=
  rfl

theorem exists_linePieces {lines : List Line}
    (h : forall line, line ∈ lines -> line.Encodable mode) :
    exists pieces : List (List Byte),
      List.Forall₂
        (fun line piece => line.encode mode = .ok piece ∧
          disassemble mode piece = some (line.meaning mode))
        lines pieces ∧
      encodeLines mode lines = .ok pieces.flatten := by
  have hsteps : forall step, step ∈ lines.map (Line.instrs mode) ->
      forall instr, instr ∈ step -> (isa mode).Encodable instr := by
    intro step hstep
    rcases List.mem_map.mp hstep with ⟨line, hmem, rfl⟩
    exact Line.encodable_instrs (h line hmem)
  rcases InstructionSet.exists_pieces (decode_nil mode) hsteps with ⟨pieces, hpieces, hbytes⟩
  rw [assemble_isa, ← List.flatMap_def] at hbytes
  refine ⟨pieces, ?_, hbytes⟩
  apply (List.forall₂_map_left_iff.mp hpieces).imp
  intro line piece hpiece
  rw [assemble_isa] at hpiece
  exact hpiece

theorem disassemble_of_encodeLines {lines : List Line} {bytes : List Byte}
    (h : forall line, line ∈ lines -> line.Encodable mode)
    (hbytes : encodeLines mode lines = .ok bytes) :
    disassemble mode bytes = some (lines.flatMap (·.meaning mode)) := by
  have hinstrs : forall instr, instr ∈ lines.flatMap (·.instrs mode) ->
      (isa mode).Encodable instr := by
    intro instr hmem
    rcases List.mem_flatMap.mp hmem with ⟨line, hline, hinstr⟩
    exact Line.encodable_instrs (h line hline) instr hinstr
  rw [encodeLines, ← assemble_isa] at hbytes
  have hread := InstructionSet.disassemble_assemble (decode_nil mode) hinstrs hbytes
  rw [List.map_flatMap] at hread
  exact hread

/-- A program in 64-bit code is read back line by line, without a byte left, as itself. -/
theorem disassemble_encodeLines {lines : List Line}
    (h : forall line, line ∈ lines -> line.Encodable .bits64) :
    exists pieces : List (List Byte),
      List.Forall₂
        (fun line piece => line.encode .bits64 = .ok piece ∧
          disassemble .bits64 piece = some (line.meaning .bits64))
        lines pieces ∧
      encodeLines .bits64 lines = .ok pieces.flatten ∧
      disassemble .bits64 pieces.flatten = some (lines.flatMap (·.meaning .bits64)) := by
  rcases exists_linePieces h with ⟨pieces, hpieces, hbytes⟩
  exact ⟨pieces, hpieces, hbytes, disassemble_of_encodeLines h hbytes⟩

end ReadBack

/-- The base registers 4 and 12 take a further byte, 13 takes a displacement, the byte register
6 takes a REX byte, and 128 is too large for a displacement of one byte. -/
def sampleLines : List Line :=
  [ .plain (.movsx .rcx (.reg .rsi) .byte), .plain (.store ⟨⟨12⟩, 0⟩ .rax .qword),
    .plain (.mov .r9 (.mem ⟨⟨13⟩, 0⟩) .dword), .plain (.movssLoad ⟨9⟩ ⟨.rsp, -128⟩),
    .plain (.fld ⟨.rsp, 128⟩ .qword), .plain (.movImm .rax 0x1_0000_0002 .dword),
    .callAbs .r11 0x1000, .plain .ret ]

theorem disassemble_encodeLines_sample :
    (forall line, line ∈ sampleLines -> line.Encodable .bits64) ∧
      encodeLines .bits64 sampleLines =
        .ok [0x48, 0x0F, 0xBE, 0xCE, 0x49, 0x89, 0x04, 0x24, 0x45, 0x8B, 0x4D, 0x00, 0xF3, 0x44,
          0x0F, 0x10, 0x4C, 0x24, 0x80, 0xDD, 0x84, 0x24, 0x80, 0x00, 0x00, 0x00, 0xB8, 0x02, 0x00,
          0x00, 0x00, 0x49, 0xBB, 0x00, 0x10, 0x00, 0x00, 0x00, 0x00, 0x00, 0x00, 0x41, 0xFF, 0xD3,
          0xC3] ∧
      exists pieces : List (List Byte), encodeLines .bits64 sampleLines = .ok pieces.flatten ∧
        disassemble .bits64 pieces.flatten =
          some (sampleLines.flatMap (·.meaning .bits64)) := by
  have hlines : forall line, line ∈ sampleLines -> line.Encodable .bits64 := by
    simp [sampleLines, Line.Encodable, Instr.Encodable, Mode.NamesByte, Mode.HasSize, Mode.Names,
      Mode.registerCount, Rm.number, Gpr.rax, Gpr.rcx, Gpr.rsp, Gpr.rsi, Gpr.r9, Gpr.r11]
  rcases disassemble_encodeLines hlines with ⟨pieces, _, hbytes, hread⟩
  exact ⟨hlines, by decide +kernel, pieces, hbytes, hread⟩

end X86
end NativeCall
