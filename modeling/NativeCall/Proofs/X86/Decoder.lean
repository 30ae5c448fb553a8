import NativeCall.X86.Instr
import NativeCall.Proofs.Bytes

/-!
# Decoding of x86 instructions

A processor reads an instruction from its first byte on: a legacy byte, a REX byte in
64-bit mode, the opcode, the operand bytes and a constant. The decoder knows the opcodes
that trampolines are made of and has no answer for others.
-/

namespace NativeCall
namespace X86

/-- An instruction as a processor reads it. Without a REX byte, the numbers 4 to 7 of a
byte operand name the second bytes of the first four registers. -/
inductive Operation where
  | plain (instr : Instr)
  | movsxHigh (dst src : Gpr)
  | movzxHigh (dst src : Gpr)
  | setneHigh (dst : Gpr)
  deriving DecidableEq, Repr

def Mode.isWide (mode : Mode) : Bool :=
  mode == .bits64

/-!
# REX bytes
-/

/-- What a REX byte says: an operand of 64 bits, and a fourth bit for the numbers of a
register, an index register and a base register. -/
structure Rex where
  present : Bool
  wide : Bool
  reg : Nat
  index : Nat
  base : Nat
  deriving DecidableEq, Repr

namespace Rex

def absent : Rex :=
  { present := false, wide := false, reg := 0, index := 0, base := 0 }

def ofByte (byte : Byte) : Rex :=
  { present := true
    wide := byte.toNat / 8 % 2 == 1
    reg := byte.toNat / 4 % 2
    index := byte.toNat / 2 % 2
    base := byte.toNat % 2 }

/-- Take a REX byte off the code. In 32-bit mode these bytes are opcodes. -/
def take (mode : Mode) : List Byte -> Rex × List Byte
  | [] => (absent, [])
  | byte :: rest =>
      if mode = .bits64 ∧ byte.toNat / 16 = 4 then (ofByte byte, rest) else (absent, byte :: rest)

def size (rex : Rex) : Size :=
  if rex.wide then .qword else .dword

/-- The register whose second byte a byte operand names. -/
def highByte? (rex : Rex) : Rm -> Option Gpr
  | .reg r =>
      if !rex.present ∧ 4 ≤ r.number.toNat ∧ r.number.toNat < 8 then some ⟨r.number - 4⟩ else none
  | .mem _ => none

end Rex

/-!
# Operands
-/

def joinNumber (high low : Nat) : Byte :=
  BitVec.ofNat 8 (8 * high + low)

/-- The base register of a place in memory. The number 4 announces a further byte, which
names the base and an index; places with an index are not read. -/
def decodeBase (rex : Rex) (form low : Nat) (rest : List Byte) : Option (Byte × List Byte) :=
  if low = 4 then
    match rest with
    | [] => none
    | scale :: rest =>
        let base := scale.toNat % 8
        if rex.index = 0 ∧ scale.toNat / 8 % 8 = 4 ∧ ¬(form = 0 ∧ base = 5) then
          some (joinNumber rex.base base, rest)
        else
          none
  else if form = 0 ∧ low = 5 then
    none
  else
    some (joinNumber rex.base low, rest)

def decodeDisplacement (form : Nat) (rest : List Byte) : Option (BitVec 32 × List Byte) :=
  match form with
  | 0 => some (0, rest)
  | 1 => (takeValue 1 rest).map fun (disp, rest) => (disp.signExtend 32, rest)
  | _ => takeValue 4 rest

def decodeOperand (rex : Rex) : List Byte -> Option (Byte × Rm × List Byte)
  | [] => none
  | modRm :: rest =>
      let form := modRm.toNat / 64
      let reg := joinNumber rex.reg (modRm.toNat / 8 % 8)
      let low := modRm.toNat % 8
      if form = 3 then
        some (reg, .reg ⟨joinNumber rex.base low⟩, rest)
      else do
        let (base, rest) <- decodeBase rex form low rest
        let (disp, rest) <- decodeDisplacement form rest
        return (reg, .mem ⟨⟨base⟩, disp⟩, rest)

/-!
# Opcodes
-/

def constantOperation (mode : Mode) (rex : Rex) (extension : Nat) (dst : Gpr)
    (constant : Option (BitVec 32 × List Byte)) : Option (Operation × List Byte) :=
  if rex.wide = mode.isWide then
    match extension with
    | 0 => constant.map fun (imm, rest) => (.plain (.addImm dst imm), rest)
    | 5 => constant.map fun (imm, rest) => (.plain (.subImm dst imm), rest)
    | _ => none
  else
    none

/-- An opcode of one byte with operand bytes. Some opcodes use the place of the register
number for an extension of their own. -/
def oneByteOperation (mode : Mode) (rex : Rex) (opcode : Nat) (reg : Byte) (rm : Rm)
    (rest : List Byte) : Option (Operation × List Byte) :=
  match opcode, rm with
  | 0x63, rm =>
      if mode.isWide && rex.wide then some (.plain (.movsx ⟨reg⟩ rm .dword), rest) else none
  | 0x8B, rm => some (.plain (.mov ⟨reg⟩ rm rex.size), rest)
  | 0x89, .mem place => some (.plain (.store place ⟨reg⟩ rex.size), rest)
  | 0x89, .reg dst => some (.plain (.mov dst (.reg ⟨reg⟩) rex.size), rest)
  | 0x31, .reg dst => some (.plain (.xor dst ⟨reg⟩ rex.size), rest)
  | 0x09, .reg dst => some (.plain (.or dst ⟨reg⟩ rex.size), rest)
  | 0x85, .reg left => some (.plain (.test left ⟨reg⟩ rex.size), rest)
  | 0xC1, .reg dst =>
      if reg.toNat % 8 = 7 then
        (takeValue 1 rest).map fun (count, rest) => (.plain (.sar dst count rex.size), rest)
      else
        none
  | 0x83, .reg dst =>
      constantOperation mode rex (reg.toNat % 8) dst
        ((takeValue 1 rest).map fun (imm, rest) => (imm.signExtend 32, rest))
  | 0x81, .reg dst => constantOperation mode rex (reg.toNat % 8) dst (takeValue 4 rest)
  | 0xFF, .reg target =>
      match reg.toNat % 8 with
      | 2 => some (.plain (.call target), rest)
      | 4 => some (.plain (.jmp target), rest)
      | _ => none
  | 0xD9, .mem place =>
      match reg.toNat % 8 with
      | 0 => some (.plain (.fld place .dword), rest)
      | 3 => some (.plain (.fstp place .dword), rest)
      | _ => none
  | 0xDD, .mem place =>
      match reg.toNat % 8 with
      | 0 => some (.plain (.fld place .qword), rest)
      | 3 => some (.plain (.fstp place .qword), rest)
      | _ => none
  | _, _ => none

/-- An opcode behind the escape byte. A zero-extension reaches the whole register in either
operand size, a sign-extension in the full one only. -/
def escapedOperation (mode : Mode) (rex : Rex) (opcode : Nat) (reg : Byte) (rm : Rm)
    (rest : List Byte) : Option (Operation × List Byte) :=
  match opcode with
  | 0xB6 =>
      match rex.highByte? rm with
      | some src => some (.movzxHigh ⟨reg⟩ src, rest)
      | none => some (.plain (.movzx ⟨reg⟩ rm .byte), rest)
  | 0xB7 => some (.plain (.movzx ⟨reg⟩ rm .word), rest)
  | 0xBE =>
      if rex.wide = mode.isWide then
        match rex.highByte? rm with
        | some src => some (.movsxHigh ⟨reg⟩ src, rest)
        | none => some (.plain (.movsx ⟨reg⟩ rm .byte), rest)
      else
        none
  | 0xBF => if rex.wide = mode.isWide then some (.plain (.movsx ⟨reg⟩ rm .word), rest) else none
  | 0x95 =>
      match rm, rex.highByte? rm with
      | .reg _, some dst => some (.setneHigh dst, rest)
      | .reg dst, none => some (.plain (.setne dst), rest)
      | .mem _, _ => none
  | _ => none

/-- A vector move between a register and memory, its precision told by the legacy byte. -/
def vectorOperation (single : Bool) (opcode : Nat) (reg : Byte) (rm : Rm) (rest : List Byte) :
    Option (Operation × List Byte) :=
  match opcode, rm with
  | 0x10, .mem place =>
      some (.plain (if single then .movssLoad ⟨reg⟩ place else .movsdLoad ⟨reg⟩ place), rest)
  | 0x11, .mem place =>
      some (.plain (if single then .movssStore place ⟨reg⟩ else .movsdStore place ⟨reg⟩), rest)
  | _, _ => none

/-!
# Instructions
-/

def decodeEscaped
    (operation : Nat -> Byte -> Rm -> List Byte -> Option (Operation × List Byte)) (rex : Rex) :
    List Byte -> Option (Operation × List Byte)
  | [] => none
  | opcode :: rest => do
      let (reg, rm, rest) <- decodeOperand rex rest
      operation opcode.toNat reg rm rest

/-- An instruction whose opcode has one byte. Eight opcodes hold a register number and
load a constant into that register. -/
def decodeOneByte (mode : Mode) (rex : Rex) (opcode : Byte) (rest : List Byte) :
    Option (Operation × List Byte) :=
  if opcode.toNat = 0xC3 then
    some (.plain .ret, rest)
  else if opcode.toNat / 8 = 0xB8 / 8 then
    let dst : Gpr := ⟨joinNumber rex.base (opcode.toNat % 8)⟩
    if rex.wide then
      (takeValue 8 rest).map fun (imm, rest) => (.plain (.movImm dst imm .qword), rest)
    else
      (takeValue 4 rest).map fun (imm, rest) =>
        (.plain (.movImm dst (imm.setWidth 64) .dword), rest)
  else do
    let (reg, rm, rest) <- decodeOperand rex rest
    oneByteOperation mode rex opcode.toNat reg rm rest

def decodeVector (mode : Mode) (single : Bool) (bytes : List Byte) :
    Option (Operation × List Byte) :=
  match Rex.take mode bytes with
  | (_, []) => none
  | (rex, escape :: rest) =>
      if escape = 0x0F then decodeEscaped (vectorOperation single) rex rest else none

def decodePlain (mode : Mode) (bytes : List Byte) : Option (Operation × List Byte) :=
  match Rex.take mode bytes with
  | (_, []) => none
  | (rex, opcode :: rest) =>
      if opcode = 0x0F then decodeEscaped (escapedOperation mode rex) rex rest
      else decodeOneByte mode rex opcode rest

def decode (mode : Mode) : List Byte -> Option (Operation × List Byte)
  | [] => none
  | first :: rest =>
      if first = 0xF3 then decodeVector mode true rest
      else if first = 0xF2 then decodeVector mode false rest
      else decodePlain mode (first :: rest)

end X86
end NativeCall
