import Mathlib.Data.BitVec
import NativeCall.A64.Instr

/-!
# Decoding of A64 instructions

A processor reads an instruction from the fields of one word. Its upper nine bits tell the
group of the instruction, and each group has fields of its own. The decoder knows the
instructions that trampolines are made of and has no answer for others.
-/

namespace NativeCall
namespace A64

/-!
# Fields
-/

def bitsAt (word : BitVec 32) (low count : Nat) : BitVec count :=
  word.extractLsb' low count

def regAt (word : BitVec 32) (low : Nat) : Reg :=
  ⟨(bitsAt word low 5).setWidth 8⟩

def vregAt (word : BitVec 32) (low : Nat) : VReg :=
  ⟨(bitsAt word low 5).setWidth 8⟩

def offsetAt (word : BitVec 32) (access : Access) : BitVec 16 :=
  BitVec.ofNat 16 ((bitsAt word 10 12).toNat * access.scale)

/-- The signed offset of a pair, counted in steps of eight. -/
def pairOffsetAt (word : BitVec 32) : Int :=
  (bitsAt word 15 7).toInt * 8

def shiftAt (word : BitVec 32) : Byte :=
  (bitsAt word 21 2).setWidth 8 * 16

/-!
# Groups
-/

/-- A register move is the disjunction of a register that is not shifted with zero. -/
def decodeMove (word : BitVec 32) (move : Reg -> Reg -> Instr) : Option Instr :=
  if bitsAt word 21 2 = 0 ∧ bitsAt word 5 11 = 31 then
    some (move (regAt word 0) (regAt word 16))
  else
    none

/-- A sign-extension to 64 bits is a signed copy of the bits up to one. -/
def decodeSignedCopy (word : BitVec 32) : Option Instr :=
  if bitsAt word 16 7 = 0x40 then
    match (bitsAt word 10 6).toNat with
    | 7 => some (.sxtb (regAt word 0) (regAt word 5))
    | 15 => some (.sxth (regAt word 0) (regAt word 5))
    | 31 => some (.sxtw (regAt word 0) (regAt word 5))
    | _ => none
  else
    none

/-- A zero-extension is an unsigned copy of the bits up to one. -/
def decodeUnsignedCopy (word : BitVec 32) : Option Instr :=
  if bitsAt word 16 7 = 0 then
    match (bitsAt word 10 6).toNat with
    | 7 => some (.uxtb (regAt word 0) (regAt word 5))
    | 15 => some (.uxth (regAt word 0) (regAt word 5))
    | _ => none
  else
    none

/-- A branch to a register. A return goes to the link register. -/
def decodeBranch (word : BitVec 32) : Option Instr :=
  if bitsAt word 10 11 = 0x7C0 ∧ bitsAt word 0 5 = 0 then
    match (bitsAt word 21 2).toNat with
    | 0 => some (.br (regAt word 5))
    | 1 => some (.blr (regAt word 5))
    | 2 => if regAt word 5 = .lr then some .ret else none
    | _ => none
  else
    none

/-- A pair form. Bit 22 tells loads from stores. -/
def decodePair (word : BitVec 32) (loads : BitVec 1) (pair : Reg -> Reg -> Reg -> Int -> Instr) :
    Option Instr :=
  if bitsAt word 22 1 = loads then
    some (pair (regAt word 0) (regAt word 10) (regAt word 5) (pairOffsetAt word))
  else
    none

def decodeAdd (word : BitVec 32) : Option Instr :=
  if bitsAt word 22 1 = 0 then
    some (.addImm (regAt word 0) (regAt word 5) ((bitsAt word 10 12).setWidth 16))
  else
    none

/-- A comparison subtracts a constant and drops the result. -/
def decodeCompare (word : BitVec 32) (wide : Bool) : Option Instr :=
  if bitsAt word 10 13 = 0 ∧ bitsAt word 0 5 = 31 then
    some (.cmpZero (regAt word 5) wide)
  else
    none

/-- A conditional set increments zero unless the opposite condition holds. -/
def decodeConditionalSet (word : BitVec 32) : Option Instr :=
  if bitsAt word 16 7 = 31 ∧ bitsAt word 5 7 = 0x3F then
    match (bitsAt word 12 4).toNat with
    | 0 => some (.cset (regAt word 0) .ne)
    | 1 => some (.cset (regAt word 0) .eq)
    | _ => none
  else
    none

def decodeAccess (word : BitVec 32) (access : Access) : Option Instr :=
  if bitsAt word 22 1 = 0 then
    some (.str (regAt word 0) (regAt word 5) (offsetAt word access) access)
  else
    some (.ldr (regAt word 0) (regAt word 5) (offsetAt word access) access)

def decodeSignedLoad (word : BitVec 32) (access : Access) : Option Instr :=
  if bitsAt word 22 1 = 0 then
    some (.ldrs (regAt word 0) (regAt word 5) (offsetAt word access) access)
  else
    none

def decodeFloatAccess (word : BitVec 32) (access : Access) : Option Instr :=
  if bitsAt word 22 1 = 0 then
    some (.strFp (vregAt word 0) (regAt word 5) (offsetAt word access) access)
  else
    some (.ldrFp (vregAt word 0) (regAt word 5) (offsetAt word access) access)

/-!
# Instructions
-/

def decodeGroup (group : Nat) (word : BitVec 32) : Option Instr :=
  match group with
  | 0x154 => decodeMove word .mov
  | 0x054 => decodeMove word .movW
  | 0x126 => decodeSignedCopy word
  | 0x0A6 => decodeUnsignedCopy word
  | 0x1A5 => some (.movz (regAt word 0) (bitsAt word 5 16) (shiftAt word))
  | 0x1E5 => some (.movk (regAt word 0) (bitsAt word 5 16) (shiftAt word))
  | 0x1AC => decodeBranch word
  | 0x153 => decodePair word 0 .stpPre
  | 0x151 => decodePair word 1 .ldpPost
  | 0x122 => decodeAdd word
  | 0x1E2 => decodeCompare word true
  | 0x0E2 => decodeCompare word false
  | 0x035 => decodeConditionalSet word
  | 0x072 => decodeAccess word .byte
  | 0x0F2 => decodeAccess word .half
  | 0x172 => decodeAccess word .word
  | 0x1F2 => decodeAccess word .double
  | 0x073 => decodeSignedLoad word .byte
  | 0x0F3 => decodeSignedLoad word .half
  | 0x173 => decodeSignedLoad word .word
  | 0x17A => decodeFloatAccess word .single
  | 0x1FA => decodeFloatAccess word .floatDouble
  | _ => none

def decode (word : BitVec 32) : Option Instr :=
  decodeGroup (bitsAt word 23 9).toNat word

end A64
end NativeCall
