import NativeCall.Proofs.A64.Execution
import NativeCall.Proofs.X86.Execution

/-!
# Relative instructions

Some instructions of a processor count from their own address: branches by a distance, and
operands that lie at one. Their meaning changes with the place of the code. The decoders have no
answer for them, so assembled code has none.
-/

namespace NativeCall

namespace InstructionSet

variable {instr operation : Type}

/-- The bytes are instructions one after the other, and a test says no to each. -/
inductive Avoids (isa : InstructionSet instr operation) (test : List Byte -> Bool) :
    List Byte -> Prop where
  | nil : Avoids isa test []
  | cons {bytes rest : List Byte} {read : operation}
      (hdecode : isa.decode bytes = some (read, rest)) (htest : test bytes = false)
      (hrest : Avoids isa test rest) : Avoids isa test bytes

theorem avoids_of_assemble {isa : InstructionSet instr operation} {test : List Byte -> Bool}
    (htest : forall bytes read, isa.decode bytes = some read -> test bytes = false)
    {code : List instr} {bytes : List Byte} (hencodable : forall i, i ∈ code -> isa.Encodable i)
    (hbytes : isa.assemble code = .ok bytes) : isa.Avoids test bytes := by
  induction code generalizing bytes with
  | nil =>
      cases hbytes
      exact .nil
  | cons first code ih =>
      rcases isa.readsBack first (hencodable first List.mem_cons_self) with
        ⟨firstBytes, hfirst, hread⟩
      have hcode : forall i, i ∈ code -> isa.Encodable i := by
        intro i hmem
        exact hencodable i (List.mem_cons_of_mem first hmem)
      rcases exists_assemble hcode with ⟨rest, hrest⟩
      rw [assemble, hfirst, hrest] at hbytes
      cases hbytes
      exact .cons (hread rest) (htest _ _ (hread rest)) (ih hcode hrest)

end InstructionSet

/-!
# x86
-/

namespace X86

/-- Bytes that change how the instruction behind them works. -/
def isLegacy (byte : Nat) : Bool :=
  [0x26, 0x2E, 0x36, 0x3E, 0x64, 0x65, 0x66, 0x67, 0xF0, 0xF2, 0xF3].contains byte

/-- Branches by a distance: conditional ones, loops, calls and jumps. -/
def isRelativeBranch (opcode : Nat) : Bool :=
  opcode / 16 == 0x7 || opcode / 4 == 0xE0 / 4 || [0xE8, 0xE9, 0xEB].contains opcode

def hasOperand (opcode : Nat) : Bool :=
  opcode < 0x40 && opcode % 8 < 4 || [0x62, 0x63, 0x69, 0x6B].contains opcode ||
    opcode / 16 == 0x8 || opcode / 2 == 0xC0 / 2 || opcode / 4 == 0xC4 / 4 ||
    opcode / 4 == 0xD0 / 4 || opcode / 8 == 0xD8 / 8 || [0xF6, 0xF7, 0xFE, 0xFF].contains opcode

/-- In 64-bit mode, a place in memory without a base register lies at a distance. -/
def isRelativeOperand (mode : Mode) : List Byte -> Bool
  | [] => false
  | modRm :: _ => mode.isWide && modRm.toNat / 64 == 0 && modRm.toNat % 8 == 5

/-- Behind the escape byte stand the wide conditional branches. -/
def isRelativeEscaped (mode : Mode) : List Byte -> Bool
  | [] => false
  | opcode :: rest => opcode.toNat / 16 == 0x8 || isRelativeOperand mode rest

/-- An instruction counts from its own address that has these bytes behind its legacy bytes and
its REX byte. -/
def isRelativeOpcode (mode : Mode) : List Byte -> Bool
  | [] => false
  | opcode :: rest =>
      if opcode = 0x0F then
        isRelativeEscaped mode rest
      else
        isRelativeBranch opcode.toNat || hasOperand opcode.toNat && isRelativeOperand mode rest

/-- Whether an instruction that starts with these bytes counts from its own address. -/
def isRelative (mode : Mode) (bytes : List Byte) : Bool :=
  isRelativeOpcode mode (Rex.take mode (bytes.dropWhile fun byte => isLegacy byte.toNat)).2

theorem isRelativeOperand_of_decodeOperand {mode : Mode} {rex : Rex} {bytes : List Byte}
    {read : Byte × Rm × List Byte} (h : decodeOperand rex bytes = some read) :
    isRelativeOperand mode bytes = false := by
  cases bytes with
  | nil => cases h
  | cons modRm rest =>
      by_contra hrelative
      have hbits : modRm.toNat / 64 = 0 ∧ modRm.toNat % 8 = 5 := by
        simp only [isRelativeOperand, Bool.not_eq_false, Bool.and_eq_true, beq_iff_eq] at hrelative
        exact ⟨hrelative.left.right, hrelative.right⟩
      simp [decodeOperand, decodeBase, hbits.left, hbits.right] at h

theorem of_oneByteOperation {mode : Mode} {rex : Rex} {opcode : Nat} {reg : Byte}
    {rm : Rm} {rest : List Byte} {read : Operation × List Byte}
    (h : oneByteOperation mode rex opcode reg rm rest = some read) :
    isRelativeBranch opcode = false ∧ isLegacy opcode = false := by
  unfold oneByteOperation at h
  split at h <;> first | exact ⟨rfl, rfl⟩ | cases h

theorem of_escapedOperation {mode : Mode} {rex : Rex} {opcode : Nat} {reg : Byte} {rm : Rm}
    {rest : List Byte} {read : Operation × List Byte}
    (h : escapedOperation mode rex opcode reg rm rest = some read) :
    (opcode / 16 == 0x8) = false := by
  unfold escapedOperation at h
  split at h <;> first | rfl | cases h

theorem of_vectorOperation {single : Bool} {opcode : Nat} {reg : Byte} {rm : Rm}
    {rest : List Byte} {read : Operation × List Byte}
    (h : vectorOperation single opcode reg rm rest = some read) :
    (opcode / 16 == 0x8) = false := by
  unfold vectorOperation at h
  split at h <;> first | rfl | cases h

theorem isRelativeEscaped_of_decodeEscaped {mode : Mode} {rex : Rex} {bytes : List Byte}
    {operation : Nat -> Byte -> Rm -> List Byte -> Option (Operation × List Byte)}
    {read : Operation × List Byte}
    (hoperation : forall {opcode reg rm rest read}, operation opcode reg rm rest = some read ->
      (opcode / 16 == 0x8) = false) (h : decodeEscaped operation rex bytes = some read) :
    isRelativeEscaped mode bytes = false := by
  cases bytes with
  | nil => cases h
  | cons opcode rest =>
      rcases Option.bind_eq_some_iff.mp h with ⟨⟨reg, rm, others⟩, hoperand, hread⟩
      rw [isRelativeEscaped, hoperation hread, isRelativeOperand_of_decodeOperand hoperand]
      rfl

theorem of_decodeOneByte {mode : Mode} {rex : Rex} {opcode : Byte} {rest : List Byte}
    {read : Operation × List Byte} (hescape : opcode ≠ 0x0F)
    (h : decodeOneByte mode rex opcode rest = some read) :
    isRelativeOpcode mode (opcode :: rest) = false ∧ isLegacy opcode.toNat = false := by
  rw [isRelativeOpcode, if_neg hescape]
  unfold decodeOneByte at h
  split at h
  next hret =>
    rw [hret]
    exact ⟨rfl, rfl⟩
  next =>
    split at h
    next hload =>
      have hloads : forall k, k < 8 -> isRelativeBranch (0xB8 + k) = false ∧
          hasOperand (0xB8 + k) = false ∧ isLegacy (0xB8 + k) = false := by
        decide
      obtain ⟨k, hk, hopcode⟩ : exists k, k < 8 ∧ opcode.toNat = 0xB8 + k :=
        ⟨opcode.toNat - 0xB8, by omega, by omega⟩
      rcases hloads k hk with ⟨hbranch, hoperand, hlegacy⟩
      rw [hopcode, hbranch, hoperand]
      exact ⟨rfl, hlegacy⟩
    next =>
      rcases Option.bind_eq_some_iff.mp h with ⟨⟨reg, rm, others⟩, hoperand, hread⟩
      rcases of_oneByteOperation hread with ⟨hbranch, hlegacy⟩
      rw [hbranch, isRelativeOperand_of_decodeOperand hoperand, Bool.and_false]
      exact ⟨rfl, hlegacy⟩

theorem dropWhile_of_take {mode : Mode} {bytes rest : List Byte} {rex : Rex} {opcode : Byte}
    (htake : Rex.take mode bytes = (rex, opcode :: rest))
    (hopcode : isLegacy opcode.toNat = false) :
    bytes.dropWhile (fun byte => isLegacy byte.toNat) = bytes := by
  cases bytes with
  | nil => cases htake
  | cons byte others =>
      have hrex : forall k, k < 16 -> isLegacy (0x40 + k) = false := by
        decide
      have hbyte : isLegacy byte.toNat = false := by
        rw [Rex.take] at htake
        split at htake
        next h =>
          obtain ⟨k, hk, heq⟩ : exists k, k < 16 ∧ byte.toNat = 0x40 + k :=
            ⟨byte.toNat - 0x40, by omega, by omega⟩
          rw [heq]
          exact hrex k hk
        next =>
          cases htake
          exact hopcode
      rw [List.dropWhile_cons, if_neg (by rw [hbyte]; exact Bool.false_ne_true)]

theorem isRelative_of_take {mode : Mode} {bytes rest : List Byte} {rex : Rex} {opcode : Byte}
    (htake : Rex.take mode bytes = (rex, opcode :: rest))
    (hopcode : isLegacy opcode.toNat = false) :
    isRelative mode bytes = isRelativeOpcode mode (opcode :: rest) := by
  rw [isRelative, dropWhile_of_take htake hopcode, htake]

theorem isRelative_of_escape {mode : Mode} {bytes rest : List Byte} {rex : Rex} {opcode : Byte}
    (htake : Rex.take mode bytes = (rex, opcode :: rest)) (hescape : opcode = 0x0F) :
    isRelative mode bytes = isRelativeEscaped mode rest := by
  rw [isRelative_of_take htake (by rw [hescape]; rfl), isRelativeOpcode, if_pos hescape]

theorem isRelative_cons_of_isLegacy {mode : Mode} {first : Byte} {rest : List Byte}
    (h : isLegacy first.toNat = true) : isRelative mode (first :: rest) = isRelative mode rest := by
  rw [isRelative, List.dropWhile_cons, if_pos h, isRelative]

theorem isRelative_of_decodeVector {mode : Mode} {single : Bool} {bytes : List Byte}
    {read : Operation × List Byte} (h : decodeVector mode single bytes = some read) :
    isRelative mode bytes = false := by
  unfold decodeVector at h
  split at h
  next => cases h
  next rex escape others htake =>
    split at h
    next hescape =>
      rw [isRelative_of_escape htake hescape]
      exact isRelativeEscaped_of_decodeEscaped of_vectorOperation h
    next => cases h

theorem isRelative_of_decodePlain {mode : Mode} {bytes : List Byte}
    {read : Operation × List Byte} (h : decodePlain mode bytes = some read) :
    isRelative mode bytes = false := by
  unfold decodePlain at h
  split at h
  next => cases h
  next rex opcode others htake =>
    split at h
    next hescape =>
      rw [isRelative_of_escape htake hescape]
      exact isRelativeEscaped_of_decodeEscaped of_escapedOperation h
    next hescape =>
      rcases of_decodeOneByte hescape h with ⟨hopcode, hfirst⟩
      exact (isRelative_of_take htake hfirst).trans hopcode

theorem isRelative_of_decode {mode : Mode} {bytes : List Byte} {read : Operation × List Byte}
    (h : decode mode bytes = some read) : isRelative mode bytes = false := by
  cases bytes with
  | nil => cases h
  | cons first rest =>
      rw [decode] at h
      split at h
      next hsingle =>
        rw [isRelative_cons_of_isLegacy (by rw [hsingle]; rfl)]
        exact isRelative_of_decodeVector h
      next =>
        split at h
        next hdouble =>
          rw [isRelative_cons_of_isLegacy (by rw [hdouble]; rfl)]
          exact isRelative_of_decodeVector h
        next => exact isRelative_of_decodePlain h

/-- An address at a distance, which a program in one piece would load so. -/
example : isRelative .bits64 [0x48, 0x8D, 0x05, 0x10, 0x00, 0x00, 0x00] = true := by decide

end X86

/-!
# A64
-/

namespace A64

/-- The upper eight bits tell words that count from their own address: addresses at a distance,
branches, also conditional ones and those that test a register, and loads of constants. -/
def isRelativeWord (word : BitVec 32) : Bool :=
  let upper := (bitsAt word 24 8).toNat
  upper % 32 == 0x10 || upper / 4 % 32 == 0x05 || upper == 0x54 || upper / 2 % 64 == 0x1A ||
    upper / 2 % 64 == 0x1B || upper / 8 % 8 == 3 && upper % 4 == 0

def isRelative (bytes : List Byte) : Bool :=
  (takeValue 4 bytes).any fun (word, _) => isRelativeWord word

theorem isRelativeWord_of_decode {word : BitVec 32} {instr : Instr} (h : decode word = some instr) :
    isRelativeWord word = false := by
  have hupper : (bitsAt word 24 8).toNat = (bitsAt word 23 9).toNat / 2 := by
    simp only [bitsAt, BitVec.extractLsb'_toNat, Nat.shiftRight_eq_div_pow]
    omega
  unfold decode at h
  unfold isRelativeWord
  rw [hupper]
  generalize (bitsAt word 23 9).toNat = group at h
  unfold decodeGroup at h
  split at h <;> first | rfl | cases h

theorem isRelative_of_decode {bytes : List Byte} {read : Instr × List Byte}
    (h : decodeBytes bytes = some read) : isRelative bytes = false := by
  rcases Option.bind_eq_some_iff.mp h with ⟨⟨word, rest⟩, htake, hdecode⟩
  rcases Option.map_eq_some_iff.mp hdecode with ⟨instr, hinstr, _⟩
  rw [isRelative, htake, Option.any_some]
  exact isRelativeWord_of_decode hinstr

end A64
end NativeCall
