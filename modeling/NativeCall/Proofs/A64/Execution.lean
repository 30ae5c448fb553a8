import NativeCall.Proofs.A64.Machine
import NativeCall.Proofs.A64.RoundTrip

/-!
# Running assembled A64 code

Runs of instructions without jumps are taken in one go, calls and jumps one by one.
-/

namespace NativeCall
namespace A64

def Instr.isStraight : Instr -> Bool
  | .blr _ | .br _ | .ret => false
  | _ => true

namespace Core

@[simp] theorem gpr_set_self {r : Reg} (c : Core) (value : Word) (h : r ≠ .sp) :
    (c.set r value).gpr r = value := by
  simp [set, h]

theorem gpr_set_of_ne {r other : Reg} (c : Core) (value : Word) (h : other ≠ r) :
    (c.set r value).gpr other = c.gpr other := by
  unfold set
  split
  · rfl
  · exact if_neg h

theorem x_eq {r : Reg} (c : Core) (h : r ≠ .sp) : c.x r = c.gpr r :=
  if_neg h

@[simp] theorem sp_set (c : Core) (r : Reg) (value : Word) : (c.set r value).sp = c.sp := by
  unfold set
  split <;> rfl

@[simp] theorem vector_set (c : Core) (r : Reg) (value : Word) :
    (c.set r value).vector = c.vector := by
  unfold set
  split <;> rfl

@[simp] theorem memory_set (c : Core) (r : Reg) (value : Word) :
    (c.set r value).memory = c.memory := by
  unfold set
  split <;> rfl

@[simp] theorem gpr_storePair (c : Core) (a first second : Word) :
    (c.storePair a first second).gpr = c.gpr := rfl

@[simp] theorem vector_storePair (c : Core) (a first second : Word) :
    (c.storePair a first second).vector = c.vector := rfl

def effects (c : Core) (code : List Instr) : Core :=
  code.foldl effect c

@[simp] theorem effects_nil (c : Core) : c.effects [] = c := rfl

@[simp] theorem effects_cons (c : Core) (instr : Instr) (code : List Instr) :
    c.effects (instr :: code) = (c.effect instr).effects code := rfl

theorem effects_append (c : Core) (code rest : List Instr) :
    c.effects (code ++ rest) = (c.effects code).effects rest := by
  exact List.foldl_append

theorem effect_canonical (c : Core) (instr : Instr) : c.effect instr.canonical = c.effect instr := by
  cases instr with
  | ldrs rt base offset access =>
      cases access with
      | double =>
          have hwide : forall value : BitVec 64, value.setWidth 64 = value.signExtend 64 := by
            intro value
            rw [BitVec.setWidth_eq, BitVec.signExtend_eq]
          exact congrArg (c.set rt) (hwide _)
      | _ => rfl
  | _ => rfl

theorem perform_straight (c : Core) (next : Word) {instr : Instr} (h : instr.isStraight = true) :
    c.perform next instr.canonical = { c.effect instr with pc := next } := by
  rw [← c.effect_canonical instr]
  cases instr with
  | ldrs rt base offset access => cases access <;> rfl
  | blr target => cases h
  | br target => cases h
  | ret => cases h
  | _ => rfl

end Core

/-!
# Constants
-/

theorem getLsbD_insert (value : Word) (imm : BitVec 16) (shift : Nat) {i : Nat} (hi : i < 64) :
    (Core.insert value imm shift).getLsbD i =
      if shift ≤ i ∧ i < shift + 16 then imm.getLsbD (i - shift) else value.getLsbD i := by
  have hones : (0xFFFF : Word) = (BitVec.allOnes 16).setWidth 64 := by decide
  unfold Core.insert
  rw [hones, BitVec.getLsbD_or, BitVec.getLsbD_and, BitVec.getLsbD_not, BitVec.getLsbD_shiftLeft,
    BitVec.getLsbD_shiftLeft, BitVec.getLsbD_setWidth, BitVec.getLsbD_setWidth,
    BitVec.getLsbD_allOnes]
  by_cases hlow : shift ≤ i
  · by_cases hhigh : i < shift + 16
    · simp [hi, hlow, hhigh, show i - shift < 64 by omega, show i - shift < 16 by omega,
        show ¬i < shift by omega]
    · simp [hi, hhigh, show i - shift < 64 by omega, show ¬i - shift < 16 by omega,
        show ¬i < shift by omega, BitVec.getLsbD_of_ge imm (i - shift) (by omega)]
  · simp [hi, hlow, show i < shift by omega]

theorem insert_pieces (value : Word) :
    Core.insert (Core.insert (Core.insert ((value.extractLsb' 0 16).setWidth 64)
      (value.extractLsb' 16 16) 16) (value.extractLsb' 32 16) 32)
      (value.extractLsb' 48 16) 48 = value := by
  apply BitVec.eq_of_getLsbD_eq
  intro i hi
  rw [getLsbD_insert _ _ _ hi, getLsbD_insert _ _ _ hi, getLsbD_insert _ _ _ hi,
    BitVec.getLsbD_setWidth]
  simp only [BitVec.getLsbD_extractLsb']
  split
  next h =>
    rw [show 48 + (i - 48) = i by omega]
    simp [show i - 48 < 16 by omega]
  next =>
    split
    next h =>
      rw [show 32 + (i - 32) = i by omega]
      simp [show i - 32 < 16 by omega]
    next =>
      split
      next h =>
        rw [show 16 + (i - 16) = i by omega]
        simp [show i - 16 < 16 by omega]
      next =>
        rw [Nat.zero_add]
        simp [hi, show i < 16 by omega]

theorem Core.set_set (c : Core) (r : Reg) (first second : Word) :
    (c.set r first).set r second = c.set r second := by
  unfold set
  split
  · rfl
  · have hgpr : (fun other => if other = r then second else if other = r then first
        else c.gpr other) = fun other => if other = r then second else c.gpr other := by
      funext other
      split <;> rfl
    rw [hgpr]

theorem effects_movImm64 (c : Core) {dst : Reg} (value : Word) (hdst : dst ≠ .sp) :
    c.effects (Instr.movImm64 dst value) = c.set dst value := by
  have hx : forall (c : Core) (word : Word), (c.set dst word).x dst = word := by
    intro c word
    rw [Core.x_eq _ hdst, c.gpr_set_self word hdst]
  have hlow : (value.extractLsb' 0 16).setWidth 64 <<< (0 : Byte).toNat =
      (value.extractLsb' 0 16).setWidth 64 := BitVec.shiftLeft_zero _
  have hvalue := insert_pieces value
  unfold Instr.movImm64
  simp only [Core.effects_cons, Core.effects_nil, Core.effect, hx, Core.set_set, hlow]
  exact congrArg (c.set dst) hvalue

/-!
# Assembled code
-/

theorem decodeBytes_encode {instr : Instr} (h : instr.Encodable) :
    exists bytes, instr.encode = .ok bytes ∧
      forall rest, decodeBytes (bytes ++ rest) = some (instr.canonical, rest) := by
  rcases Instr.readsBack h with ⟨word, hword, hread⟩
  refine ⟨littleEndian 4 word, ?_, ?_⟩
  · rw [Instr.encode, hword]
    rfl
  · intro rest
    have hwidth : word.setWidth (8 * 4) = word := BitVec.setWidth_eq word
    rw [decodeBytes, takeValue_littleEndian, hwidth]
    simp [hread]

def isa : InstructionSet Instr Instr where
  encode := Instr.encode
  decode := decodeBytes
  Encodable := Instr.Encodable
  meaning := Instr.canonical
  readsBack := fun _ h => decodeBytes_encode h

theorem assemble_isa (code : List Instr) : isa.assemble code = assemble code := by
  induction code with
  | nil => rfl
  | cons instr code ih =>
      rw [InstructionSet.assemble, ih]
      rfl

theorem exists_assemble {code : List Instr} (h : forall instr, instr ∈ code -> instr.Encodable) :
    exists bytes, assemble code = .ok bytes := by
  rw [← assemble_isa]
  exact InstructionSet.exists_assemble h

abbrev Ahead (image : Image 64) (code : List Instr) (pc : Word) : Prop :=
  InstructionSet.Ahead isa image code pc

namespace Ahead

variable {image : Image 64} {code : List Instr}

theorem start (hencodable : forall instr, instr ∈ code -> instr.Encodable)
    (hcode : assemble code = .ok image.code) : Ahead image code image.base := by
  rw [← assemble_isa] at hcode
  exact InstructionSet.Ahead.start hencodable hcode

theorem step {instr : Instr} {s : State} (h : Ahead image (instr :: code) s.pc) :
    exists next, A64.step image s = some (s.toCore.perform next instr.canonical) ∧
      Ahead image code next := by
  rcases InstructionSet.Ahead.decode h with ⟨rest, hdecode, hahead⟩
  refine ⟨image.addressOfRest rest, ?_, hahead⟩
  exact congrArg (Option.map fun read =>
    s.toCore.perform (image.addressOfRest read.2) read.1) hdecode

end Ahead

/-!
# Runs
-/

section Runs

variable {image : Image 64} {goal : State -> Prop} {s : State}

theorem reaches_straight {body code : List Instr} (hahead : Ahead image (body ++ code) s.pc)
    (hstraight : forall instr, instr ∈ body -> instr.isStraight = true)
    (hgoal : forall t : State, t.toCore = s.toCore.effects body -> Ahead image code t.pc ->
      Reaches (step image) goal t) :
    Reaches (step image) goal s := by
  induction body generalizing s with
  | nil => exact hgoal s rfl hahead
  | cons instr body ih =>
      rcases hahead.step with ⟨next, hstep, hrest⟩
      rw [s.toCore.perform_straight next (hstraight instr List.mem_cons_self)] at hstep
      refine Reaches.later hstep (ih hrest ?_ ?_)
      · intro other hmem
        exact hstraight other (List.mem_cons_of_mem instr hmem)
      · intro t hcore hcode
        exact hgoal t hcore hcode

theorem reaches_blr {target : Reg} {code : List Instr}
    (hahead : Ahead image (.blr target :: code) s.pc)
    (hgoal : forall next (t : State), t.toCore = s.toCore.set .lr next -> t.pc = s.toCore.x target ->
      Ahead image code next -> Reaches (step image) goal t) :
    Reaches (step image) goal s := by
  rcases hahead.step with ⟨next, hstep, hrest⟩
  exact Reaches.later hstep (hgoal next _ rfl rfl hrest)

theorem reaches_br {target : Reg} {code : List Instr}
    (hahead : Ahead image (.br target :: code) s.pc)
    (hgoal : forall t : State, t.toCore = s.toCore -> t.pc = s.toCore.x target ->
      Reaches (step image) goal t) :
    Reaches (step image) goal s := by
  rcases hahead.step with ⟨next, hstep, _⟩
  exact Reaches.later hstep (hgoal _ rfl rfl)

theorem reaches_ret {code : List Instr} (hahead : Ahead image (.ret :: code) s.pc)
    (hgoal : forall t : State, t.toCore = s.toCore -> t.pc = s.toCore.x .lr ->
      Reaches (step image) goal t) :
    Reaches (step image) goal s := by
  rcases hahead.step with ⟨next, hstep, _⟩
  exact Reaches.later hstep (hgoal _ rfl rfl)

end Runs
end A64
end NativeCall
