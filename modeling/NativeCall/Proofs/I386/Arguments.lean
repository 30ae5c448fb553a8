import NativeCall.Proofs.I386.Convention
import NativeCall.Proofs.Outcome

/-!
# Argument moves on i386

Each move fills its own part of the argument block from a host slot that lies above the
block, so it neither changes what later moves read nor what earlier ones wrote.
-/

namespace NativeCall
namespace I386

open X86 (Core Gpr Instr Rm Size State)

/-!
# Offsets
-/

theorem of_addOffsets_eq_ok {a b c : Int} (h : addOffsets a b = .ok c) :
    c = a + b ∧ c < offsetLimit := by
  unfold addOffsets at h
  split at h
  next hrange =>
    cases h
    exact ⟨rfl, hrange.right⟩
  next => cases h

theorem addOffsets_eq_ok {a b : Nat} (h : a + b < 2 ^ 31) :
    addOffsets a b = .ok ((a + b : Nat) : Int) := by
  have hlimit : offsetLimit = 2 ^ 31 := rfl
  have hrange : -offsetLimit ≤ (a : Int) + b ∧ (a : Int) + b < offsetLimit := by omega
  rw [addOffsets, if_pos hrange, Int.natCast_add]

theorem address_stack (c : Core 32) (n : Nat) :
    c.address (stack n) = c.gpr .esp + BitVec.ofNat 32 n := by
  show c.gpr .esp + (BitVec.ofInt 32 n).signExtend 32 = _
  rw [BitVec.signExtend_eq, BitVec.ofInt_natCast]

/-!
# What a move may change
-/

/-- Nothing has changed but the accumulator, flags and some bytes above the stack pointer. -/
structure Fills (c filled : Core 32) (dst size : Nat) : Prop where
  gpr : forall r, r ≠ .eax -> filled.gpr r = c.gpr r
  apart : forall n count, n + count ≤ 2 ^ 32 -> n + count ≤ dst ∨ dst + size ≤ n ->
    filled.memory.read count (c.gpr .esp + BitVec.ofNat 32 n) =
      c.memory.read count (c.gpr .esp + BitVec.ofNat 32 n)

namespace Fills

variable {c middle filled : Core 32} {dst size more : Nat}

theorem esp (h : Fills c filled dst size) : filled.gpr .esp = c.gpr .esp :=
  h.gpr .esp (by decide)

theorem trans (h : Fills c middle dst size) (hnext : Fills middle filled (dst + size) more) :
    Fills c filled dst (size + more) where
  gpr := by
    intro r hne
    rw [hnext.gpr r hne, h.gpr r hne]
  apart := by
    intro n count htop hapart
    have hlast := hnext.apart n count htop (by omega)
    rw [h.esp] at hlast
    rw [hlast]
    exact h.apart n count htop (by omega)

theorem set (c : Core 32) (value : BitVec 32) (dst : Nat) :
    Fills c (c.set .eax value) dst 0 where
  gpr := by
    intro r hne
    exact c.gpr_set_of_ne value hne
  apart := by
    intro n count _ _
    rfl

theorem save (c : Core 32) {dst : Nat} (hdst : dst + 4 ≤ 2 ^ 32) :
    Fills c (c.effect (I386.save dst)) dst 4 where
  gpr := by
    intro r _
    rfl
  apart := by
    intro n count htop hapart
    show (c.memory.write 4 (c.address (stack dst)) _).read count _ = _
    rw [address_stack]
    exact Memory.read_write_apart c.memory _ _ htop hdst hapart

end Fills

theorem read_save (c : Core 32) (dst : Nat) :
    (c.effect (save dst)).memory.read 4 (c.gpr .esp + BitVec.ofNat 32 dst) = c.gpr .eax := by
  show (c.memory.write 4 (c.address (stack dst)) ((c.gpr .eax).setWidth 32)).read 4 _ = _
  rw [address_stack, Memory.read_write_self _ _ _ (by decide)]
  exact BitVec.setWidth_eq _

theorem gpr_effect_save (c : Core 32) (dst : Int) : (c.effect (save dst)).gpr = c.gpr :=
  rfl

theorem effect_load (c : Core 32) (src : Nat) :
    c.effect (load src) =
      c.set .eax (c.memory.read 4 (c.gpr .esp + BitVec.ofNat 32 src)) := by
  show c.set .eax ((c.memory.read 4 (c.address (stack src))).setWidth 32) = _
  rw [address_stack]
  exact congrArg (c.set .eax) (BitVec.setWidth_eq _)

/-!
# Extensions
-/

def operandWord (c : Core 32) (rm : Rm) : BitVec 32 :=
  c.operand .dword rm

theorem operandWord_reg (c : Core 32) (r : Gpr) : operandWord c (.reg r) = c.gpr r :=
  BitVec.setWidth_eq _

theorem operandWord_stack (c : Core 32) (src : Nat) :
    operandWord c (.mem (stack src)) = c.memory.read 4 (c.gpr .esp + BitVec.ofNat 32 src) := by
  show c.memory.read 4 (c.address (stack src)) = _
  rw [address_stack]

theorem operand_eq_setWidth (c : Core 32) {size : Size} (rm : Rm) (hsize : size.bytes ≤ 4) :
    c.operand size rm = (operandWord c rm).setWidth (8 * size.bytes) := by
  cases rm with
  | reg r => exact congrArg (BitVec.setWidth (8 * size.bytes)) (operandWord_reg c r).symm
  | mem place => exact (Memory.read_setWidth c.memory (c.address place) hsize).symm

theorem setWidth_bits (kind : ValueClass) (word : BitVec 32) :
    (word.setWidth 64).setWidth kind.width.bits = word.setWidth kind.width.bits :=
  BitVec.setWidth_setWidth_of_le word kind.width.bits_le

theorem extendWord_of_signed {kind : ValueClass} (word : BitVec 32)
    (hsigned : kind.isSigned = true) :
    extendWord kind word = (word.setWidth kind.width.bits).signExtend 32 := by
  rw [extendWord, HostValue.extend, if_pos hsigned, Bits.setWidth_signExtend_of_le _ (by decide),
    setWidth_bits]

theorem extendWord_of_unsigned {kind : ValueClass} (word : BitVec 32)
    (hsigned : kind.isSigned ≠ true) :
    extendWord kind word = (word.setWidth kind.width.bits).setWidth 32 := by
  rw [extendWord, HostValue.extend, if_neg hsigned,
    BitVec.setWidth_setWidth_of_le _ (by decide), setWidth_bits]

theorem extendWord_of_w32 {kind : ValueClass} (word : BitVec 32) (h : kind.width = .w32) :
    extendWord kind word = word := by
  have hbits : kind.width.bits = 32 := by rw [h]; rfl
  have hlow := HostValue.setWidth_extend kind (word.setWidth 64)
  rw [hbits] at hlow
  exact hlow.trans (by rw [BitVec.setWidth_setWidth_of_le _ (by decide), BitVec.setWidth_eq])

theorem effect_extendNarrow (c : Core 32) (rm : Rm) {kind : ValueClass} {size : Size}
    (hsize : narrowSize? kind.width = some size) :
    c.effect (extendNarrow rm kind size) = c.set .eax (extendWord kind (operandWord c rm)) := by
  have hsmall : size.bytes ≤ 4 := by
    cases hwidth : kind.width <;> rw [hwidth] at hsize <;> cases hsize <;> decide
  have hlow := operand_eq_setWidth c rm hsmall
  unfold extendNarrow
  split
  next hsigned =>
    show c.set .eax ((c.operand size rm).signExtend 32) = _
    rw [hlow, extendWord_of_signed _ hsigned]
    cases hwidth : kind.width <;> rw [hwidth] at hsize <;> cases hsize <;> rfl
  next hunsigned =>
    show c.set .eax ((c.operand size rm).setWidth 32) = _
    rw [hlow, extendWord_of_unsigned _ hunsigned]
    cases hwidth : kind.width <;> rw [hwidth] at hsize <;> cases hsize <;> rfl

/-!
# One argument
-/

theorem nativeSize_of_w64 {kind : ValueClass} (h : kind.width = .w64) : nativeSize kind = 8 := by
  rw [nativeSize, h]
  rfl

theorem nativeSize_of_ne_w64 {kind : ValueClass} (h : kind.width ≠ .w64) : nativeSize kind = 4 := by
  unfold nativeSize
  cases hwidth : kind.width with
  | w64 => exact absurd hwidth h
  | _ => rfl

theorem Passes.congr {kind : ValueClass} {host : HostType} {slots slots' block block' : Memory 32}
    {src dst : BitVec 32} (h : Passes kind host slots src block dst)
    (hslots : forall count, count ≤ 8 -> slots'.read count src = slots.read count src)
    (hblock : block'.read (nativeSize kind) dst = block.read (nativeSize kind) dst) :
    Passes kind host slots' src block' dst := by
  unfold Passes at h ⊢
  by_cases hwide : kind.width = .w64
  · rw [nativeSize_of_w64 hwide] at hblock
    rw [if_pos hwide] at h ⊢
    rw [hblock, hslots 8 (by decide), hslots 4 (by decide)]
    exact h
  · rw [nativeSize_of_ne_w64 hwide] at hblock
    rw [if_neg hwide] at h ⊢
    rw [hblock, hslots 4 (by decide)]
    exact h

/-- A word that fills the accumulator and is saved is found in the block. -/
theorem save_word (c : Core 32) (word : BitVec 32) {dst : Nat} (hdst : dst + 4 ≤ 2 ^ 32) :
    Fills c ((c.set .eax word).effect (save dst)) dst 4 ∧
      ((c.set .eax word).effect (save dst)).memory.read 4 (c.gpr .esp + BitVec.ofNat 32 dst) =
        word := by
  constructor
  · exact (Fills.set c word dst).trans (Fills.save _ hdst)
  · have hread := read_save (c.set .eax word) dst
    rw [c.gpr_set_self] at hread
    exact hread

theorem copyArgument_narrow {slot : Slot} {kind : ValueClass} {src dst : Nat} {moves : List Instr}
    (hwidth : kind.width ≠ .w64) (hdst : dst + 4 ≤ 2 ^ 32)
    (hok : copyArgument slot kind src dst = .ok moves) (c : Core 32) :
    Fills c (c.effects moves) dst 4 ∧
      (c.effects moves).memory.read 4 (c.gpr .esp + BitVec.ofNat 32 dst) =
        extendWord kind (c.memory.read 4 (c.gpr .esp + BitVec.ofNat 32 src)) := by
  unfold copyArgument at hok
  split at hok
  next hwide => exact absurd hwide hwidth
  next =>
    split at hok
    next size hsize =>
      cases hok
      have hload := effect_extendNarrow c (.mem (stack src)) hsize
      rw [operandWord_stack] at hload
      rw [Core.effects_cons, Core.effects_cons, Core.effects_nil, hload]
      exact save_word c _ hdst
    next hsize =>
      cases hok
      have hw32 : kind.width = .w32 := by
        cases hkind : kind.width with
        | w32 => rfl
        | w64 => exact absurd hkind hwidth
        | w8 =>
            rw [hkind] at hsize
            cases hsize
        | w16 =>
            rw [hkind] at hsize
            cases hsize
      rw [Core.effects_cons, Core.effects_cons, Core.effects_nil, effect_load,
        extendWord_of_w32 _ hw32]
      exact save_word c _ hdst

theorem effect_sar (c : Core 32) :
    c.effect (.sar .eax 31 .dword) =
      c.setResult .eax ((c.low .eax .dword).sshiftRight 31) := by
  rfl

theorem gpr_sar (c : Core 32) :
    (c.effect (.sar .eax 31 .dword)).gpr .eax = (c.gpr .eax).sshiftRight 31 := by
  show (c.set .eax ((((c.gpr .eax).setWidth 32).sshiftRight 31).setWidth 32)).gpr .eax = _
  rw [c.gpr_set_self, BitVec.setWidth_eq, BitVec.setWidth_eq]

theorem Fills.sar (c : Core 32) (dst : Nat) : Fills c (c.effect (.sar .eax 31 .dword)) dst 0 where
  gpr := by
    intro r hne
    rw [effect_sar]
    exact if_neg hne
  apart := by
    intro n count _ _
    rw [effect_sar]
    rfl

/-- Two words that fill the accumulator one after the other are found as one value. -/
theorem save_halves {c middle : Core 32} {low high : BitVec 32} {dst : Nat}
    (hdst : dst + 8 ≤ 2 ^ 32)
    (hmiddle : Fills ((c.set .eax low).effect (save dst)) middle (dst + 4) 0)
    (hhigh : middle.gpr .eax = high) :
    Fills c (middle.effect (save (dst + 4 : Nat))) dst 8 ∧
      (middle.effect (save (dst + 4 : Nat))).memory.read 8 (c.gpr .esp + BitVec.ofNat 32 dst) =
        high ++ low := by
  rcases save_word c low (by omega : dst + 4 ≤ 2 ^ 32) with ⟨hfirst, hlow⟩
  have hsave : Fills middle (middle.effect (save (dst + 4 : Nat))) (dst + 4) 4 :=
    Fills.save middle (by omega)
  have hsecond := hfirst.trans hmiddle
  have hesp := hsecond.esp
  refine ⟨hsecond.trans hsave, ?_⟩
  have hhighRead : (middle.effect (save (dst + 4 : Nat))).memory.read 4
      (c.gpr .esp + BitVec.ofNat 32 (dst + 4)) = high := by
    rw [← hesp, read_save, hhigh]
  have hlowRead : (middle.effect (save (dst + 4 : Nat))).memory.read 4
      (c.gpr .esp + BitVec.ofNat 32 dst) = low := by
    rw [← hlow, ← hfirst.esp, ← hmiddle.apart dst 4 (by omega) (by omega), hfirst.esp, ← hesp]
    exact hsave.apart dst 4 (by omega) (by omega)
  rw [Memory.read_eight, Memory.offset_add, hhighRead, hlowRead]

/-- A 64-bit argument is copied in two halves; the second half is read before its place is
filled, and after the place of the first one was. -/
theorem copyArgument_wide {slot : Slot} {kind : ValueClass} {src dst : Nat} {moves : List Instr}
    (hwidth : kind.width = .w64) (hsrc : src + 8 ≤ 2 ^ 32) (hbelow : dst + 8 ≤ src)
    (hok : copyArgument slot kind src dst = .ok moves) (c : Core 32) :
    Fills c (c.effects moves) dst 8 ∧
      (c.effects moves).memory.read 8 (c.gpr .esp + BitVec.ofNat 32 dst) =
        if slot.host.slotSize = 8 then c.memory.read 8 (c.gpr .esp + BitVec.ofNat 32 src)
        else (c.memory.read 4 (c.gpr .esp + BitVec.ofNat 32 src)).signExtend 64 := by
  unfold copyArgument at hok
  rw [hwidth] at hok
  rcases bind_eq_ok hok with ⟨high, hhigh, hok⟩
  rcases bind_eq_ok hok with ⟨place, hplace, hok⟩
  cases hok
  have hplaceEq : place = (dst + 4 : Nat) := (of_addOffsets_eq_ok hplace).left
  rw [hplaceEq, Core.effects_cons, Core.effects_cons, Core.effects_cons, Core.effects_cons,
    Core.effects_nil, effect_load]
  have hfirst := (save_word c (c.memory.read 4 (c.gpr .esp + BitVec.ofNat 32 src))
    (by omega : dst + 4 ≤ 2 ^ 32)).left
  unfold highHalf at hhigh
  by_cases hsize : slot.host.slotSize = 8
  · rw [if_pos hsize] at hhigh
    rcases map_eq_ok hhigh with ⟨next, hnext, rfl⟩
    have hnextEq : next = (src + 4 : Nat) := (of_addOffsets_eq_ok hnext).left
    rw [if_pos hsize, c.memory.read_eight, Memory.offset_add, hnextEq, effect_load, hfirst.esp,
      hfirst.apart (src + 4) 4 (by omega) (by omega)]
    have hmiddle := Fills.set
      ((c.set .eax (c.memory.read 4 (c.gpr .esp + BitVec.ofNat 32 src))).effect (save dst))
      (c.memory.read 4 (c.gpr .esp + BitVec.ofNat 32 (src + 4))) (dst + 4)
    exact save_halves (by omega) hmiddle (Core.gpr_set_self _ _ _)
  · rw [if_neg hsize] at hhigh
    cases hhigh
    rw [if_neg hsize, Bits.signExtend_eq_append]
    have hsign := gpr_sar
      ((c.set .eax (c.memory.read 4 (c.gpr .esp + BitVec.ofNat 32 src))).effect (save dst))
    rw [gpr_effect_save, Core.gpr_set_self] at hsign
    exact save_halves (by omega) (Fills.sar _ _) hsign

theorem copyArgument_spec {slot : Slot} {kind : ValueClass} {src dst : Nat} {moves : List Instr}
    (hsrc : src + 8 ≤ 2 ^ 32) (hbelow : dst + nativeSize kind ≤ src)
    (hok : copyArgument slot kind src dst = .ok moves) (c : Core 32) :
    Fills c (c.effects moves) dst (nativeSize kind) ∧
      Passes kind slot.host c.memory (c.gpr .esp + BitVec.ofNat 32 src)
        (c.effects moves).memory (c.gpr .esp + BitVec.ofNat 32 dst) := by
  unfold Passes
  by_cases hwide : kind.width = .w64
  · rw [nativeSize_of_w64 hwide] at hbelow ⊢
    rw [if_pos hwide]
    exact copyArgument_wide hwide hsrc hbelow hok c
  · rw [nativeSize_of_ne_w64 hwide] at hbelow ⊢
    rw [if_neg hwide]
    exact copyArgument_narrow hwide (by omega) hok c

/-!
# All arguments
-/

theorem targetSize_eq (kind : ValueClass) : targetSize kind = nativeSize kind := by
  unfold targetSize nativeSize
  cases kind.width <;> rfl

theorem blockSize_eq (params : List Slot) : blockSize params = nativeBytes params := by
  induction params with
  | nil => rfl
  | cons slot rest ih =>
      have hsize : slot.kind.map targetSize = slot.kind.map nativeSize := by
        rw [funext targetSize_eq]
      rw [blockSize, ih, hsize]
      rfl

theorem nativeBytes_cons {slot : Slot} {kind : ValueClass} (hkind : slot.kind = some kind)
    (rest : List Slot) : nativeBytes (slot :: rest) = nativeSize kind + nativeBytes rest := by
  simp [nativeBytes, hkind]

theorem hostBytes_cons (slot : Slot) (rest : List Slot) :
    hostBytes (slot :: rest) = slot.host.slotSize + hostBytes rest := by
  rfl

theorem argumentMoves_cons {adjust src dst : Int} {slot : Slot} {kind : ValueClass}
    {rest : List Slot} {moves : List Instr} (hkind : slot.kind = some kind)
    (hok : argumentMoves adjust src dst (slot :: rest) = .ok moves) :
    exists first others, moves = first ++ others ∧ adjust + hostOffset + src < offsetLimit ∧
      copyArgument slot kind (adjust + hostOffset + src) dst = .ok first ∧
      dst + nativeSize kind < offsetLimit ∧
      argumentMoves adjust (src + slot.host.slotSize) (dst + nativeSize kind) rest =
        .ok others := by
  unfold argumentMoves at hok
  rw [hkind] at hok
  rcases bind_eq_ok hok with ⟨start, hstart, hok⟩
  rcases bind_eq_ok hok with ⟨place, hplace, hok⟩
  rcases bind_eq_ok hok with ⟨first, hfirst, hok⟩
  rcases bind_eq_ok hok with ⟨nextSrc, hsrc, hok⟩
  rcases bind_eq_ok hok with ⟨nextDst, hdst, hok⟩
  rcases bind_eq_ok hok with ⟨others, hothers, hok⟩
  rw [targetSize_eq] at hdst
  have hstartEq := (of_addOffsets_eq_ok hstart).left
  rcases of_addOffsets_eq_ok hplace with ⟨hplaceEq, hreach⟩
  have hsrcEq := (of_addOffsets_eq_ok hsrc).left
  rcases of_addOffsets_eq_ok hdst with ⟨hdstEq, hroom⟩
  rw [hstartEq] at hplaceEq
  rw [hplaceEq] at hfirst hreach
  rw [hdstEq] at hothers hroom
  rw [hsrcEq] at hothers
  exact ⟨first, others, (Except.ok.inj hok).symm, hreach, hfirst, hroom, hothers⟩

theorem argumentMoves_cons_natCast {adjust src dst : Nat} {slot : Slot} {kind : ValueClass}
    {rest : List Slot} {moves : List Instr} (hkind : slot.kind = some kind)
    (hok : argumentMoves adjust src dst (slot :: rest) = .ok moves) :
    exists first others, moves = first ++ others ∧ adjust + hostStart + src < 2 ^ 31 ∧
      copyArgument slot kind (adjust + hostStart + src : Nat) dst = .ok first ∧
      argumentMoves adjust (src + slot.host.slotSize : Nat) (dst + nativeSize kind : Nat) rest =
        .ok others := by
  have hlimit : offsetLimit = 2 ^ 31 := rfl
  have hstart : hostOffset = (hostStart : Nat) := rfl
  rcases argumentMoves_cons hkind hok with ⟨first, others, hmoves, hplace, hfirst, _, hothers⟩
  rw [hstart, ← Int.natCast_add, ← Int.natCast_add] at hplace hfirst
  rw [← Int.natCast_add, ← Int.natCast_add] at hothers
  exact ⟨first, others, hmoves, by omega, hfirst, hothers⟩

theorem end_lt_of_argumentMoves_eq_ok {adjust src dst : Int} {slots : List Slot}
    {moves : List Instr} (hclass : forall slot, slot ∈ slots -> exists kind, slot.HasClass kind)
    (hdst : dst < offsetLimit) (hok : argumentMoves adjust src dst slots = .ok moves) :
    dst + nativeBytes slots < offsetLimit := by
  induction slots generalizing src dst moves with
  | nil =>
      have hnone : nativeBytes [] = 0 := rfl
      omega
  | cons first rest ih =>
      rcases hclass first List.mem_cons_self with ⟨kind, hfirst⟩
      rcases argumentMoves_cons hfirst.kind_eq hok with ⟨_, _, _, _, _, hnext, hothers⟩
      have hlast := ih (fun other hmem => hclass other (List.mem_cons_of_mem first hmem)) hnext
        hothers
      rw [nativeBytes_cons hfirst.kind_eq]
      omega

section Moves

variable {adjust src dst : Nat} {slots : List Slot} {moves : List Instr}

theorem place_lt_of_argumentMoves_eq_ok
    (hclass : forall slot, slot ∈ slots -> exists kind, slot.HasClass kind)
    (hok : argumentMoves adjust src dst slots = .ok moves) {k : Nat} {slot : Slot}
    (hslot : slots[k]? = some slot) :
    adjust + hostStart + (src + hostBytes (slots.take k)) < 2 ^ 31 := by
  induction slots generalizing src dst moves k with
  | nil => cases hslot
  | cons first rest ih =>
      rcases hclass first List.mem_cons_self with ⟨kind, hfirst⟩
      rcases argumentMoves_cons_natCast hfirst.kind_eq hok with ⟨_, _, _, hplace, _, hothers⟩
      cases k with
      | zero => exact hplace
      | succ k =>
          have hlast := ih (fun other hmem => hclass other (List.mem_cons_of_mem first hmem))
            hothers hslot
          rw [List.take_succ_cons, hostBytes_cons]
          omega

/-- All arguments are copied into their places. The induction is on the slots left to copy:
the block below `dst` is done, and all that is still to be read lies above the block. -/
theorem argumentMoves_spec
    (hclass : forall slot, slot ∈ slots -> exists kind, slot.HasClass kind)
    (hspace : dst + nativeBytes slots ≤ adjust)
    (hok : argumentMoves adjust src dst slots = .ok moves) (c : Core 32) :
    Fills c (c.effects moves) dst (nativeBytes slots) ∧
      forall (k : Nat) (slot : Slot) (kind : ValueClass),
        slots[k]? = some slot -> slot.kind = some kind ->
          Passes kind slot.host c.memory
            (c.gpr .esp +
              BitVec.ofNat 32 (adjust + hostStart + (src + hostBytes (slots.take k))))
            (c.effects moves).memory
            (c.gpr .esp + BitVec.ofNat 32 (dst + nativeBytes (slots.take k))) := by
  induction slots generalizing src dst moves c with
  | nil =>
      cases hok
      refine ⟨⟨fun _ _ => rfl, fun _ _ _ _ => rfl⟩, ?_⟩
      intro k slot kind hslot
      cases hslot
  | cons first rest ih =>
      rcases hclass first List.mem_cons_self with ⟨kind, hfirst⟩
      have hrest : forall slot, slot ∈ rest -> exists kind, slot.HasClass kind := by
        intro other hmem
        exact hclass other (List.mem_cons_of_mem first hmem)
      rcases argumentMoves_cons_natCast hfirst.kind_eq hok with
        ⟨moves, others, rfl, hplace, hcopy, hothers⟩
      rw [nativeBytes_cons hfirst.kind_eq] at hspace ⊢
      rw [Core.effects_append]
      rcases copyArgument_spec (by omega) (by omega) hcopy c with ⟨hfills, hpasses⟩
      rcases ih hrest (by omega) hothers (c.effects moves) with ⟨hfillsRest, hpassesRest⟩
      refine ⟨hfills.trans hfillsRest, ?_⟩
      intro k slot other hslot hkind
      cases k with
      | zero =>
          cases hslot
          have hsame : other = kind := Option.some.inj (hkind.symm.trans hfirst.kind_eq)
          have hblock := hfillsRest.apart dst (nativeSize kind) (by omega) (by omega)
          rw [hfills.esp] at hblock
          rw [hsame]
          exact hpasses.congr (fun _ _ => rfl) hblock
      | succ k =>
          have hreach := place_lt_of_argumentMoves_eq_ok hrest hothers hslot
          have hlast := hpassesRest k slot other hslot hkind
          rw [hfills.esp] at hlast
          rw [List.take_succ_cons, hostBytes_cons, nativeBytes_cons hfirst.kind_eq,
            ← Nat.add_assoc src, ← Nat.add_assoc dst]
          refine hlast.congr ?_ rfl
          intro count hcount
          exact (hfills.apart _ count (by omega) (by omega)).symm

theorem exists_copyArgument {slot : Slot} {kind : ValueClass} {src dst : Nat}
    (hsrc : src + slot.host.slotSize < 2 ^ 31) (hdst : dst + nativeSize kind < 2 ^ 31) :
    exists moves, copyArgument slot kind src dst = .ok moves := by
  unfold copyArgument
  split
  next hwide =>
    rw [nativeSize_of_w64 hwide] at hdst
    have hplace : addOffsets dst 4 = .ok (dst + 4 : Nat) :=
      addOffsets_eq_ok (b := 4) (by omega)
    rw [hplace]
    unfold highHalf
    by_cases hsize : slot.host.slotSize = 8
    · have hnext : addOffsets src 4 = .ok (src + 4 : Nat) :=
        addOffsets_eq_ok (b := 4) (by omega)
      rw [if_pos hsize, hnext]
      exact ⟨_, rfl⟩
    · rw [if_neg hsize]
      exact ⟨_, rfl⟩
  next =>
    split <;> exact ⟨_, rfl⟩

theorem exists_argumentMoves
    (hclass : forall slot, slot ∈ slots -> exists kind, slot.HasClass kind)
    (hspace : dst + nativeBytes slots ≤ adjust)
    (hreach : adjust + hostStart + (src + hostBytes slots) < 2 ^ 31) :
    exists moves, argumentMoves adjust src dst slots = .ok moves := by
  induction slots generalizing src dst with
  | nil => exact ⟨[], rfl⟩
  | cons first rest ih =>
      rcases hclass first List.mem_cons_self with ⟨kind, hfirst⟩
      rw [nativeBytes_cons hfirst.kind_eq] at hspace
      rw [hostBytes_cons] at hreach
      have hstart : addOffsets adjust (hostStart : Nat) = .ok (adjust + hostStart : Nat) :=
        addOffsets_eq_ok (by omega)
      have hplace : addOffsets (adjust + hostStart : Nat) src =
          .ok (adjust + hostStart + src : Nat) := addOffsets_eq_ok (by omega)
      have hsrc : addOffsets src first.host.slotSize = .ok (src + first.host.slotSize : Nat) :=
        addOffsets_eq_ok (by omega)
      have hdst : addOffsets dst (nativeSize kind) = .ok (dst + nativeSize kind : Nat) :=
        addOffsets_eq_ok (by omega)
      have hcopy : exists moves,
          copyArgument first kind (adjust + hostStart + src : Nat) dst = .ok moves :=
        exists_copyArgument (by omega) (by omega)
      rcases hcopy with ⟨moves, hmoves⟩
      have hrest : exists others, argumentMoves adjust (src + first.host.slotSize : Nat)
          (dst + nativeSize kind : Nat) rest = .ok others :=
        ih (fun other hmem => hclass other (List.mem_cons_of_mem first hmem)) (by omega)
          (by omega)
      rcases hrest with ⟨others, hothers⟩
      have hoffset : hostOffset = (hostStart : Nat) := rfl
      unfold argumentMoves
      rw [hfirst.kind_eq]
      simp only [hoffset, hstart, hplace, hmoves, hsrc, targetSize_eq, hdst, hothers, ok_bind]
      exact ⟨_, rfl⟩

end Moves

end I386
end NativeCall
