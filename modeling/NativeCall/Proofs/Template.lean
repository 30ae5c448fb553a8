import Mathlib.Data.List.Nodup
import NativeCall.Proofs.A64.Disassembly
import NativeCall.Proofs.Compilation
import NativeCall.Proofs.X86.Disassembly

/-!
# Code with room for addresses

Trampolines load the addresses of functions as constants. The instructions that do so hold the
address in a field, whose bits stand at the same places whatever the address is. Around the
loads the code is the same for all addresses, so it is a template that addresses are filled
into.
-/

namespace NativeCall

/-!
# Bits of code
-/

/-- The bits of all bytes one after the other, the lowest of a byte first. -/
def codeBit (code : List Byte) (i : Nat) : Bool :=
  (code[i / 8]?.getD 0).getLsbD (i % 8)

theorem codeBit_append_left (first rest : List Byte) {i : Nat}
    (hi : i < 8 * first.length) : codeBit (first ++ rest) i = codeBit first i := by
  unfold codeBit
  rw [List.getElem?_append_left (by omega)]

theorem codeBit_append_right (first rest : List Byte) (i : Nat) :
    codeBit (first ++ rest) (8 * first.length + i) = codeBit rest i := by
  have hbyte : (8 * first.length + i) / 8 = first.length + i / 8 := by omega
  have hbit : (8 * first.length + i) % 8 = i % 8 := by omega
  unfold codeBit
  rw [hbyte, hbit, List.getElem?_append_right (Nat.le_add_right _ _), Nat.add_sub_cancel_left]

theorem codeBit_append_congr {first other rest others : List Byte} {i : Nat}
    (hlength : first.length = other.length)
    (hfirst : i < 8 * first.length -> codeBit first i = codeBit other i)
    (hrest : forall j, i = 8 * first.length + j -> codeBit rest j = codeBit others j) :
    codeBit (first ++ rest) i = codeBit (other ++ others) i := by
  rcases Nat.lt_or_ge i (8 * first.length) with hlt | hge
  · rw [codeBit_append_left first rest hlt, hfirst hlt,
      codeBit_append_left other others (hlength ▸ hlt)]
  · rcases Nat.exists_eq_add_of_le hge with ⟨j, rfl⟩
    rw [codeBit_append_right, hrest j rfl, hlength, codeBit_append_right]

theorem codeBit_littleEndian {width count : Nat} (value : BitVec width) {i : Nat}
    (hi : i < 8 * count) : codeBit (littleEndian count value) i = value.getLsbD i := by
  have hplace : i / 8 < count := by omega
  have hbyte : (littleEndian count value)[i / 8]?.getD 0 = value.extractLsb' (8 * (i / 8)) 8 := by
    simp [littleEndian, hplace]
  have hsmall : i % 8 < 8 := Nat.mod_lt i (by decide)
  have hindex : 8 * (i / 8) + i % 8 = i := Nat.div_add_mod i 8
  unfold codeBit
  rw [hbyte, BitVec.getLsbD_extractLsb', hindex]
  simp [hsmall]

namespace Arch

/-!
# Fields
-/

def addressBits : Arch -> Nat
  | .i386 => 32
  | .amd64 | .aarch64 => 64

/-- Where a load holds a bit of its address. On x86 the address follows the opcode, and on A64
each word holds sixteen bits of it above a register number. -/
def addressBit : Arch -> Nat -> Nat
  | .i386, i => 8 + i
  | .amd64, i => 16 + i
  | .aarch64, i => 32 * (i / 16) + 5 + i % 16

/-- The field of a load that starts at a byte of some code, from the lowest bit of the address
on. -/
def addressField (arch : Arch) (start : Nat) : List Nat :=
  (List.range arch.addressBits).map fun i => 8 * start + arch.addressBit i

def readAddress (arch : Arch) (code : List Byte) (start : Nat) : Address :=
  (BitVec.ofBoolListLE ((arch.addressField start).map (codeBit code))).setWidth 64

/-!
# Loads
-/

def addressLoad : Arch -> Address -> List Byte
  | .i386, address => 0xB8 :: littleEndian 4 address
  | .amd64, address => 0x49 :: 0xBB :: littleEndian 8 address
  | .aarch64, address => A64.wordBytes ((A64.Instr.movImm64 .x9 address).map (·.layout))

def loadSize : Arch -> Nat
  | .i386 => 5
  | .amd64 => 10
  | .aarch64 => 16

theorem length_addressLoad (arch : Arch) (address : Address) :
    (arch.addressLoad address).length = arch.loadSize := by
  cases arch <;> rfl

theorem addressBit_lt {arch : Arch} {i : Nat} (hi : i < arch.addressBits) :
    arch.addressBit i < 8 * arch.loadSize := by
  cases arch <;> simp only [addressBits, addressBit, loadSize] at hi ⊢ <;> omega

theorem addressBit_inj {arch : Arch} {i j : Nat} (h : arch.addressBit i = arch.addressBit j) :
    i = j := by
  cases arch <;> simp only [addressBit] at h <;> omega

/-!
# Words of a load
-/

/-- The word that puts sixteen bits of an address in their place. The first one clears the
others. -/
def pieceLayout (address : Address) (k : Nat) : A64.Layout :=
  .constant (if k = 0 then 0xD2800000 else 0xF2800000) .x9 (address.extractLsb' (16 * k) 16)
    (BitVec.ofNat 8 (16 * k))

theorem codeBit_pieces (address : Address) {k j : Nat} (hk : k < 4) (hj : j < 32) :
    codeBit (addressLoad .aarch64 address) (32 * k + j) =
      (pieceLayout address k).word.getLsbD j := by
  have hwords : addressLoad .aarch64 address =
      littleEndian 4 (pieceLayout address 0).word ++
        (littleEndian 4 (pieceLayout address 1).word ++
          (littleEndian 4 (pieceLayout address 2).word ++
            (littleEndian 4 (pieceLayout address 3).word ++ []))) := rfl
  have hskip (word : BitVec 32) (rest : List Byte) (i : Nat) :
      codeBit (littleEndian 4 word ++ rest) (32 + i) = codeBit rest i :=
    codeBit_append_right (littleEndian 4 word) rest i
  have hread (word : BitVec 32) (rest : List Byte) :
      codeBit (littleEndian 4 word ++ rest) j = word.getLsbD j := by
    rw [codeBit_append_left _ _ (by rw [length_littleEndian]; omega),
      codeBit_littleEndian word (by omega)]
  rw [hwords]
  obtain rfl | rfl | rfl | rfl : k = 0 ∨ k = 1 ∨ k = 2 ∨ k = 3 := by omega
  · rw [Nat.mul_zero, Nat.zero_add, hread]
  · rw [Nat.mul_one, hskip, hread]
  · rw [show 32 * 2 + j = 32 + (32 + j) by omega, hskip, hskip, hread]
  · rw [show 32 * 3 + j = 32 + (32 + (32 + j)) by omega, hskip, hskip, hskip, hread]

theorem getLsbD_piece (address : Address) (k : Nat) {j : Nat} (hj : j < 16) :
    (pieceLayout address k).word.getLsbD (5 + j) = address.getLsbD (16 * k + j) := by
  have hapart : (pieceLayout address k).IsApart := by
    apply A64.Layout.isApart_constant
    all_goals split <;> decide
  have hpiece : A64.bitsAt (pieceLayout address k).word 5 16 = address.extractLsb' (16 * k) 16 :=
    @A64.Layout.IsApart.bitsAt_word (pieceLayout address k) ⟨5, 16, _⟩ hapart (.tail _ (.head _))
  have hbit := congrArg (BitVec.getLsbD · j) hpiece
  simp only [A64.bitsAt, BitVec.getLsbD_extractLsb', hj, decide_true, Bool.true_and] at hbit
  exact hbit

theorem getLsbD_pieceLayout_apart (address other : Address) (k : Nat) {j : Nat}
    (hj : j < 5 ∨ 21 ≤ j) :
    (pieceLayout address k).word.getLsbD j = (pieceLayout other k).word.getLsbD j := by
  have hclear (imm : BitVec 16) : (imm.setWidth 32 <<< 5).getLsbD j = false := by
    rw [BitVec.getLsbD_shiftLeft, BitVec.getLsbD_setWidth]
    rcases hj with hlow | hhigh
    · simp [hlow]
    · simp [BitVec.getLsbD_of_ge imm (j - 5) (by omega)]
  simp only [pieceLayout, A64.Layout.word_constant, A64.withField, BitVec.getLsbD_or, hclear]

/-!
# Bits of a load
-/

/-- A load holds its address in its field. -/
theorem codeBit_addressLoad (arch : Arch) (address : Address) {i : Nat}
    (hi : i < arch.addressBits) :
    codeBit (arch.addressLoad address) (arch.addressBit i) = address.getLsbD i := by
  cases arch with
  | i386 =>
      exact (codeBit_append_right [0xB8] _ i).trans (codeBit_littleEndian address hi)
  | amd64 =>
      exact (codeBit_append_right [0x49, 0xBB] _ i).trans (codeBit_littleEndian address hi)
  | aarch64 =>
      have hsmall : i < 64 := hi
      have hindex : 16 * (i / 16) + i % 16 = i := Nat.div_add_mod i 16
      have hbit := getLsbD_piece address (i / 16) (Nat.mod_lt i (by decide))
      rw [hindex] at hbit
      rw [addressBit, Nat.add_assoc, codeBit_pieces address (by omega) (by omega), hbit]

theorem codeBit_addressLoad_apart (arch : Arch) (address other : Address) {j : Nat}
    (hj : j < 8 * arch.loadSize)
    (hapart : forall i, i < arch.addressBits -> j ≠ arch.addressBit i) :
    codeBit (arch.addressLoad address) j = codeBit (arch.addressLoad other) j := by
  cases arch with
  | i386 =>
      have hsmall : j < 8 := by
        by_contra hlarge
        refine hapart (j - 8) ?_ ?_ <;> simp only [addressBits, addressBit, loadSize] at hj ⊢ <;>
          omega
      have hopcode (address : Address) :
          codeBit (addressLoad .i386 address) j = codeBit [0xB8] j :=
        codeBit_append_left [0xB8] _ hsmall
      rw [hopcode, hopcode]
  | amd64 =>
      have hsmall : j < 16 := by
        by_contra hlarge
        refine hapart (j - 16) ?_ ?_ <;> simp only [addressBits, addressBit, loadSize] at hj ⊢ <;>
          omega
      have hopcode (address : Address) :
          codeBit (addressLoad .amd64 address) j = codeBit [0x49, 0xBB] j :=
        codeBit_append_left [0x49, 0xBB] _ hsmall
      rw [hopcode, hopcode]
  | aarch64 =>
      have hword : j / 32 < 4 := by
        simp only [loadSize] at hj
        omega
      have hindex : 32 * (j / 32) + j % 32 = j := Nat.div_add_mod j 32
      have hbit : j % 32 < 5 ∨ 21 ≤ j % 32 := by
        by_contra hinside
        refine hapart (16 * (j / 32) + (j % 32 - 5)) ?_ ?_ <;>
          simp only [addressBits, addressBit] <;> omega
      rw [← hindex, codeBit_pieces address hword (Nat.mod_lt j (by decide)),
        codeBit_pieces other hword (Nat.mod_lt j (by decide)),
        getLsbD_pieceLayout_apart address other _ hbit]

theorem readAddress_eq {arch : Arch} {code : List Byte} {start : Nat} {address : Address}
    (hfits : address.toNat < 2 ^ arch.addressBits)
    (hbits : forall i, i < arch.addressBits ->
      codeBit code (8 * start + arch.addressBit i) = address.getLsbD i) :
    arch.readAddress code start = address := by
  unfold readAddress addressField
  apply BitVec.eq_of_getLsbD_eq
  intro i hi
  rw [BitVec.getLsbD_setWidth, BitVec.getLsbD_ofBoolListLE]
  by_cases hinside : i < arch.addressBits
  · simp [hi, hinside, hbits i hinside]
  · have hlarge : address.toNat < 2 ^ i :=
      Nat.lt_of_lt_of_le hfits (Nat.pow_le_pow_right (by decide) (Nat.le_of_not_lt hinside))
    have hzero : address.getLsbD i = false := Nat.testBit_lt_two_pow hlarge
    simp [hinside, hzero]

theorem nodup_addressField (arch : Arch) (start : Nat) : (arch.addressField start).Nodup := by
  refine List.Nodup.map ?_ List.nodup_range
  intro i j heq
  exact addressBit_inj (Nat.add_left_cancel heq)

theorem bounds_of_mem_addressField {arch : Arch} {start i : Nat}
    (hmem : i ∈ arch.addressField start) :
    8 * start ≤ i ∧ i < 8 * (start + arch.loadSize) := by
  rcases List.mem_map.mp hmem with ⟨k, hk, rfl⟩
  have hbit := addressBit_lt (List.mem_range.mp hk)
  omega

theorem ne_addressBit_of_not_mem {arch : Arch} {start j : Nat}
    (h : 8 * start + j ∉ arch.addressField start) :
    forall i, i < arch.addressBits -> j ≠ arch.addressBit i := by
  rintro i hi rfl
  exact h (List.mem_map.mpr ⟨i, List.mem_range.mpr hi, rfl⟩)

end Arch

/-!
# Templates
-/

/-- What all codes of a template have in common: their size, and the bytes at which the loads of
the target and the helper start. -/
structure CodeForm where
  size : Nat
  target : Nat
  helper : Option Nat

namespace CodeForm

def fields (form : CodeForm) (arch : Arch) : List Nat :=
  arch.addressField form.target ++ form.helper.elim [] arch.addressField

/-- Each field has bits of its own, and they are bits of the code. -/
structure IsApart (form : CodeForm) (arch : Arch) : Prop where
  nodup : (form.fields arch).Nodup
  inside : forall i, i ∈ form.fields arch -> i < 8 * form.size

end CodeForm

/-- Code around the loads of a target and of a helper, if one is called. It is given as
instructions or as bytes. -/
structure Template (item : Type) where
  before : List item
  middle : List item
  after : List item

namespace Template

def fill {item : Type} (template : Template item) (load : Address -> List item)
    (target : Address) (helper : Option Address) : List item :=
  template.before ++ (load target ++
    (template.middle ++ (helper.elim [] load ++ template.after)))

def form (template : Template Byte) (arch : Arch) (helped : Bool) : CodeForm :=
  let second := template.before.length + arch.loadSize + template.middle.length
  { size := second + (if helped then arch.loadSize else 0) + template.after.length
    target := template.before.length
    helper := if helped then some second else none }

variable {template : Template Byte} {arch : Arch} {target : Address} {helper : Option Address}

theorem length_fill (template : Template Byte) (arch : Arch) (target : Address)
    (helper : Option Address) :
    (template.fill arch.addressLoad target helper).length =
      (template.form arch helper.isSome).size := by
  cases helper <;> simp [fill, form, Arch.length_addressLoad] <;> omega

theorem isApart_form (template : Template Byte) (arch : Arch) (helped : Bool) :
    (template.form arch helped).IsApart arch := by
  cases helped with
  | false =>
      have hfields : (template.form arch false).fields arch =
          arch.addressField template.before.length := List.append_nil _
      have hsize : template.before.length + arch.loadSize ≤ (template.form arch false).size := by
        simp only [form]
        omega
      constructor
      · rw [hfields]
        exact arch.nodup_addressField _
      · intro i hmem
        rw [hfields] at hmem
        have hbounds := Arch.bounds_of_mem_addressField hmem
        omega
  | true =>
      have hfields : (template.form arch true).fields arch =
          arch.addressField template.before.length ++
            arch.addressField (template.before.length + arch.loadSize + template.middle.length) :=
        rfl
      have hsize : template.before.length + arch.loadSize + template.middle.length +
          arch.loadSize ≤ (template.form arch true).size := by
        simp only [form, if_true]
        omega
      constructor
      · rw [hfields]
        refine List.nodup_append.mpr ⟨arch.nodup_addressField _, arch.nodup_addressField _, ?_⟩
        intro i hfirst j hsecond
        have hbelow := Arch.bounds_of_mem_addressField hfirst
        have habove := Arch.bounds_of_mem_addressField hsecond
        omega
      · intro i hmem
        rw [hfields] at hmem
        rcases List.mem_append.mp hmem with hmem | hmem <;>
          have hbounds := Arch.bounds_of_mem_addressField hmem <;> omega

/-!
# Bits of filled templates
-/

theorem codeBit_fill_target {j : Nat} (hj : j < 8 * arch.loadSize) :
    codeBit (template.fill arch.addressLoad target helper) (8 * template.before.length + j) =
      codeBit (arch.addressLoad target) j := by
  rw [fill, codeBit_append_right, codeBit_append_left _ _ (by rwa [Arch.length_addressLoad])]

theorem codeBit_fill_helper {address : Address} {j : Nat} (hj : j < 8 * arch.loadSize) :
    codeBit (template.fill arch.addressLoad target (some address))
        (8 * (template.before.length + arch.loadSize + template.middle.length) + j) =
      codeBit (arch.addressLoad address) j := by
  have hindex : 8 * (template.before.length + arch.loadSize + template.middle.length) + j =
      8 * template.before.length + (8 * (arch.addressLoad target).length +
        (8 * template.middle.length + j)) := by
    rw [Arch.length_addressLoad]
    omega
  rw [hindex, fill, codeBit_append_right, codeBit_append_right, codeBit_append_right]
  apply codeBit_append_left
  change j < 8 * (arch.addressLoad address).length
  rwa [Arch.length_addressLoad]

theorem readAddress_fill_target (hfits : target.toNat < 2 ^ arch.addressBits) :
    arch.readAddress (template.fill arch.addressLoad target helper) template.before.length =
      target := by
  apply Arch.readAddress_eq hfits
  intro i hi
  rw [codeBit_fill_target (Arch.addressBit_lt hi), arch.codeBit_addressLoad target hi]

theorem readAddress_fill_helper {address : Address}
    (hfits : address.toNat < 2 ^ arch.addressBits) :
    arch.readAddress (template.fill arch.addressLoad target (some address))
      (template.before.length + arch.loadSize + template.middle.length) = address := by
  apply Arch.readAddress_eq hfits
  intro i hi
  rw [codeBit_fill_helper (Arch.addressBit_lt hi), arch.codeBit_addressLoad address hi]

theorem codeBit_fill_apart {other : Address} {helper' : Option Address} {i : Nat}
    (hhelped : helper.isSome = helper'.isSome)
    (hapart : i ∉ (template.form arch helper.isSome).fields arch) :
    codeBit (template.fill arch.addressLoad target helper) i =
      codeBit (template.fill arch.addressLoad other helper') i := by
  have htarget := fun hmem => hapart (List.mem_append_left _ hmem)
  have hhelper := fun hmem => hapart (List.mem_append_right _ hmem)
  unfold fill
  refine codeBit_append_congr rfl (fun _ => rfl) ?_
  rintro j rfl
  refine codeBit_append_congr ?_ ?_ ?_
  · rw [Arch.length_addressLoad, Arch.length_addressLoad]
  · intro hj
    rw [Arch.length_addressLoad] at hj
    exact arch.codeBit_addressLoad_apart _ _ hj (Arch.ne_addressBit_of_not_mem htarget)
  rintro k rfl
  rw [Arch.length_addressLoad] at hhelper
  refine codeBit_append_congr rfl (fun _ => rfl) ?_
  rintro l rfl
  cases helper with
  | none =>
      rw [Option.not_isSome_iff_eq_none.mp (Bool.eq_false_iff.mp hhelped.symm)]
  | some address =>
      rcases Option.isSome_iff_exists.mp hhelped.symm with ⟨second, rfl⟩
      refine codeBit_append_congr ?_ ?_ fun _ _ => rfl
      · exact (arch.length_addressLoad _).trans (arch.length_addressLoad _).symm
      · intro hl
        have hsize : l < 8 * arch.loadSize := by
          rw [← arch.length_addressLoad address]
          exact hl
        refine arch.codeBit_addressLoad_apart _ _ hsize (@Arch.ne_addressBit_of_not_mem arch
          (template.before.length + arch.loadSize + template.middle.length) l ?_)
        intro hmem
        apply hhelper
        have hindex : 8 * template.before.length +
            (8 * arch.loadSize + (8 * template.middle.length + l)) =
              8 * (template.before.length + arch.loadSize + template.middle.length) + l := by
          omega
        rw [hindex]
        exact hmem

end Template

/-!
# Templates of trampolines
-/

namespace InstructionSet

variable {instr operation : Type} {isa : InstructionSet instr operation}

theorem assemble_append (code rest : List instr) :
    isa.assemble (code ++ rest) =
      (isa.assemble code).bind fun first => (isa.assemble rest).map (first ++ ·) := by
  induction code with
  | nil =>
      change isa.assemble rest = (isa.assemble rest).map ([] ++ ·)
      cases isa.assemble rest <;> rfl
  | cons i code ih =>
      rw [List.cons_append, assemble, assemble, ih]
      cases isa.encode i with
      | error fault => rfl
      | ok bytes =>
          cases isa.assemble code with
          | error fault => rfl
          | ok first =>
              cases isa.assemble rest with
              | error fault => rfl
              | ok others => exact congrArg Except.ok (List.append_assoc _ _ _).symm

/-- Instructions around loads have bytes around loads, or a fault that no address changes. -/
theorem exists_template {arch : Arch} {load : Address -> List instr}
    (hload : forall address, isa.assemble (load address) = .ok (arch.addressLoad address))
    (code : Template instr) :
    (exists fault, forall target helper, isa.assemble (code.fill load target helper) =
        .error fault) ∨
      exists bytes : Template Byte, forall target helper,
        isa.assemble (code.fill load target helper) =
          .ok (bytes.fill arch.addressLoad target helper) := by
  have hloads (helper : Option Address) :
      isa.assemble (helper.elim [] load) = .ok (helper.elim [] arch.addressLoad) := by
    cases helper with
    | none => rfl
    | some address => exact hload address
  simp only [Template.fill, assemble_append, hload, hloads]
  cases isa.assemble code.before with
  | error fault => exact .inl ⟨fault, fun _ _ => rfl⟩
  | ok first =>
      cases isa.assemble code.middle with
      | error fault => exact .inl ⟨fault, fun _ _ => rfl⟩
      | ok second =>
          cases isa.assemble code.after with
          | error fault => exact .inl ⟨fault, fun _ _ => rfl⟩
          | ok third => exact .inr ⟨⟨first, second, third⟩, fun _ _ => rfl⟩

end InstructionSet
end NativeCall
