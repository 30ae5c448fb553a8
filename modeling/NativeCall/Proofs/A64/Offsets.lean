import NativeCall.Proofs.A64.RoundTrip

/-!
# Offsets of A64 loads and stores

A load or store counts its offset in accesses and has twelve bits for the count. An offset between
two accesses is a fault. Of any other the count loses its upper bits, and an instruction of the
integer registers counts in four bytes for a single although its opcode is that of eight bytes.
In these two cases the processor finds an offset that nobody asked for.
-/

namespace NativeCall
namespace A64

/-- The loads and stores with an unsigned offset. -/
inductive MemoryForm where
  | str
  | ldr
  | ldrs
  | strFp
  | ldrFp
  deriving DecidableEq, Repr

/-- The access that an opcode of the integer registers stands for. -/
def generalAccess : Access -> Access
  | .byte => .byte
  | .half => .half
  | .word => .word
  | _ => .double

namespace MemoryForm

/-- The instruction of a form, with the numbers of its data and base registers. -/
def instr (form : MemoryForm) (data base : Byte) (offset : BitVec 16) (access : Access) : Instr :=
  match form with
  | .str => .str ⟨data⟩ ⟨base⟩ offset access
  | .ldr => .ldr ⟨data⟩ ⟨base⟩ offset access
  | .ldrs => .ldrs ⟨data⟩ ⟨base⟩ offset access
  | .strFp => .strFp ⟨data⟩ ⟨base⟩ offset access
  | .ldrFp => .ldrFp ⟨data⟩ ⟨base⟩ offset access

def opcode (form : MemoryForm) (access : Access) : BitVec 32 :=
  match form with
  | .str => storeOpcode access
  | .ldr => loadOpcode access
  | .ldrs => signedLoadOpcode access
  | .strFp => floatStoreOpcode access
  | .ldrFp => floatLoadOpcode access

/-- The access that the offset is counted in. -/
def counted (form : MemoryForm) (access : Access) : Access :=
  match form with
  | .str | .ldr | .ldrs => access
  | .strFp | .ldrFp => floatAccess access

/-- The access that the opcode stands for. -/
def encoded (form : MemoryForm) (access : Access) : Access :=
  match form with
  | .str | .ldr | .ldrs => generalAccess access
  | .strFp | .ldrFp => floatAccess access

/-- The offset that a processor finds in the word of an instruction. -/
def foundOffset (form : MemoryForm) (access : Access) (offset : BitVec 16) : BitVec 16 :=
  BitVec.ofNat 16 (offset.toNat / (form.counted access).scale % 4096 * (form.encoded access).scale)

section Encoding

variable (form : MemoryForm) (access : Access)

theorem word_instr (data base : Byte) (offset : BitVec 16) :
    (form.instr data base offset access).word =
      accessWord (form.opcode access) (form.counted access) (data.setWidth 32) ⟨base⟩ offset := by
  cases form <;> rfl

theorem opcode_encoded : form.opcode (form.encoded access) = form.opcode access := by
  cases form <;> cases access <;> rfl

theorem counted_encoded : form.counted (form.encoded access) = form.encoded access := by
  cases form <;> cases access <;> rfl

theorem encodable_encoded {data base : Byte} {offset : BitVec 16} (hdata : data.toNat < 32)
    (hbase : base.toNat < 32) (hoffset : IsOffset (form.encoded access) offset) :
    (form.instr data base offset (form.encoded access)).Encodable := by
  cases form <;> refine ⟨hdata, hbase, ?_, hoffset⟩ <;> cases access <;>
    simp [encoded, generalAccess, floatAccess, Access.IsInteger, Access.IsFloat]

/-- Accesses are counted as they are encoded, singles in integer registers apart. -/
theorem scale_cases :
    (form.counted access).scale = (form.encoded access).scale ∨
      (form.counted access).scale = 4 ∧ (form.encoded access).scale = 8 := by
  cases form <;> cases access <;> decide

theorem scale_encoded_cases :
    (form.encoded access).scale = 1 ∨ (form.encoded access).scale = 2 ∨
      (form.encoded access).scale = 4 ∨ (form.encoded access).scale = 8 := by
  cases form <;> cases access <;> decide

theorem toNat_foundOffset (offset : BitVec 16) :
    (form.foundOffset access offset).toNat =
      offset.toNat / (form.counted access).scale % 4096 * (form.encoded access).scale := by
  have hsteps : offset.toNat / (form.counted access).scale % 4096 < 4096 :=
    Nat.mod_lt _ (by decide)
  rw [foundOffset, BitVec.toNat_ofNat]
  generalize offset.toNat / (form.counted access).scale % 4096 = steps at hsteps ⊢
  apply Nat.mod_eq_of_lt
  rcases scale_encoded_cases form access with h | h | h | h <;> rw [h] <;> omega

theorem isOffset_foundOffset (offset : BitVec 16) :
    IsOffset (form.encoded access) (form.foundOffset access offset) := by
  have hsteps : offset.toNat / (form.counted access).scale % 4096 < 4096 :=
    Nat.mod_lt _ (by decide)
  have hpos : 0 < (form.encoded access).scale := by
    rcases scale_encoded_cases form access with h | h | h | h <;> omega
  constructor
  · rw [toNat_foundOffset]
    exact Nat.mul_mod_left _ _
  · rw [toNat_foundOffset]
    exact Nat.mul_lt_mul_of_pos_right hsteps hpos

theorem offsetSteps_foundOffset (offset : BitVec 16) :
    offsetSteps (form.encoded access) (form.foundOffset access offset) =
      offsetSteps (form.counted access) offset := by
  have hpos : 0 < (form.encoded access).scale := by
    rcases scale_encoded_cases form access with h | h | h | h <;> omega
  rw [offsetSteps, offsetSteps, toNat_foundOffset, Nat.mul_div_cancel _ hpos]
  apply BitVec.eq_of_toNat_eq
  simp only [BitVec.toNat_ofNat]
  exact Nat.mod_mod _ _

/-- An instruction has the word of one that asks for the access of the opcode, and for the offset
that the processor finds. -/
theorem word_eq_of_aligned {data base : Byte} {offset : BitVec 16} (hdata : data.toNat < 32)
    (hbase : base.toNat < 32) (haligned : offset.toNat % (form.counted access).scale = 0) :
    (form.instr data base offset access).word =
      (form.instr data base (form.foundOffset access offset) (form.encoded access)).word := by
  have hnamed : (⟨base⟩ : Reg).IsNamed := hbase
  have hfound := (isOffset_foundOffset form access offset).aligned
  have hfield : data.setWidth 32 = (data.setWidth 5).setWidth 32 :=
    (setWidth_number hdata).left.symm
  rw [word_instr, word_instr, counted_encoded, opcode_encoded, hfield,
    accessWord_of_aligned hnamed haligned, accessWord_of_aligned hnamed hfound,
    offsetSteps_foundOffset]

/-- The processor finds the offset that was asked for if twelve bits are enough for it and it is
counted as the opcode counts. -/
theorem foundOffset_eq_iff {offset : BitVec 16}
    (haligned : offset.toNat % (form.counted access).scale = 0) :
    form.foundOffset access offset = offset <->
      offset = 0 ∨ (form.counted access).scale = (form.encoded access).scale ∧
        offset.toNat < 4096 * (form.counted access).scale := by
  have hzero : offset = 0 <-> offset.toNat = 0 := BitVec.toNat_inj.symm
  rw [← BitVec.toNat_inj, toNat_foundOffset, hzero]
  have hlt : offset.toNat < 65536 := offset.isLt
  rcases scale_cases form access with hsame | ⟨hfour, height⟩
  · rw [hsame] at haligned ⊢
    rcases scale_encoded_cases form access with h | h | h | h <;> rw [h] at haligned ⊢ <;> omega
  · rw [hfour] at haligned
    rw [hfour, height]
    omega

end Encoding

/-- The word is read as a load or store of these registers and this offset. -/
def IsAccessTo (word : BitVec 32) (data base : Byte) (offset : BitVec 16) : Prop :=
  exists form access, decode word = some (instr form data base offset access)

theorem isAccessTo_of_decode {form : MemoryForm} {word : BitVec 32} {data base : Byte}
    {offset : BitVec 16} {access : Access}
    (h : decode word = some (form.instr data base offset access).canonical) :
    IsAccessTo word data base offset := by
  cases form with
  | ldrs =>
      cases access with
      | double => exact ⟨.ldr, .double, h⟩
      | _ => exact ⟨.ldrs, _, h⟩
  | str => exact ⟨.str, access, h⟩
  | ldr => exact ⟨.ldr, access, h⟩
  | strFp => exact ⟨.strFp, access, h⟩
  | ldrFp => exact ⟨.ldrFp, access, h⟩

/-- What the encoding of a load or store comes to. -/
structure Encoding (form : MemoryForm) (data base : Byte) (offset : BitVec 16) (access : Access) :
    Prop where
  /-- Offsets between two accesses are faults. -/
  faults : (form.instr data base offset access).word = .error .unalignedOffset <->
    offset.toNat % (form.counted access).scale ≠ 0
  /-- Any other is encoded, and a processor reads the form, the registers and an offset. -/
  reads : offset.toNat % (form.counted access).scale = 0 -> exists word found,
    (form.instr data base offset access).word = .ok word ∧
      decode word = some (form.instr data base found (form.encoded access)).canonical ∧
      IsAccessTo word data base found ∧
      found.toNat =
        offset.toNat / (form.counted access).scale % 4096 * (form.encoded access).scale ∧
      (found = offset <->
        offset = 0 ∨ (form.counted access).scale = (form.encoded access).scale ∧
          offset.toNat < 4096 * (form.counted access).scale)

/-- Every load and store with an aligned offset is encoded with its registers, and with its offset
if that is counted as the opcode counts and the count has twelve bits. -/
theorem encoding (form : MemoryForm) {data base : Byte} (hdata : data.toNat < 32)
    (hbase : base.toNat < 32) (offset : BitVec 16) (access : Access) :
    Encoding form data base offset access := by
  constructor
  case faults =>
    rw [word_instr, accessWord]
    split
    case isTrue haligned =>
      apply iff_of_false
      · intro herror
        cases herror
      · exact not_not_intro haligned
    case isFalse hunaligned => exact iff_of_true rfl hunaligned
  case reads =>
    intro haligned
    have hencodable := encodable_encoded form access hdata hbase
      (isOffset_foundOffset form access offset)
    rcases Instr.readsBack hencodable with ⟨word, hword, hdecode⟩
    rw [← word_eq_of_aligned form access hdata hbase haligned] at hword
    exact ⟨word, form.foundOffset access offset, hword, hdecode, isAccessTo_of_decode hdecode,
      toNat_foundOffset form access offset, foundOffset_eq_iff form access haligned⟩

/-- The last offset that a double can be loaded from is read back, with the stack pointer's
number as base. -/
theorem encoding_last_double :
    exists word,
      (instr .ldr 5 31 32760 .double).word = .ok word ∧ IsAccessTo word 5 31 32760 := by
  have hencoding : Encoding .ldr 5 31 32760 .double :=
    encoding .ldr (by decide) (by decide) 32760 .double
  rcases hencoding.reads (by decide) with ⟨word, found, hword, -, haccess, -, hasked⟩
  have hfound : found = 32760 := hasked.mpr (Or.inr (by decide))
  rw [hfound] at haccess
  exact ⟨word, hword, haccess⟩

/-- A single stored four bytes on from an integer register comes to a double eight bytes on. -/
theorem not_word_accesses_asked_offset :
    ¬forall (form : MemoryForm) (data base : Byte) (offset : BitVec 16) (access : Access),
      data.toNat < 32 -> base.toNat < 32 ->
        forall word, (form.instr data base offset access).word = .ok word ->
          IsAccessTo word data base offset := by
  intro hclaim
  have hword : (instr .str 0 1 4 .single).word = .ok 0xF9000420 := by decide
  have hread : decode 0xF9000420 = some (.str ⟨0⟩ ⟨1⟩ 8 .double) := by decide
  rcases hclaim .str 0 1 4 .single (by decide) (by decide) _ hword with ⟨form, access, hasked⟩
  rw [hread] at hasked
  cases form <;> cases hasked

end MemoryForm
end A64
end NativeCall
