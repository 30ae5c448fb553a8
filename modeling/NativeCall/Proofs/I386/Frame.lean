import NativeCall.Proofs.I386.Arguments

/-!
# Frames on i386

The frame of a trampoline is as large as the argument block needs, and at least large enough
for a spill slot at the stack pointer, which takes the place of the first arguments.
-/

namespace NativeCall
namespace I386

open X86 (Core FloatFormat Gpr KeepsFrame State)

/-!
# Size of the frame
-/

theorem four_dvd_nativeBytes (params : List Slot) : 4 ∣ nativeBytes params := by
  induction params with
  | nil => exact Nat.dvd_zero 4
  | cons slot rest ih =>
      have hfirst : 4 ∣ (slot.kind.map nativeSize).getD 0 := by
        cases slot.kind with
        | none => exact Nat.dvd_zero 4
        | some kind =>
            show 4 ∣ nativeSize kind
            unfold nativeSize
            cases kind.width <;> decide
      exact Nat.dvd_add hfirst ih

theorem stackAdjust_eq (sig : Signature) :
    stackAdjust sig =
      (max (nativeBytes sig.params) (resultSize sig.result) + 4 + 15) / 16 * 16 - 4 := by
  rw [stackAdjust, align16, blockSize_eq]

theorem nativeBytes_le_stackAdjust (sig : Signature) :
    nativeBytes sig.params ≤ stackAdjust sig := by
  rw [stackAdjust_eq]
  omega

theorem twelve_le_stackAdjust (sig : Signature) : 12 ≤ stackAdjust sig := by
  rw [stackAdjust_eq]
  omega

theorem resultSize_le (result : Slot) : resultSize result ≤ 16 := by
  unfold resultSize targetSize
  split
  · decide
  · split
    · decide
    · split <;> decide

theorem stackAdjust_le {sig : Signature} (h : nativeBytes sig.params < 2 ^ 31) :
    stackAdjust sig + 4 ≤ 2 ^ 31 := by
  have hfour := four_dvd_nativeBytes sig.params
  have hresult := resultSize_le sig.result
  rw [stackAdjust_eq]
  omega

theorem wrapSize_of_lt {n : Nat} (h : n < 2 ^ 31) : wrapSize n = n := by
  have hcount : halfWordCount = 2 ^ 32 := rfl
  exact Int.bmod_eq_of_le (by omega) (by omega)

theorem signExtend_ofInt (n : Nat) :
    (BitVec.ofInt 32 (n : Int)).signExtend 32 = BitVec.ofNat 32 n := by
  rw [BitVec.signExtend_eq, BitVec.ofInt_natCast]

/-!
# Staying in the frame
-/

abbrev InFrame (entry : State 32) (sig : Signature) (c : Core 32) : Prop :=
  X86.InFrame calleeSaved entry (stackAdjust sig) c

namespace InFrame

variable {entry : State 32} {sig : Signature} {c : Core 32}

theorem enter (entry : State 32) {sig : Signature} :
    InFrame entry sig
      (entry.toCore.effect (.subImm .esp (BitVec.ofInt 32 (stackAdjust sig : Nat)))) where
  sp := by
    have hsp : (entry.toCore.effect
        (.subImm .esp (BitVec.ofInt 32 (stackAdjust sig : Nat)))).gpr .rsp =
          entry.gpr .rsp - (BitVec.ofInt 32 (stackAdjust sig : Nat)).signExtend 32 := by
      exact BitVec.setWidth_eq _
    rw [hsp, signExtend_ofInt, BitVec.sub_add_cancel]
  saved := by
    intro r hmem
    have hne : r ≠ .rsp := ne_of_mem_of_not_mem hmem (by decide)
    exact if_neg hne
  home := rfl

theorem setEax (h : InFrame entry sig c) (value : BitVec 32) :
    InFrame entry sig (c.set .eax value) :=
  h.set value (by decide) (by decide)

theorem setEdx (h : InFrame entry sig c) (value : BitVec 32) :
    InFrame entry sig (c.set .edx value) :=
  h.set value (by decide) (by decide)

theorem fills (h : InFrame entry sig c) {filled : Core 32} {dst size : Nat}
    (hadjust : stackAdjust sig + 4 ≤ 2 ^ 31) (hspace : dst + size ≤ stackAdjust sig)
    (hfills : Fills c filled dst size) : InFrame entry sig filled where
  sp := by
    rw [h.sp]
    exact congrArg (· + _) hfills.esp.symm
  saved := by
    intro r hmem
    have hne : r ≠ .eax := ne_of_mem_of_not_mem hmem (by decide)
    rw [hfills.gpr r hne]
    exact h.saved r hmem
  home := by
    have hkept := hfills.apart (stackAdjust sig) 4 (by omega) (Or.inr hspace)
    have hsp : c.gpr .esp + BitVec.ofNat 32 (stackAdjust sig) = entry.gpr .rsp := h.sp.symm
    rw [hsp] at hkept
    exact hkept.trans h.home

theorem spill (h : InFrame entry sig c) (hadjust : stackAdjust sig + 4 ≤ 2 ^ 31) {n count : Nat}
    (value : BitVec (8 * count)) (hspace : n + count ≤ 8) :
    InFrame entry sig (c.store count (stack n) value) := by
  have hroom := twelve_le_stackAdjust sig
  exact X86.InFrame.store h value (address_stack c n) (by omega) (by omega)

/-- The target returns into the frame, whatever it has done to its arguments. -/
theorem afterTarget {next : BitVec 32} {called back : State 32} (h : InFrame entry sig c)
    (hadjust : stackAdjust sig + 4 ≤ 2 ^ 31) (hcalled : called.toCore = c.push next)
    (hback : Returned called back) (hkeeps : KeepsHome entry called back) :
    back.pc = next ∧ InFrame entry sig back.toCore := by
  refine X86.InFrame.returned h (by decide) (by omega) (by decide) hcalled hback ?_
  exact Memory.read_congr hkeeps

theorem afterHelper {next : BitVec 32} {called back : State 32} (h : InFrame entry sig c)
    (hadjust : stackAdjust sig + 4 ≤ 2 ^ 31) (hcalled : called.toCore = c.push next)
    (hback : Returned called back) (hkeeps : KeepsFrame entry called back) :
    back.pc = next ∧ InFrame entry sig back.toCore ∧ back.gpr .esp = c.gpr .esp ∧
      forall n count, n + count ≤ 8 ->
        back.memory.read count (c.gpr .esp + BitVec.ofNat 32 n) =
          c.memory.read count (c.gpr .esp + BitVec.ofNat 32 n) := by
  have hroom := twelve_le_stackAdjust sig
  have hread : forall n count, n + count ≤ stackAdjust sig + 4 ->
      back.memory.read count (c.gpr .rsp + BitVec.ofNat 32 n) =
        called.memory.read count (c.gpr .rsp + BitVec.ofNat 32 n) := by
    intro n count hn
    exact X86.InFrame.read_of_keepsFrame h (by omega) hcalled hkeeps (by omega)
  have hhome := hread (stackAdjust sig) 4 (by omega)
  rw [← h.sp] at hhome
  rcases X86.InFrame.returned h (by decide) (by omega) (by decide) hcalled hback hhome with
    ⟨hnext, hframe⟩
  have hsp : back.gpr .rsp = c.gpr .rsp := by
    rw [hback.sp, hcalled, ← c.gpr_rsp_eq next]
  refine ⟨hnext, hframe, hsp, ?_⟩
  intro n count hn
  refine (hread n count (by omega)).trans ?_
  show _ = c.memory.read count (c.gpr .rsp + BitVec.ofNat 32 n)
  rw [hcalled, c.gpr_rsp_eq next, Memory.offset_add]
  have htop : 32 / 8 + n + count ≤ 2 ^ 32 := by omega
  exact c.read_push next (by decide) (by omega) htop

end InFrame
end I386
end NativeCall
