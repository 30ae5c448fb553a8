import NativeCall.Proofs.CompiledCourse
import NativeCall.Proofs.X86.Disassembly

/-!
# Offsets of i386 trampolines

The size of a frame is cut to 32 bits without a check, and the offsets of the arguments are summed
up with one. What wraps in the first place is too large for the second, so that code which was
written at all has each size and each offset as it was meant.
-/

namespace NativeCall

/-!
# Places that operations name
-/

namespace X86

def Rm.place? : Rm -> Option Mem
  | .reg _ => none
  | .mem place => some place

namespace Instr

/-- The place in memory that an instruction reads or writes by name. -/
def place? : Instr -> Option Mem
  | .movsx _ src _ | .movzx _ src _ | .mov _ src _ => src.place?
  | .store place _ _ | .movssStore place _ | .movsdStore place _ | .movssLoad _ place
  | .movsdLoad _ place | .fstp place _ | .fld place _ => some place
  | _ => none

theorem place?_canonical (instr : Instr) : instr.canonical.place? = instr.place? := by
  cases instr with
  | movsx dst src size | movzx dst src size | movImm dst imm size => cases size <;> rfl
  | _ => rfl

end Instr

/-- The base and the displacement of a place, the displacement as a number. -/
def Mem.coordinates (place : Mem) : Gpr × Int :=
  (place.base, place.disp.toInt)

/-- What a processor reads of the place that an operation names. -/
def Operation.coordinates? : Operation -> Option (Gpr × Int)
  | .plain instr => instr.place?.map Mem.coordinates
  | .movsxHigh .. | .movzxHigh .. | .setneHigh .. => none

theorem filterMap_coordinates?_canonical (code : List Instr) :
    (code.map fun instr => Operation.plain instr.canonical).filterMap Operation.coordinates? =
      code.filterMap fun instr => instr.place?.map Mem.coordinates := by
  rw [List.filterMap_map]
  apply List.filterMap_congr
  intro instr _
  exact congrArg (Option.map Mem.coordinates) instr.place?_canonical

end X86

namespace I386

open X86 (Gpr Instr Mem Operation)

/-!
# The copy of one argument
-/

theorem toInt_ofInt_of_lt {n : Nat} (h : n < 2 ^ 31) : (BitVec.ofInt 32 (n : Int)).toInt = n :=
  BitVec.toInt_ofInt_eq_self (by decide) (by omega) (by omega)

theorem coordinates_stack {n : Nat} (h : n < 2 ^ 31) :
    (stack (n : Int)).coordinates = (.esp, (n : Int)) :=
  congrArg (Prod.mk Gpr.esp) (toInt_ofInt_of_lt h)

theorem coordinates_of_addOffsets {a b : Nat} {sum : Int} (h : addOffsets a b = .ok sum) :
    (stack sum).coordinates = (.esp, ((a + b : Nat) : Int)) := by
  have hlimit : offsetLimit = 2 ^ 31 := rfl
  rcases of_addOffsets_eq_ok h with ⟨rfl, hlt⟩
  rw [← Int.natCast_add] at hlt ⊢
  exact coordinates_stack (by omega)

/-- The offsets of an argument that is copied, in the order in which its instructions name them. -/
def copyOffsets (kind : ValueClass) (host : HostType) (src dst : Nat) : List Nat :=
  if kind.width = .w64 then
    if host.slotSize = 8 then [src, dst, src + 4, dst + 4] else [src, dst, dst + 4]
  else
    [src, dst]

theorem coordinates_copyArgument {slot : Slot} {kind : ValueClass} {src dst : Nat}
    {moves : List Instr} (hsrc : src < 2 ^ 31) (hdst : dst < 2 ^ 31)
    (hok : copyArgument slot kind src dst = .ok moves) :
    moves.filterMap (fun instr => instr.place?.map Mem.coordinates) =
      (copyOffsets kind slot.host src dst).map fun offset => (Gpr.esp, (offset : Int)) := by
  have hload := coordinates_stack hsrc
  have hsave := coordinates_stack hdst
  unfold copyArgument at hok
  split at hok
  next hwide =>
    rcases bind_eq_ok hok with ⟨high, hhigh, hok⟩
    rcases bind_eq_ok hok with ⟨place, hplace, hok⟩
    cases hok
    have hlast : (stack place).coordinates = (.esp, ((dst + 4 : Nat) : Int)) :=
      coordinates_of_addOffsets hplace
    unfold highHalf at hhigh
    by_cases hsize : slot.host.slotSize = 8
    · rw [if_pos hsize] at hhigh
      rcases map_eq_ok hhigh with ⟨next, hnext, rfl⟩
      have hsecond : (stack next).coordinates = (.esp, ((src + 4 : Nat) : Int)) :=
        coordinates_of_addOffsets hnext
      rw [copyOffsets, if_pos hwide, if_pos hsize]
      simp [load, save, Instr.place?, X86.Rm.place?, hload, hsave, hlast, hsecond]
    · rw [if_neg hsize] at hhigh
      cases hhigh
      rw [copyOffsets, if_pos hwide, if_neg hsize]
      simp [load, save, Instr.place?, X86.Rm.place?, hload, hsave, hlast]
  next hnarrow =>
    rw [copyOffsets, if_neg hnarrow]
    split at hok
    next size _ =>
      cases hok
      unfold extendNarrow
      split <;> simp [save, Instr.place?, X86.Rm.place?, hload, hsave]
    next =>
      cases hok
      simp [load, save, Instr.place?, X86.Rm.place?, hload, hsave]

/-!
# The copies of all arguments
-/

/-- Each argument has a copy of its own, from where the host slots before it end to where the
native arguments before it do. The induction is on the slots left to copy. -/
theorem exists_copies {adjust src dst : Nat} {slots : List Slot} {moves : List Instr}
    (hclass : forall slot, slot ∈ slots -> exists kind, slot.HasClass kind)
    (hspace : dst + nativeBytes slots ≤ adjust)
    (hok : argumentMoves adjust src dst slots = .ok moves) :
    exists copies : List (List Instr), moves = copies.flatten ∧ copies.length = slots.length ∧
      forall (k : Nat) (slot : Slot) (kind : ValueClass),
        slots[k]? = some slot -> slot.kind = some kind ->
          exists copy, copies[k]? = some copy ∧
            copy.filterMap (fun instr => instr.place?.map Mem.coordinates) =
              (copyOffsets kind slot.host
                (adjust + hostStart + (src + hostBytes (slots.take k)))
                (dst + nativeBytes (slots.take k))).map fun offset => (Gpr.esp, (offset : Int)) := by
  induction slots generalizing src dst moves with
  | nil =>
      cases hok
      refine ⟨[], rfl, rfl, ?_⟩
      intro k slot kind hslot
      cases hslot
  | cons first rest ih =>
      rcases hclass first List.mem_cons_self with ⟨kind, hfirst⟩
      have hrest : forall slot, slot ∈ rest -> exists kind, slot.HasClass kind := by
        intro other hmem
        exact hclass other (List.mem_cons_of_mem first hmem)
      rcases argumentMoves_cons_natCast hfirst.kind_eq hok with
        ⟨move, others, rfl, hplace, hcopy, hothers⟩
      rw [nativeBytes_cons hfirst.kind_eq] at hspace
      rcases ih hrest (by omega) hothers with ⟨copies, rfl, hlength, hcopies⟩
      refine ⟨move :: copies, rfl, congrArg Nat.succ hlength, ?_⟩
      intro k slot other hslot hkind
      cases k with
      | zero =>
          cases hslot
          have hsame : other = kind := Option.some.inj (hkind.symm.trans hfirst.kind_eq)
          rw [hsame]
          have hcopied := coordinates_copyArgument hplace (by omega : dst < 2 ^ 31) hcopy
          exact ⟨move, rfl, hcopied⟩
      | succ k =>
          rcases hcopies k slot other hslot hkind with ⟨copy, hget, hcopy⟩
          refine ⟨copy, hget, ?_⟩
          rw [List.take_succ_cons, hostBytes_cons, nativeBytes_cons hfirst.kind_eq,
            ← Nat.add_assoc src, ← Nat.add_assoc dst]
          exact hcopy

/-!
# The spill slot
-/

/-- An instruction that names no place but the two words of the spill slot. -/
def InSpillSlot (instr : Instr) : Prop :=
  instr.place? = none ∨ instr.place? = some (stack 0) ∨ instr.place? = some (stack 4)

theorem InSpillSlot.coordinates {instr : Instr} {place : Gpr × Int} (h : InSpillSlot instr)
    (hplace : instr.place?.map Mem.coordinates = some place) :
    place = (.esp, 0) ∨ place = (.esp, 4) := by
  rcases h with hnone | hlow | hhigh
  · rw [hnone] at hplace
    cases hplace
  · rw [hlow] at hplace
    cases hplace
    exact Or.inl rfl
  · rw [hhigh] at hplace
    cases hplace
    exact Or.inr rfl

theorem inSpillSlot_extendNarrow {src : X86.Rm} (kind : ValueClass) (size : X86.Size)
    (h : src.place? = none ∨ src.place? = some (stack 0)) :
    InSpillSlot (extendNarrow src kind size) := by
  unfold extendNarrow
  split <;> exact h.imp_right Or.inl

theorem inSpillSlot_spillResult (kind : ValueClass) :
    forall instr, instr ∈ spillResult kind -> InSpillSlot instr := by
  unfold spillResult
  split
  · simp [InSpillSlot, Instr.place?]
  · simp [InSpillSlot, Instr.place?]
  · split <;> simp [InSpillSlot, Instr.place?, save]

theorem inSpillSlot_reloadResult (kind : ValueClass) :
    forall instr, instr ∈ reloadResult kind -> InSpillSlot instr := by
  unfold reloadResult
  split
  · simp [InSpillSlot, Instr.place?]
  · simp [InSpillSlot, Instr.place?]
  · split
    · simp [InSpillSlot, Instr.place?, X86.Rm.place?, load]
    · intro instr hmem
      rw [List.mem_singleton.mp hmem]
      exact inSpillSlot_extendNarrow kind _ (Or.inr rfl)
    · simp [InSpillSlot, Instr.place?, X86.Rm.place?, load]

theorem inSpillSlot_callAbs (address : Address) :
    forall instr, instr ∈ Instr.callAbs .bits32 .eax address -> InSpillSlot instr := by
  simp [Instr.callAbs, InSpillSlot, Instr.place?]

theorem inSpillSlot_afterCall (result : Slot) (helper : Option Address) :
    forall instr, instr ∈ afterCall result helper -> InSpillSlot instr := by
  unfold afterCall
  split
  next address kind _ =>
    intro instr hmem
    rcases List.mem_append.mp hmem with hfirst | hreload
    · rcases List.mem_append.mp hfirst with hspill | hcall
      · exact inSpillSlot_spillResult kind instr hspill
      · exact inSpillSlot_callAbs address instr hcall
    · exact inSpillSlot_reloadResult kind instr hreload
  next address _ => exact inSpillSlot_callAbs address
  next kind _ =>
    unfold extendResult
    split
    · split
      · intro instr hmem
        rw [List.mem_singleton.mp hmem]
        exact inSpillSlot_extendNarrow kind _ (Or.inl rfl)
      · simp
    · simp
  next => simp

theorem inSpillSlot_hostForm (result : Slot) :
    forall instr, instr ∈ hostForm result -> InSpillSlot instr := by
  unfold hostForm
  split
  · simp
  · split
    · unfold normalizeBoolean
      split <;> simp [InSpillSlot, Instr.place?, X86.Rm.place?]
    · split
      · unfold widenToLong
        split <;> simp [InSpillSlot, Instr.place?, X86.Rm.place?]
      · simp

/-!
# Exact offsets
-/

/-- Code that opens and closes a frame of the exact size and copies each argument between its exact
offsets. What comes between the copies and the end names the spill slot only. -/
structure HasExactOffsets (sig : Signature) (code : List Byte) (enter leave : BitVec 32)
    (copies : List (List Operation)) (rest : List Operation) : Prop where
  disassembled : X86.disassemble .bits32 code =
    some (.plain (.subImm .esp enter) :: copies.flatten ++ rest ++
      [.plain (.addImm .esp leave), .plain .ret])
  enter_eq : enter.toInt = stackAdjust sig
  leave_eq : leave.toInt = stackAdjust sig
  length_copies : copies.length = sig.params.length
  copies : forall (k : Nat) (slot : Slot) (kind : ValueClass),
    sig.params[k]? = some slot -> slot.kind = some kind ->
      exists copy, copies[k]? = some copy ∧
        copy.filterMap Operation.coordinates? =
          (copyOffsets kind slot.host
            (stackAdjust sig + hostStart + hostBytes (sig.params.take k))
            (nativeBytes (sig.params.take k))).map fun offset => (Gpr.esp, (offset : Int))
  rest : forall operation, operation ∈ rest ->
    forall place, operation.coordinates? = some place -> place = (.esp, 0) ∨ place = (.esp, 4)

theorem exists_hasExactOffsets {sig : Signature} {target : Address} {helper : Option Address}
    {trampoline : Trampoline} (hbuilt : sig.Built)
    (hok : Trampoline.compile .i386 sig target helper = .ok trampoline) :
    exists enter leave copies rest,
      HasExactOffsets sig trampoline.code enter leave copies rest := by
  rcases compile_eq_ok hbuilt hok with ⟨haccepted, hadjust, moves, hmoves, hassemble⟩
  have hspace : 0 + nativeBytes sig.params ≤ stackAdjust sig := by
    rw [Nat.zero_add]
    exact nativeBytes_le_stackAdjust sig
  rcases exists_copies haccepted.params hspace hmoves with ⟨copies, rfl, hlength, hcopies⟩
  have hencodable := encodable_codeOf sig target (sig.calledHelper helper)
    (isPlain_argumentMoves haccepted.params hmoves)
  rw [← X86.assemble_isa] at hassemble
  have hread := InstructionSet.disassemble_assemble (X86.decode_nil .bits32) hencodable hassemble
  let meaning := fun instr : Instr => Operation.plain instr.canonical
  let middle := Instr.callAbs .bits32 .eax target ++
    (afterCall sig.result (sig.calledHelper helper) ++ hostForm sig.result)
  let size := BitVec.ofInt 32 (stackAdjust sig : Nat)
  have hsize : size.toInt = stackAdjust sig := toInt_ofInt_of_lt (by omega)
  exists size, size, copies.map (List.map meaning), middle.map meaning
  refine ⟨?_, hsize, hsize, ?_, ?_, ?_⟩
  · apply hread.trans
    simp [codeOf, middle, meaning, size, X86.isa, Instr.canonical]
  · rw [List.length_map, hlength]
  · intro k slot kind hslot hkind
    rcases hcopies k slot kind hslot hkind with ⟨copy, hget, hcopy⟩
    rw [Nat.zero_add, Nat.zero_add, ← X86.filterMap_coordinates?_canonical] at hcopy
    refine ⟨copy.map meaning, ?_, hcopy⟩
    rw [List.getElem?_map, hget]
    rfl
  · intro operation hmem place hplace
    rcases List.mem_map.mp hmem with ⟨instr, hinstr, rfl⟩
    have hslot : InSpillSlot instr := by
      rcases List.mem_append.mp hinstr with hcall | hlater
      · exact inSpillSlot_callAbs target instr hcall
      · rcases List.mem_append.mp hlater with hafter | hform
        · exact inSpillSlot_afterCall sig.result _ instr hafter
        · exact inSpillSlot_hostForm sig.result instr hform
    apply hslot.coordinates
    rw [← instr.place?_canonical]
    exact hplace

end I386

/-!
# Every compilation
-/

section Compilation

variable {sig : Signature}

theorem length_integerParams_le {arch : Arch} (hbuilt : sig.Built)
    (haccepts : Trampoline.accepts arch sig = true) (harch : arch ≠ .i386) :
    sig.integerParams.length ≤ 6 := by
  rw [Signature.length_integerParams]
  exact (hbuilt.accepted haccepts).integerCount_le harch

/-- No compilation faults as long as i386 offsets stay in range, the moves of an accepted signature
find a register or a place for each integer, and i386 code has the exact offsets in any case. -/
theorem compile_stays_in_range (hbuilt : sig.Built) (target : Address) (helper : Option Address) :
    (forall arch, (arch = .i386 ->
        I386.stackAdjust sig + I386.hostStart + I386.hostBytes sig.params < 2 ^ 31) ->
      forall fault, Trampoline.compile arch sig target helper ≠ .error (.fault fault)) ∧
    (Trampoline.accepts .amd64 sig = true ->
      sig.integerParams.length ≤ Amd64.argumentSources.length ∧
        sig.integerParams.length ≤ Amd64.argumentTargets.length) ∧
    (Trampoline.accepts .aarch64 sig = true ->
      forall index, index < sig.integerParams.length ->
        (Aarch64.register (index + 2)).number.toNat = index + 2) ∧
    (forall trampoline, Trampoline.compile .i386 sig target helper = .ok trampoline ->
      exists enter leave copies rest,
        I386.HasExactOffsets sig trampoline.code enter leave copies rest) := by
  refine ⟨?_, ?_, ?_, ?_⟩
  · intro arch hreach fault hfault
    rcases of_compile_eq_fault hbuilt hfault with ⟨harch, hrange⟩
    exact absurd (hreach harch) (Nat.not_lt.mpr hrange)
  · intro haccepts
    have hlength := length_integerParams_le hbuilt haccepts (by decide)
    exact ⟨hlength, hlength⟩
  · intro haccepts index hindex
    have hlength := length_integerParams_le hbuilt haccepts (by decide)
    have hsmall : index + 2 < 2 ^ 8 := by omega
    exact (BitVec.toNat_ofNat _ _).trans (Nat.mod_eq_of_lt hsmall)
  · intro trampoline hok
    exact I386.exists_hasExactOffsets hbuilt hok

end Compilation

/-- A 64-bit argument from a host slot of either size, and one that is extended. -/
def wideSignature : Signature :=
  .ofTypes .i386 [(.slonglong, .long), (.ulonglong, .int), (.schar, .short)] (.double, .double) true

theorem compile_stays_in_range_sample :
    wideSignature.Built ∧
      I386.stackAdjust wideSignature + I386.hostStart + I386.hostBytes wideSignature.params <
        2 ^ 31 ∧
      (forall fault, Trampoline.compile .i386 wideSignature 0x1000 (some 0x2000) ≠
        .error (.fault fault)) ∧
      exists trampoline,
        Trampoline.compile .i386 wideSignature 0x1000 (some 0x2000) = .ok trampoline ∧
        exists enter leave copies rest,
          I386.HasExactOffsets wideSignature trampoline.code enter leave copies rest := by
  have hbuilt : wideSignature.Built := .ofTypes ..
  have hreach : I386.stackAdjust wideSignature + I386.hostStart +
      I386.hostBytes wideSignature.params < 2 ^ 31 := by
    decide
  rcases compile_stays_in_range hbuilt 0x1000 (some 0x2000) with ⟨hfault, _, _, hexact⟩
  have hreachable : forall address, address ∈ [(0x1000 : Address), 0x2000] ->
      I386.IsReachable address := by
    intro address hmem
    rcases List.mem_pair.mp hmem with rfl | rfl <;> decide
  have hcompilable : wideSignature.IsCompilable .i386 0x1000 (some 0x2000) :=
    { accepts := by decide, helped := fun _ => rfl, reachable := fun _ => hreachable,
      reach := fun _ => hreach }
  rcases exists_compile hbuilt hcompilable with ⟨trampoline, hok⟩
  exact ⟨hbuilt, hreach, hfault .i386 fun _ => hreach, trampoline, hok, hexact trampoline hok⟩

end NativeCall
