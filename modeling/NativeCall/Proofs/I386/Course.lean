import NativeCall.Proofs.I386.EndToEnd
import NativeCall.Proofs.X86.Course

/-!
# Courses of i386 trampolines

The argument moves fill the block at the bottom of the frame. What is stored later fills the
spill slot, which lies there too.
-/

namespace NativeCall
namespace I386

open X86 (Ahead CallsReturn Closes Core Gpr Instr Opens Spills State)

abbrev machine : Machine :=
  X86.machine .bits32 32

/-- A function that was called from a trampoline has returned, and the trampoline's return
address is as it was. -/
def Returns (entry called back : State 32) : Prop :=
  Returned called back ∧ KeepsHome entry called back

def layout (sig : Signature) : Layout :=
  { size := stackAdjust sig, block := blockSize sig.params, slot := 0
    slotSize := resultSize sig.result }

theorem resultSize_le_stackAdjust (sig : Signature) : resultSize sig.result ≤ stackAdjust sig := by
  rw [stackAdjust_eq]
  omega

theorem fits_layout {sig : Signature} (hadjust : stackAdjust sig + 4 ≤ 2 ^ 31) :
    (layout sig).Fits machine := by
  have hblock := nativeBytes_le_stackAdjust sig
  have hresult := resultSize_le_stackAdjust sig
  rw [← blockSize_eq] at hblock
  refine ⟨hblock, ?_, ?_⟩
  · show 0 + resultSize sig.result ≤ stackAdjust sig
    omega
  · show stackAdjust sig + 4 < 2 ^ 32
    omega

/-- The bits of a result in its registers, a float in the format that it is stored in. -/
def storedBits (result : Slot) (c : Core 32) : Word :=
  match result.kind with
  | none => 0
  | some kind =>
      match kind.register with
      | .integer => resultBits c
      | .single => (c.packTop .dword).setWidth 64
      | .double => (c.packTop .qword).setWidth 64

theorem callsReturn (entry : State 32) {sig : Signature} (hadjust : stackAdjust sig + 4 ≤ 2 ^ 31) :
    CallsReturn .bits32 calleeSaved entry (layout sig) .eax (Returns entry) where
  width := by decide
  pushed := by decide
  word := by decide
  ne_rsp := by decide
  not_saved := by decide
  returned := by
    intro c next called back hframe hcalled hback
    exact InFrame.afterTarget hframe hadjust hcalled hback.left hback.right

/-!
# Argument moves
-/

/-- The instruction fills the accumulator, or saves it below an offset in the block. -/
def IsMove (limit : Nat) (instr : Instr) : Prop :=
  writesResult instr = true ∨ exists n : Nat, instr = save n ∧ n + 4 ≤ limit

theorem IsMove.mono {limit larger : Nat} {instr : Instr} (h : IsMove limit instr)
    (hle : limit ≤ larger) : IsMove larger instr := by
  rcases h with hwrites | ⟨n, hsave, hn⟩
  · exact Or.inl hwrites
  · exact Or.inr ⟨n, hsave, by omega⟩

theorem isMove_copyArgument {slot : Slot} {kind : ValueClass} {src : Int} {dst : Nat}
    {moves : List Instr} (hok : copyArgument slot kind src dst = .ok moves) :
    forall instr, instr ∈ moves -> IsMove (dst + nativeSize kind) instr := by
  unfold copyArgument at hok
  split at hok
  next hwide =>
    rw [nativeSize_of_w64 hwide]
    rcases bind_eq_ok hok with ⟨high, hhigh, hok⟩
    rcases bind_eq_ok hok with ⟨place, hplace, hok⟩
    cases hok
    have hplaceEq : place = (dst + 4 : Nat) := (of_addOffsets_eq_ok hplace).left
    have hwrites : writesResult high = true := by
      unfold highHalf at hhigh
      split at hhigh
      · rcases map_eq_ok hhigh with ⟨next, _, rfl⟩
        rfl
      · cases hhigh
        rfl
    intro instr hmem
    simp only [List.mem_cons, List.not_mem_nil, or_false] at hmem
    rcases hmem with rfl | rfl | rfl | rfl
    · exact Or.inl rfl
    · exact Or.inr ⟨dst, rfl, by omega⟩
    · exact Or.inl hwrites
    · exact Or.inr ⟨dst + 4, by rw [hplaceEq], by omega⟩
  next =>
    have hsize : 4 ≤ nativeSize kind := Nat.le_max_left 4 _
    split at hok
    · cases hok
      intro instr hmem
      rcases List.mem_pair.mp hmem with rfl | rfl
      · exact Or.inl (writesResult_extendNarrow _ kind _)
      · exact Or.inr ⟨dst, rfl, by omega⟩
    · cases hok
      intro instr hmem
      rcases List.mem_pair.mp hmem with rfl | rfl
      · exact Or.inl rfl
      · exact Or.inr ⟨dst, rfl, by omega⟩

theorem isMove_argumentMoves {adjust src dst : Nat} {slots : List Slot} {moves : List Instr}
    (hclass : forall slot, slot ∈ slots -> exists kind, slot.HasClass kind)
    (hok : argumentMoves adjust src dst slots = .ok moves) :
    forall instr, instr ∈ moves -> IsMove (dst + nativeBytes slots) instr := by
  induction slots generalizing src dst moves with
  | nil =>
      cases hok
      intro instr hmem
      cases hmem
  | cons first rest ih =>
      rcases hclass first List.mem_cons_self with ⟨kind, hfirst⟩
      rcases argumentMoves_cons_natCast hfirst.kind_eq hok with
        ⟨moves, others, rfl, _, hcopy, hothers⟩
      have hrest := ih (fun other hmem => hclass other (List.mem_cons_of_mem first hmem)) hothers
      rw [nativeBytes_cons hfirst.kind_eq]
      refine List.forall_mem_append.mpr ⟨?_, ?_⟩
      · intro instr hmem
        exact (isMove_copyArgument hcopy instr hmem).mono (by omega)
      · intro instr hmem
        exact (hrest instr hmem).mono (by omega)

theorem isQuiet_of_writesResult {instr : Instr} (h : writesResult instr = true) :
    instr.isQuiet = true := by
  cases instr <;> first | rfl | cases h

section Frames

variable {entry : State 32} {sig : Signature} {c : Core 32}

theorem place_stack (h : InFrame entry sig c) (n : Nat) :
    c.address (stack n) = machine.base entry.toCore (layout sig) + BitVec.ofNat 32 n := by
  have hsp : c.gpr .esp = machine.base entry.toCore (layout sig) :=
    @X86.InFrame.sp_eq_base 32 .bits32 calleeSaved entry (layout sig) c h
  rw [address_stack, hsp]

/-- Moves stay in the frame and store into the block. The induction is on the moves that are
left, and the frame is its invariant. -/
theorem does_moves {limit : Nat} {moves : List Instr} (h : InFrame entry sig c)
    (hadjust : stackAdjust sig + 4 ≤ 2 ^ 31) (hlimit : limit ≤ stackAdjust sig)
    (hmoves : forall instr, instr ∈ moves -> IsMove limit instr) :
    InFrame entry sig (c.effects moves) ∧ forall e, e ∈ c.transitions moves ->
      machine.Does (Action.StoresIn (machine.base entry.toCore (layout sig)) 0 limit) e := by
  induction moves generalizing c with
  | nil =>
      refine ⟨h, ?_⟩
      intro e hmem
      cases hmem
  | cons instr moves ih =>
      have hfirst : InFrame entry sig (c.effect instr) ∧
          machine.Does (Action.StoresIn (machine.base entry.toCore (layout sig)) 0 limit)
            ⟨c, c.action instr, c.effect instr⟩ := by
        rcases hmoves instr List.mem_cons_self with hwrites | ⟨n, rfl, hn⟩
        · have hquiet := isQuiet_of_writesResult hwrites
          have hstays : InFrame entry sig (c.effects [instr]) := h.effects (by simpa using hwrites)
          refine ⟨hstays, ?_⟩
          exact c.does_effect .bits32 (Instr.isStraight_of_isQuiet hquiet)
            ((c.isQuiet_action hquiet).storesIn _ _ _)
        · have hspace : n + 4 ≤ stackAdjust sig := by omega
          refine ⟨X86.InFrame.store h _ (address_stack c n) hspace (by omega), ?_⟩
          exact c.does_effect .bits32 rfl ⟨n, place_stack h n, Nat.zero_le n, hn⟩
      rcases ih hfirst.left fun other hmem => hmoves other (List.mem_cons_of_mem instr hmem) with
        ⟨hframe, hrest⟩
      refine ⟨hframe, ?_⟩
      intro e hmem
      rcases List.mem_cons.mp hmem with rfl | hlater
      · exact hfirst.right
      · exact hrest e hlater

theorem opens (entry : State 32) {moves : List Instr} (haccepted : sig.Accepted .i386)
    (hadjust : stackAdjust sig + 4 ≤ 2 ^ 31)
    (hmoves : argumentMoves (stackAdjust sig : Nat) (0 : Nat) (0 : Nat) sig.params = .ok moves) :
    Opens .bits32 calleeSaved entry (layout sig)
      (.subImm .esp (BitVec.ofInt 32 (stackAdjust sig : Nat)) :: moves) := by
  have hspace := nativeBytes_le_stackAdjust sig
  have hmove := isMove_argumentMoves haccepted.params hmoves
  rw [Nat.zero_add] at hmove
  rcases does_moves (InFrame.enter entry) hadjust hspace hmove with ⟨hframe, hdoes⟩
  rw [← blockSize_eq] at hdoes
  refine ⟨?_, ?_, hframe⟩
  · intro instr hmem
    rcases List.mem_cons.mp hmem with rfl | hmoveMem
    · rfl
    · exact (isPlain_argumentMoves haccepted.params hmoves instr hmoveMem).straight
  · intro e hmem
    rcases List.mem_cons.mp hmem with rfl | hmoveMem
    · exact entry.toCore.does_effect .bits32 rfl trivial
    · exact hdoes e hmoveMem

/-!
# Results
-/

theorem place_slot (h : InFrame entry sig c) (n : Nat) :
    c.address (stack n) =
      machine.spillSlot entry.toCore (layout sig) + BitVec.ofNat 32 n := by
  have hslot : machine.spillSlot entry.toCore (layout sig) =
      machine.base entry.toCore (layout sig) := BitVec.add_zero _
  rw [place_stack h n, hslot]

theorem does_save (h : InFrame entry sig c) {bits : Word} (hroom : 4 ≤ resultSize sig.result)
    (hbits : c.gpr .eax = bits.extractLsb' 0 32) :
    machine.Does (Action.Spills (machine.spillSlot entry.toCore (layout sig))
      (resultSize sig.result) bits) ⟨c, c.action (save 0), c.effect (save 0)⟩ := by
  refine c.does_effect .bits32 rfl ⟨0, place_slot h 0, hroom, ?_⟩
  exact (BitVec.setWidth_eq _).trans hbits

theorem does_saveHigh (h : InFrame entry sig c) {bits : Word} (hroom : 8 ≤ resultSize sig.result)
    (hbits : c.gpr .edx = bits.extractLsb' 32 32) :
    machine.Does (Action.Spills (machine.spillSlot entry.toCore (layout sig))
      (resultSize sig.result) bits)
        ⟨c, c.action (.store (stack 4) .edx .dword), c.effect (.store (stack 4) .edx .dword)⟩ := by
  refine c.does_effect .bits32 rfl ⟨4, place_slot h 4, hroom, ?_⟩
  exact (BitVec.setWidth_eq _).trans hbits

theorem does_fstp (h : InFrame entry sig c) {size : X86.Size}
    (hroom : size.bytes ≤ resultSize sig.result) (hsize : size.bytes ≤ 8) :
    machine.Does (Action.Spills (machine.spillSlot entry.toCore (layout sig))
      (resultSize sig.result) ((c.packTop size).setWidth 64))
        ⟨c, c.action (.fstp (stack 0) size), c.effect (.fstp (stack 0) size)⟩ := by
  refine c.does_effect .bits32 rfl ⟨0, place_slot h 0, by omega, ?_⟩
  show c.packTop size = ((c.packTop size).setWidth 64).extractLsb' 0 (8 * size.bytes)
  rw [← BitVec.setWidth_eq_extractLsb' (by omega), BitVec.setWidth_setWidth_of_le _ (by omega),
    BitVec.setWidth_eq]

theorem resultSize_integer {result : Slot} {kind : ValueClass} (hkind : result.kind = some kind)
    (hregister : kind.register = .integer) :
    resultSize result = if kind.width = .w64 then 8 else 4 := by
  have hinteger : kind.isFloat = false := by
    rw [ValueClass.isFloat, kind.isInteger_iff.mpr hregister]
    rfl
  simp only [resultSize, hkind, hinteger]
  rfl

theorem resultSize_float {result : Slot} {kind : ValueClass} (hkind : result.kind = some kind)
    (hregister : kind.register ≠ .integer) : resultSize result = 16 := by
  have hfloat : kind.isFloat = true := by
    rw [ValueClass.isFloat, Bool.not_eq_true']
    exact Bool.eq_false_iff.mpr fun h => hregister (kind.isInteger_iff.mp h)
  simp only [resultSize, hkind, hfloat]
  rfl

theorem spills_spillResult (entry : State 32) (hadjust : stackAdjust sig + 4 ≤ 2 ^ 31)
    {kind : ValueClass} (hkind : sig.result.kind = some kind) :
    Spills .bits32 calleeSaved entry (layout sig) (storedBits sig.result) (spillResult kind) where
  straight := fun instr hmem => (isPlain_spillResult kind instr hmem).straight
  frame := fun c hframe => InFrame.spillResult hframe hadjust kind
  spills := by
    intro c hframe e hmem
    unfold spillResult at hmem
    unfold storedBits
    simp only [hkind]
    cases hregister : kind.register with
    | single =>
        have hroom := resultSize_float hkind (by rw [hregister]; decide)
        simp only [hregister] at hmem
        rw [List.mem_singleton.mp hmem]
        exact does_fstp hframe (by rw [hroom]; decide) (by decide)
    | double =>
        have hroom := resultSize_float hkind (by rw [hregister]; decide)
        simp only [hregister] at hmem
        rw [List.mem_singleton.mp hmem]
        exact does_fstp hframe (by rw [hroom]; decide) (by decide)
    | integer =>
        have hroom := resultSize_integer hkind hregister
        have hlow : c.gpr .eax = (resultBits c).extractLsb' 0 32 := by
          exact BitVec.extractLsb'_append_eq_right.symm
        have hhigh : c.gpr .edx = (resultBits c).extractLsb' 32 32 := by
          exact BitVec.extractLsb'_append_eq_left.symm
        simp only [hregister] at hmem
        by_cases hwide : kind.width = .w64
        · rw [if_pos hwide] at hmem hroom
          rcases List.mem_pair.mp hmem with rfl | rfl
          · exact does_save hframe (by omega) hlow
          · exact does_saveHigh (InFrame.spill hframe hadjust _ (by decide)) (by omega) hhigh
        · rw [if_neg hwide] at hmem hroom
          rw [List.mem_singleton.mp hmem]
          exact does_save hframe (by omega) hlow

theorem closes_of_writesResult (entry : State 32) {closing : List Instr}
    (h : forall instr, instr ∈ closing -> writesResult instr = true) :
    Closes calleeSaved entry (layout sig) closing where
  quiet := fun instr hmem => isQuiet_of_writesResult (h instr hmem)
  frame := fun _ hframe => InFrame.effects hframe h

end Frames

/-!
# Courses
-/

theorem runs_wrapped {image : Image 32} {sig : Signature} {target : Address}
    {helper : Option Address} {moves : List Instr} {entry : State 32}
    (haccepted : sig.Accepted .i386) (hadjust : stackAdjust sig + 4 ≤ 2 ^ 31)
    (hmoves : argumentMoves (stackAdjust sig : Nat) (0 : Nat) (0 : Nat) sig.params = .ok moves)
    (hahead : Ahead .bits32 image (codeOf sig target helper moves) entry.pc) :
    machine.Runs image (Returns entry) (machine.Course entry.toCore (layout sig)
      (storedBits sig.result) (target.setWidth 32) .wrapped (helper.map (·.setWidth 32)))
      entry := by
  have hcalls := callsReturn entry hadjust
  have himm := signExtend_ofInt (stackAdjust sig)
  have hopens := opens entry haccepted hadjust hmoves
  have hform := @closes_of_writesResult sig entry _ (writesResult_hostForm sig.result)
  cases helper with
  | none =>
      have hafter := @closes_of_writesResult sig entry _
        (fun instr hmem => (plain_afterCall sig.result instr hmem).right)
      refine X86.runs_wrapped hcalls himm hopens (hafter.append hform) ?_
      rw [List.append_assoc]
      exact hahead
  | some helper =>
      cases hkind : sig.result.kind with
      | none =>
          refine X86.runs_capture hcalls himm hopens .nil hform ?_
          have hcode : afterCall sig.result (some helper) = Instr.callAbs .bits32 .eax helper := by
            simp only [afterCall, hkind]
          rw [codeOf, hcode] at hahead
          exact hahead
      | some kind =>
          have hreload := @closes_of_writesResult sig entry _ (writesResult_reloadResult kind)
          refine X86.runs_capture hcalls himm hopens (spills_spillResult entry hadjust hkind)
            (hreload.append hform) ?_
          have hcode : afterCall sig.result (some helper) =
              spillResult kind ++ (Instr.callAbs .bits32 .eax helper ++ reloadResult kind) := by
            simp only [afterCall, hkind, List.append_assoc]
          rw [codeOf, hcode] at hahead
          simp only [List.append_assoc] at hahead ⊢
          exact hahead

end I386
end NativeCall
