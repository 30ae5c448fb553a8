import NativeCall.Proofs.A64.Trace
import NativeCall.Proofs.Aarch64.EndToEnd
import NativeCall.Proofs.Course

/-!
# Courses of AArch64 trampolines

The frame record is stored when the frame is built, in the block at its bottom. The one later
store of a trampoline fills the spill slot above it.
-/

namespace NativeCall
namespace Aarch64

open A64 (Ahead Core Instr Reg State machine)
open Machine (Calls Leaves)

/-- A function that was called from a trampoline has returned, and the frame is as it was. -/
def Returns (entry called back : State) : Prop :=
  Returned called back ∧ KeepsFrame entry called back

def layout : Layout :=
  { size := 32, block := 16, slot := 16, slotSize := 8 }

theorem fits_layout : layout.Fits machine :=
  ⟨by decide, by decide, by decide⟩

def resultBits (result : Slot) (c : Core) : Word :=
  match result.kind with
  | none => 0
  | some kind =>
      match kind.register with
      | .integer => c.gpr .x0
      | .single | .double => (c.vector .v0).setWidth 64

/-!
# Quiet instructions
-/

def isQuiet : Instr -> Bool
  | .blr _ | .br _ | .ret => false
  | .stpPre .. | .str .. | .strFp .. => false
  | _ => true

theorem isStraight_of_isQuiet {instr : Instr} (h : isQuiet instr = true) :
    instr.isStraight = true := by
  cases instr <;> first | rfl | cases h

theorem isQuiet_action (c : Core) {instr : Instr} (h : isQuiet instr = true) :
    (c.action instr).IsQuiet := by
  cases instr <;> first | rfl | cases h

theorem does_effect (c : Core) {instr : Instr} {allowed : Action 64 -> Prop}
    (h : instr.isStraight = true) (hallowed : allowed (c.action instr)) :
    machine.Does allowed ⟨c, c.action instr, c.effect instr⟩ :=
  ⟨c.isStraight_action h, hallowed, c.memory_effect h⟩

theorem does_quiet (c : Core) {code : List Instr}
    (h : forall instr, instr ∈ code -> isQuiet instr = true) : forall e, e ∈ c.transitions code ->
      machine.Does Action.IsQuiet e := by
  induction code generalizing c with
  | nil =>
      intro e hmem
      cases hmem
  | cons instr code ih =>
      have hquiet := h instr List.mem_cons_self
      intro e hmem
      rcases List.mem_cons.mp hmem with rfl | hrest
      · exact does_effect c (isStraight_of_isQuiet hquiet) (isQuiet_action c hquiet)
      · exact ih _ (fun other hother => h other (List.mem_cons_of_mem instr hother)) e hrest

theorem isQuiet_movImm64 (dst : Reg) (value : Word) : forall instr,
    instr ∈ Instr.movImm64 dst value -> isQuiet instr = true := by
  simp [Instr.movImm64, isQuiet]

theorem isQuiet_extendInto (dst src : Reg) (kind : ValueClass) (host : HostType) : forall instr,
    instr ∈ extendInto dst src kind host -> isQuiet instr = true := by
  intro instr hmem
  unfold extendInto at hmem
  split at hmem
  case h_7 =>
    split at hmem
    · rw [List.mem_singleton.mp hmem]
      rfl
    · split at hmem
      · cases hmem
      · rw [List.mem_singleton.mp hmem]
        rfl
  all_goals
    rw [List.mem_singleton.mp hmem]
    rfl

theorem isQuiet_argumentMoves (sig : Signature) : forall instr,
    instr ∈ argumentMoves sig -> isQuiet instr = true := by
  intro instr hmem
  rcases List.mem_flatMap.mp hmem with ⟨⟨⟨slot, kind⟩, index⟩, _, hmove⟩
  exact isQuiet_extendInto _ _ kind slot.host instr hmove

theorem isQuiet_reloadResult (kind : ValueClass) : isQuiet (reloadResult kind) = true := by
  unfold reloadResult
  split
  · rfl
  · rfl
  · split <;> rfl

theorem isQuiet_normalizeBoolean (result : Slot) : forall instr,
    instr ∈ normalizeBoolean result -> isQuiet instr = true := by
  unfold normalizeBoolean
  split
  · split <;> simp [isQuiet]
  · simp

theorem isQuiet_afterCall (result : Slot) : forall instr,
    instr ∈ afterCall result none -> isQuiet instr = true := by
  intro instr hmem
  unfold afterCall at hmem
  split at hmem
  next hsome _ => cases hsome
  next hsome _ => cases hsome
  next =>
    split at hmem
    · exact isQuiet_extendInto .x0 .x0 _ .long instr hmem
    · cases hmem
  next => cases hmem

/-!
# Constants
-/

theorem does_movImm64 (c : Core) (dst : Reg) (value : Word) : forall e,
    e ∈ c.transitions (Instr.movImm64 dst value) -> machine.Does Action.IsConstant e := by
  intro e hmem
  simp only [Instr.movImm64, Core.transitions, List.mem_cons, List.not_mem_nil, or_false] at hmem
  rcases hmem with rfl | rfl | rfl | rfl
  · exact does_effect _ rfl rfl
  · exact does_effect _ rfl rfl
  · exact does_effect _ rfl rfl
  · exact does_effect _ rfl rfl

theorem getLsbD_piece (value : Word) (shift : Nat) {i : Nat} (hi : i < 64) :
    ((value.extractLsb' shift 16).setWidth 64 <<< shift).getLsbD i =
      (decide (shift ≤ i ∧ i < shift + 16) && value.getLsbD i) := by
  rw [BitVec.getLsbD_shiftLeft, BitVec.getLsbD_setWidth, BitVec.getLsbD_extractLsb']
  by_cases hlow : shift ≤ i
  · rw [show shift + (i - shift) = i by omega]
    by_cases hhigh : i < shift + 16
    · simp [hi, hlow, hhigh, show ¬i < shift by omega, show i - shift < 64 by omega,
        show i - shift < 16 by omega]
    · simp [hhigh, show ¬i - shift < 16 by omega]
  · simp [hlow, show i < shift by omega]

/-- The four pieces of an address make up all of it. -/
theorem constants_movImm64 (c : Core) (dst : Reg) (value : Word) :
    machine.constants (c.transitions (Instr.movImm64 dst value)) = value := by
  have hpieces : machine.constants (c.transitions (Instr.movImm64 dst value)) =
      (value.extractLsb' 0 16).setWidth 64 <<< 0 |||
        ((value.extractLsb' 16 16).setWidth 64 <<< 16 |||
          ((value.extractLsb' 32 16).setWidth 64 <<< 32 |||
            ((value.extractLsb' 48 16).setWidth 64 <<< 48 ||| 0#64))) := rfl
  rw [hpieces]
  apply BitVec.eq_of_getLsbD_eq
  intro i hi
  rw [BitVec.getLsbD_or, BitVec.getLsbD_or, BitVec.getLsbD_or, BitVec.getLsbD_or,
    getLsbD_piece value 0 hi, getLsbD_piece value 16 hi, getLsbD_piece value 32 hi,
    getLsbD_piece value 48 hi]
  cases value.getLsbD i with
  | false => simp
  | true =>
      simp
      omega

/-!
# Calls from a frame
-/

section Frames

variable {entry : State}

theorem InFrame.sp_eq_base {c : Core} (h : InFrame entry c) :
    c.sp = machine.base entry.toCore layout := by
  have hbase : machine.base entry.toCore layout = entry.sp - BitVec.ofNat 64 32 := rfl
  rw [hbase, h.sp, BitVec.add_sub_cancel]

theorem calls_blr {c : Core} {next : Word} (target : Word) (native : Core) (h : InFrame entry c) :
    machine.Calls entry.toCore layout target native
      [⟨c, .call target, c.set .lr next⟩, ⟨c.set .lr next, .resume, native⟩] := by
  refine @Calls.intro machine entry.toCore layout target native c (c.set .lr next)
    h.sp_eq_base ?_
  intro n _
  exact congrFun (c.memory_set .lr next) _

variable {image : Image 64} {goal : machine.Trace -> State -> Prop} {s : State}

/-- Straight code that ends with the call of an absolute address, and the return to what
follows it. -/
theorem runs_callAbs {body rest : List Instr} {address : Address}
    (hbody : forall instr, instr ∈ body -> instr.isStraight = true)
    (hframe : InFrame entry (s.toCore.effects body))
    (hahead : Ahead image (body ++ (callAbs address ++ rest)) s.pc)
    (hgoal : forall (back : State) (call : machine.Trace),
      machine.Calls entry.toCore layout address back.toCore call -> InFrame entry back.toCore ->
        Ahead image rest back.pc ->
          machine.Runs image (Returns entry) (fun trace => goal
            (s.toCore.transitions body ++
              ((s.toCore.effects body).transitions (Instr.movImm64 .x9 address) ++
                (call ++ trace)))) back) :
    machine.Runs image (Returns entry) goal s := by
  have hsplit : body ++ (callAbs address ++ rest) =
      (body ++ Instr.movImm64 .x9 address) ++ (.blr .x9 :: rest) := by
    simp [callAbs]
  rw [hsplit] at hahead
  refine A64.runs_straight hahead ?_ ?_
  · intro instr hmem
    rcases List.mem_append.mp hmem with hbodyMem | hload
    · exact hbody instr hbodyMem
    · exact straight_movImm64 .x9 address instr hload
  intro t hcore hcode
  rw [Core.effects_append, A64.effects_movImm64 _ _ (by decide)] at hcore
  have hloaded : InFrame entry t.toCore := by
    rw [hcore]
    exact hframe.set _ (by decide)
  have htarget : t.toCore.x .x9 = address := by
    rw [hcore, Core.x_eq _ (by decide)]
    exact Core.gpr_set_self _ address (by decide)
  refine A64.runs_blr hcode ?_
  intro next called back hcalled hrest hback
  rcases hloaded.afterReturn hcalled hback.left hback.right with ⟨hnext, hreturned, _⟩
  rw [← hnext] at hrest
  rw [htarget, hcalled, Core.transitions_append]
  simp only [List.append_assoc]
  exact hgoal back _ (calls_blr _ back.toCore hloaded) hreturned hrest

/-- Code that stores nothing and then leaves the frame. -/
theorem runs_leave {body : List Instr} (hbody : forall instr, instr ∈ body -> isQuiet instr = true)
    (hframe : InFrame entry (s.toCore.effects body))
    (hahead : Ahead image (body ++ [.ldpPost .fp .lr .sp frameSize, .ret]) s.pc)
    (hgoal : forall back trace, machine.Leaves entry.toCore back trace -> goal trace back) :
    machine.Runs image (Returns entry) goal s := by
  have hsplit : body ++ [.ldpPost .fp .lr .sp frameSize, .ret] =
      (body ++ [.ldpPost .fp .lr .sp frameSize]) ++ [.ret] := by
    simp
  have hquiet : forall instr, instr ∈ body ++ [.ldpPost .fp .lr .sp frameSize] ->
      isQuiet instr = true := by
    intro instr hmem
    rcases List.mem_append.mp hmem with hbodyMem | hleave
    · exact hbody instr hbodyMem
    · rw [List.mem_singleton.mp hleave]
      rfl
  rw [hsplit] at hahead
  refine A64.runs_straight hahead
    (fun instr hmem => isStraight_of_isQuiet (hquiet instr hmem)) ?_
  intro t hcore hcode
  refine A64.runs_ret hcode ?_
  intro back hback hpc
  have hleft : t.toCore = (s.toCore.effects body).effect (.ldpPost .fp .lr .sp frameSize) := by
    rw [hcore, Core.effects_append]
    rfl
  have hsp : t.sp = entry.sp := by
    rw [hleft, hframe.sp]
    rfl
  have hfp : t.gpr .fp = entry.gpr .fp := by
    rw [hleft]
    exact hframe.record
  have hlr : t.gpr .lr = entry.gpr .lr := by
    rw [hleft]
    exact hframe.link
  have hreturn : t.toCore.x .lr = entry.gpr .lr := (t.toCore.x_eq (by decide)).trans hlr
  have hlinkage : machine.linkage t.toCore = machine.linkage entry.toCore := by
    show [t.gpr .fp, t.gpr .lr] = [entry.gpr .fp, entry.gpr .lr]
    rw [hfp, hlr]
  have hpopped : back.sp = entry.sp + BitVec.ofNat 64 0 := by
    rw [hback, hsp]
    exact (BitVec.add_zero _).symm
  rw [hreturn]
  exact hgoal back _ (@Leaves.intro machine entry.toCore back _ t.toCore
    (does_quiet s.toCore hquiet) hsp hlinkage (congrArg Core.memory hback) (hpc.trans hreturn)
    hpopped)

end Frames

/-!
# Stretches
-/

section Stretches

variable {sig : Signature}

theorem base_eq_frameBase (entry : State) :
    machine.base entry.toCore layout = frameBase entry := by
  have hbase : machine.base entry.toCore layout = entry.sp - BitVec.ofNat 64 32 := rfl
  rw [hbase, sp_eq_frameBase entry, BitVec.add_sub_cancel]

/-- The frame record fills the block, and nothing else is stored up to the call. -/
theorem does_opening (entry : State) (sig : Signature) (target : Address) : forall e,
    e ∈ entry.toCore.transitions (enter ++ argumentMoves sig) ++
        (entry.toCore.effects (enter ++ argumentMoves sig)).transitions (Instr.movImm64 .x9 target) ->
      machine.Does (Action.StoresIn (machine.base entry.toCore layout) 0 layout.block) e := by
  have hmoves : forall instr, instr ∈ argumentMoves sig ++ Instr.movImm64 .x9 target ->
      isQuiet instr = true :=
    List.forall_mem_append.mpr ⟨isQuiet_argumentMoves sig, isQuiet_movImm64 .x9 target⟩
  rw [← Core.transitions_append, List.append_assoc, Core.transitions_append]
  refine List.forall_mem_append.mpr ⟨?_, ?_⟩
  · intro e hmem
    rcases List.mem_pair.mp hmem with rfl | rfl
    · refine does_effect entry.toCore rfl ⟨0, ?_, Nat.le_refl 0, Nat.le_refl 16⟩
      rw [BitVec.add_zero, base_eq_frameBase]
      rfl
    · exact does_effect _ rfl trivial
  · intro e hmem
    exact (does_quiet _ hmoves e hmem).mono fun _ h => Action.IsQuiet.storesIn h _ _ _

theorem does_spillResult {entry : State} {c : Core} (h : InFrame entry c) {kind : ValueClass}
    (hkind : sig.result.kind = some kind) :
    machine.Does (Action.Spills (machine.spillSlot entry.toCore layout) 8
      (resultBits sig.result c)) ⟨c, c.action (spillResult kind), c.effect (spillResult kind)⟩ := by
  have hslot : c.address .fp spillOffset =
      machine.spillSlot entry.toCore layout + BitVec.ofNat 64 0 := by
    rw [h.address_slot, BitVec.add_zero, h.sp_eq_base]
    rfl
  have hlow : forall bits : BitVec 64, bits = bits.extractLsb' 0 64 := by
    intro bits
    rw [← BitVec.setWidth_eq_extractLsb' (Nat.le_refl 64), BitVec.setWidth_eq]
  refine does_effect c (isPlain_spillResult kind).straight ?_
  unfold spillResult resultBits
  simp only [hkind]
  cases kind.register with
  | integer =>
      refine ⟨0, hslot, Nat.le_refl 8, ?_⟩
      rw [x_x0]
      exact (BitVec.setWidth_eq _).trans (hlow _)
  | single =>
      refine ⟨0, hslot, (by decide : 0 + 4 ≤ 8), ?_⟩
      show (c.vector .v0).setWidth 32 = ((c.vector .v0).setWidth 64).extractLsb' 0 32
      rw [← BitVec.setWidth_eq_extractLsb' (by decide),
        BitVec.setWidth_setWidth_of_le _ (by decide)]
  | double => exact ⟨0, hslot, Nat.le_refl 8, hlow _⟩

/-- The code puts the result into the spill slot. -/
structure Spills (entry : State) (result : Core -> Word) (spill : List Instr) : Prop where
  straight : forall instr, instr ∈ spill -> instr.isStraight = true
  spills : forall c, InFrame entry c -> forall e, e ∈ c.transitions spill ->
    machine.Does
      (Action.Spills (machine.spillSlot entry.toCore layout) layout.slotSize (result c)) e
  frame : forall c, InFrame entry c -> InFrame entry (c.effects spill)

theorem Spills.nil {entry : State} {result : Core -> Word} : Spills entry result [] where
  straight := by simp
  spills := by
    intro c _ e hmem
    cases hmem
  frame := fun _ hframe => hframe

theorem spills_spillResult (entry : State) {kind : ValueClass}
    (hkind : sig.result.kind = some kind) :
    Spills entry (resultBits sig.result) [spillResult kind] where
  straight := by
    intro instr hmem
    rw [List.mem_singleton.mp hmem]
    exact (isPlain_spillResult kind).straight
  spills := by
    intro c hframe e hmem
    rw [List.mem_singleton.mp hmem]
    exact does_spillResult hframe hkind
  frame := fun c hframe => hframe.spillResult kind

/-- The code works on the result in registers. -/
structure Closes (entry : State) (closing : List Instr) : Prop where
  quiet : forall instr, instr ∈ closing -> isQuiet instr = true
  frame : forall c, InFrame entry c -> InFrame entry (c.effects closing)

theorem Closes.append {entry : State} {first rest : List Instr} (hfirst : Closes entry first)
    (hrest : Closes entry rest) : Closes entry (first ++ rest) where
  quiet := List.forall_mem_append.mpr ⟨hfirst.quiet, hrest.quiet⟩
  frame := by
    intro c hframe
    rw [Core.effects_append]
    exact hrest.frame _ (hfirst.frame c hframe)

theorem closes_normalizeBoolean (entry : State) (result : Slot) :
    Closes entry (normalizeBoolean result) where
  quiet := isQuiet_normalizeBoolean result
  frame := fun _ hframe => hframe.normalizeBoolean result

theorem closes_afterCall (entry : State) (result : Slot) :
    Closes entry (afterCall result none) where
  quiet := isQuiet_afterCall result
  frame := fun _ hframe => hframe.afterCall result

theorem closes_reloadResult (entry : State) (kind : ValueClass) :
    Closes entry [reloadResult kind] where
  quiet := by
    intro instr hmem
    rw [List.mem_singleton.mp hmem]
    exact isQuiet_reloadResult kind
  frame := fun _ hframe => hframe.reloadResult kind

end Stretches

/-!
# Courses
-/

section Courses

variable {image : Image 64} {sig : Signature} {target : Address} {entry : State}

theorem runs_direct (hcount : sig.integerCount ≤ 6)
    (hahead : Ahead image (code sig target none .direct) entry.pc) :
    machine.Runs image (Returns entry) (machine.Course entry.toCore layout
      (resultBits sig.result) target .direct none) entry := by
  have hquiet : forall instr, instr ∈ argumentMoves sig ++ Instr.movImm64 .x9 target ->
      isQuiet instr = true :=
    List.forall_mem_append.mpr ⟨isQuiet_argumentMoves sig, isQuiet_movImm64 .x9 target⟩
  have hsplit : code sig target none .direct =
      (argumentMoves sig ++ Instr.movImm64 .x9 target) ++ [.br .x9] := by
    simp [code, jumpAbs]
  have hkeeps := keepsRest_argumentMoves entry.toCore hcount
  rw [hsplit] at hahead
  refine A64.runs_straight hahead
    (fun instr hmem => isStraight_of_isQuiet (hquiet instr hmem)) ?_
  intro t hcore hcode
  have hloaded := hcore
  rw [Core.effects_append, A64.effects_movImm64 _ _ (by decide)] at hloaded
  have htarget : t.toCore.x .x9 = target := by
    rw [hloaded, Core.x_eq _ (by decide)]
    exact Core.gpr_set_self _ target (by decide)
  refine A64.runs_br hcode ?_
  intro called hcalled hpc
  have hkept : forall r, (forall k, k < 6 -> r ≠ register k) -> r ≠ .x9 ->
      called.gpr r = entry.gpr r := by
    intro r hne hscratch
    rw [hcalled, hloaded, Core.gpr_set_of_ne _ _ hscratch]
    exact gpr_argumentMoves_of_ne entry.toCore hcount hne
  have hsp : called.sp = entry.sp := by
    rw [hcalled, hloaded, Core.sp_set]
    exact hkeeps.sp
  have hlr : called.gpr .lr = entry.gpr .lr := hkept .lr (by decide) (by decide)
  have hlinkage : machine.linkage called.toCore = machine.linkage entry.toCore := by
    show [called.gpr .fp, called.gpr .lr] = [entry.gpr .fp, entry.gpr .lr]
    rw [hkept .fp (by decide) (by decide), hlr]
  rw [htarget, ← hcalled]
  exact @Machine.Course.jump machine _ _ _ _ _ _ (does_quiet entry.toCore hquiet) hsp hlr
    hlinkage (hpc.trans htarget)

theorem straight_opening (hcount : sig.integerCount ≤ 6) : forall instr,
    instr ∈ enter ++ argumentMoves sig -> instr.isStraight = true :=
  List.forall_mem_append.mpr ⟨fun instr h => (isPlain_enter instr h).straight,
    fun instr h => (isPlain_argumentMoves hcount instr h).straight⟩

theorem inFrame_opening (hcount : sig.integerCount ≤ 6) (entry : State) :
    InFrame entry (entry.toCore.effects (enter ++ argumentMoves sig)) := by
  rw [Core.effects_append]
  exact (InFrame.enter entry).argumentMoves hcount

/-- A trampoline that calls its target from a frame, and no helper. -/
theorem runs_call {closing : List Instr} (hcount : sig.integerCount ≤ 6)
    (hcloses : Closes entry closing)
    (hahead : Ahead image ((enter ++ argumentMoves sig) ++ (callAbs target ++
      (closing ++ [.ldpPost .fp .lr .sp frameSize, .ret]))) entry.pc) :
    machine.Runs image (Returns entry) (machine.Course entry.toCore layout
      (resultBits sig.result) target .wrapped none) entry := by
  refine runs_callAbs (straight_opening hcount) (inFrame_opening hcount entry) hahead ?_
  intro native call hcall hnative hrest
  refine runs_leave hcloses.quiet (hcloses.frame _ hnative) hrest ?_
  intro back trace hleaves
  rw [← List.append_assoc]
  exact @Machine.Course.call machine _ _ _ _ _ _ _ _ _ (does_opening entry sig target) hcall
    hleaves

/-- A trampoline that calls its target from a frame, and then the helper. -/
theorem runs_capture {spill closing : List Instr} {helper : Address}
    (hcount : sig.integerCount ≤ 6) (hspills : Spills entry (resultBits sig.result) spill)
    (hcloses : Closes entry closing)
    (hahead : Ahead image ((enter ++ argumentMoves sig) ++ (callAbs target ++ (spill ++
      (callAbs helper ++ (closing ++ [.ldpPost .fp .lr .sp frameSize, .ret]))))) entry.pc) :
    machine.Runs image (Returns entry) (machine.Course entry.toCore layout
      (resultBits sig.result) target .wrapped (some helper)) entry := by
  refine runs_callAbs (straight_opening hcount) (inFrame_opening hcount entry) hahead ?_
  intro native call hcall hnative hrest
  refine runs_callAbs hspills.straight (hspills.frame _ hnative) hrest ?_
  intro kept helperCall hhelper hkept hend
  refine runs_leave hcloses.quiet (hcloses.frame _ hkept) hend ?_
  intro back trace hleaves
  rw [← List.append_assoc]
  exact @Machine.Course.capture machine _ _ _ _ _ _ _ _ _ _ _ _ _ _
    (does_opening entry sig target) hcall (hspills.spills _ hnative)
    (does_movImm64 _ .x9 helper) (constants_movImm64 _ .x9 helper) hhelper hleaves

theorem runs_wrapped {helper : Option Address} (hcount : sig.integerCount ≤ 6)
    (hahead : Ahead image (code sig target helper .wrapped) entry.pc) :
    machine.Runs image (Returns entry) (machine.Course entry.toCore layout
      (resultBits sig.result) target .wrapped helper) entry := by
  have hnormal := closes_normalizeBoolean entry sig.result
  cases helper with
  | none =>
      refine runs_call hcount ((closes_afterCall entry sig.result).append hnormal) ?_
      simpa [code, enter] using hahead
  | some helper =>
      cases hkind : sig.result.kind with
      | none =>
          -- There is no result to keep over the call of the helper.
          refine runs_capture hcount .nil hnormal ?_
          simpa [code, enter, afterCall, hkind] using hahead
      | some kind =>
          refine runs_capture hcount (spills_spillResult entry hkind)
            ((closes_reloadResult entry kind).append hnormal) ?_
          simpa [code, enter, afterCall, hkind] using hahead

end Courses
end Aarch64
end NativeCall
