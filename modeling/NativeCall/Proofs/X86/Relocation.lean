import NativeCall.Proofs.Relocation
import NativeCall.Proofs.X86.Course

/-!
# x86 code at two places

A call leaves its return address in the word below the frame. Cores that differ there alone are
alike, and what follows a call reads memory at the stack pointer, so it does not see the
difference.
-/

namespace NativeCall
namespace X86

open Machine (InStep Performs)

variable {w : Nat}

/-!
# Cores that are alike
-/

/-- How far an address lies above the start of the word below the frame. -/
def aboveWord (bottom a : BitVec w) : Nat :=
  (a - (bottom - BitVec.ofNat w (w / 8))).toNat

/-- All is equal but for the word below an address. -/
def Core.Alike (bottom : BitVec w) (c other : Core w) : Prop :=
  exists memory, other = { c with memory } ∧
    forall a, w / 8 ≤ aboveWord bottom a -> memory a = c.memory a

def Instr.reads? : Instr -> Option (Mem × Nat)
  | .movsx _ (.mem place) size | .movzx _ (.mem place) size | .mov _ (.mem place) size =>
      some (place, size.bytes)
  | .movssLoad _ place => some (place, 4)
  | .movsdLoad _ place => some (place, 8)
  | .fld place size => some (place, size.bytes)
  | _ => none

def Mem.isLocal (place : Mem) : Bool :=
  place.base == .rsp && decide (place.disp.toNat < 2 ^ 31)

def Rm.isLocal : Rm -> Bool
  | .reg _ => true
  | .mem place => place.isLocal

/-- The instruction goes on to the next one with the stack pointer as it is, and reads no memory
below it. -/
def Instr.isLocal : Instr -> Bool
  | .movsx dst src _ | .movzx dst src _ | .mov dst src _ => dst != .rsp && src.isLocal
  | .movImm dst _ _ | .addImm dst _ | .subImm dst _ | .xor dst _ _ | .or dst _ _ | .sar dst _ _
  | .setne dst => dst != .rsp
  | .movssLoad _ src | .movsdLoad _ src | .fld src _ => src.isLocal
  | .call _ | .jmp _ | .ret => false
  | _ => true

theorem Instr.isStraight_of_isLocal {instr : Instr} (h : instr.isLocal = true) :
    instr.isStraight = true := by
  cases instr <;> first | rfl | cases h

theorem Instr.isLocal_of_reads {instr : Instr} (h : instr.isLocal = true) {place : Mem}
    {count : Nat} (hreads : instr.reads? = some (place, count)) :
    place.isLocal = true ∧ count ≤ 8 := by
  have hbytes : forall size : Size, size.bytes ≤ 8 := by
    intro size
    cases size <;> decide
  cases instr with
  | movsx dst src size | movzx dst src size | mov dst src size =>
      cases src with
      | reg r => cases hreads
      | mem source =>
          cases hreads
          exact ⟨(Bool.and_eq_true_iff.mp h).right, hbytes size⟩
  | movssLoad dst src | movsdLoad dst src =>
      cases hreads
      exact ⟨h, by decide⟩
  | fld src size =>
      cases hreads
      exact ⟨h, hbytes size⟩
  | _ => cases hreads

theorem aboveWord_offset (bottom : BitVec w) {n : Nat} (h : w / 8 + n < 2 ^ w) :
    aboveWord bottom (bottom + BitVec.ofNat w n) = w / 8 + n := by
  have hplace : bottom + BitVec.ofNat w n =
      bottom - BitVec.ofNat w (w / 8) + BitVec.ofNat w (w / 8 + n) := by
    rw [← Memory.offset_add, BitVec.sub_add_cancel]
  rw [aboveWord, hplace, Memory.toNat_offset_sub _ h]

namespace Core

theorem gpr_rsp_effect (c : Core w) {instr : Instr} (h : instr.isLocal = true) :
    (c.effect instr).gpr .rsp = c.gpr .rsp := by
  have hset : forall (dst : Gpr) (value : BitVec w), (dst != .rsp) = true ->
      (c.set dst value).gpr .rsp = c.gpr .rsp := by
    intro dst value hne
    exact c.gpr_set_of_ne value (bne_iff_ne.mp hne).symm
  cases instr with
  | movsx dst src size | movzx dst src size | mov dst src size =>
      exact hset dst _ (Bool.and_eq_true_iff.mp h).left
  | movImm dst | addImm dst | subImm dst | xor dst | or dst | setne dst => exact hset dst _ h
  | sar dst count size =>
      simp only [effect]
      generalize count.toNat % (if size = .qword then 64 else 32) = steps
      by_cases hsteps : steps = 0
      · rw [if_pos hsteps]
        exact hset dst _ h
      · rw [if_neg hsteps]
        exact hset dst _ h
  | call target | jmp target | ret => cases h
  | _ => rfl

namespace Alike

variable {bottom : BitVec w} {c other : Core w}

theorem refl (bottom : BitVec w) (c : Core w) : c.Alike bottom c :=
  ⟨c.memory, rfl, fun _ _ => rfl⟩

theorem gpr_eq (h : c.Alike bottom other) : other.gpr = c.gpr := by
  rcases h with ⟨memory, rfl, _⟩
  rfl

/-- The address that a call leaves is in the word that may differ. -/
theorem push (h : c.Alike bottom other) (hsp : c.gpr .rsp = bottom) (next place : BitVec w) :
    (c.push next).Alike bottom (other.push place) := by
  rcases h with ⟨memory, rfl, hmemory⟩
  refine ⟨_, rfl, ?_⟩
  intro a ha
  have hword : w / 8 ≤ (a - (c.gpr .rsp - BitVec.ofNat w (w / 8))).toNat := by
    rw [hsp]
    exact ha
  exact (Memory.write_of_le _ _ hword).trans
    ((hmemory a ha).trans (Memory.write_of_le _ _ hword).symm)

theorem drop (h : c.Alike bottom other) : c.drop.Alike bottom other.drop := by
  rcases h with ⟨memory, rfl, hmemory⟩
  exact ⟨memory, rfl, hmemory⟩

theorem read (h : c.Alike bottom other) {place : BitVec w} {count : Nat}
    (hclear : forall n, n < count -> w / 8 ≤ aboveWord bottom (place + BitVec.ofNat w n)) :
    other.memory.read count place = c.memory.read count place := by
  rcases h with ⟨memory, rfl, hmemory⟩
  exact Memory.read_congr fun n hn => hmemory _ (hclear n hn)

/-- An instruction that does not read the word that may differ keeps cores alike and does the
same in both. -/
theorem effect (h : c.Alike bottom other) {instr : Instr} (hstraight : instr.isStraight = true)
    (hclear : forall place count, instr.reads? = some (place, count) -> forall n, n < count ->
      w / 8 ≤ aboveWord bottom (c.address place + BitVec.ofNat w n)) :
    (c.effect instr).Alike bottom (other.effect instr) ∧ other.action instr = c.action instr := by
  have hread : forall place count, instr.reads? = some (place, count) ->
      other.memory.read count (c.address place) = c.memory.read count (c.address place) := by
    intro place count hreads
    exact h.read (hclear place count hreads)
  rcases h with ⟨memory, rfl, hmemory⟩
  -- The same bytes are written at the same place.
  have hwrite : forall (count : Nat) (place : BitVec w) (value : BitVec (8 * count)) (a : BitVec w),
      w / 8 ≤ aboveWord bottom a ->
        memory.write count place value a = c.memory.write count place value a := by
    intro count place value a ha
    unfold Memory.write
    rw [hmemory a ha]
  cases instr with
  | movsx dst src size =>
      cases src with
      | reg r => exact ⟨⟨memory, rfl, hmemory⟩, rfl⟩
      | mem place =>
          refine ⟨⟨memory, ?_, hmemory⟩, rfl⟩
          exact congrArg (fun bits => ({ c with memory } : Core w).set dst (bits.signExtend w))
            (hread place size.bytes rfl)
  | movzx dst src size | mov dst src size =>
      cases src with
      | reg r => exact ⟨⟨memory, rfl, hmemory⟩, rfl⟩
      | mem place =>
          refine ⟨⟨memory, ?_, hmemory⟩, rfl⟩
          exact congrArg (fun bits => ({ c with memory } : Core w).set dst (bits.setWidth w))
            (hread place size.bytes rfl)
  | movssLoad dst src =>
      refine ⟨⟨memory, ?_, hmemory⟩, rfl⟩
      exact congrArg (fun bits => ({ c with memory } : Core w).setVector dst (bits.setWidth 128))
        (hread src 4 rfl)
  | movsdLoad dst src =>
      refine ⟨⟨memory, ?_, hmemory⟩, rfl⟩
      exact congrArg (fun bits => ({ c with memory } : Core w).setVector dst (bits.setWidth 128))
        (hread src 8 rfl)
  | fld src size =>
      refine ⟨⟨memory, ?_, hmemory⟩, rfl⟩
      exact congrArg (fun bits => ({ c with memory } : Core w).pushFloat
        ((stackFormat size).widen (Pattern.unpack bits))) (hread src size.bytes rfl)
  | store | movssStore | movsdStore | fstp => exact ⟨⟨_, rfl, hwrite _ _ _⟩, rfl⟩
  | sar dst count size =>
      refine ⟨?_, rfl⟩
      simp only [Core.effect]
      generalize count.toNat % (if size = .qword then 64 else 32) = steps
      by_cases hsteps : steps = 0
      · rw [if_pos hsteps, if_pos hsteps]
        exact ⟨memory, rfl, hmemory⟩
      · rw [if_neg hsteps, if_neg hsteps]
        exact ⟨memory, rfl, hmemory⟩
  | call target | jmp target | ret => cases hstraight
  | _ => exact ⟨⟨memory, rfl, hmemory⟩, rfl⟩

end Alike

/-- Cores that are alike, with the stack pointer right above the word that may differ. -/
structure Kin (bottom : BitVec w) (c other : Core w) : Prop where
  alike : c.Alike bottom other
  sp : c.gpr .rsp = bottom

namespace Kin

variable {bottom : BitVec w} {c other : Core w}

theorem clear (h : Kin bottom c other) (hwide : 32 ≤ w) (hnarrow : w ≤ 64) {place : Mem}
    (hplace : place.isLocal = true) {n : Nat} (hn : n < 8) :
    w / 8 ≤ aboveWord bottom (c.address place + BitVec.ofNat w n) := by
  have hpower : 2 ^ 32 ≤ 2 ^ w := Nat.pow_le_pow_right (by decide) hwide
  rcases Bool.and_eq_true_iff.mp hplace with ⟨hbase, hdisp⟩
  have hlow : place.disp.toNat < 2 ^ 31 := of_decide_eq_true hdisp
  have hsign : place.disp.msb = false := by
    rw [BitVec.msb_eq_false_iff_two_mul_lt]
    omega
  have haddress : c.address place = bottom + BitVec.ofNat w place.disp.toNat := by
    rw [address, eq_of_beq hbase, h.sp, BitVec.signExtend_eq_setWidth_of_msb_false hsign,
      ← BitVec.ofNat_toNat]
  rw [haddress, Memory.offset_add, aboveWord_offset _ (by omega)]
  exact Nat.le_add_right _ _

theorem effect (h : Kin bottom c other) (hwide : 32 ≤ w) (hnarrow : w ≤ 64) {instr : Instr}
    (hlocal : instr.isLocal = true) :
    Kin bottom (c.effect instr) (other.effect instr) ∧ other.action instr = c.action instr := by
  have hstep := h.alike.effect (Instr.isStraight_of_isLocal hlocal) fun place count hreads n hn =>
    h.clear hwide hnarrow (Instr.isLocal_of_reads hlocal hreads).left
      (Nat.lt_of_lt_of_le hn (Instr.isLocal_of_reads hlocal hreads).right)
  refine ⟨⟨hstep.left, ?_⟩, hstep.right⟩
  rw [c.gpr_rsp_effect hlocal]
  exact h.sp

end Kin
end Core

/-!
# Stretches of code
-/

theorem performs (mode : Mode) (hw : w ≤ 64) :
    (machine mode w).Performs (isa mode) Instr.isStraight Core.effect Core.action where
  action_eq := fun hahead => Ahead.action hahead
  step := by
    intro image s first rest hahead hstraight
    rcases Ahead.step hahead with ⟨next, hstep, hrest⟩
    rw [s.toCore.perform_straight next hw hstraight] at hstep
    exact ⟨_, hstep, rfl, hrest⟩
  straight := fun c _ hstraight => c.isStraight_action hstraight

section Frames

variable {mode : Mode} {saved : List Gpr} {entry other : State w} {layout : Layout}
  {scratch : Gpr} {image moved : Image w} {returns : State w -> State w -> Prop}

def frameBottom (entry : State w) (layout : Layout) : BitVec w :=
  entry.gpr .rsp - BitVec.ofNat w layout.size

/-- Memory has room for the frame, and for a word above and one below it. -/
structure Spacious (w : Nat) (layout : Layout) : Prop where
  wide : 32 ≤ w
  narrow : w ≤ 64
  room : layout.size + 2 * (w / 8) ≤ 2 ^ w

theorem read_home (hspace : Spacious w layout) {c alike : Core w}
    (halike : c.Alike (frameBottom entry layout) alike) :
    alike.memory.read (w / 8) (entry.gpr .rsp) = c.memory.read (w / 8) (entry.gpr .rsp) := by
  have hhome : entry.gpr .rsp = frameBottom entry layout + BitVec.ofNat w layout.size :=
    (BitVec.sub_add_cancel _ _).symm
  refine halike.read ?_
  intro n hn
  have hroom := hspace.room
  rw [hhome, Memory.offset_add, aboveWord_offset _ (by omega)]
  exact Nat.le_add_right _ _

theorem InFrame.sp_eq_bottom {c : Core w} (h : InFrame saved entry layout.size c) :
    c.gpr .rsp = frameBottom entry layout := by
  rw [frameBottom, h.sp, BitVec.add_sub_cancel]

theorem InFrame.of_alike (hspace : Spacious w layout) {c alike : Core w}
    (h : InFrame saved entry layout.size c)
    (halike : c.Alike (frameBottom entry layout) alike) :
    InFrame saved entry layout.size alike where
  sp := by
    rw [halike.gpr_eq]
    exact h.sp
  saved := by
    rw [halike.gpr_eq]
    exact h.saved
  home := (read_home hspace halike).trans h.home

theorem inStep_local {s later : State w} {body rest : List Instr} {bottom : BitVec w}
    (hspace : Spacious w layout) (hcode : moved.code = image.code)
    (hlocal : forall instr, instr ∈ body -> instr.isLocal = true)
    (hahead : Ahead mode image (body ++ rest) s.pc)
    (hmoved : Ahead mode moved (body ++ rest) later.pc)
    (hstart : Core.Kin bottom s.toCore later.toCore)
    (hgoal : forall t place : State w, t.toCore = s.toCore.effects body ->
      Core.Kin bottom t.toCore place.toCore -> Ahead mode image rest t.pc ->
        Ahead mode moved rest place.pc ->
          InStep (machine mode w) image moved returns (Core.Alike bottom) t place) :
    InStep (machine mode w) image moved returns (Core.Alike bottom) s later :=
  (performs mode hspace.narrow).inStep hcode (Core.Kin bottom) (fun _ _ hkin => hkin.alike)
    (fun instr hmem => Instr.isStraight_of_isLocal (hlocal instr hmem))
    (fun instr hmem _ _ hkin => hkin.effect hspace.wide hspace.narrow (hlocal instr hmem))
    hahead hmoved hstart (fun t place hcore _ => hgoal t place hcore)

theorem inStep_callAbs {s later : State w} {rest : List Instr} {address : Address}
    (hcalls : CallsReturn mode saved entry layout scratch returns) (hspace : Spacious w layout)
    (hcode : moved.code = image.code) (hframe : InFrame saved entry layout.size s.toCore)
    (halike : s.toCore.Alike (frameBottom entry layout) later.toCore)
    (hahead : Ahead mode image (Instr.callAbs mode scratch address ++ rest) s.pc)
    (hmoved : Ahead mode moved (Instr.callAbs mode scratch address ++ rest) later.pc)
    (hgoal : forall back resumed : State w, InFrame saved entry layout.size back.toCore ->
      back.toCore.Alike (frameBottom entry layout) resumed.toCore ->
        Ahead mode image rest back.pc -> Ahead mode moved rest resumed.pc ->
          InStep (machine mode w) image moved returns
            (Core.Alike (frameBottom entry layout)) back resumed) :
    InStep (machine mode w) image moved returns
      (Core.Alike (frameBottom entry layout)) s later := by
  have hload : forall instr : Instr, instr ∈ [.movImm scratch address mode.wordSize] ->
      instr.isLocal = true := by
    intro instr hmem
    rw [List.mem_singleton.mp hmem]
    exact bne_iff_ne.mpr hcalls.ne_rsp
  refine inStep_local hspace hcode hload hahead hmoved ⟨halike, hframe.sp_eq_bottom⟩ ?_
  intro t place hcore hkin hcall hmovedCall
  have hloaded : InFrame saved entry layout.size t.toCore := by
    have hset : t.toCore = s.toCore.set scratch (address.setWidth w) :=
      hcore.trans (effects_loadScratch _ scratch address hcalls.word)
    rw [hset]
    exact hframe.set _ hcalls.ne_rsp hcalls.not_saved
  rcases Ahead.step hcall with ⟨next, hstep, hrest⟩
  rcases Ahead.step hmovedCall with ⟨follow, hother, hfollow⟩
  have hsame := Ahead.action hmovedCall
  have htarget : place.gpr scratch = t.gpr scratch := congrFun hkin.alike.gpr_eq scratch
  have haction : place.toCore.action (.call scratch) = .call (t.gpr scratch) :=
    congrArg Action.call htarget
  rw [haction] at hsame
  refine .call (hcall.offset_eq hcode hmovedCall) hstep hother (Ahead.action hcall) hsame htarget
    (hkin.alike.push hkin.sp next follow) ?_
  intro back resumed hback hresumed hbacks
  rcases hcalls.returned t.toCore next _ back hloaded rfl hback with ⟨hnext, hreturned⟩
  rcases hcalls.returned place.toCore follow _ resumed (hloaded.of_alike hspace hkin.alike) rfl
    hresumed with ⟨hplace, _⟩
  rw [← hnext] at hrest
  rw [← hplace] at hfollow
  exact hgoal back resumed hreturned hbacks hrest hfollow

theorem inStep_leave {s later : State w} {body : List Instr} {imm : BitVec 32}
    (hspace : Spacious w layout) (himm : imm.signExtend w = BitVec.ofNat w layout.size)
    (hcode : moved.code = image.code) (hlocal : forall instr, instr ∈ body -> instr.isLocal = true)
    (hframe : InFrame saved entry layout.size s.toCore)
    (hleft : InFrame saved entry layout.size (s.toCore.effects body))
    (halike : s.toCore.Alike (frameBottom entry layout) later.toCore)
    (hahead : Ahead mode image (body ++ [.addImm .rsp imm, .ret]) s.pc)
    (hmoved : Ahead mode moved (body ++ [.addImm .rsp imm, .ret]) later.pc) :
    InStep (machine mode w) image moved returns (Core.Alike (frameBottom entry layout)) s
      later := by
  refine inStep_local hspace hcode hlocal hahead hmoved ⟨halike, hframe.sp_eq_bottom⟩ ?_
  intro t place hcore hkin hleave hmovedLeave
  -- The stack pointer leaves the frame, so the cores are alike and no longer kin.
  have hsplit : ([.addImm .rsp imm, .ret] : List Instr) = [.addImm .rsp imm] ++ [.ret] := rfl
  rw [hsplit] at hleave hmovedLeave
  refine (performs mode hspace.narrow).inStep hcode (Core.Alike (frameBottom entry layout))
    (fun _ _ halike => halike) ?_ ?_ hleave hmovedLeave hkin.alike ?_
  · intro instr hmem
    rw [List.mem_singleton.mp hmem]
    rfl
  · intro instr hmem c alike h
    rw [List.mem_singleton.mp hmem]
    exact h.effect rfl fun _ _ hreads => by cases hreads
  intro last follow hlast _ halike hret hmovedRet
  have hsp : last.gpr .rsp = entry.gpr .rsp := by
    have hadd : last.toCore = t.toCore.effect (.addImm .rsp imm) := hlast
    have hbody : t.toCore = s.toCore.effects body := hcore
    rw [hadd, hbody, hleft.sp, ← himm]
    exact ((s.toCore.effects body).gpr_set_self .rsp _).trans (BitVec.setWidth_eq _)
  have htop : follow.toCore.top = last.toCore.top := by
    rw [Core.top, Core.top, halike.gpr_eq, hsp, read_home hspace halike]
  rcases Ahead.step hret with ⟨_, hstep, _⟩
  rcases Ahead.step hmovedRet with ⟨_, hother, _⟩
  have hsame := Ahead.action hmovedRet
  have haction : follow.toCore.action .ret = .ret last.toCore.top := congrArg Action.ret htop
  rw [haction] at hsame
  exact .last (hret.offset_eq hcode hmovedRet) hstep hother (Ahead.action hret) hsame rfl htop
    halike.drop

/-!
# Trampolines
-/

/-- Until the first call, the cores are the same. -/
theorem inStep_opening {s later : State w} {opening rest : List Instr} (hw : w ≤ 64)
    {bottom : BitVec w} (hcode : moved.code = image.code)
    (hstraight : forall instr, instr ∈ opening -> instr.isStraight = true)
    (hsame : later.toCore = s.toCore) (hahead : Ahead mode image (opening ++ rest) s.pc)
    (hmoved : Ahead mode moved (opening ++ rest) later.pc)
    (hgoal : forall t place : State w, t.toCore = s.toCore.effects opening ->
      place.toCore = t.toCore -> Ahead mode image rest t.pc -> Ahead mode moved rest place.pc ->
        InStep (machine mode w) image moved returns (Core.Alike bottom) t place) :
    InStep (machine mode w) image moved returns (Core.Alike bottom) s later := by
  refine (performs mode hw).inStep hcode (fun c alike => alike = c) ?_ hstraight ?_
    hahead hmoved hsame (fun t place hcore _ => hgoal t place hcore)
  · intro c alike heq
    rw [heq]
    exact Core.Alike.refl bottom c
  · intro instr _ c alike heq
    rw [heq]
    exact ⟨rfl, rfl⟩

variable {opening spill closing : List Instr} {imm : BitVec 32} {result : Core w -> Word}

theorem inStep_wrapped (target : Address)
    (hcalls : CallsReturn mode saved entry layout scratch returns) (hspace : Spacious w layout)
    (himm : imm.signExtend w = BitVec.ofNat w layout.size)
    (hcode : moved.code = image.code) (hopens : Opens mode saved entry layout opening)
    (hcloses : Closes saved entry layout closing)
    (hlocal : forall instr, instr ∈ closing -> instr.isLocal = true)
    (hsame : other.toCore = entry.toCore)
    (hahead : Ahead mode image (opening ++ (Instr.callAbs mode scratch target ++
      (closing ++ [.addImm .rsp imm, .ret]))) entry.pc)
    (hmoved : Ahead mode moved (opening ++ (Instr.callAbs mode scratch target ++
      (closing ++ [.addImm .rsp imm, .ret]))) other.pc) :
    InStep (machine mode w) image moved returns (Core.Alike (frameBottom entry layout))
      entry other := by
  refine inStep_opening hcalls.width hcode hopens.straight hsame hahead hmoved ?_
  intro t place hopened heq hcall hmovedCall
  have hframe := hopens.frame
  rw [← hopened] at hframe
  refine inStep_callAbs hcalls hspace hcode hframe ?_ hcall hmovedCall ?_
  · rw [heq]
    exact Core.Alike.refl _ _
  intro back resumed hback halike hrest hmovedRest
  exact inStep_leave hspace himm hcode hlocal hback (hcloses.frame _ hback) halike hrest hmovedRest

theorem inStep_capture (target helper : Address)
    (hcalls : CallsReturn mode saved entry layout scratch returns) (hspace : Spacious w layout)
    (himm : imm.signExtend w = BitVec.ofNat w layout.size)
    (hcode : moved.code = image.code) (hopens : Opens mode saved entry layout opening)
    (hspills : Spills mode saved entry layout result spill)
    (hcloses : Closes saved entry layout closing)
    (hlocal : forall instr, instr ∈ spill ++ closing -> instr.isLocal = true)
    (hsame : other.toCore = entry.toCore)
    (hahead : Ahead mode image (opening ++ (Instr.callAbs mode scratch target ++
      (spill ++ (Instr.callAbs mode scratch helper ++
        (closing ++ [.addImm .rsp imm, .ret]))))) entry.pc)
    (hmoved : Ahead mode moved (opening ++ (Instr.callAbs mode scratch target ++
      (spill ++ (Instr.callAbs mode scratch helper ++
        (closing ++ [.addImm .rsp imm, .ret]))))) other.pc) :
    InStep (machine mode w) image moved returns (Core.Alike (frameBottom entry layout))
      entry other := by
  rcases List.forall_mem_append.mp hlocal with ⟨hspillLocal, hcloseLocal⟩
  refine inStep_opening hcalls.width hcode hopens.straight hsame hahead hmoved ?_
  intro t place hopened heq hcall hmovedCall
  have hframe := hopens.frame
  rw [← hopened] at hframe
  refine inStep_callAbs hcalls hspace hcode hframe ?_ hcall hmovedCall ?_
  · rw [heq]
    exact Core.Alike.refl _ _
  intro native resumed hnative halike hrest hmovedRest
  refine inStep_local hspace hcode hspillLocal hrest hmovedRest
    ⟨halike, hnative.sp_eq_bottom⟩ ?_
  intro kept follow hspilled hkin hhelper hmovedHelper
  have hkept : InFrame saved entry layout.size kept.toCore := by
    have heffects : kept.toCore = native.toCore.effects spill := hspilled
    rw [heffects]
    exact hspills.frame _ hnative
  refine inStep_callAbs hcalls hspace hcode hkept hkin.alike hhelper hmovedHelper ?_
  intro back last hback hlast hend hmovedEnd
  exact inStep_leave hspace himm hcode hcloseLocal hback (hcloses.frame _ hback) hlast hend
    hmovedEnd

theorem inStep_jmpAbs {bottom : BitVec w} {target : Address} (hw : w ≤ 64) (hcode : moved.code = image.code)
    (hopening : forall instr, instr ∈ opening -> instr.isStraight = true)
    (hsame : other.toCore = entry.toCore)
    (hahead : Ahead mode image (opening ++ Instr.jmpAbs mode scratch target) entry.pc)
    (hmoved : Ahead mode moved (opening ++ Instr.jmpAbs mode scratch target) other.pc) :
    InStep (machine mode w) image moved returns (Core.Alike bottom) entry other := by
  have hsplit : opening ++ Instr.jmpAbs mode scratch target =
      (opening ++ [.movImm scratch target mode.wordSize]) ++ [.jmp scratch] := by
    simp [Instr.jmpAbs]
  rw [hsplit] at hahead hmoved
  refine inStep_opening hw hcode ?_ hsame hahead hmoved ?_
  · refine List.forall_mem_append.mpr ⟨hopening, ?_⟩
    intro instr hmem
    rw [List.mem_singleton.mp hmem]
    rfl
  intro t place _ heq hjump hmovedJump
  rcases hjump.step with ⟨_, hstep, _⟩
  rcases hmovedJump.step with ⟨_, hother, _⟩
  have hsame := hmovedJump.action
  rw [heq] at hsame hother
  exact .last (hjump.offset_eq hcode hmovedJump) hstep hother hjump.action hsame rfl rfl
    (Core.Alike.refl _ _)

end Frames
end X86
end NativeCall
