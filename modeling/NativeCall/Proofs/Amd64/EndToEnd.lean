import NativeCall.Proofs.Amd64.Code
import NativeCall.Proofs.Amd64.Results

/-!
# Calls through x86-64 trampolines

A trampoline that is entered by the managed caller enters the target with the registers
that the buffer path fills, and comes back with the result that the buffer path gives.
-/

namespace NativeCall
namespace Amd64

open X86 (Ahead Core Gpr Instr KeepsFrame State step64)

/-!
# Calls
-/

theorem reaches_callHelper {entry s : State 64} {image : Image 64} {result : Slot}
    {helper : Address} {rest : List Instr} {goal : State 64 -> Prop}
    (hframe : InFrame entry result s.toCore)
    (hahead : Ahead .bits64 image (Instr.callAbs .bits64 .r11 helper ++ rest) s.pc)
    (hgoal : forall back : State 64, InFrame entry result back.toCore ->
      back.memory.read 8 (back.gpr .rsp) = s.memory.read 8 (s.gpr .rsp) ->
        Ahead .bits64 image rest back.pc -> Reaches (step64 image) goal back) :
    CallsHelper image (some helper) entry goal s := by
  refine X86.reaches_callAbs (by decide) (by decide) hahead ?_
  intro next called hcalled hpc hrest
  refine ⟨hpc.trans (BitVec.setWidth_eq helper), ?_⟩
  intro back hback hkeeps
  have hloaded : InFrame entry result (s.toCore.set .r11 (helper.setWidth 64)) :=
    hframe.set _ (by decide) (by decide)
  rcases hloaded.afterReturn hcalled hback hkeeps with ⟨hnext, hback', hslot⟩
  refine hgoal back hback' hslot ?_
  rw [hnext]
  exact hrest

theorem reaches_with_helper {entry s : State 64} {image : Image 64} {result : Slot} {bits : Word}
    {helper : Address}
    (hresult : result.IsResult)
    (hframe : InFrame entry result s.toCore) (hanswers : Answers s result bits)
    (hahead : Ahead .bits64 image (afterCall result (some helper) ++
      (normalizeBoolean result ++ [.addImm .rsp (frameSpace result), .ret])) s.pc) :
    CallsHelper image (some helper) entry (fun back => Returned entry back ∧
      Finds back result.host (Invoker.hostResult result bits)) s := by
  cases hkind : result.kind with
  | none =>
      have hcode : afterCall result (some helper) = Instr.callAbs .bits64 .r11 helper := by
        simp only [afterCall, hkind]
      rw [hcode] at hahead
      refine reaches_callHelper hframe hahead ?_
      intro back hback _ hrest
      refine reaches_end hresult hback ?_ hrest
      unfold Ready
      simp only [hkind]
  | some kind =>
      have hcode : afterCall result (some helper) ++
          (normalizeBoolean result ++ [.addImm .rsp (frameSpace result), .ret]) =
          [spillResult kind] ++ (Instr.callAbs .bits64 .r11 helper ++ ([reloadResult kind] ++
            (normalizeBoolean result ++ [.addImm .rsp (frameSpace result), .ret]))) := by
        simp [afterCall, hkind]
      rw [hcode] at hahead
      refine X86.reaches_straight (by decide) hahead (straight_spillResult kind) ?_
      intro t hcore hcall
      have hspilled : Spilled t.toCore kind bits := by
        rw [hcore]
        exact spilled_spillResult hkind hanswers
      have hspill : InFrame entry result t.toCore := by
        rw [hcore]
        exact hframe.spillResult kind
      refine reaches_callHelper hspill hcall ?_
      intro back hback hslot hreload
      refine X86.reaches_straight (by decide) hreload (straight_reloadResult kind) ?_
      intro u hreloaded hrest
      refine reaches_end hresult ?_ ?_ hrest
      · rw [hreloaded]
        exact hback.reloadResult kind
      · rw [hreloaded]
        exact ready_reloadResult hkind (hspilled.congr hslot)

/-!
# Arguments
-/

/-- Each argument register holds what its place in the caller's convention held. -/
theorem argumentRegisters_int (entry called : State 64) (i : Fin 6) :
    exists src dst, argumentSources[i.val]? = some src ∧ argumentTargets[i.val]? = some dst ∧
      (hostIntegers entry)[i.val]? = some (entry.toCore.operand .qword src) ∧
      (argumentRegisters called).int i = called.gpr dst := by
  have hreg : forall r, entry.toCore.operand .qword (.reg r) = entry.gpr r := by
    intro r
    exact BitVec.setWidth_eq _
  match i with
  | 0 => exact ⟨.reg .rdx, .rdi, rfl, rfl, congrArg some (hreg .rdx).symm, rfl⟩
  | 1 => exact ⟨.reg .rcx, .rsi, rfl, rfl, congrArg some (hreg .rcx).symm, rfl⟩
  | 2 => exact ⟨.reg .r8, .rdx, rfl, rfl, congrArg some (hreg .r8).symm, rfl⟩
  | 3 => exact ⟨.reg .r9, .rcx, rfl, rfl, congrArg some (hreg .r9).symm, rfl⟩
  | 4 => exact ⟨.mem (stack 8), .r8, rfl, rfl, rfl, rfl⟩
  | 5 => exact ⟨.mem (stack 16), .r9, rfl, rfl, rfl, rfl⟩

/-- After the moves, the registers agree with those that the buffer path fills. -/
theorem agreeOn_argumentRegisters {sig : Signature} {args : List Word} {entry called : State 64}
    (haccepted : sig.Accepted .amd64) (hargs : sig.Arguments args) (hhosts : Hosts sig args entry)
    (hgpr : forall r, r ∈ argumentTargets ->
      called.gpr r = (entry.toCore.effects (argumentMoves sig)).gpr r)
    (hvector : called.vector = entry.vector) :
    Registers.AgreeOn sig (argumentRegisters called) (sig.registers args) where
  int := by
    intro i hi
    rcases argumentRegisters_int entry called i with ⟨src, dst, hsrc, hdst, hword, hint⟩
    have hlength := Signature.length_integerPairs hargs.length_eq
    have hbound : i.val < (sig.integerPairs args).length := by omega
    have hpair := List.getElem?_eq_getElem hbound
    rcases hvalue : (sig.integerPairs args)[i.val] with ⟨slot, kind, arg⟩
    rw [hvalue] at hpair
    have hparam : sig.integerParams[i.val]? = some (slot, kind) := by
      rw [Signature.integerParams, ← map_pairsOf Slot.integerClass? hargs.length_eq,
        List.getElem?_map]
      exact congrArg (Option.map fun pair => (pair.1, pair.2.1)) hpair
    rcases mem_pairsOf (List.mem_of_getElem? hpair) with ⟨hzip, hclass⟩
    rcases Slot.integerClass?_eq_some hclass with ⟨hkind, hinteger⟩
    have hslot := haccepted.hasClass (List.of_mem_zip hzip).left hkind
    rw [hint, hgpr dst (List.mem_of_getElem? hdst), gpr_argumentMoves _ hparam hsrc hdst,
      Signature.int_registers hpair]
    exact HostValue.toNative_eq_extend (hslot.isIntegral hinteger) (hargs.conforms slot arg hzip)
      (hhosts.int i.val _ slot kind arg hword hpair)
  float := by
    intro i kind hkind
    rw [Signature.floatClasses_eq hargs.length_eq, List.getElem?_map] at hkind
    rcases Option.map_eq_some_iff.mp hkind with ⟨⟨slot, class', arg⟩, hpair, rfl⟩
    rw [Signature.float_registers hpair, ← hhosts.float i.val slot class' arg hpair, ← hvector]
    exact BitVec.setWidth_setWidth_of_le _ class'.width.bits_le

/-!
# Jumps
-/

theorem finds_of_passesThrough {s : State 64} {result : Slot} {bits : Word}
    (hresult : result.IsResult)
    (hpasses : result.passesThrough = true) (hanswers : Answers s result bits) :
    Finds s result.host (Invoker.hostResult result bits) := by
  rcases hresult with ⟨_, hhost, _⟩ | ⟨kind, hclass, hvoid⟩
  · rw [hhost]
    trivial
  · have hkind := hclass.kind_eq
    unfold Answers at hanswers
    unfold Invoker.hostResult ValueClass.isInteger
    simp only [hkind] at hanswers ⊢
    cases hregister : kind.register with
    | single =>
        simp only [hregister] at hanswers
        rw [hclass.host_of_single hregister]
        exact hanswers
    | double =>
        simp only [hregister] at hanswers
        rw [hclass.host_of_double hregister]
        exact hanswers
    | integer =>
        simp only [hregister] at hanswers
        show Finds s result.host (HostValue.ofNative kind result.host bits)
        rcases Slot.integer_of_passesThrough hpasses hvoid hkind hregister with
          ⟨hwidth, hhost⟩ | ⟨hwidth, hhost⟩
        · have hlow := HostValue.setWidth_extend kind bits
          rw [hwidth] at hlow
          rw [hhost]
          show (s.gpr .rax).setWidth 32 = (HostValue.extend kind bits).setWidth 32
          rw [hanswers]
          exact hlow.symm
        · rw [hhost]
          show s.gpr .rax = HostValue.extend kind bits
          rw [HostValue.extend_of_w64 bits hwidth]
          exact hanswers

/-- What the machine does from the entry of a trampoline on: it enters the target with the
arguments, and it comes back with the result once the target and the helper have returned. -/
def Calls (image : Image 64) (sig : Signature) (target : Address) (helper : Option Address)
    (registers : Registers) (entry : State 64) : Prop :=
  Reaches (step64 image) (fun called =>
    called.pc = target ∧ Registers.AgreeOn sig (argumentRegisters called) registers ∧
      forall bits back, Returned called back -> KeepsFrame entry called back ->
        Answers back sig.result bits ->
          CallsHelper image helper entry (fun s => Returned entry s ∧
            Finds s sig.result.host (Invoker.hostResult sig.result bits)) back) entry

theorem straight_argumentMoves (sig : Signature) : forall instr,
    instr ∈ argumentMoves sig -> instr.isStraight = true := by
  intro instr hmem
  rw [argumentMoves_eq] at hmem
  rcases List.mem_map.mp hmem with ⟨move, _, rfl⟩
  exact straight_extendInto move.2.2 move.2.1 move.1.2 move.1.1.host

theorem calls_of_direct {image : Image 64} {sig : Signature} {target : Address}
    {args : List Word} {entry : State 64} (haccepted : sig.Accepted .amd64)
    (hpasses : sig.result.passesThrough = true) (hargs : sig.Arguments args)
    (hhosts : Hosts sig args entry)
    (hahead : Ahead .bits64 image (code sig target none .direct) entry.pc) :
    Calls image sig target none (sig.registers args) entry := by
  refine X86.reaches_straight (by decide) hahead (straight_argumentMoves sig) ?_
  intro t hcore hjump
  refine X86.reaches_jmpAbs (by decide) (by decide) hjump ?_
  intro called hcalled hpc
  have hmoves := effects_moves entry.toCore (moves sig)
  rw [← argumentMoves_eq] at hmoves
  have hgpr : forall r, r ≠ .r11 ->
      called.gpr r = (entry.toCore.effects (argumentMoves sig)).gpr r := by
    intro r hne
    rw [hcalled, hcore]
    exact if_neg hne
  have hkept : forall r, r ∉ argumentTargets -> r ≠ .r11 -> called.gpr r = entry.gpr r := by
    intro r hnot hne
    rw [hgpr r hne]
    exact gpr_argumentMoves_of_not_mem sig entry.toCore hnot
  have hmemory : called.memory = entry.memory := by
    rw [hcalled, hcore, hmoves]
    rfl
  have hsp : called.gpr .rsp = entry.gpr .rsp := hkept .rsp (by decide) (by decide)
  refine ⟨hpc.trans (BitVec.setWidth_eq target), ?_, ?_⟩
  · refine agreeOn_argumentRegisters haccepted hargs hhosts ?_ ?_
    · intro r hmem
      refine hgpr r ?_
      exact ne_of_mem_of_not_mem hmem (by decide)
    · rw [hcalled, hcore, hmoves]
      rfl
  · intro bits back hback _ hanswers
    refine Reaches.here ⟨⟨?_, ?_, ?_⟩, ?_⟩
    · rw [hback.pc, Core.top, Core.top, hsp, hmemory]
    · rw [hback.sp, hsp]
    · intro r hmem
      rw [hback.saved r hmem]
      refine hkept r ?_ ?_
      · revert r
        decide
      · exact ne_of_mem_of_not_mem hmem (by decide)
    · exact finds_of_passesThrough haccepted.result hpasses hanswers

/-!
# Calls from a frame
-/

def enter (result : Slot) : List Instr :=
  [.subImm .rsp (frameSpace result), .xor .rax .rax .dword]

theorem gpr_enter {c : Core 64} {result : Slot} {r : Gpr} (hsp : r ≠ .rsp) (hrax : r ≠ .rax) :
    (c.effects (enter result)).gpr r = c.gpr r := by
  exact (if_neg hrax).trans (if_neg hsp)

theorem inFrame_enter (entry : State 64) (sig : Signature) :
    InFrame entry sig.result
      ((entry.toCore.effects (argumentMoves sig)).effects (enter sig.result)) where
  sp := by
    have hentry : (entry.toCore.effects (argumentMoves sig)).gpr .rsp = entry.gpr .rsp :=
      gpr_argumentMoves_of_not_mem sig entry.toCore (by decide)
    have hsp : ((entry.toCore.effects (argumentMoves sig)).effects (enter sig.result)).gpr .rsp =
        (entry.toCore.effects (argumentMoves sig)).gpr .rsp -
          (frameSpace sig.result).signExtend 64 := by
      exact BitVec.setWidth_eq _
    rw [hsp, hentry, frameSpace_eq, BitVec.sub_add_cancel]
  saved := by
    intro r hmem
    have hplain : forall r, r ∈ calleeSaved -> r ≠ .rsp ∧ r ≠ .rax ∧ r ∉ argumentTargets := by
      decide
    rcases hplain r hmem with ⟨hsp, hrax, hnot⟩
    rw [gpr_enter hsp hrax]
    exact gpr_argumentMoves_of_not_mem sig entry.toCore hnot
  home := by
    have hmoves := effects_moves entry.toCore (moves sig)
    rw [argumentMoves_eq, hmoves]
    rfl

theorem calls_of_wrapped {image : Image 64} {sig : Signature} {target : Address}
    {helper : Option Address} {args : List Word} {entry : State 64}
    (haccepted : sig.Accepted .amd64) (hargs : sig.Arguments args) (hhosts : Hosts sig args entry)
    (hahead : Ahead .bits64 image (code sig target helper .wrapped) entry.pc) :
    Calls image sig target helper (sig.registers args) entry := by
  have hcode : code sig target helper .wrapped =
      (argumentMoves sig ++ enter sig.result) ++
        (Instr.callAbs .bits64 .r11 target ++ (afterCall sig.result helper ++
          (normalizeBoolean sig.result ++ [.addImm .rsp (frameSpace sig.result), .ret]))) := by
    simp [code, enter]
  rw [hcode] at hahead
  refine X86.reaches_straight (by decide) hahead ?_ ?_
  · intro instr hmem
    rcases List.mem_append.mp hmem with hmove | henter
    · exact straight_argumentMoves sig instr hmove
    · rcases List.mem_pair.mp henter with rfl | rfl <;> rfl
  intro t hcore hcall
  refine X86.reaches_callAbs (by decide) (by decide) hcall ?_
  intro next called hcalled hpc hrest
  rw [Core.effects_append] at hcore
  have hframe : InFrame entry sig.result (t.toCore.set .r11 (target.setWidth 64)) := by
    rw [hcore]
    exact (inFrame_enter entry sig).set _ (by decide) (by decide)
  refine ⟨hpc.trans (BitVec.setWidth_eq target), ?_, ?_⟩
  · refine agreeOn_argumentRegisters haccepted hargs hhosts ?_ ?_
    · intro r hmem
      have hplain : forall r, r ∈ argumentTargets -> r ≠ .rsp ∧ r ≠ .rax ∧ r ≠ .r11 := by decide
      rcases hplain r hmem with ⟨hsp, hrax, hscratch⟩
      rw [hcalled, Core.gpr_push_of_ne _ next hsp, Core.gpr_set_of_ne _ _ hscratch, hcore]
      exact gpr_enter hsp hrax
    · have hmoves := effects_moves entry.toCore (moves sig)
      rw [← argumentMoves_eq] at hmoves
      rw [hcalled, Core.vector_push]
      show t.vector = entry.vector
      rw [hcore, hmoves]
      rfl
  · intro bits back hback hkeeps hanswers
    rcases hframe.afterReturn hcalled hback hkeeps with ⟨hnext, hback', _⟩
    rw [← hnext] at hrest
    cases helper with
    | none => exact reaches_without_helper haccepted.result hback' hanswers hrest
    | some helper => exact reaches_with_helper haccepted.result hback' hanswers hrest

/-!
# Agreement
-/

/-- A compiled call and a call through the buffer path agree. -/
theorem compile_agrees_with_invoke {sig : Signature} (target : Address) (helper : Option Address)
    (hbuilt : sig.Built) (haccepts : Trampoline.accepts .amd64 sig = true)
    (hhelper : sig.capturesError = true -> helper.isSome = true) :
    exists trampoline invoker,
      Trampoline.compile .amd64 sig target helper = .ok trampoline ∧
      Invoker.create sig target = .ok invoker ∧
      forall (image : Image 64) (args : List Word) (entry : State 64) (state : ErrorState)
        (function : NativeFunction),
        image.code = trampoline.code -> entry.pc = image.base -> sig.Arguments args ->
        Hosts sig args entry -> function.ReadsOnly sig ->
          exists registers value,
            Invoker.registers? sig.params args = some registers ∧
            (invoker.invoke function args state).1 = .ok value ∧
            Reaches (step64 image) (fun called =>
              called.pc = target ∧ Registers.AgreeOn sig (argumentRegisters called) registers ∧
              forall back, Returned called back -> KeepsFrame entry called back ->
                Answers back sig.result (function (argumentRegisters called) state.system).1 ->
                  CallsHelper image (sig.calledHelper helper) entry (fun s =>
                    Returned entry s ∧ Finds s sig.result.host value) back) entry := by
  have haccepted := hbuilt.accepted haccepts
  rcases exists_compile target haccepts hhelper with ⟨trampoline, hcompile, hassemble⟩
  have hbudget : sig.integerCount ≤ 6 ∧ sig.floatCount ≤ 8 := by
    simpa [Signature.fitsBudget, Arch.registerBudget] using haccepted.fits
  have hhost : sig.arch = Arch.host := haccepted.arch_eq
  refine ⟨trampoline, _, hcompile, Invoker.create_eq target hhost haccepted.primitive, ?_⟩
  intro image args entry state function hcode hpc hargs hhosts hreads
  refine ⟨sig.registers args, _, Signature.registers?_eq hargs.length_eq hbudget.left hbudget.right,
    Invoker.invoke_eq function state hargs.length_eq hbudget.left hbudget.right, ?_⟩
  have hcalls : Calls image sig target (sig.calledHelper helper) (sig.registers args) entry := by
    rw [← hcode] at hassemble
    have hahead := Ahead.start (encodable_code sig target (sig.calledHelper helper) sig.frame)
      hassemble
    rw [← hpc] at hahead
    cases hframe : sig.frame with
    | direct =>
        rcases sig.of_frame_eq_direct hframe with ⟨hcaptures, hpasses⟩
        have hnone : sig.calledHelper helper = none := by
          simp [Signature.calledHelper, hcaptures]
        rw [hframe, hnone] at hahead
        rw [hnone]
        exact calls_of_direct haccepted hpasses hargs hhosts hahead
    | wrapped =>
        rw [hframe] at hahead
        exact calls_of_wrapped haccepted hargs hhosts hahead
  refine hcalls.mono ?_
  intro called hcalled
  rcases hcalled with ⟨htarget, hagree, hback⟩
  refine ⟨htarget, hagree, ?_⟩
  intro back hreturned hkeeps hanswers
  have hsame := hreads _ _ state.system hagree
  have hdone := hback _ back hreturned hkeeps hanswers
  rw [hsame] at hdone
  exact hdone

/-- A signed byte in an `int` slot whose register also holds other bits: the target gets its
sign-extension. -/
theorem compile_agrees_with_invoke_schar :
    exists trampoline,
      Trampoline.compile .amd64 (.ofTypes .amd64 [(.schar, .int)] (.uchar, .boolean) true) 0x1000
        (some 0x2000) = .ok trampoline ∧
      forall image : Image 64, image.code = trampoline.code ->
        Reaches (step64 image) (fun called => called.pc = 0x1000 ∧ called.gpr .rdi = -128)
          { gpr := fun _ => 0xF00_0000_0080, vector := fun _ => 0, floats := []
            rounding := .nearest, zero := false, memory := fun _ => 0, pc := image.base } := by
  rcases compile_agrees_with_invoke 0x1000 (some 0x2000)
      (.ofTypes .amd64 [(.schar, .int)] (.uchar, .boolean) true) (by decide) (fun _ => rfl) with
    ⟨trampoline, invoker, hcompile, _, hcalls⟩
  refine ⟨trampoline, hcompile, ?_⟩
  intro image hcode
  let entry : State 64 :=
    { gpr := fun _ => 0xF00_0000_0080, vector := fun _ => 0, floats := []
      rounding := .nearest, zero := false, memory := fun _ => 0, pc := image.base }
  let echo : NativeFunction := fun registers code => (registers.int 0, code)
  have hargs : (Signature.ofTypes .amd64 [(.schar, .int)] (.uchar, .boolean) true).Arguments
      [0x80] := by
    refine ⟨rfl, ?_⟩
    intro slot arg hmem _ _
    rw [(Prod.mk.inj (List.mem_singleton.mp hmem)).right]
    decide
  have hhosts : Hosts (.ofTypes .amd64 [(.schar, .int)] (.uchar, .boolean) true) [0x80] entry := by
    constructor
    · intro i word slot kind arg hword hpair
      cases i with
      | zero =>
          cases hword
          cases hpair
          have hlow : (0xF00_0000_0080 : Word).setWidth 32 = (0x80 : Word).setWidth 32 := by decide
          exact hlow
      | succ i => cases hpair
    · intro i slot kind arg hpair
      cases hpair
  have hreads : echo.ReadsOnly (.ofTypes .amd64 [(.schar, .int)] (.uchar, .boolean) true) := by
    intro left right code hagree
    exact congrArg (fun word => (word, code)) (hagree.int 0 (by decide))
  rcases hcalls image [0x80] entry .initial echo hcode rfl hargs hhosts hreads with
    ⟨registers, value, hregisters, _, hreaches⟩
  refine hreaches.mono ?_
  intro called hcalled
  refine ⟨hcalled.left, ?_⟩
  have hfirst := hcalled.right.left.int 0 (by decide)
  rw [← Option.some.inj hregisters] at hfirst
  exact hfirst

end Amd64
end NativeCall
