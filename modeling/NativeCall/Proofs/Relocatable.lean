import NativeCall.Proofs.Aarch64.Relocation
import NativeCall.Proofs.Amd64.Relocation
import NativeCall.Proofs.CompiledCourse
import NativeCall.Proofs.I386.Relocation
import NativeCall.Proofs.Parametricity
import NativeCall.Proofs.Relative

/-!
# Relocatable trampolines

The trampolines of a signature are the same code for all targets and helpers but for the fields
that hold the addresses, and each works in the same way wherever it lies.
-/

namespace NativeCall
namespace Arch

/-- Cores that differ at most in what a call from the trampoline has left of its return
address: the word below the frame on x86, the link register on AArch64. -/
def Alike : (arch : Arch) -> Signature -> arch.machine.state ->
    (c other : arch.machine.core) -> Prop
  | .i386, sig, entry => X86.Core.Alike (X86.frameBottom entry (I386.layout sig))
  | .amd64, sig, entry => X86.Core.Alike (X86.frameBottom entry (Amd64.layout sig))
  | .aarch64, _, _ => A64.Core.Alike

/-- The code is instructions one after the other, and none counts from its own address. -/
def AvoidsRelative : Arch -> List Byte -> Prop
  | .i386 => (X86.isa .bits32).Avoids (X86.isRelative .bits32)
  | .amd64 => (X86.isa .bits64).Avoids (X86.isRelative .bits64)
  | .aarch64 => A64.isa.Avoids A64.isRelative

end Arch

section Compiled

variable {arch : Arch} {sig : Signature} {target : Address} {helper : Option Address}
  {trampoline : Trampoline}

theorem avoidsRelative_of_compile (hbuilt : sig.Built)
    (hok : Trampoline.compile arch sig target helper = .ok trampoline) :
    arch.AvoidsRelative trampoline.code := by
  rcases of_compile_eq_ok hok with ⟨hchecked, hassemble, _⟩
  have haccepted := hbuilt.accepted hchecked.accepts
  cases arch with
  | i386 =>
      rcases I386.compile_eq_ok hbuilt hok with ⟨_, _, moves, hmoves, hassemble⟩
      rw [← X86.assemble_isa] at hassemble
      exact InstructionSet.avoids_of_assemble (fun _ _ => X86.isRelative_of_decode)
        (I386.encodable_codeOf sig target (sig.calledHelper helper)
          (I386.isPlain_argumentMoves haccepted.params hmoves)) hassemble
  | amd64 =>
      have hbytes : X86.assemble .bits64
          (Amd64.code sig target (sig.calledHelper helper) sig.frame) = .ok trampoline.code :=
        hassemble
      rw [← X86.assemble_isa] at hbytes
      exact InstructionSet.avoids_of_assemble (fun _ _ => X86.isRelative_of_decode)
        (Amd64.encodable_code sig target (sig.calledHelper helper) sig.frame) hbytes
  | aarch64 =>
      have hcount := haccepted.integerCount_le (by decide)
      have hbytes : A64.assemble
          (Aarch64.code sig target (sig.calledHelper helper) sig.frame) = .ok trampoline.code :=
        hassemble
      rw [← A64.assemble_isa] at hbytes
      exact InstructionSet.avoids_of_assemble (fun _ _ => A64.isRelative_of_decode)
        (Aarch64.encodable_code target (sig.calledHelper helper) sig.frame hcount) hbytes

/-- The code of a compiled trampoline at two places, entered in the same state, stays in
step. -/
theorem inStep_of_compile (hbuilt : sig.Built)
    (hok : Trampoline.compile arch sig target helper = .ok trampoline)
    {image moved : Image arch.machine.width} {entry other : arch.machine.state}
    (hcode : image.code = trampoline.code) (hmoved : moved.code = trampoline.code)
    (hpc : arch.machine.pc entry = image.base) (hplace : arch.machine.pc other = moved.base)
    (hsame : arch.machine.toCore other = arch.machine.toCore entry) :
    arch.machine.InStep image moved (arch.Returns entry) (arch.Alike sig entry) entry other := by
  have haccepted := hbuilt.accepted (of_compile_eq_ok hok).left.accepts
  have hsameCode : moved.code = image.code := hmoved.trans hcode.symm
  cases arch with
  | i386 =>
      rcases I386.exists_ahead hbuilt hok with ⟨_, hadjust, moves, hmoves, hahead⟩
      exact I386.inStep_wrapped haccepted hadjust hmoves hsameCode hsame (hahead hcode hpc)
        (hahead hmoved hplace)
  | amd64 =>
      have hfirst := Amd64.ahead_compiled hok hcode hpc
      have hsecond := Amd64.ahead_compiled hok hmoved hplace
      cases hframe : sig.frame with
      | direct =>
          rw [hframe, calledHelper_of_direct hframe] at hfirst hsecond
          exact Amd64.inStep_direct hsameCode hsame hfirst hsecond
      | wrapped =>
          rw [hframe] at hfirst hsecond
          exact Amd64.inStep_wrapped hsameCode hsame hfirst hsecond
  | aarch64 =>
      have hcount := haccepted.integerCount_le (by decide)
      have hfirst := Aarch64.ahead_compiled hcount hok hcode hpc
      have hsecond := Aarch64.ahead_compiled hcount hok hmoved hplace
      cases hframe : sig.frame with
      | direct =>
          rw [hframe, calledHelper_of_direct hframe] at hfirst hsecond
          exact Aarch64.inStep_direct hcount hsameCode hsame hfirst hsecond
      | wrapped =>
          rw [hframe] at hfirst hsecond
          exact Aarch64.inStep_wrapped hcount hsameCode hsame hfirst hsecond

end Compiled

theorem Arch.indifferent_comeBack (arch : Arch) (sig : Signature) (entry : arch.machine.state) :
    Machine.InStep.Indifferent arch.machine (arch.Alike sig entry)
      fun called back => back = arch.comeBack called := by
  intro called reached back _ halike hback
  rw [hback]
  refine ⟨_, rfl, ?_⟩
  cases arch with
  | i386 | amd64 => exact X86.Core.Alike.drop halike
  | aarch64 => exact halike

/-!
# Parametric trampolines
-/

/-- The code does the same at all places. None of its instructions counts from its own address,
and two runs that enter it in the same state stay in step. -/
structure Relocates (arch : Arch) (sig : Signature) (code : List Byte) : Prop where
  avoids : arch.AvoidsRelative code
  inStep : forall {image moved : Image arch.machine.width} {entry other : arch.machine.state},
    image.code = code -> moved.code = code -> arch.machine.pc entry = image.base ->
      arch.machine.pc other = moved.base -> arch.machine.toCore other = arch.machine.toCore entry ->
        arch.machine.InStep image moved (arch.Returns entry) (arch.Alike sig entry) entry other

/-- The trampoline for a target and a helper has a form, and the addresses are read back from
their fields. -/
structure CodeForm.Holds (form : CodeForm) (arch : Arch) (sig : Signature) (target : Address)
    (helper : Option Address) (trampoline : Trampoline) : Prop where
  size : trampoline.code.length = form.size
  frame : trampoline.frame = sig.frame
  target : arch.readAddress trampoline.code form.target = target
  helper : form.helper.map (arch.readAddress trampoline.code) = sig.calledHelper helper
  relocates : Relocates arch sig trampoline.code

/-- All trampolines of a signature have one form, and they differ in its fields at most. Where
the arguments are out of reach of an i386 stack pointer, there are none. -/
inductive IsParametric (arch : Arch) (sig : Signature) : Prop where
  | faults {fault : Fault} (harch : arch = .i386)
      (hreach : 2 ^ 31 ≤ I386.stackAdjust sig + I386.hostStart + I386.hostBytes sig.params)
      (hfault : forall target helper, sig.IsChecked arch target helper ->
        Trampoline.compile arch sig target helper = .error (.fault fault)) :
      IsParametric arch sig
  | fills {form : CodeForm} (hapart : form.IsApart arch)
      (hhelper : form.helper.isSome = sig.capturesError)
      (hcompile : forall target helper, sig.IsChecked arch target helper ->
        exists trampoline, Trampoline.compile arch sig target helper = .ok trampoline ∧
          form.Holds arch sig target helper trampoline)
      (hdiffer : forall {target other helper helper' first second},
        Trampoline.compile arch sig target helper = .ok first ->
          Trampoline.compile arch sig other helper' = .ok second ->
            (forall i, i ∉ form.fields arch -> codeBit first.code i = codeBit second.code i) ∧
            (first.code = second.code ->
              target = other ∧ sig.calledHelper helper = sig.calledHelper helper')) :
      IsParametric arch sig

section Forms

variable {arch : Arch} {sig : Signature} {target : Address} {helper : Option Address}

theorem Signature.isSome_calledHelper (helped : sig.capturesError = true -> helper.isSome = true) :
    (sig.calledHelper helper).isSome = sig.capturesError := by
  unfold calledHelper
  split
  next hcaptures => rw [helped hcaptures, hcaptures]
  next hplain => exact (Bool.eq_false_iff.mpr hplain).symm

theorem Signature.IsChecked.toNat_lt (hchecked : sig.IsChecked arch target helper)
    {address : Address} (hmem : address ∈ target :: (sig.calledHelper helper).toList) :
    address.toNat < 2 ^ arch.addressBits := by
  cases arch with
  | i386 => exact hchecked.reachable rfl address hmem
  | amd64 | aarch64 => exact address.isLt

theorem Signature.IsChecked.compile_eq_fault (hchecked : sig.IsChecked arch target helper)
    {fault : Fault}
    (hbytes : Trampoline.bytes arch sig target (sig.calledHelper helper) = .error fault) :
    Trampoline.compile arch sig target helper = .error (.fault fault) := by
  rcases hchecked.ok_or_fault with ⟨trampoline, hok⟩ | ⟨other, hfault⟩
  · rw [(of_compile_eq_ok hok).right.left] at hbytes
    cases hbytes
  · have hcase := compilation arch sig target helper
    rw [hfault] at hcase
    cases hcase with
    | fault _ hother =>
        rw [hother] at hbytes
        cases hbytes
        exact hfault

theorem Template.holds {template : Template Byte} (hbuilt : sig.Built)
    (hfill : forall target helper, helper.isSome = sig.capturesError ->
      Trampoline.bytes arch sig target helper =
        .ok (template.fill arch.addressLoad target helper))
    (hchecked : sig.IsChecked arch target helper) :
    exists trampoline, Trampoline.compile arch sig target helper = .ok trampoline ∧
      (template.form arch sig.capturesError).Holds arch sig target helper trampoline := by
  have hhelped := Signature.isSome_calledHelper hchecked.helped
  have hok := hchecked.compile_eq (hfill target (sig.calledHelper helper) hhelped)
  refine ⟨_, hok, ?_⟩
  have hsize := template.length_fill arch target (sig.calledHelper helper)
  have htarget := hchecked.toNat_lt List.mem_cons_self
  rw [hhelped] at hsize
  refine ⟨hsize, rfl, template.readAddress_fill_target htarget, ?_,
    ⟨avoidsRelative_of_compile hbuilt hok, inStep_of_compile hbuilt hok⟩⟩
  rcases helper_cases hhelped with ⟨hplain, hnone⟩ | ⟨hcaptures, address, hsome⟩
  · rw [hplain, hnone]
    rfl
  · have hmem : address ∈ target :: (sig.calledHelper helper).toList := by simp [hsome]
    rw [hcaptures, hsome]
    exact congrArg some (Template.readAddress_fill_helper (hchecked.toNat_lt hmem))

end Forms

theorem Signature.isChecked_null {arch : Arch} {sig : Signature}
    (haccepts : Trampoline.accepts arch sig = true) : sig.IsChecked arch 0 (some 0) where
  accepts := haccepts
  helped := fun _ => rfl
  reachable := by
    intro _ address hmem
    have hnull : address = 0 := by
      unfold calledHelper at hmem
      split at hmem <;> simpa using hmem
    rw [hnull]
    decide

/-- The trampolines of an accepted signature are parametric in their addresses, and they work
wherever they lie. -/
theorem compile_parametric {arch : Arch} {sig : Signature} (hbuilt : sig.Built)
    (haccepts : Trampoline.accepts arch sig = true) : IsParametric arch sig := by
  cases Trampoline.hasTemplate arch sig with
  | @faults fault hfault =>
      have hcompile : forall target helper, sig.IsChecked arch target helper ->
          Trampoline.compile arch sig target helper = .error (.fault fault) := by
        intro target helper hchecked
        exact hchecked.compile_eq_fault
          (hfault target _ (Signature.isSome_calledHelper hchecked.helped))
      rcases of_compile_eq_fault hbuilt (hcompile _ _ (Signature.isChecked_null haccepts)) with
        ⟨harch, hreach⟩
      exact .faults harch hreach hcompile
  | @fills template hfill =>
      have hholds : forall {target helper trampoline},
          Trampoline.compile arch sig target helper = .ok trampoline ->
            (template.form arch sig.capturesError).Holds arch sig target helper trampoline := by
        intro target helper trampoline hok
        rcases Template.holds hbuilt hfill (of_compile_eq_ok hok).left with ⟨other, hother, hholds⟩
        cases hok.symm.trans hother
        exact hholds
      refine .fills (template.isApart_form arch sig.capturesError) ?_
        (fun target helper hchecked => Template.holds hbuilt hfill hchecked) ?_
      · cases sig.capturesError <;> rfl
      intro target other helper helper' first second hfirst hsecond
      constructor
      · intro i hapart
        have hhelped := Signature.isSome_calledHelper (of_compile_eq_ok hfirst).left.helped
        have hhelped' := Signature.isSome_calledHelper (of_compile_eq_ok hsecond).left.helped
        have hcode := (of_compile_eq_ok hfirst).right.left.symm.trans (hfill _ _ hhelped)
        have hcode' := (of_compile_eq_ok hsecond).right.left.symm.trans (hfill _ _ hhelped')
        rw [Except.ok.inj hcode, Except.ok.inj hcode']
        refine template.codeBit_fill_apart (hhelped.trans hhelped'.symm) ?_
        rw [hhelped]
        exact hapart
      · -- The same code holds the same addresses.
        intro heq
        have htarget := (hholds hfirst).target
        have hhelper := (hholds hfirst).helper
        rw [heq] at htarget hhelper
        exact ⟨htarget.symm.trans (hholds hsecond).target,
          hhelper.symm.trans (hholds hsecond).helper⟩

/-- An `int` and a `double` result that is kept across the call of the helper: two targets make
two codes of one length, the addresses are read back from the form, and with functions that return
at once each run of the code has a run with the same actions at any other place. -/
theorem compile_parametric_double :
    exists (form : CodeForm) (first second : Trampoline),
      Trampoline.compile .amd64 (.ofTypes .amd64 [(.sint, .int)] (.double, .double) true) 0x1000
        (some 0x2000) = .ok first ∧
      Trampoline.compile .amd64 (.ofTypes .amd64 [(.sint, .int)] (.double, .double) true) 0x3000
        (some 0x2000) = .ok second ∧
      first.code.length = second.code.length ∧ first.code ≠ second.code ∧
      Arch.readAddress .amd64 first.code form.target = 0x1000 ∧
      form.helper.map (Arch.readAddress .amd64 first.code) = some 0x2000 ∧
      forall (image moved : Image 64) (entry other : X86.State 64) (trace : Amd64.machine.Trace)
        (back : X86.State 64), image.code = first.code -> moved.code = first.code ->
          entry.pc = image.base -> other.pc = moved.base -> other.toCore = entry.toCore ->
            Amd64.machine.Run image (fun called back => back = Arch.comeBack .amd64 called) entry
              trace back ->
              exists course end', Amd64.machine.Run moved
                (fun called back => back = Arch.comeBack .amd64 called) other course end' ∧
                course.map (·.action) = trace.map (·.action) := by
  have hchecked : forall target, (Signature.ofTypes .amd64 [(.sint, .int)] (.double, .double)
      true).IsChecked .amd64 target (some 0x2000) := by
    intro target
    exact ⟨by decide, fun _ => rfl, nofun⟩
  have hparametric := @compile_parametric .amd64 (.ofTypes .amd64 [(.sint, .int)] (.double, .double)
    true) (.ofTypes .amd64 [(.sint, .int)] (.double, .double) true) (by decide)
  cases hparametric with
  | faults harch _ _ => cases harch
  | @fills form _ _ hcompile hdiffer =>
      rcases hcompile _ _ (hchecked 0x1000) with ⟨first, hfirst, hholds⟩
      rcases hcompile _ _ (hchecked 0x3000) with ⟨second, hsecond, hothers⟩
      refine ⟨form, first, second, hfirst, hsecond, hholds.size.trans hothers.size.symm, ?_,
        hholds.target, hholds.helper, ?_⟩
      · intro heq
        exact absurd ((hdiffer hfirst hsecond).right heq).left (by decide)
      · intro image moved entry other trace back hcode hmoved hpc hplace hsame hrun
        have hstep := hholds.relocates.inStep hcode hmoved hpc hplace hsame
        rcases hstep.exists_run (by
          intro called back hback
          rw [hback]
          exact Arch.returns_comeBack .amd64 entry called)
          (Arch.indifferent_comeBack .amd64 _ entry) hrun with ⟨course, end', hcourse, hactions, _⟩
        exact ⟨course, end', hcourse, hactions⟩

end NativeCall
