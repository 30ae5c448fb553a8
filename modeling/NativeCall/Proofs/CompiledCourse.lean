import NativeCall.Proofs.Aarch64.Course
import NativeCall.Proofs.Amd64.Course
import NativeCall.Proofs.Compilation
import NativeCall.Proofs.I386.Course

/-!
# Courses of compiled trampolines

Whatever the architecture, a trampoline that was compiled takes the course of its signature:
it jumps to its target, or it calls the target and then the helper if the signature captures
the error number.
-/

namespace NativeCall
namespace Arch

def machine : Arch -> Machine
  | .i386 => I386.machine
  | .amd64 => Amd64.machine
  | .aarch64 => A64.machine

/-- A function that a trampoline called has returned as its convention asks for. -/
def Returns : (arch : Arch) -> (entry called back : arch.machine.state) -> Prop
  | .i386 => I386.Returns
  | .amd64 => Amd64.Returns
  | .aarch64 => Aarch64.Returns

def layout : Arch -> Signature -> Layout
  | .i386, sig => I386.layout sig
  | .amd64, sig => Amd64.layout sig
  | .aarch64, _ => Aarch64.layout

def resultBits : (arch : Arch) -> Slot -> arch.machine.core -> Word
  | .i386 => I386.storedBits
  | .amd64 => Amd64.resultBits
  | .aarch64 => Aarch64.resultBits

/-- What a function leaves that returns at once. -/
def comeBack : (arch : Arch) -> arch.machine.state -> arch.machine.state
  | .i386, called => ({ called.drop with pc := called.top } : X86.State 32)
  | .amd64, called => ({ called.drop with pc := called.top } : X86.State 64)
  | .aarch64, called => ({ called with pc := called.gpr .lr } : A64.State)

theorem returned_drop {w : Nat} {saved : List X86.Gpr} (hsaved : .rsp ∉ saved)
    (called : X86.State w) :
    X86.Returned saved called { called.toCore.drop with pc := called.toCore.top } := by
  refine ⟨rfl, called.toCore.gpr_set_self .rsp _, ?_⟩
  intro r hmem
  refine called.toCore.gpr_set_of_ne _ ?_
  intro heq
  rw [heq] at hmem
  exact hsaved hmem

theorem returns_comeBack (arch : Arch) (entry called : arch.machine.state) :
    arch.Returns entry called (arch.comeBack called) := by
  cases arch with
  | i386 => exact ⟨returned_drop (by decide) called, fun _ _ => rfl⟩
  | amd64 => exact ⟨returned_drop (by decide) called, fun _ _ => rfl⟩
  | aarch64 => exact ⟨⟨rfl, rfl, fun _ _ => rfl, fun _ _ => rfl⟩, fun _ _ => rfl⟩

theorem exists_returns (arch : Arch) (entry called : arch.machine.state) :
    exists back, arch.Returns entry called back :=
  ⟨_, arch.returns_comeBack entry called⟩

end Arch

/-!
# What was compiled
-/

/-- A signature that the architecture accepts can be compiled for these functions. -/
structure Signature.IsCompilable (sig : Signature) (arch : Arch) (target : Address)
    (helper : Option Address) : Prop where
  accepts : Trampoline.accepts arch sig = true
  helped : sig.capturesError = true -> helper.isSome = true
  reachable : arch = .i386 -> forall address, address ∈ target :: (sig.calledHelper helper).toList ->
    I386.IsReachable address
  reach : arch = .i386 ->
    I386.stackAdjust sig + I386.hostStart + I386.hostBytes sig.params < 2 ^ 31

section Compilation

variable {arch : Arch} {sig : Signature} {target : Address} {helper : Option Address}
  {trampoline : Trampoline}

theorem Signature.Accepted.integerCount_le (h : sig.Accepted arch) (harch : arch ≠ .i386) :
    sig.integerCount ≤ 6 := by
  have hfits := h.fits
  cases arch with
  | i386 => exact absurd rfl harch
  | amd64 | aarch64 =>
      have hbudget : sig.integerCount ≤ 6 ∧ sig.floatCount ≤ 8 := by
        simpa [Signature.fitsBudget, Arch.registerBudget] using hfits
      exact hbudget.left

theorem exists_compile (hbuilt : sig.Built) (h : sig.IsCompilable arch target helper) :
    exists trampoline, Trampoline.compile arch sig target helper = .ok trampoline := by
  cases arch with
  | i386 => exact I386.exists_compile hbuilt h.accepts h.helped (h.reachable rfl) (h.reach rfl)
  | amd64 =>
      rcases Amd64.exists_compile target h.accepts h.helped with ⟨trampoline, hcompile, _⟩
      exact ⟨trampoline, hcompile⟩
  | aarch64 =>
      have hcount := (hbuilt.accepted h.accepts).integerCount_le (by decide)
      rcases Aarch64.exists_compile target h.accepts hcount h.helped with ⟨trampoline, hcompile, _⟩
      exact ⟨trampoline, hcompile⟩

/-- Only on i386 can the writing of code fault, where a stack offset leaves its range. -/
theorem of_compile_eq_fault (hbuilt : sig.Built) {fault : Fault}
    (hfault : Trampoline.compile arch sig target helper = .error (.fault fault)) :
    arch = .i386 ∧
      2 ^ 31 ≤ I386.stackAdjust sig + I386.hostStart + I386.hostBytes sig.params := by
  have hcase := compilation arch sig target helper
  rw [hfault] at hcase
  cases hcase with
  | fault hchecked _ =>
      by_contra hrange
      have hreach : arch = .i386 ->
          I386.stackAdjust sig + I386.hostStart + I386.hostBytes sig.params < 2 ^ 31 := by
        intro harch
        exact Nat.lt_of_not_le fun hfar => hrange ⟨harch, hfar⟩
      have hcompilable : sig.IsCompilable arch target helper :=
        { accepts := hchecked.accepts, helped := hchecked.helped,
          reachable := hchecked.reachable, reach := hreach }
      rcases exists_compile hbuilt hcompilable with ⟨trampoline, hok⟩
      rw [hfault] at hok
      cases hok

theorem setWidth_setWidth_address
    (hok : Trampoline.compile arch sig target helper = .ok trampoline) {address : Address}
    (hmem : address ∈ target :: (sig.calledHelper helper).toList) :
    (address.setWidth arch.machine.width).setWidth 64 = address := by
  cases arch with
  | i386 =>
      have hlow : address.toNat < halfWordCount :=
        (of_compile_eq_ok hok).left.reachable rfl address hmem
      have hlimit : halfWordCount = 2 ^ 32 := rfl
      show (address.setWidth 32).setWidth 64 = address
      apply BitVec.eq_of_toNat_eq
      rw [BitVec.toNat_setWidth, BitVec.toNat_setWidth]
      omega
  | amd64 => exact (BitVec.setWidth_eq _).trans (BitVec.setWidth_eq _)
  | aarch64 => exact (BitVec.setWidth_eq _).trans (BitVec.setWidth_eq _)

theorem fits_layout (hbuilt : sig.Built)
    (hok : Trampoline.compile arch sig target helper = .ok trampoline) :
    (arch.layout sig).Fits arch.machine := by
  cases arch with
  | i386 => exact I386.fits_layout (I386.compile_eq_ok hbuilt hok).right.left
  | amd64 => exact Amd64.fits_layout sig
  | aarch64 => exact Aarch64.fits_layout

/-!
# Their code
-/

/-- A trampoline of the wrapped kind has a helper to call only if it captures the error
number, and one of the direct kind has none. -/
theorem calledHelper_of_direct (hframe : sig.frame = .direct) : sig.calledHelper helper = none := by
  simp [Signature.calledHelper, (sig.of_frame_eq_direct hframe).left]

theorem I386.exists_ahead (hbuilt : sig.Built)
    (hok : Trampoline.compile .i386 sig target helper = .ok trampoline) :
    sig.Accepted .i386 ∧ I386.stackAdjust sig + 4 ≤ 2 ^ 31 ∧ exists moves,
      I386.argumentMoves (I386.stackAdjust sig : Nat) (0 : Nat) (0 : Nat) sig.params = .ok moves ∧
        forall {image : Image 32} {s : X86.State 32}, image.code = trampoline.code ->
          s.pc = image.base -> X86.Ahead .bits32 image
            (I386.codeOf sig target (sig.calledHelper helper) moves) s.pc := by
  rcases I386.compile_eq_ok hbuilt hok with ⟨haccepted, hadjust, moves, hmoves, hassemble⟩
  refine ⟨haccepted, hadjust, moves, hmoves, ?_⟩
  intro image s hcode hpc
  rw [← hcode] at hassemble
  rw [hpc]
  exact X86.Ahead.start (I386.encodable_codeOf sig target (sig.calledHelper helper)
    (I386.isPlain_argumentMoves haccepted.params hmoves)) hassemble

theorem Amd64.ahead_compiled (hok : Trampoline.compile .amd64 sig target helper = .ok trampoline)
    {image : Image 64} {s : X86.State 64} (hcode : image.code = trampoline.code)
    (hpc : s.pc = image.base) :
    X86.Ahead .bits64 image (Amd64.code sig target (sig.calledHelper helper) sig.frame) s.pc := by
  have hassemble := (of_compile_eq_ok hok).right.left
  rw [← hcode] at hassemble
  rw [hpc]
  exact X86.Ahead.start
    (Amd64.encodable_code sig target (sig.calledHelper helper) sig.frame) hassemble

theorem Aarch64.ahead_compiled (hcount : sig.integerCount ≤ 6)
    (hok : Trampoline.compile .aarch64 sig target helper = .ok trampoline)
    {image : Image 64} {s : A64.State} (hcode : image.code = trampoline.code)
    (hpc : s.pc = image.base) :
    A64.Ahead image (Aarch64.code sig target (sig.calledHelper helper) sig.frame) s.pc := by
  have hassemble := (of_compile_eq_ok hok).right.left
  rw [← hcode] at hassemble
  rw [hpc]
  exact A64.Ahead.start
    (Aarch64.encodable_code target (sig.calledHelper helper) sig.frame hcount) hassemble

/-!
# Their courses
-/

/-- A compiled trampoline takes the course of its signature, however the target and the helper
keep to the conventions. -/
theorem runs_course (hbuilt : sig.Built)
    (hok : Trampoline.compile arch sig target helper = .ok trampoline)
    {image : Image arch.machine.width} {entry : arch.machine.state}
    (hcode : image.code = trampoline.code) (hpc : arch.machine.pc entry = image.base) :
    arch.machine.Runs image (arch.Returns entry)
      (arch.machine.Course (arch.machine.toCore entry) (arch.layout sig)
        (arch.resultBits sig.result) (target.setWidth _) sig.frame
        ((sig.calledHelper helper).map (·.setWidth _))) entry := by
  have haccepted := hbuilt.accepted (of_compile_eq_ok hok).left.accepts
  cases arch with
  | i386 =>
      rcases I386.exists_ahead hbuilt hok with ⟨_, hadjust, moves, hmoves, hahead⟩
      have hwrapped : sig.frame = .wrapped := by
        simp [Signature.frame, haccepted.arch_eq]
      rw [hwrapped]
      exact I386.runs_wrapped haccepted hadjust hmoves (hahead hcode hpc)
  | amd64 =>
      have hahead := Amd64.ahead_compiled hok hcode hpc
      cases hframe : sig.frame with
      | direct =>
          rw [hframe, calledHelper_of_direct hframe] at hahead
          rw [calledHelper_of_direct hframe]
          exact Amd64.runs_direct hahead
      | wrapped =>
          rw [hframe] at hahead
          exact Amd64.runs_wrapped hahead
  | aarch64 =>
      have hcount := haccepted.integerCount_le (by decide)
      have hahead := Aarch64.ahead_compiled hcount hok hcode hpc
      have hwidth : forall address : Address,
          address.setWidth (Arch.machine .aarch64).width = address := by
        intro address
        exact BitVec.setWidth_eq address
      have hmap : (sig.calledHelper helper).map
          (·.setWidth (Arch.machine .aarch64).width) = sig.calledHelper helper := by
        rw [funext hwidth]
        exact Option.map_id'
      rw [hwidth, hmap]
      cases hframe : sig.frame with
      | direct =>
          rw [hframe, calledHelper_of_direct hframe] at hahead
          rw [calledHelper_of_direct hframe]
          exact Aarch64.runs_direct hcount hahead
      | wrapped =>
          rw [hframe] at hahead
          exact Aarch64.runs_wrapped hcount hahead

end Compilation
end NativeCall
