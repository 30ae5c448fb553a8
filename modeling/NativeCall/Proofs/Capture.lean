import NativeCall.Proofs.CompiledCourse

/-!
# Capturing the error number

The error number that a target leaves is captured before anything can change it: control goes
from the target to the helper, and in between the result is spilled and the helper's address
is loaded. A trampoline that does not capture never calls a helper.
-/

namespace NativeCall
namespace Machine

section Window

variable (m : Machine) (entry : m.core) (layout : Layout)

/-- The target is called. Once it has come back, its result is stored into the spill slot, the
address of the helper is loaded, and the helper is called. From then on the trampoline
stores nothing, and its call of the helper leaves the spill slot alone. -/
inductive CapturesAtOnce (result : m.core -> Word) (target helper : BitVec m.width) :
    m.Trace -> Prop where
  | intro {opening spills load closing : m.Trace} {before called native s entered kept : m.core}
      (hspills : forall e, e ∈ spills ->
        m.Does (Action.Spills (m.spillSlot entry layout) layout.slotSize (result native)) e)
      (hload : forall e, e ∈ load -> m.Does Action.IsConstant e)
      (hconstants : m.constants load = helper)
      (hslot : forall n, n < layout.slotSize ->
        m.memory entered (m.spillSlot entry layout + BitVec.ofNat m.width n) =
          m.memory s (m.spillSlot entry layout + BitVec.ofNat m.width n))
      (hclosing : forall e, e ∈ closing ->
        e.action.IsQuiet ∧ m.memory e.after = m.memory e.before) :
      CapturesAtOnce result target helper
        (opening ++ (⟨before, .call target, called⟩ :: ⟨called, .resume, native⟩ ::
          (spills ++ (load ++ (⟨s, .call helper, entered⟩ :: ⟨entered, .resume, kept⟩ ::
            closing)))))

variable {m entry layout}

theorem Leaves.quiet {back : m.state} {trace : m.Trace} (h : m.Leaves entry back trace) :
    forall e, e ∈ trace -> e.action.IsQuiet ∧ m.memory e.after = m.memory e.before := by
  cases h with
  | intro body s hbody _ _ hmemory _ _ =>
      refine List.forall_mem_append.mpr ⟨?_, ?_⟩
      · intro e hmem
        have hdoes := hbody e hmem
        exact ⟨hdoes.allowed, hdoes.memory.trans (Action.apply_of_not_isStore hdoes.allowed _)⟩
      · intro e hmem
        rw [List.mem_singleton.mp hmem]
        exact ⟨rfl, hmemory⟩

theorem Course.capturesAtOnce {result : m.core -> Word} {target helper : BitVec m.width}
    {frame : Frame} {trace : m.Trace} {back : m.state} (hfits : layout.Fits m)
    (h : m.Course entry layout result target frame (some helper) trace back) :
    m.CapturesAtOnce entry layout result target helper trace := by
  cases h with
  | capture hopening hcall hspills hload hconstants hhelper hclosing =>
      cases hcall with
      | intro before called _ _ =>
          cases hhelper with
          | intro s entered _ hmemory =>
              refine .intro hspills hload hconstants ?_ hclosing.quiet
              intro n hn
              have hslot := hfits.slot
              have hroom := hfits.memory
              rw [spillSlot, Memory.offset_add]
              exact hmemory (layout.slot + n) (by omega)

end Window
end Machine

/-!
# Compiled trampolines
-/

/-- A compiled trampoline hands control to its target alone if it does not capture the error
number. If it does, it hands control to the target and then to the helper, with nothing but
the spilling of the result in between. -/
theorem compile_captures_at_once {arch : Arch} {sig : Signature} (target : Address)
    (helper : Option Address) (hbuilt : sig.Built) :
    (sig.IsCompilable arch target helper ->
      exists trampoline, Trampoline.compile arch sig target helper = .ok trampoline) ∧
    forall trampoline, Trampoline.compile arch sig target helper = .ok trampoline ->
      (arch.layout sig).Fits arch.machine ∧
      forall (image : Image arch.machine.width) (entry : arch.machine.state),
        image.code = trampoline.code -> arch.machine.pc entry = image.base ->
          arch.machine.Runs image (arch.Returns entry) (fun trace _ =>
            (sig.capturesError = false ->
              (arch.machine.transfers trace).map (·.setWidth 64) = [target]) ∧
            (sig.capturesError = true -> exists address, helper = some address ∧
              (arch.machine.transfers trace).map (·.setWidth 64) = [target, address] ∧
              arch.machine.CapturesAtOnce (arch.machine.toCore entry) (arch.layout sig)
                (arch.resultBits sig.result) (target.setWidth _) (address.setWidth _) trace))
            entry := by
  refine ⟨exists_compile hbuilt, ?_⟩
  intro trampoline hok
  have hfits := fits_layout hbuilt hok
  refine ⟨hfits, ?_⟩
  intro image entry hcode hpc
  refine (runs_course hbuilt hok hcode hpc).mono ?_
  intro trace back hcourse
  have htransfers : (arch.machine.transfers trace).map (·.setWidth 64) =
      target :: (sig.calledHelper helper).toList := by
    rw [hcourse.transfers_eq, Option.toList_map, ← List.map_cons, List.map_map]
    exact (List.map_congr_left fun address hmem =>
      setWidth_setWidth_address hok hmem).trans (List.map_id _)
  constructor
  · intro hcaptures
    simpa [Signature.calledHelper, hcaptures] using htransfers
  · intro hcaptures
    have hcalled : sig.calledHelper helper = helper := if_pos hcaptures
    rcases Option.isSome_iff_exists.mp ((of_compile_eq_ok hok).left.helped hcaptures) with
      ⟨address, rfl⟩
    rw [hcalled] at htransfers hcourse
    exact ⟨address, rfl, htransfers, hcourse.capturesAtOnce hfits⟩

/-- A 64-bit result on i386: control goes to the target and to the helper, and on to the caller
when both have come back. -/
theorem compile_captures_at_once_slonglong :
    exists trampoline,
      Trampoline.compile .i386 (.ofTypes .i386 [(.schar, .int)] (.slonglong, .long) true) 0x1000
        (some 0x2000) = .ok trampoline ∧
      forall (image : Image 32) (entry : X86.State 32),
        image.code = trampoline.code -> entry.pc = image.base ->
          exists trace back, I386.machine.Run image (I386.Returns entry) entry trace back ∧
            (I386.machine.transfers trace).map (·.setWidth 64) = [0x1000, 0x2000] := by
  let sig : Signature := .ofTypes .i386 [(.schar, .int)] (.slonglong, .long) true
  have hcompilable : sig.IsCompilable .i386 0x1000 (some 0x2000) := by
    refine ⟨by decide, fun _ => rfl, ?_, by decide⟩
    intro _ address hmem
    rcases List.mem_pair.mp hmem with rfl | rfl <;> decide
  rcases compile_captures_at_once 0x1000 (some 0x2000)
    (.ofTypes .i386 [(.schar, .int)] (.slonglong, .long) true) with ⟨hexists, hruns⟩
  rcases hexists hcompilable with ⟨trampoline, hcompile⟩
  refine ⟨trampoline, hcompile, ?_⟩
  intro image entry hcode hpc
  rcases ((hruns trampoline hcompile).right image entry hcode hpc).exists_run
    (Arch.exists_returns .i386 entry) with ⟨trace, back, hrun, _, hcaptures⟩
  rcases hcaptures rfl with ⟨address, haddress, htransfers, _⟩
  cases haddress
  exact ⟨trace, back, hrun, htransfers⟩

end NativeCall
