import NativeCall.Proofs.I386.Results

/-!
# Calls through i386 trampolines

A trampoline enters the target with a packed argument block, and comes back with the result
in the form that the managed caller expects.
-/

namespace NativeCall
namespace I386

open X86 (Ahead Core Gpr Instr KeepsFrame State step32)

/-!
# The argument block
-/

/-- The machine in its frame, with no argument copied yet. -/
def opened (entry : State 32) (sig : Signature) : Core 32 :=
  entry.toCore.effect (.subImm .esp (BitVec.ofInt 32 (stackAdjust sig : Nat)))

theorem esp_opened (entry : State 32) (sig : Signature) :
    entry.gpr .esp = (opened entry sig).gpr .esp + BitVec.ofNat 32 (stackAdjust sig) :=
  (InFrame.enter entry).sp

theorem nativeBytes_take_le {params : List Slot} {k : Nat} {slot : Slot} {kind : ValueClass}
    (hslot : params[k]? = some slot) (hkind : slot.kind = some kind) :
    nativeBytes (params.take k) + nativeSize kind ≤ nativeBytes params := by
  induction params generalizing k with
  | nil => cases hslot
  | cons first rest ih =>
      cases k with
      | zero =>
          cases hslot
          rw [nativeBytes_cons hkind, List.take_zero]
          simp [nativeBytes]
      | succ k =>
          have hrest := ih hslot
          simp only [nativeBytes, List.take_succ_cons, List.map_cons, List.sum_cons] at hrest ⊢
          omega

section Block

variable {sig : Signature} {entry called : State 32} {moves : List Instr} {c : Core 32}
  {next : BitVec 32}

theorem passesAll_of_argumentMoves (hadjust : stackAdjust sig + 4 ≤ 2 ^ 31)
    (haccepted : sig.Accepted .i386)
    (hmoves : argumentMoves (stackAdjust sig : Nat) (0 : Nat) (0 : Nat) sig.params = .ok moves)
    (hcore : c = ((opened entry sig).effects moves).set .eax (c.gpr .eax))
    (hcalled : called.toCore = c.push next) : PassesAll sig entry called := by
  intro k slot kind hslot hkind
  have hspace := nativeBytes_le_stackAdjust sig
  have hend := nativeBytes_take_le hslot hkind
  rcases argumentMoves_spec haccepted.params (by omega) hmoves (opened entry sig) with
    ⟨hfills, hpasses⟩
  have hmemory : c.memory = ((opened entry sig).effects moves).memory := by
    rw [hcore]
    rfl
  have hesp : c.gpr .esp = (opened entry sig).gpr .esp := by
    rw [hcore, Core.gpr_set_of_ne _ _ (by decide)]
    exact hfills.esp
  have hpass := hpasses k slot kind hslot hkind
  rw [Nat.zero_add, Nat.zero_add, Nat.add_assoc, ← Memory.offset_add, ← esp_opened, ← hesp,
    ← hmemory] at hpass
  have hplace : called.gpr .esp + BitVec.ofNat 32 (blockStart + nativeBytes (sig.params.take k)) =
      c.gpr .esp + BitVec.ofNat 32 (nativeBytes (sig.params.take k)) := by
    rw [hcalled, ← Memory.offset_add]
    exact congrArg (· + _) (c.gpr_rsp_eq next).symm
  have htop : blockStart + nativeBytes (sig.params.take k) + nativeSize kind ≤ 2 ^ 32 := by
    have hstart : blockStart = 4 := rfl
    omega
  have hread := c.read_push next (by decide) (Nat.le_add_right blockStart _) htop
  rw [← hcalled] at hread
  rw [hplace]
  refine hpass.congr (fun _ _ => rfl) ?_
  rw [← hplace]
  exact hread

theorem keepsIncoming_of_argumentMoves
    (hreach : stackAdjust sig + hostStart + hostBytes sig.params < 2 ^ 31)
    (haccepted : sig.Accepted .i386)
    (hmoves : argumentMoves (stackAdjust sig : Nat) (0 : Nat) (0 : Nat) sig.params = .ok moves)
    (hcore : c = ((opened entry sig).effects moves).set .eax (c.gpr .eax))
    (hcalled : called.toCore = c.push next) : KeepsIncoming sig entry called := by
  intro n hn
  have hspace := nativeBytes_le_stackAdjust sig
  have hfills := (argumentMoves_spec haccepted.params (by omega) hmoves (opened entry sig)).left
  have hmemory : c.memory = ((opened entry sig).effects moves).memory := by
    rw [hcore]
    rfl
  have hesp : c.gpr .esp = (opened entry sig).gpr .esp := by
    rw [hcore, Core.gpr_set_of_ne _ _ (by decide)]
    exact hfills.esp
  have hkept := hfills.apart (stackAdjust sig + n) 1 (by omega) (by omega)
  have htop : 4 + (stackAdjust sig + n) + 1 ≤ 2 ^ 32 := by omega
  have hread := c.read_push next (by decide) (Nat.le_add_right 4 _) htop
  have hplace : (c.push next).gpr .rsp + BitVec.ofNat 32 (4 + (stackAdjust sig + n)) =
      entry.gpr .esp + BitVec.ofNat 32 n := by
    rw [esp_opened, ← hesp, Memory.offset_add, ← Memory.offset_add]
    exact congrArg (· + _) (c.gpr_rsp_eq next).symm
  rw [hplace, ← hcalled] at hread
  rw [← Memory.offset_add, ← esp_opened, ← hmemory] at hkept
  exact Memory.byte_congr (hread.trans hkept)

end Block

/-!
# Entering the target
-/

theorem reaches_target {image : Image 32} {sig : Signature} {target : Address}
    {helper : Option Address} {moves : List Instr} {entry : State 32} {goal : State 32 -> Prop}
    (haccepted : sig.Accepted .i386) (hadjust : stackAdjust sig + 4 ≤ 2 ^ 31)
    (hmoves : argumentMoves (stackAdjust sig : Nat) (0 : Nat) (0 : Nat) sig.params = .ok moves)
    (hahead : Ahead .bits32 image (codeOf sig target helper moves) entry.pc)
    (hgoal : forall (c : Core 32) (next : BitVec 32) (called : State 32),
      c = ((opened entry sig).effects moves).set .eax (c.gpr .eax) -> InFrame entry sig c ->
        called.toCore = c.push next -> called.pc = target.setWidth 32 ->
          Ahead .bits32 image (afterCall sig.result helper ++ (hostForm sig.result ++
            [.addImm .esp (BitVec.ofInt 32 (stackAdjust sig : Nat)), .ret])) next ->
              goal called) :
    Reaches (step32 image) goal entry := by
  have hspace := nativeBytes_le_stackAdjust sig
  refine X86.reaches_straight (by decide) hahead ?_ ?_
  · intro instr hmem
    rcases List.mem_cons.mp hmem with rfl | hmove
    · rfl
    · exact (isPlain_argumentMoves haccepted.params hmoves instr hmove).straight
  intro t hcore hcall
  refine X86.reaches_callAbs (by decide) (by decide) hcall ?_
  intro next called hcalled hpc hrest
  have hfills := (argumentMoves_spec haccepted.params (by omega) hmoves (opened entry sig)).left
  have hframe : InFrame entry sig t.toCore := by
    rw [hcore]
    exact (InFrame.enter entry).fills hadjust (by omega) hfills
  refine hgoal _ next called ?_ (hframe.setEax _) hcalled hpc hrest
  rw [Core.gpr_set_self, hcore]
  rfl

/-- A compiled call packs the argument block of the native function, and leaves the stack of
its caller as it was. -/
theorem compile_packs_arguments {sig : Signature} (target : Address) (helper : Option Address)
    (hbuilt : sig.Built) (haccepts : Trampoline.accepts .i386 sig = true)
    (hhelper : sig.capturesError = true -> helper.isSome = true)
    (hreachable : forall address, address ∈ target :: (sig.calledHelper helper).toList ->
      IsReachable address)
    (hreach : stackAdjust sig + hostStart + hostBytes sig.params < 2 ^ 31) :
    exists trampoline,
      Trampoline.compile .i386 sig target helper = .ok trampoline ∧
      forall (image : Image 32) (entry : State 32),
        image.code = trampoline.code -> entry.pc = image.base ->
          Reaches (step32 image) (fun called =>
            called.pc = target.setWidth 32 ∧ PassesAll sig entry called ∧
              KeepsIncoming sig entry called) entry := by
  rcases exists_compile hbuilt haccepts hhelper hreachable hreach with ⟨trampoline, hcompile⟩
  refine ⟨trampoline, hcompile, ?_⟩
  intro image entry hcode hpc
  rcases compile_eq_ok hbuilt hcompile with ⟨haccepted, hadjust, moves, hmoves, hassemble⟩
  rw [← hcode] at hassemble
  have hahead := Ahead.start (encodable_codeOf sig target (sig.calledHelper helper)
    (isPlain_argumentMoves haccepted.params hmoves)) hassemble
  rw [← hpc] at hahead
  refine reaches_target haccepted hadjust hmoves hahead ?_
  intro c next called hcore _ hcalled htarget _
  exact ⟨htarget, passesAll_of_argumentMoves hadjust haccepted hmoves hcore hcalled,
    keepsIncoming_of_argumentMoves hreach haccepted hmoves hcore hcalled⟩

/-- A signed byte and a 64-bit integer, both in `int` slots: the target finds their
sign-extensions to one and two words. -/
theorem compile_packs_arguments_schar_slonglong :
    exists trampoline,
      Trampoline.compile .i386
        (.ofTypes .i386 [(.schar, .int), (.slonglong, .int)] (.void, .void) false) 0x1000 none =
          .ok trampoline ∧
      forall image : Image 32, image.code = trampoline.code ->
        Reaches (step32 image) (fun called => called.pc = 0x1000 ∧
            called.memory.read 4 (called.gpr .esp + 4) = 0xFFFF_FF80 ∧
            called.memory.read 8 (called.gpr .esp + 8) = 0xFFFF_FFFF_8080_8080)
          { gpr := fun _ => 0x8000, vector := fun _ => 0, floats := [], rounding := .nearest
            zero := false, memory := fun _ => 0x80, pc := image.base } := by
  rcases compile_packs_arguments 0x1000 none
      (.ofTypes .i386 [(.schar, .int), (.slonglong, .int)] (.void, .void) false) (by decide)
      (by decide) (fun address hmem => by rw [List.mem_singleton.mp hmem]; decide) (by decide) with
    ⟨trampoline, hcompile, hpacks⟩
  refine ⟨trampoline, hcompile, ?_⟩
  intro image hcode
  refine (hpacks image _ hcode rfl).mono ?_
  intro called hcalled
  have hbyte := hcalled.right.left 0 _ ⟨.integer, .w8, .signed⟩ rfl rfl
  have hlong := hcalled.right.left 1 _ ⟨.integer, .w64, .signed⟩ rfl rfl
  rw [Passes, if_neg (by decide)] at hbyte
  rw [Passes, if_pos rfl, if_neg (by decide)] at hlong
  have hread : forall a : BitVec 32, Memory.read (fun _ => 0x80) 4 a = 0x8080_8080#32 := by
    intro a
    have hbytes : 0#0 ++ 0x80#8 ++ 0x80#8 ++ 0x80#8 ++ 0x80#8 = 0x8080_8080#32 := by decide
    exact hbytes
  refine ⟨hcalled.left, hbyte.trans ?_, hlong.trans ?_⟩
  · rw [hread]
    decide
  · rw [hread]
    decide

/-!
# Calling the helper
-/

theorem reaches_callHelper {entry s : State 32} {image : Image 32} {sig : Signature}
    {helper : Address} {rest : List Instr} {goal : State 32 -> Prop}
    (hadjust : stackAdjust sig + 4 ≤ 2 ^ 31) (hframe : InFrame entry sig s.toCore)
    (hahead : Ahead .bits32 image (Instr.callAbs .bits32 .eax helper ++ rest) s.pc)
    (hgoal : forall back : State 32, InFrame entry sig back.toCore ->
      back.floats.length < X86.floatLimit ->
        (forall count, count ≤ 8 ->
          back.memory.read count (back.gpr .esp) = s.memory.read count (s.gpr .esp)) ->
            Ahead .bits32 image rest back.pc -> Reaches (step32 image) goal back) :
    CallsHelper image (some helper) entry goal s := by
  refine X86.reaches_callAbs (by decide) (by decide) hahead ?_
  intro next called hcalled hpc hrest
  refine ⟨hpc, ?_⟩
  intro back hback
  rcases (hframe.setEax (helper.setWidth 32)).afterHelper hadjust hcalled hback.returned
    hback.keeps with ⟨hnext, hback', hesp, hread⟩
  refine hgoal back hback' hback.room ?_ ?_
  · intro count hcount
    have hslot := hread 0 count (by omega)
    rw [BitVec.add_zero, ← hesp] at hslot
    rw [hslot, hesp]
    rfl
  · rw [hnext]
    exact hrest

theorem reaches_with_helper {entry native : State 32} {image : Image 32} {sig : Signature}
    {helper : Address} (hadjust : stackAdjust sig + 4 ≤ 2 ^ 31)
    (hresult : sig.result.IsResult) (hframe : InFrame entry sig native.toCore)
    (hahead : Ahead .bits32 image (afterCall sig.result (some helper) ++ (hostForm sig.result ++
      [.addImm .esp (BitVec.ofInt 32 (stackAdjust sig : Nat)), .ret])) native.pc) :
    CallsHelper image (some helper) entry (fun back => Returned entry back ∧
      Finds sig.result native back) native := by
  cases hkind : sig.result.kind with
  | none =>
      have hcode : afterCall sig.result (some helper) = Instr.callAbs .bits32 .eax helper := by
        simp only [afterCall, hkind]
      rw [hcode] at hahead
      refine reaches_callHelper hadjust hframe hahead ?_
      intro back hback _ _ hrest
      refine reaches_end hresult hback ?_ hrest
      unfold ReadyFor
      simp only [hkind]
  | some kind =>
      have hcode : afterCall sig.result (some helper) =
          spillResult kind ++ (Instr.callAbs .bits32 .eax helper ++ reloadResult kind) := by
        simp only [afterCall, hkind, List.append_assoc]
      rw [hcode, List.append_assoc, List.append_assoc] at hahead
      refine X86.reaches_straight (by decide) hahead
        (fun instr hmem => (isPlain_spillResult kind instr hmem).straight) ?_
      intro t hcore hcall
      have hspilled : SpilledFor t.toCore kind native.toCore := by
        rw [hcore]
        exact spilledFor_spillResult native.toCore kind
      have hspill : InFrame entry sig t.toCore := by
        rw [hcore]
        exact hframe.spillResult hadjust kind
      refine reaches_callHelper hadjust hspill hcall ?_
      intro back hback hroom hslot hreload
      refine X86.reaches_straight (by decide) hreload
        (fun instr hmem => (isPlain_reloadResult kind instr hmem).straight) ?_
      intro u hreloaded hrest
      refine reaches_end hresult ?_ ?_ hrest
      · rw [hreloaded]
        exact hback.effects (writesResult_reloadResult kind)
      · rw [hreloaded]
        exact readyFor_reloadResult hkind hroom (hspilled.congr hslot)

/-- A compiled call comes back with the host form of whatever the native function left in its
result registers or on the floating-point stack. -/
theorem compile_returns_result {sig : Signature} (target : Address) (helper : Option Address)
    (hbuilt : sig.Built) (haccepts : Trampoline.accepts .i386 sig = true)
    (hhelper : sig.capturesError = true -> helper.isSome = true)
    (hreachable : forall address, address ∈ target :: (sig.calledHelper helper).toList ->
      IsReachable address) :
    (stackAdjust sig + hostStart + hostBytes sig.params < 2 ^ 31 ->
      exists trampoline, Trampoline.compile .i386 sig target helper = .ok trampoline) ∧
    forall trampoline, Trampoline.compile .i386 sig target helper = .ok trampoline ->
      forall (image : Image 32) (entry : State 32),
        image.code = trampoline.code -> entry.pc = image.base ->
          Reaches (step32 image) (fun called =>
            called.pc = target.setWidth 32 ∧
              forall native, Returned called native -> KeepsHome entry called native ->
                CallsHelper image (sig.calledHelper helper) entry (fun back =>
                  Returned entry back ∧ Finds sig.result native back) native) entry := by
  refine ⟨exists_compile hbuilt haccepts hhelper hreachable, ?_⟩
  intro trampoline hcompile image entry hcode hpc
  rcases compile_eq_ok hbuilt hcompile with ⟨haccepted, hadjust, moves, hmoves, hassemble⟩
  rw [← hcode] at hassemble
  have hahead := Ahead.start (encodable_codeOf sig target (sig.calledHelper helper)
    (isPlain_argumentMoves haccepted.params hmoves)) hassemble
  rw [← hpc] at hahead
  refine reaches_target haccepted hadjust hmoves hahead ?_
  intro c next called _ hframe hcalled htarget hrest
  refine ⟨htarget, ?_⟩
  intro native hnative hkeeps
  rcases hframe.afterTarget hadjust hcalled hnative hkeeps with ⟨hnext, hreturned⟩
  rw [← hnext] at hrest
  cases hcalls : sig.calledHelper helper with
  | none =>
      rw [hcalls] at hrest
      exact reaches_without_helper haccepted.result hreturned hrest
  | some address =>
      rw [hcalls] at hrest
      exact reaches_with_helper hadjust haccepted.result hreturned hrest

/-- A 64-bit result whose low half is zero is true, also after a call of the helper. -/
theorem compile_returns_result_high_half :
    exists trampoline,
      Trampoline.compile .i386 (.ofTypes .i386 [] (.slonglong, .boolean) true) 0x1000
        (some 0x2000) = .ok trampoline ∧
      forall (image : Image 32) (entry : State 32),
        image.code = trampoline.code -> entry.pc = image.base ->
          Reaches (step32 image) (fun called => called.pc = 0x1000 ∧
            forall native, Returned called native -> KeepsHome entry called native ->
              native.gpr .eax = 0 -> native.gpr .edx = 1 ->
                CallsHelper image (some 0x2000) entry (fun back => back.gpr .eax = 1) native)
            entry := by
  have hreachable : forall address, address ∈ ([0x1000, 0x2000] : List Address) ->
      IsReachable address := by
    intro address hmem
    rcases List.mem_pair.mp hmem with rfl | rfl <;> decide
  rcases compile_returns_result 0x1000 (some 0x2000)
      (.ofTypes .i386 [] (.slonglong, .boolean) true) (by decide) (by decide) hreachable with
    ⟨hexists, hreturns⟩
  rcases hexists (by decide) with ⟨trampoline, hcompile⟩
  refine ⟨trampoline, hcompile, ?_⟩
  intro image entry hcode hpc
  refine (hreturns trampoline hcompile image entry hcode hpc).mono ?_
  intro called hcalled
  refine ⟨hcalled.left, ?_⟩
  intro native hnative hkeeps heax hedx
  refine (hcalled.right native hnative hkeeps).mono ?_
  intro inHelper hhelper
  refine ⟨hhelper.left, ?_⟩
  intro back hback
  refine (hhelper.right back hback).mono ?_
  intro done hdone
  have hfinds : done.gpr .eax = (HostValue.ofNative ⟨.integer, .w64, .signed⟩ .boolean
      (resultBits native.toCore)).setWidth 32 := hdone.right.left
  rw [hfinds, resultBits, heax, hedx]
  decide

end I386
end NativeCall
