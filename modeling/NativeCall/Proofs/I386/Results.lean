import NativeCall.Proofs.I386.Code

/-!
# Results on i386

Whatever a native function leaves in its result registers or on the floating-point stack,
a trampoline turns it into the form that the managed caller expects, whether or not a
helper is called in between.
-/

namespace NativeCall
namespace I386

open X86 (Ahead Core Extended FloatFormat Gpr Instr Pattern Size State step32)

/-!
# Result registers
-/

/-- The result registers hold what an integer class makes of native bits. -/
def Ready (c : Core 32) (kind : ValueClass) (bits : Word) : Prop :=
  if kind.width = .w64 then resultBits c = bits
  else c.gpr .eax = (HostValue.extend kind bits).setWidth 32

theorem setWidth_resultBits (c : Core 32) : (resultBits c).setWidth 32 = c.gpr .eax :=
  BitVec.setWidth_append_eq_right

theorem extendWord_setWidth {kind : ValueClass} (bits : Word) (h : kind.width ≠ .w64) :
    extendWord kind (bits.setWidth 32) = (HostValue.extend kind bits).setWidth 32 := by
  have hbits := Width.bits_le_of_ne_w64 h
  refine congrArg (BitVec.setWidth 32) (HostValue.extend_congr ?_)
  rw [setWidth_bits, BitVec.setWidth_setWidth_of_le _ hbits]

theorem ne_w64_of_narrowSize {width : Width} {size : Size} (h : narrowSize? width = some size) :
    width ≠ .w64 := by
  intro hwide
  rw [hwide] at h
  cases h

theorem eq_w32_of_narrowSize {width : Width} (h : narrowSize? width = none)
    (hwide : width ≠ .w64) : width = .w32 := by
  cases width with
  | w32 => rfl
  | w64 => exact absurd rfl hwide
  | w8 => cases h
  | w16 => cases h

theorem ready_of_eax {c : Core 32} {kind : ValueClass} {bits : Word} (h : kind.width = .w32)
    (heax : c.gpr .eax = bits.setWidth 32) : Ready c kind bits := by
  have hne : kind.width ≠ .w64 := by
    rw [h]
    decide
  rw [Ready, if_neg hne, ← extendWord_setWidth bits hne, extendWord_of_w32 _ h]
  exact heax

theorem ready_of_extendNarrow {c : Core 32} {rm : X86.Rm} {kind : ValueClass} {size : Size}
    {bits : Word} (hsize : narrowSize? kind.width = some size)
    (hword : operandWord c rm = bits.setWidth 32) :
    Ready (c.effect (extendNarrow rm kind size)) kind bits := by
  have hne := ne_w64_of_narrowSize hsize
  rw [Ready, if_neg hne, effect_extendNarrow c rm hsize, Core.gpr_set_self, hword]
  exact extendWord_setWidth bits hne

theorem ready_extendResult (c : Core 32) (kind : ValueClass) :
    Ready (c.effects (extendResult kind)) kind (resultBits c) := by
  unfold extendResult
  split
  next size hsize =>
    refine ready_of_extendNarrow hsize ?_
    rw [operandWord_reg, setWidth_resultBits]
  next hsize =>
    by_cases hwide : kind.width = .w64
    · exact (if_pos hwide).mpr rfl
    · exact ready_of_eax (eq_w32_of_narrowSize hsize hwide) (setWidth_resultBits c).symm

/-!
# The spill slot
-/

def Spilled (c : Core 32) (kind : ValueClass) (bits : Word) : Prop :=
  if kind.width = .w64 then c.memory.read 8 (c.gpr .esp) = bits
  else c.memory.read 4 (c.gpr .esp) = bits.setWidth 32

theorem address_slot (c : Core 32) : c.address (stack 0) = c.gpr .esp := by
  have h := address_stack c 0
  rw [BitVec.add_zero] at h
  exact h

theorem address_slot_high (c : Core 32) :
    c.address (stack 4) = c.gpr .esp + BitVec.ofNat 32 4 :=
  address_stack c 4

theorem spilled_spillResult (c : Core 32) {kind : ValueClass} (h : kind.register = .integer) :
    Spilled (c.effects (spillResult kind)) kind (resultBits c) := by
  unfold spillResult
  rw [h]
  dsimp only
  have hlow : (c.effect (save 0)).memory.read 4 (c.gpr .esp) = c.gpr .eax := by
    have hread := read_save c 0
    rw [BitVec.add_zero] at hread
    exact hread
  by_cases hwide : kind.width = .w64
  · rw [if_pos hwide, Spilled, if_pos hwide, Memory.read_eight]
    have hmemory : (c.effects [save 0, .store (stack 4) .edx .dword]).memory =
        (c.effect (save 0)).memory.write 4 (c.gpr .esp + BitVec.ofNat 32 4)
          ((c.gpr .edx).setWidth 32) := by
      rw [← address_slot_high]
      rfl
    have hesp : (c.effects [save 0, .store (stack 4) .edx .dword]).gpr .esp = c.gpr .esp := rfl
    have hapart := Memory.read_write_apart (c.effect (save 0)).memory (c.gpr .esp) (n := 0)
      (k := 4) ((c.gpr .edx).setWidth (8 * 4)) (by decide : 0 + 4 ≤ 2 ^ 32) (by decide) (by decide)
    rw [BitVec.add_zero, hlow] at hapart
    rw [hesp, hmemory, hapart, Memory.read_write_self _ _ _ (by decide)]
    exact congrArg (· ++ c.gpr .eax) (BitVec.setWidth_eq _)
  · rw [if_neg hwide, Spilled, if_neg hwide, setWidth_resultBits]
    exact hlow

theorem ready_reloadResult {c : Core 32} {kind : ValueClass} {bits : Word}
    (hregister : kind.register = .integer) (h : Spilled c kind bits) :
    Ready (c.effects (reloadResult kind)) kind bits := by
  unfold Spilled at h
  unfold reloadResult
  rw [hregister]
  dsimp only
  split
  next hwide =>
    rw [if_pos hwide] at h
    rw [Ready, if_pos hwide, ← h, Memory.read_eight]
    have hlow : (c.effects [load 0, .mov .edx (.mem (stack 4)) .dword]).gpr .eax =
        c.memory.read 4 (c.gpr .esp) := by
      rw [← address_slot]
      exact BitVec.setWidth_eq _
    have hhigh : (c.effects [load 0, .mov .edx (.mem (stack 4)) .dword]).gpr .edx =
        c.memory.read 4 (c.gpr .esp + BitVec.ofNat 32 4) := by
      rw [← address_slot_high]
      exact BitVec.setWidth_eq _
    rw [resultBits, hlow, hhigh]
  next size hsize _ =>
    have hne := ne_w64_of_narrowSize hsize
    rw [if_neg hne] at h
    refine ready_of_extendNarrow hsize ?_
    rw [← h, ← address_slot]
    rfl
  next hsize hwide =>
    have hne : kind.width ≠ .w64 := hwide
    rw [if_neg hne] at h
    refine ready_of_eax (eq_w32_of_narrowSize hsize hne) ?_
    rw [← h, ← address_slot]
    exact BitVec.setWidth_eq _

/-!
# Host forms
-/

theorem zero_compare {c : Core 32} {kind : ValueClass} {bits : Word} (h : Ready c kind bits) :
    (c.effect (if kind.width = .w64 then .or .eax .edx .dword else .test .eax .eax .dword)).zero =
      (HostValue.extend kind bits == 0) := by
  by_cases hwide : kind.width = .w64
  · rw [if_pos hwide, HostValue.extend_of_w64 bits hwide]
    rw [Ready, if_pos hwide] at h
    show ((c.gpr .eax).setWidth 32 ||| (c.gpr .edx).setWidth 32 == 0) = (bits == 0)
    rw [BitVec.setWidth_eq, BitVec.setWidth_eq, ← h, Bool.eq_iff_iff, beq_iff_eq, beq_iff_eq]
    exact (Bits.append_eq_zero_iff _ _).symm
  · rw [if_neg hwide]
    have hzero := HostValue.extend_eq_zero_iff bits hwide
    rw [Ready, if_neg hwide] at h
    rw [← h] at hzero
    show ((c.gpr .eax).setWidth 32 &&& (c.gpr .eax).setWidth 32 == 0) = _
    rw [BitVec.setWidth_eq, BitVec.and_self, Bool.eq_iff_iff, beq_iff_eq, beq_iff_eq, hzero]

theorem eax_normalizeBoolean {c : Core 32} {kind : ValueClass} {bits : Word}
    (h : Ready c kind bits) :
    (c.effects (normalizeBoolean kind)).gpr .eax =
      (HostValue.ofBool (HostValue.extend kind bits != 0)).setWidth 32 := by
  have hzero := zero_compare h
  unfold normalizeBoolean
  dsimp only
  rw [Core.effects_cons]
  generalize c.effect (if kind.width = .w64 then .or .eax .edx .dword
    else .test .eax .eax .dword) = compared at hzero ⊢
  show ((X86.replaceByte (compared.gpr .eax) 0 (if compared.zero then 0 else 1)).setWidth 8).setWidth
    32 = _
  rw [X86.setWidth_replaceByte _ _ (by decide), hzero]
  by_cases hvalue : HostValue.extend kind bits = 0#64 <;> simp [hvalue, HostValue.ofBool]

theorem resultBits_widenToLong {c : Core 32} {kind : ValueClass} {bits : Word}
    (hwide : kind.width ≠ .w64) (h : Ready c kind bits) :
    resultBits (c.effects (widenToLong kind)) = HostValue.extend kind bits := by
  rw [Ready, if_neg hwide] at h
  rw [HostValue.extend_of_ne_w64 bits hwide, ← h]
  unfold widenToLong
  split
  next =>
    rw [Bits.signExtend_eq_append]
    have hhigh : (c.effects [.mov .edx (.reg .eax) .dword, .sar .edx 31 .dword]).gpr .edx =
        (c.gpr .eax).sshiftRight 31 := by
      show ((((c.gpr .eax).setWidth 32).setWidth 32).setWidth 32).sshiftRight 31 = _
      simp only [BitVec.setWidth_eq]
    rw [resultBits, hhigh]
    rfl
  next =>
    rw [BitVec.setWidth_eq_append (by decide)]
    rfl

theorem eax_of_ready {c : Core 32} {kind : ValueClass} {bits : Word} (h : Ready c kind bits) :
    c.gpr .eax = (HostValue.extend kind bits).setWidth 32 := by
  unfold Ready at h
  split at h
  next hwide =>
    rw [HostValue.extend_of_w64 bits hwide, ← h]
    exact (setWidth_resultBits c).symm
  next => exact h

theorem hostForm_integer {result : Slot} {kind : ValueClass} (hclass : result.HasClass kind)
    (hregister : kind.register = .integer) :
    hostForm result =
      if result.host = .boolean then normalizeBoolean kind
      else if result.host = .long ∧ kind.width ≠ .w64 then widenToLong kind
      else [] := by
  rw [hostForm, hclass.integerClass?_of_integer hregister]

theorem hostForm_float {result : Slot} {kind : ValueClass} (hclass : result.HasClass kind)
    (hregister : kind.register ≠ .integer) : hostForm result = [] := by
  rw [hostForm, hclass.integerClass?_of_float hregister]

theorem finds_integer {c : Core 32} {native s : State 32} {result : Slot} {kind : ValueClass}
    (hclass : result.HasClass kind) (hregister : kind.register = .integer)
    (hready : Ready c kind (resultBits native.toCore))
    (hresult : resultBits s.toCore = resultBits (c.effects (hostForm result))) :
    Finds result native s := by
  have hintegral := hclass.isIntegral hregister
  have heax : s.gpr .eax = (c.effects (hostForm result)).gpr .eax := by
    rw [← setWidth_resultBits s.toCore, hresult, setWidth_resultBits]
  rw [hostForm_integer hclass hregister] at hresult heax
  unfold Finds
  simp only [hclass.kind_eq, hregister]
  generalize result.host = host at hintegral hresult heax ⊢
  cases host with
  | boolean =>
      rw [if_pos rfl, eax_normalizeBoolean hready] at heax
      refine ⟨heax, ?_⟩
      rw [heax]
      rcases HostValue.ofBool_eq_zero_or_one
        (HostValue.extend kind (resultBits native.toCore) != 0) with hzero | hone
      · rw [hzero]
        exact Or.inl rfl
      · rw [hone]
        exact Or.inr rfl
  | long =>
      show resultBits s.toCore = HostValue.extend kind (resultBits native.toCore)
      by_cases hwide : kind.width = .w64
      · rw [if_neg (by decide), if_neg (fun h => h.right hwide)] at hresult
        rw [Ready, if_pos hwide] at hready
        rw [hresult, HostValue.extend_of_w64 _ hwide]
        exact hready
      · rw [if_neg (by decide), if_pos ⟨rfl, hwide⟩] at hresult
        rw [hresult]
        exact resultBits_widenToLong hwide hready
  | byte => exact heax.trans (eax_of_ready hready)
  | short => exact heax.trans (eax_of_ready hready)
  | char => exact heax.trans (eax_of_ready hready)
  | int => exact heax.trans (eax_of_ready hready)
  | void => cases hintegral
  | float => cases hintegral
  | double => cases hintegral

/-!
# Floats
-/

theorem unpack_pack_stackFormat {size : Size} (hsize : size = .dword ∨ size = .qword)
    (mode : X86.Rounding) (v : Extended) :
    Pattern.unpack (((X86.stackFormat size).narrow mode v).pack (8 * size.bytes)) =
      (X86.stackFormat size).narrow mode v := by
  have hlt := (X86.stackFormat size).lt_of_isStored
    ((X86.stackFormat size).isStored_narrow mode v)
  rcases hsize with rfl | rfl
  · exact Pattern.unpack_pack (by decide) hlt
  · exact Pattern.unpack_pack (by decide) hlt

def SpilledFloat (c : Core 32) (size : Size) (p : Pattern) : Prop :=
  c.memory.read size.bytes (c.gpr .esp) = p.pack (8 * size.bytes)

theorem spilledFloat_fstp {c : Core 32} {v : Extended} {size : Size}
    (hsize : size = .dword ∨ size = .qword) (h : HasFloat c v) :
    SpilledFloat (c.effect (.fstp (stack 0) size)) size
      ((X86.stackFormat size).narrow c.rounding v) := by
  have hsmall : size.bytes ≤ 2 ^ 32 := by
    rcases hsize with rfl | rfl <;> decide
  rcases h with ⟨below, hfloats⟩
  have htop : c.floats.headD Extended.indefinite = v := by
    rw [hfloats]
    rfl
  show (c.memory.write size.bytes (c.address (stack 0))
    (((X86.stackFormat size).narrow c.rounding (c.floats.headD Extended.indefinite)).pack
      (8 * size.bytes))).read size.bytes (c.gpr .esp) = _
  rw [htop, address_slot, Memory.read_write_self _ _ _ hsmall]

theorem hasFloat_fld {c : Core 32} {v : Extended} {size : Size} {mode : X86.Rounding}
    (hsize : size = .dword ∨ size = .qword) (hroom : c.floats.length < X86.floatLimit)
    (h : SpilledFloat c size ((X86.stackFormat size).narrow mode v)) :
    HasFloat (c.effect (.fld (stack 0) size))
      ((X86.stackFormat size).widen ((X86.stackFormat size).narrow mode v)) := by
  rw [← unpack_pack_stackFormat hsize mode v, ← h, ← address_slot]
  refine ⟨c.floats.take (X86.floatLimit - 1), ?_⟩
  exact congrArg (· :: _) (if_pos hroom)

theorem FindsFloat.congr {f : FloatFormat} {native c other : Core 32} (h : FindsFloat f native c)
    (hfloats : other.floats = c.floats) : FindsFloat f native other := by
  intro v hv
  rcases h v hv with ⟨found, ⟨below, htop⟩, hfound⟩
  exact ⟨found, ⟨below, hfloats.trans htop⟩, hfound⟩

/-- A float that was stored and loaded is the one that the native function left. -/
theorem findsFloat_of_widen {f : FloatFormat} {native c : Core 32}
    (h : forall v, HasFloat native v -> HasFloat c (f.widen (f.narrow native.rounding v))) :
    FindsFloat f native c := by
  intro v hv
  refine ⟨_, h v hv, f.narrow_widen_narrow _ _ v, ?_⟩
  rintro ⟨p, rfl⟩
  exact f.widen_narrow_widen _ p

/-!
# The end of the frame
-/

/-- The instruction writes to no register but those of results, and not to memory. -/
def writesResult : Instr -> Bool
  | .movsx dst _ _ | .movzx dst _ _ | .mov dst _ _ | .movImm dst _ _ | .or dst _ _
  | .sar dst _ _ | .setne dst => dst == .eax || dst == .edx
  | .test _ _ _ | .fld _ _ => true
  | _ => false

theorem InFrame.setResult {entry : State 32} {sig : Signature} {c : Core 32} {dst : Gpr}
    (h : InFrame entry sig c) (hdst : (dst == .eax || dst == .edx) = true) (value : BitVec 32) :
    InFrame entry sig (c.set dst value) := by
  rcases Bool.or_eq_true_iff.mp hdst with heax | hedx
  · rw [eq_of_beq heax]
    exact h.setEax value
  · rw [eq_of_beq hedx]
    exact h.setEdx value

theorem InFrame.effects {entry : State 32} {sig : Signature} {c : Core 32} {code : List Instr}
    (h : InFrame entry sig c) (hcode : forall instr, instr ∈ code -> writesResult instr = true) :
    InFrame entry sig (c.effects code) := by
  induction code generalizing c with
  | nil => exact h
  | cons instr code ih =>
      refine ih ?_ (fun other hmem => hcode other (List.mem_cons_of_mem instr hmem))
      have hwrites := hcode instr List.mem_cons_self
      cases instr with
      | movsx dst src size => exact h.setResult hwrites _
      | movzx dst src size => exact h.setResult hwrites _
      | mov dst src size => exact h.setResult hwrites _
      | movImm dst imm size => exact h.setResult hwrites _
      | or dst src size => exact (h.setResult hwrites _).congr rfl rfl
      | setne dst => exact h.setResult hwrites _
      | test left right size => exact h.congr rfl rfl
      | fld src size => exact h.congr rfl rfl
      | sar dst count size =>
          by_cases hsteps : count.toNat % (if size = .qword then 64 else 32) = 0
          · have heffect : c.effect (.sar dst count size) =
                c.set dst ((c.low dst size).setWidth 32) := if_pos hsteps
            rw [heffect]
            exact h.setResult hwrites _
          · have heffect : c.effect (.sar dst count size) =
                c.setResult dst ((c.low dst size).sshiftRight
                  (count.toNat % (if size = .qword then 64 else 32))) := if_neg hsteps
            rw [heffect]
            exact (h.setResult hwrites _).congr rfl rfl
      | _ => cases hwrites

theorem writesResult_extendNarrow (rm : X86.Rm) (kind : ValueClass) (size : Size) :
    writesResult (extendNarrow rm kind size) = true := by
  unfold extendNarrow
  split <;> rfl

theorem writesResult_extendResult (kind : ValueClass) : forall instr,
    instr ∈ extendResult kind -> writesResult instr = true := by
  unfold extendResult
  split <;> simp [writesResult_extendNarrow]

theorem writesResult_reloadResult (kind : ValueClass) : forall instr,
    instr ∈ reloadResult kind -> writesResult instr = true := by
  unfold reloadResult
  split
  · simp [writesResult]
  · simp [writesResult]
  · split
    · simp [writesResult, load]
    · simp [writesResult_extendNarrow]
    · simp [writesResult, load]

theorem writesResult_hostForm (result : Slot) : forall instr,
    instr ∈ hostForm result -> writesResult instr = true := by
  unfold hostForm normalizeBoolean widenToLong
  split
  · simp
  · split
    · intro instr hmem
      simp only [List.mem_cons, List.not_mem_nil, or_false] at hmem
      rcases hmem with rfl | rfl | rfl
      · split <;> rfl
      · rfl
      · rfl
    · split
      · split <;> simp [writesResult]
      · simp

def ReadyFor (c : Core 32) (result : Slot) (native : Core 32) : Prop :=
  match result.kind with
  | none => True
  | some kind =>
      match kind.register with
      | .integer => Ready c kind (resultBits native)
      | .single => FindsFloat .single native c
      | .double => FindsFloat .double native c

theorem reaches_end {entry native s : State 32} {image : Image 32} {sig : Signature}
    (hresult : sig.result.IsResult) (hframe : InFrame entry sig s.toCore)
    (hready : ReadyFor s.toCore sig.result native.toCore)
    (hahead : Ahead .bits32 image (hostForm sig.result ++
      [.addImm .esp (BitVec.ofInt 32 (stackAdjust sig : Nat)), .ret]) s.pc) :
    Reaches (step32 image) (fun back => Returned entry back ∧
      Finds sig.result native back) s := by
  refine X86.reaches_straight (by decide) hahead
    (fun instr hmem => (isPlain_hostForm sig.result instr hmem).straight) ?_
  intro t hcore hcode
  have hleave : InFrame entry sig t.toCore := by
    rw [hcore]
    exact hframe.effects (writesResult_hostForm sig.result)
  refine X86.InFrame.reaches_leave hleave (by decide) (signExtend_ofInt _) (by decide) hcode ?_
  intro back hback hother hrest
  refine ⟨hback, ?_⟩
  rcases hresult with ⟨hnone, _, _⟩ | ⟨kind, hclass, _⟩
  · unfold Finds
    simp only [hnone]
  · have hbits : resultBits back.toCore = resultBits (s.toCore.effects (hostForm sig.result)) := by
      rw [resultBits, hother .eax (by decide), hother .edx (by decide), hcore]
      rfl
    have hfloats : back.floats = t.floats := by
      rcases hrest with ⟨gpr, zero, hleft⟩
      rw [hleft]
    have hkept : kind.register ≠ .integer -> back.floats = s.floats := by
      intro hfloat
      rw [hostForm_float hclass hfloat] at hcore
      rw [hfloats, hcore]
      rfl
    unfold ReadyFor at hready
    simp only [hclass.kind_eq] at hready
    cases hregister : kind.register with
    | integer =>
        simp only [hregister] at hready
        exact finds_integer hclass hregister hready hbits
    | single =>
        unfold Finds
        simp only [hclass.kind_eq, hregister] at hready ⊢
        exact hready.congr (hkept (by rw [hregister]; decide))
    | double =>
        unfold Finds
        simp only [hclass.kind_eq, hregister] at hready ⊢
        exact hready.congr (hkept (by rw [hregister]; decide))

/-!
# Without a helper
-/

theorem findsFloat_refl (f : FloatFormat) (c : Core 32) : FindsFloat f c c := by
  intro v hv
  exact ⟨v, hv, rfl, fun _ => rfl⟩

theorem afterCall_float {result : Slot} {kind : ValueClass} (hkind : result.kind = some kind)
    (hregister : kind.register ≠ .integer) : afterCall result none = [] := by
  simp only [afterCall, hkind]
  exact if_neg (fun h => hregister (kind.isInteger_iff.mp h))

theorem readyFor_afterCall (c : Core 32) (result : Slot) :
    ReadyFor (c.effects (afterCall result none)) result c := by
  unfold ReadyFor
  cases hkind : result.kind with
  | none => trivial
  | some kind =>
      dsimp only
      cases hregister : kind.register with
      | integer =>
          have hcode : afterCall result none = extendResult kind := by
            simp only [afterCall, hkind]
            exact if_pos (kind.isInteger_iff.mpr hregister)
          rw [hcode]
          exact ready_extendResult c kind
      | single =>
          rw [afterCall_float hkind (by rw [hregister]; decide)]
          exact findsFloat_refl _ c
      | double =>
          rw [afterCall_float hkind (by rw [hregister]; decide)]
          exact findsFloat_refl _ c

theorem plain_afterCall (result : Slot) : forall instr, instr ∈ afterCall result none ->
    instr.isStraight = true ∧ writesResult instr = true := by
  intro instr hmem
  unfold afterCall at hmem
  split at hmem
  next hsome _ => cases hsome
  next hsome _ => cases hsome
  next kind _ _ _ =>
    split at hmem
    · exact ⟨(isPlain_extendResult _ instr hmem).straight,
        writesResult_extendResult _ instr hmem⟩
    · cases hmem
  next => cases hmem

theorem reaches_without_helper {entry native : State 32} {image : Image 32} {sig : Signature}
    (hresult : sig.result.IsResult) (hframe : InFrame entry sig native.toCore)
    (hahead : Ahead .bits32 image (afterCall sig.result none ++ (hostForm sig.result ++
      [.addImm .esp (BitVec.ofInt 32 (stackAdjust sig : Nat)), .ret])) native.pc) :
    Reaches (step32 image) (fun back => Returned entry back ∧
      Finds sig.result native back) native := by
  refine X86.reaches_straight (by decide) hahead
    (fun instr hmem => (plain_afterCall sig.result instr hmem).left) ?_
  intro t hcore hcode
  refine reaches_end hresult ?_ ?_ hcode
  · rw [hcore]
    exact hframe.effects fun instr hmem => (plain_afterCall sig.result instr hmem).right
  · rw [hcore]
    exact readyFor_afterCall native.toCore sig.result

/-!
# With a helper
-/

def SpilledFor (c : Core 32) (kind : ValueClass) (native : Core 32) : Prop :=
  match kind.register with
  | .integer => Spilled c kind (resultBits native)
  | .single => forall v, HasFloat native v ->
      SpilledFloat c .dword (FloatFormat.single.narrow native.rounding v)
  | .double => forall v, HasFloat native v ->
      SpilledFloat c .qword (FloatFormat.double.narrow native.rounding v)

theorem spilledFor_spillResult (c : Core 32) (kind : ValueClass) :
    SpilledFor (c.effects (spillResult kind)) kind c := by
  unfold SpilledFor
  cases hregister : kind.register with
  | integer => exact spilled_spillResult c hregister
  | single =>
      have hcode : spillResult kind = [.fstp (stack 0) .dword] := by
        rw [spillResult, hregister]
      intro v hv
      rw [hcode]
      exact spilledFloat_fstp (Or.inl rfl) hv
  | double =>
      have hcode : spillResult kind = [.fstp (stack 0) .qword] := by
        rw [spillResult, hregister]
      intro v hv
      rw [hcode]
      exact spilledFloat_fstp (Or.inr rfl) hv

theorem InFrame.spillResult {entry : State 32} {sig : Signature} {c : Core 32}
    (h : InFrame entry sig c) (hadjust : stackAdjust sig + 4 ≤ 2 ^ 31) (kind : ValueClass) :
    InFrame entry sig (c.effects (I386.spillResult kind)) := by
  unfold I386.spillResult
  split
  · exact (h.spill hadjust (n := 0) _ (by decide : 0 + 4 ≤ 8)).congr rfl rfl
  · exact (h.spill hadjust (n := 0) _ (by decide : 0 + 8 ≤ 8)).congr rfl rfl
  · have hlow : InFrame entry sig (c.effect (save 0)) :=
      h.spill hadjust (n := 0) _ (by decide : 0 + 4 ≤ 8)
    split
    · exact hlow.spill hadjust (n := 4) _ (by decide : 4 + 4 ≤ 8)
    · exact hlow

theorem SpilledFor.congr {c other : Core 32} {kind : ValueClass} {native : Core 32}
    (h : SpilledFor c kind native)
    (hslot : forall count, count ≤ 8 ->
      other.memory.read count (other.gpr .esp) = c.memory.read count (c.gpr .esp)) :
    SpilledFor other kind native := by
  unfold SpilledFor Spilled SpilledFloat at h ⊢
  rw [hslot 4 (by decide), hslot 8 (by decide)]
  cases hregister : kind.register with
  | integer =>
      simp only [hregister] at h ⊢
      exact h
  | single =>
      simp only [hregister] at h ⊢
      intro v hv
      exact (hslot 4 (by decide)).trans (h v hv)
  | double =>
      simp only [hregister] at h ⊢
      intro v hv
      exact (hslot 8 (by decide)).trans (h v hv)

theorem readyFor_reloadResult {c native : Core 32} {result : Slot} {kind : ValueClass}
    (hkind : result.kind = some kind) (hroom : c.floats.length < X86.floatLimit)
    (h : SpilledFor c kind native) : ReadyFor (c.effects (reloadResult kind)) result native := by
  unfold SpilledFor at h
  unfold ReadyFor
  simp only [hkind]
  cases hregister : kind.register with
  | integer =>
      simp only [hregister] at h ⊢
      exact ready_reloadResult hregister h
  | single =>
      have hcode : reloadResult kind = [.fld (stack 0) .dword] := by
        rw [reloadResult, hregister]
      simp only [hregister] at h ⊢
      rw [hcode]
      exact findsFloat_of_widen fun v hv => hasFloat_fld (Or.inl rfl) hroom (h v hv)
  | double =>
      have hcode : reloadResult kind = [.fld (stack 0) .qword] := by
        rw [reloadResult, hregister]
      simp only [hregister] at h ⊢
      rw [hcode]
      exact findsFloat_of_widen fun v hv => hasFloat_fld (Or.inr rfl) hroom (h v hv)

end I386
end NativeCall
