import NativeCall.Probe
import NativeCall.Proofs.Amd64.EndToEnd
import NativeCall.Proofs.CompiledCourse
import NativeCall.Proofs.Extension
import NativeCall.Proofs.Invocation

/-!
# Results in the form of host values

A host value of four bytes is the sign-extension of its low half, and a Boolean one is zero or
one. A result of the buffer path is extended by its class instead, so that it has this form only
if it is a signed number of 32 bits. The difference shows when it becomes an argument: a trampoline
reads no more of it than its slot holds, where the buffer path passes the whole word on.
-/

namespace NativeCall

namespace HostValue

/-!
# The form of a host type
-/

/-- The word is stored as the values of a host type are. -/
def IsStored (host : HostType) (word : Word) : Prop :=
  Conforms host word ∧ (host = .boolean -> word = 0 ∨ word = 1)

def FitsInt32 (word : Word) : Prop :=
  -2 ^ 31 ≤ word.toInt ∧ word.toInt < 2 ^ 31

theorem conforms_iff_fitsInt32 {host : HostType} {word : Word} (hintegral : host.isIntegral = true)
    (hsmall : host.slotSize = 4) : Conforms host word <-> FitsInt32 word := by
  have hslot : host.slotSize < 8 := by omega
  have hextension : word = (word.setWidth 32).signExtend 64 <-> FitsInt32 word := by
    rw [eq_comm]
    exact Bits.signExtend_setWidth_eq_iff word (by decide) (by decide)
  rw [← hextension]
  constructor
  · intro hconforms
    exact hconforms hintegral hslot
  · intro hword _ _
    exact hword

theorem conforms_of_slotSize_ne {host : HostType} (word : Word) (h : host.slotSize ≠ 4) :
    Conforms host word := by
  intro hintegral hsmall
  cases host with
  | void => cases hintegral
  | long | double => exact absurd hsmall (by decide)
  | _ => exact absurd rfl h

/-!
# Results
-/

theorem boolean_ofNative {host : HostType} (kind : ValueClass) (bits : Word)
    (h : host = .boolean) : ofNative kind host bits = 0 ∨ ofNative kind host bits = 1 := by
  rw [ofNative_eq, if_pos h]
  exact ofBool_eq_zero_or_one _

theorem conforms_boolean {word : Word} (h : word = 0 ∨ word = 1) : Conforms .boolean word := by
  intro _ _
  rcases h with rfl | rfl <;> decide

theorem isStored_ofNative_iff_conforms (kind : ValueClass) (host : HostType) (bits : Word) :
    IsStored host (ofNative kind host bits) <-> Conforms host (ofNative kind host bits) :=
  and_iff_left (boolean_ofNative kind bits)

/-- A result of four bytes has its form exactly if the native number is a signed one of 32 bits. -/
theorem isStored_ofNative_iff {host : HostType}
    (hhost : host.isIntegral = true ∨ host.slotSize ≠ 4) (kind : ValueClass) (bits : Word) :
    IsStored host (ofNative kind host bits) <->
      host = .boolean ∨ host.slotSize ≠ 4 ∨ FitsInt32 (extend kind bits) := by
  rw [isStored_ofNative_iff_conforms]
  by_cases hboolean : host = .boolean
  · subst hboolean
    exact iff_of_true (conforms_boolean (boolean_ofNative kind bits rfl)) (Or.inl rfl)
  by_cases hsmall : host.slotSize = 4
  · have hintegral := hhost.resolve_right (not_not_intro hsmall)
    rw [conforms_iff_fitsInt32 hintegral hsmall, ofNative_eq, if_neg hboolean]
    simp only [hboolean, hsmall, ne_eq, not_true_eq_false, false_or]
  · exact iff_of_true (conforms_of_slotSize_ne _ hsmall) (Or.inr (Or.inl hsmall))

end HostValue

/-!
# Classes whose numbers all fit
-/

namespace ValueClass

def IsWithinInt32 (kind : ValueClass) : Prop :=
  kind.width.bits < 32 ∨ kind.width = .w32 ∧ kind.isSigned = true

theorem Contains.fitsInt32 {kind : ValueClass} {word : Word} (h : kind.Contains word)
    (hkind : kind.IsWithinInt32) : HostValue.FitsInt32 word := by
  rcases kind with ⟨register, width, signedness⟩
  unfold Contains at h
  unfold IsWithinInt32 at hkind
  unfold HostValue.FitsInt32
  split at h
  case isTrue hsigned =>
    cases width with
    | w64 => simp [Width.bits] at hkind
    | w8 | w16 | w32 =>
        simp only [Width.bits] at h
        omega
  case isFalse hunsigned =>
    have hword := BitVec.toInt_eq_toNat_cond word
    cases width with
    | w8 | w16 =>
        simp only [Width.bits] at h
        omega
    | w32 | w64 => simp [Width.bits, hunsigned] at hkind

/-- Any other class has the first number that is too large. -/
theorem contains_of_not_isWithinInt32 {kind : ValueClass} (h : ¬kind.IsWithinInt32) :
    kind.Contains 0x8000_0000 := by
  have hnarrow : ¬kind.width.bits < 32 := fun hbits => h (Or.inl hbits)
  unfold Contains
  split
  case isTrue hsigned =>
    cases hwidth : kind.width with
    | w8 | w16 => simp [hwidth, Width.bits] at hnarrow
    | w32 => exact absurd (Or.inr ⟨hwidth, hsigned⟩) h
    | w64 => decide
  case isFalse =>
    cases hwidth : kind.width with
    | w8 | w16 => simp [hwidth, Width.bits] at hnarrow
    | w32 | w64 => decide

end ValueClass

/-- All results of a class have the form of a host type of four bytes if the numbers of the class
fit, and only then. -/
theorem HostValue.forall_isStored_iff {host : HostType}
    (hhost : host.isIntegral = true ∨ host.slotSize ≠ 4) (kind : ValueClass) :
    (forall bits, IsStored host (ofNative kind host bits)) <->
      host = .boolean ∨ host.slotSize ≠ 4 ∨ kind.IsWithinInt32 := by
  simp only [isStored_ofNative_iff hhost]
  constructor
  · intro h
    refine (h 0x8000_0000).imp_right (Or.imp_right ?_)
    -- The number 2 ^ 31 is a result of every class that is not within range.
    intro hfits
    by_contra hwide
    rw [(extend_eq_self_iff kind _).mpr (ValueClass.contains_of_not_isWithinInt32 hwide)] at hfits
    exact absurd hfits.right (by decide)
  · intro h bits
    exact h.imp_right (Or.imp_right (contains_extend kind bits).fitsInt32)

/-!
# Arguments in the form of their host types
-/

namespace HostValue

def conform (host : HostType) (arg : Word) : Word :=
  if host.isIntegral = true ∧ host.slotSize < 8 then (arg.setWidth 32).signExtend 64 else arg

theorem conforms_conform (host : HostType) (arg : Word) : Conforms host (conform host arg) := by
  intro hintegral hsmall
  rw [conform, if_pos ⟨hintegral, hsmall⟩, Bits.setWidth_signExtend _ (by decide)]

theorem conform_eq_self_iff (host : HostType) (arg : Word) :
    conform host arg = arg <-> Conforms host arg := by
  unfold conform
  split
  case isTrue hform =>
    constructor
    · intro h _ _
      exact h.symm
    · intro h
      exact (h hform.left hform.right).symm
  case isFalse hform =>
    exact iff_of_true rfl fun hintegral hsmall => absurd ⟨hintegral, hsmall⟩ hform

/-- A slot holds nothing of an argument but what it keeps in its form. -/
theorem Holds.conform {host : HostType} {slot arg : Word} (h : Holds host slot arg) :
    Holds host slot (conform host arg) := by
  unfold HostValue.conform
  split
  case isTrue hform =>
    unfold Holds at h ⊢
    rw [if_pos hform.right] at h ⊢
    rw [h, Bits.setWidth_signExtend _ (by decide)]
  case isFalse => exact h

end HostValue

theorem pairsOf_zipWith (class? : Slot -> Option ValueClass) (form : Slot -> Word -> Word)
    (params : List Slot) (args : List Word) :
    pairsOf class? params (List.zipWith form params args) =
      (pairsOf class? params args).map fun (slot, kind, arg) => (slot, kind, form slot arg) := by
  induction params generalizing args with
  | nil => rfl
  | cons slot params ih =>
      cases args with
      | nil => rfl
      | cons arg args =>
          rw [List.zipWith_cons_cons]
          cases hclass : class? slot with
          | none => rw [pairsOf_cons_none hclass, pairsOf_cons_none hclass, ih]
          | some kind =>
              rw [pairsOf_cons_some hclass, pairsOf_cons_some hclass, ih, List.map_cons]

namespace Signature

variable {sig : Signature} {args : List Word}

def conformed (sig : Signature) (args : List Word) : List Word :=
  List.zipWith (fun slot arg => HostValue.conform slot.host arg) sig.params args

theorem getElem?_conformed {n : Nat} {slot : Slot} {arg : Word} (hslot : sig.params[n]? = some slot)
    (harg : args[n]? = some arg) :
    (sig.conformed args)[n]? = some (HostValue.conform slot.host arg) := by
  simp [conformed, List.getElem?_zipWith, hslot, harg]

theorem arguments_conformed (hlength : args.length = sig.params.length) :
    sig.Arguments (sig.conformed args) where
  length_eq := by simp [conformed, hlength]
  conforms := by
    intro slot arg hmem
    rcases List.mem_iff_getElem?.mp hmem with ⟨n, hpair⟩
    rcases List.getElem?_zip_eq_some.mp hpair with ⟨hslot, hconformed⟩
    rcases List.getElem?_zipWith_eq_some.mp hconformed with ⟨other, value, hother, _, hvalue⟩
    have hsame : other = slot := Option.some.inj (hother.symm.trans hslot)
    have hform : HostValue.conform slot.host value = arg := hsame ▸ hvalue
    rw [← hform]
    exact HostValue.conforms_conform slot.host value

theorem Accepted.conform_of_floatClass? {arch : Arch} {slot : Slot} {kind : ValueClass}
    (h : sig.Accepted arch) (hmem : slot ∈ sig.params) (hclass : slot.floatClass? = some kind)
    (arg : Word) : HostValue.conform slot.host arg = arg := by
  rcases Option.filter_eq_some_iff.mp hclass with ⟨hkind, hfloat⟩
  have hregister : kind.register ≠ .integer := by
    intro hinteger
    simp [ValueClass.isFloat, ValueClass.isInteger, hinteger] at hfloat
  apply if_neg
  rintro ⟨hintegral, _⟩
  exact (h.hasClass hmem hkind).not_isIntegral hregister hintegral

end Signature

/-!
# Arguments through trampolines
-/

namespace Amd64

open X86 (State step64)

variable {sig : Signature} {target : Address} {helper : Option Address} {args : List Word}

theorem Hosts.conformed {entry : State 64} (haccepted : sig.Accepted .amd64)
    (h : Hosts sig args entry) : Hosts sig (sig.conformed args) entry where
  int := by
    intro i word slot kind arg hword hpair
    rw [Signature.integerPairs, Signature.conformed, pairsOf_zipWith, List.getElem?_map] at hpair
    rcases Option.map_eq_some_iff.mp hpair with ⟨⟨slot, kind, value⟩, hvalue, heq⟩
    cases heq
    exact (h.int i word slot kind value hword hvalue).conform
  float := by
    intro i slot kind arg hpair
    rw [Signature.floatPairs, Signature.conformed, pairsOf_zipWith, List.getElem?_map] at hpair
    rcases Option.map_eq_some_iff.mp hpair with ⟨⟨slot, kind, value⟩, hvalue, heq⟩
    cases heq
    rcases mem_pairsOf (List.mem_of_getElem? hvalue) with ⟨hzip, hclass⟩
    rw [haccepted.conform_of_floatClass? (List.of_mem_zip hzip).left hclass]
    exact h.float i slot kind value hvalue

/-- Whatever arguments the managed caller passes, a trampoline calls its target with them as
their slots hold them. -/
theorem calls_conformed {trampoline : Trampoline} {image : Image 64} {entry : State 64}
    (hbuilt : sig.Built) (hok : Trampoline.compile .amd64 sig target helper = .ok trampoline)
    (hcode : image.code = trampoline.code) (hpc : entry.pc = image.base)
    (hlength : args.length = sig.params.length) (hhosts : Hosts sig args entry) :
    Calls image sig target (sig.calledHelper helper) (sig.registers (sig.conformed args))
      entry := by
  have haccepted := hbuilt.accepted (of_compile_eq_ok hok).left.accepts
  -- The slots hold the conformed arguments just as well, and these have the form that calls ask
  -- for.
  have hargs := Signature.arguments_conformed hlength
  have hform := hhosts.conformed haccepted
  have hahead := ahead_compiled hok hcode hpc
  cases hframe : sig.frame with
  | direct =>
      rw [hframe, calledHelper_of_direct hframe] at hahead
      rw [calledHelper_of_direct hframe]
      exact calls_of_direct haccepted (Signature.of_frame_eq_direct hframe).right hargs hform hahead
  | wrapped =>
      rw [hframe] at hahead
      exact calls_of_wrapped haccepted hargs hform hahead

/-- An argument comes to its target through an invoker as it is, and through a trampoline as it is
or not. -/
def PassesAlike (sig : Signature) (target : Address) (helper : Option Address) (args : List Word)
    (n : Nat) (arg : Word) (alike : Prop) : Prop :=
  exists (trampoline : Trampoline) (invoker : Invoker) (registers : Registers) (i : Fin 6),
    Trampoline.compile .amd64 sig target helper = .ok trampoline ∧
    Invoker.create sig target = .ok invoker ∧
    i.val = (sig.params.take n).countP (fun slot => slot.integerClass?.isSome) ∧
    invoker.Makes args [registers] ∧ registers.int i = arg ∧
    forall (image : Image 64) (entry : State 64), image.code = trampoline.code ->
      entry.pc = image.base -> Hosts sig args entry ->
        Reaches (step64 image) (fun called => called.pc = target ∧
          ((argumentRegisters called).int i = arg <-> alike)) entry

/-- An argument for a 64-bit parameter comes through alike if it has the form of its host type. -/
theorem passesAlike {n : Nat} {slot : Slot} {wide : ValueClass} {arg : Word} (hbuilt : sig.Built)
    (haccepts : Trampoline.accepts .amd64 sig = true)
    (hhelper : sig.capturesError = true -> helper.isSome = true)
    (hlength : args.length = sig.params.length) (hslot : sig.params[n]? = some slot)
    (harg : args[n]? = some arg) (hclass : slot.integerClass? = some wide)
    (hwide : wide.width = .w64) :
    PassesAlike sig target helper args n arg (HostValue.Conforms slot.host arg) := by
  have haccepted := hbuilt.accepted haccepts
  have hbudget : sig.integerCount ≤ 6 ∧ sig.floatCount ≤ 8 := by
    simpa [Signature.fitsBudget, Arch.registerBudget] using haccepted.fits
  have hpair := getElem?_pairsOf hslot harg hclass
  have hconformed := getElem?_pairsOf hslot (Signature.getElem?_conformed hslot harg) hclass
  have hplace : (sig.params.take n).countP (fun slot => slot.integerClass?.isSome) <
      sig.integerCount := by
    rw [← Signature.length_integerPairs hlength]
    exact (List.getElem?_eq_some_iff.mp hpair).1
  rcases exists_compile target haccepts hhelper with ⟨trampoline, hok, _⟩
  let i : Fin 6 := ⟨_, Nat.lt_of_lt_of_le hplace hbudget.left⟩
  -- Extension to 64 bits changes nothing, so only what a slot drops can tell the two apart.
  have hinvoked : (sig.registers args).int i = arg := by
    rw [Signature.int_registers (i := i) hpair, HostValue.extend_of_w64 arg hwide]
  have hhosted : (sig.registers (sig.conformed args)).int i = HostValue.conform slot.host arg := by
    rw [Signature.int_registers (i := i) hconformed, HostValue.extend_of_w64 _ hwide]
  refine ⟨trampoline, _, sig.registers args, i, hok,
    Invoker.create_eq target haccepted.arch_eq haccepted.primitive, rfl,
    Invoker.makes_registers hlength hbudget.left hbudget.right, hinvoked, ?_⟩
  intro image entry hcode hpc hhosts
  refine (calls_conformed hbuilt hok hcode hpc hlength hhosts).mono ?_
  rintro called ⟨htarget, hagree, _⟩
  rw [hagree.int i hplace, hhosted]
  exact ⟨htarget, HostValue.conform_eq_self_iff slot.host arg⟩

end Amd64

/-!
# Results of the buffer path
-/

namespace Invoker

/-- How the result of a call stands as a host value, the register being `bits`. -/
structure ResultForm (result : Slot) (kind : ValueClass) (bits value : Word) : Prop where
  boolean : result.host = .boolean -> value = 0 ∨ value = 1
  stored_iff : HostValue.IsStored result.host value <->
    result.host = .boolean ∨ result.host.slotSize ≠ 4 ∨
      HostValue.FitsInt32 (HostValue.extend kind bits)
  /-- The types of the result decide whether it has the form of a host value in every call. -/
  always_iff :
    (forall other, HostValue.IsStored result.host (HostValue.ofNative kind result.host other)) <->
      result.host = .boolean ∨ result.host.slotSize ≠ 4 ∨ kind.IsWithinInt32
  /-- As an argument of the same host type for a 64-bit parameter, it comes to a target through
  trampolines as through invokers if it has that form, and only then. -/
  fedBack : forall (sig : Signature) (target : Address) (helper : Option Address)
    (args : List Word) (n : Nat) (slot : Slot) (wide : ValueClass),
    sig.Built -> Trampoline.accepts .amd64 sig = true ->
      (sig.capturesError = true -> helper.isSome = true) ->
        args.length = sig.params.length -> sig.params[n]? = some slot ->
          args[n]? = some value -> slot.integerClass? = some wide -> wide.width = .w64 ->
            slot.host = result.host ->
              Amd64.PassesAlike sig target helper args n value
                (HostValue.IsStored result.host value)

variable {invoker : Invoker} {kind : ValueClass}

/-- The host type of an integer result is integral, unless the result is void for the host. -/
theorem integral_or_slotSize_ne (hkind : invoker.signature.result.kind = some kind)
    (hinteger : kind.register = .integer) :
    invoker.signature.result.host.isIntegral = true ∨
      invoker.signature.result.host.slotSize ≠ 4 := by
  have hprimitive := invoker.primitive
  simp only [Signature.isPrimitive, Slot.isCompilable, hkind, Option.any_some,
    ValueClass.acceptsHost, hinteger, Bool.and_eq_true, Bool.or_eq_true, beq_iff_eq] at hprimitive
  rcases hprimitive.left with ⟨_, hvoid⟩ | hintegral
  · rw [hvoid]
    exact Or.inr (by decide)
  · exact Or.inl hintegral

theorem hostResult_of_integer {result : Slot} (hkind : result.kind = some kind)
    (hinteger : kind.register = .integer) (bits : Word) :
    hostResult result bits = HostValue.ofNative kind result.host bits := by
  simp only [hostResult, hkind]
  exact if_pos (kind.isInteger_iff.mpr hinteger)

/-- An integer result that is given back has the form of a host value if it is Boolean, if it has
eight bytes, or if the native number is a signed one of 32 bits. -/
theorem invoke_result_form (hkind : invoker.signature.result.kind = some kind)
    (hinteger : kind.register = .integer) {function : NativeFunction} {args : List Word}
    {state : ErrorState} {value : Word}
    (h : (invoker.invoke function args state).1 = .ok value) :
    exists registers, invoker.Makes args [registers] ∧
      ResultForm invoker.signature.result kind (function registers state.system).1 value := by
  have hhost := integral_or_slotSize_ne hkind hinteger
  rcases invoker.refused_or_made args with ⟨_, e, hrefused⟩ | ⟨_, registers, hmakes, hmade⟩
  · rw [hrefused] at h
    cases h
  · rw [hmade, hostResult_of_integer hkind hinteger] at h
    cases h
    refine ⟨registers, hmakes, HostValue.boolean_ofNative kind _,
      HostValue.isStored_ofNative_iff hhost kind _, HostValue.forall_isStored_iff hhost kind, ?_⟩
    intro sig target helper args n slot wide hbuilt haccepts hhelper hlength hslot harg hclass hwide
      hsame
    rw [HostValue.isStored_ofNative_iff_conforms, ← hsame]
    rw [← hsame] at harg
    exact Amd64.passesAlike hbuilt haccepts hhelper hlength hslot harg hclass hwide

def unsignedInt : Invoker :=
  { signature := .ofTypes .amd64 [(.uint, .int)] (.uint, .int) false
    target := 0x1000
    host := rfl
    primitive := by decide }

theorem invoke_unsignedInt :
    (unsignedInt.invoke (Probe.int 0).function [-1] .initial).1 = .ok 0xFFFF_FFFF := by
  decide

def longOfInt : Signature :=
  .ofTypes .amd64 [(.slonglong, .int)] (.slonglong, .long) false

/-- The largest unsigned number is passed on as it is by an invoker, and as another one by a
trampoline. -/
theorem invoke_result_form_chained :
    (unsignedInt.invoke (Probe.int 0).function [-1] .initial).1 = .ok 0xFFFF_FFFF ∧
      exists trampoline invoker registers,
        Trampoline.compile .amd64 longOfInt 0x2000 none = .ok trampoline ∧
        create longOfInt 0x2000 = .ok invoker ∧
        invoker.Makes [0xFFFF_FFFF] [registers] ∧ registers.int 0 = 0xFFFF_FFFF ∧
        forall image : Image 64, image.code = trampoline.code ->
          Reaches (X86.step64 image) (fun called => called.pc = 0x2000 ∧
            (Amd64.argumentRegisters called).int 0 ≠ 0xFFFF_FFFF)
            { gpr := fun _ => 0xFFFF_FFFF, vector := fun _ => 0, floats := []
              rounding := .nearest, zero := false, memory := fun _ => 0, pc := image.base } := by
  have hkind : unsignedInt.signature.result.kind = some ⟨.integer, .w32, .unsigned⟩ := rfl
  rcases invoke_result_form hkind rfl invoke_unsignedInt with ⟨_, _, hform⟩
  have hbuilt : longOfInt.Built :=
    .ofTypes .amd64 [(.slonglong, .int)] (.slonglong, .long) false
  rcases hform.fedBack longOfInt 0x2000 none [0xFFFF_FFFF] 0 _ _ hbuilt (by decide) nofun rfl rfl
    rfl rfl rfl rfl with
    ⟨trampoline, invoker, registers, i, hok, hcreate, hplace, hmakes, hinvoked, hreaches⟩
  have hfirst : i = 0 := Fin.ext hplace
  rw [hfirst] at hinvoked hreaches
  refine ⟨invoke_unsignedInt, trampoline, invoker, registers, hok, hcreate, hmakes, hinvoked, ?_⟩
  intro image hcode
  refine (hreaches image _ hcode rfl ?_).mono ?_
  · constructor
    · intro i word slot kind arg hword hpair
      cases i with
      | zero =>
          cases hword
          cases hpair
          exact rfl
      | succ i => cases hpair
    · intro i slot kind arg hpair
      cases hpair
  · rintro called ⟨htarget, halike⟩
    refine ⟨htarget, ?_⟩
    intro hsame
    exact absurd ((halike.mp hsame).left rfl (by decide)) (by decide)

/-- An unsigned result is not sign-extended for a host type that has a sign. -/
theorem not_every_result_is_stored :
    ¬forall (invoker : Invoker) (kind : ValueClass),
      invoker.signature.result.kind = some kind -> kind.register = .integer ->
        forall (function : NativeFunction) (args : List Word) (state : ErrorState) (value : Word),
          (invoker.invoke function args state).1 = .ok value ->
            HostValue.IsStored invoker.signature.result.host value := by
  intro hclaim
  have hstored := hclaim unsignedInt _ rfl rfl _ _ _ _ invoke_unsignedInt
  exact absurd (hstored.left rfl (by decide)) (by decide)

end Invoker
end NativeCall
