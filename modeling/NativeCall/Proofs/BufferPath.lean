import NativeCall.Invoker
import NativeCall.Proofs.Bits
import NativeCall.Proofs.Signature

/-!
# The buffer path of accepted signatures

A call of an accepted signature through an invoker is made whenever there is an argument
for each parameter. Each argument is found in the register file of its class, in the place
that it has among the arguments of that file.
-/

namespace NativeCall

/-!
# Arguments by register file
-/

/-- The parameters of a register file with their classes and arguments, in order. -/
def pairsOf (class? : Slot -> Option ValueClass) (params : List Slot) (args : List Word) :
    List (Slot × ValueClass × Word) :=
  (params.zip args).filterMap fun (slot, arg) => (class? slot).map fun kind => (slot, kind, arg)

namespace Signature

def floatClasses (sig : Signature) : List ValueClass :=
  sig.params.filterMap (·.floatClass?)

def integerPairs (sig : Signature) (args : List Word) : List (Slot × ValueClass × Word) :=
  pairsOf Slot.integerClass? sig.params args

def floatPairs (sig : Signature) (args : List Word) : List (Slot × ValueClass × Word) :=
  pairsOf Slot.floatClass? sig.params args

end Signature

theorem map_pairsOf (class? : Slot -> Option ValueClass) {params : List Slot} {args : List Word}
    (hlength : args.length = params.length) :
    (pairsOf class? params args).map (fun pair => (pair.1, pair.2.1)) =
      params.filterMap fun slot => (class? slot).map (slot, ·) := by
  induction params generalizing args with
  | nil => rfl
  | cons slot params ih =>
      cases args with
      | nil => cases hlength
      | cons arg args =>
          have hrest := ih (Nat.succ.inj hlength)
          unfold pairsOf at hrest ⊢
          cases hclass : class? slot <;> simp [hclass, hrest]

theorem length_pairsOf (class? : Slot -> Option ValueClass) {params : List Slot} {args : List Word}
    (hlength : args.length = params.length) :
    (pairsOf class? params args).length = params.countP fun slot => (class? slot).isSome := by
  rw [← List.length_map (f := fun pair => (pair.1, pair.2.1)), map_pairsOf class? hlength,
    List.length_filterMap_eq_countP]
  congr 1
  funext slot
  cases class? slot <;> rfl

theorem mem_pairsOf {class? : Slot -> Option ValueClass} {params : List Slot} {args : List Word}
    {slot : Slot} {kind : ValueClass} {arg : Word}
    (h : (slot, kind, arg) ∈ pairsOf class? params args) :
    (slot, arg) ∈ params.zip args ∧ class? slot = some kind := by
  rcases List.mem_filterMap.mp h with ⟨⟨other, value⟩, hmem, hpair⟩
  rcases Option.map_eq_some_iff.mp hpair with ⟨class', hclass, heq⟩
  cases heq
  exact ⟨hmem, hclass⟩

namespace Slot

theorem integerClass?_eq_some {slot : Slot} {kind : ValueClass}
    (h : slot.integerClass? = some kind) : slot.kind = some kind ∧ kind.register = .integer := by
  rcases Option.filter_eq_some_iff.mp h with ⟨hkind, hinteger⟩
  exact ⟨hkind, kind.isInteger_iff.mp hinteger⟩

end Slot

/-!
# Host values

An argument for a host slot of four bytes is the sign-extension of its low half, so the
upper half of such a slot says nothing.
-/

namespace HostValue

/-- The native form of an integer argument in a host slot. -/
def toNative (kind : ValueClass) (host : HostType) (slot : Word) : Word :=
  if kind.width = .w64 ∧ host.slotSize < 8 then (slot.setWidth 32).signExtend 64
  else extend kind slot

/-- The slot holds the argument, in as many bytes as it has. -/
def Holds (host : HostType) (slot arg : Word) : Prop :=
  if host.slotSize < 8 then slot.setWidth 32 = arg.setWidth 32 else slot = arg

/-- The argument has the form that host values have. -/
def Conforms (host : HostType) (arg : Word) : Prop :=
  host.isIntegral = true -> host.slotSize < 8 -> arg = (arg.setWidth 32).signExtend 64

theorem extend_congr {kind : ValueClass} {bits other : Word}
    (h : bits.setWidth kind.width.bits = other.setWidth kind.width.bits) :
    extend kind bits = extend kind other := by
  rw [extend, extend, h]

theorem extend_of_w64 {kind : ValueClass} (bits : Word) (h : kind.width = .w64) :
    extend kind bits = bits := by
  have hfull : bits.setWidth Width.w64.bits = bits := BitVec.setWidth_eq bits
  rw [extend, h]
  simp only [hfull]
  split
  · exact BitVec.signExtend_eq bits
  · exact BitVec.setWidth_eq bits

theorem setWidth_extend (kind : ValueClass) (bits : Word) :
    (extend kind bits).setWidth kind.width.bits = bits.setWidth kind.width.bits := by
  have hbits := kind.width.bits_le
  unfold extend
  dsimp only
  split
  · exact Bits.setWidth_signExtend _ hbits
  · rw [BitVec.setWidth_setWidth_of_le _ hbits, BitVec.setWidth_eq]

theorem extend_of_ne_w64 {kind : ValueClass} (bits : Word) (h : kind.width ≠ .w64) :
    extend kind bits =
      if kind.isSigned then ((extend kind bits).setWidth 32).signExtend 64
      else ((extend kind bits).setWidth 32).setWidth 64 := by
  have hbits := Width.bits_le_of_ne_w64 h
  unfold extend
  generalize bits.setWidth kind.width.bits = low
  dsimp only
  split
  · rw [Bits.setWidth_signExtend_of_le _ (by decide),
      Bits.signExtend_signExtend _ hbits (by decide)]
  · rw [BitVec.setWidth_setWidth_of_le low (by decide), BitVec.setWidth_setWidth (by omega)]

theorem extend_eq_zero_iff {kind : ValueClass} (bits : Word) (h : kind.width ≠ .w64) :
    extend kind bits = 0 <-> (extend kind bits).setWidth 32 = 0 := by
  constructor
  · intro hzero
    rw [hzero]
    rfl
  · intro hzero
    rw [extend_of_ne_w64 bits h, hzero]
    split <;> decide

theorem ofBool_eq_zero_or_one (b : Bool) : ofBool b = 0 ∨ ofBool b = 1 := by
  cases b
  · exact Or.inl rfl
  · exact Or.inr rfl

theorem ofNative_eq (kind : ValueClass) (host : HostType) (bits : Word) :
    ofNative kind host bits =
      if host = .boolean then ofBool (extend kind bits != 0) else extend kind bits := by
  cases host <;> rfl

theorem setWidth_of_setWidth_eq {low high : Nat} {bits other : Word} (hle : low ≤ high)
    (h : bits.setWidth high = other.setWidth high) : bits.setWidth low = other.setWidth low := by
  rw [← BitVec.setWidth_setWidth_of_le bits hle, h, BitVec.setWidth_setWidth_of_le other hle]

theorem toNative_long (kind : ValueClass) (slot : Word) :
    toNative kind .long slot = extend kind slot := by
  exact if_neg (fun h => absurd h.right (by decide))

theorem toNative_eq_extend {kind : ValueClass} {host : HostType} {slot arg : Word}
    (hintegral : host.isIntegral = true) (hconforms : Conforms host arg)
    (hholds : Holds host slot arg) : toNative kind host slot = extend kind arg := by
  unfold Holds at hholds
  unfold toNative
  by_cases hsmall : host.slotSize < 8
  · rw [if_pos hsmall] at hholds
    by_cases hwide : kind.width = .w64
    · rw [if_pos ⟨hwide, hsmall⟩, hholds, extend_of_w64 arg hwide]
      exact (hconforms hintegral hsmall).symm
    · rw [if_neg (fun h => hwide h.left)]
      exact extend_congr (setWidth_of_setWidth_eq (Width.bits_le_of_ne_w64 hwide) hholds)
  · rw [if_neg hsmall] at hholds
    rw [if_neg (fun h => hsmall h.right), hholds]

end HostValue

/-!
# Registers
-/

namespace Registers

/-- The register files agree on what the parameters of a signature use of them: whole
integer registers, and as many bits of a float register as the class is wide. -/
structure AgreeOn (sig : Signature) (left right : Registers) : Prop where
  int : forall i : Fin 6, i.val < sig.integerCount -> left.int i = right.int i
  float : forall (i : Fin 8) kind, sig.floatClasses[i.val]? = some kind ->
    (left.float i).setWidth kind.width.bits = (right.float i).setWidth kind.width.bits

end Registers

/-- A function reads no more of its registers than the parameters of a signature use. -/
def NativeFunction.ReadsOnly (function : NativeFunction) (sig : Signature) : Prop :=
  forall left right code, Registers.AgreeOn sig left right -> function left code = function right code

namespace Signature

/-- The arguments of a call: one for each parameter, in the form of its host type. -/
structure Arguments (sig : Signature) (args : List Word) : Prop where
  length_eq : args.length = sig.params.length
  conforms : forall slot arg, (slot, arg) ∈ sig.params.zip args -> HostValue.Conforms slot.host arg

variable {sig : Signature}

theorem integerArguments_eq (sig : Signature) (args : List Word) :
    Invoker.integerArguments sig.params args =
      (sig.integerPairs args).map fun (_, kind, arg) => HostValue.extend kind arg := by
  rw [Invoker.integerArguments, integerPairs, pairsOf, List.map_filterMap]
  congr 1
  funext ⟨slot, arg⟩
  simp only [Option.map_map]
  rfl

theorem floatArguments_eq (sig : Signature) (args : List Word) :
    Invoker.floatArguments sig.params args = (sig.floatPairs args).map fun (_, _, arg) => arg := by
  rw [Invoker.floatArguments, floatPairs, pairsOf, List.map_filterMap]
  congr 1
  funext ⟨slot, arg⟩
  simp only [Option.map_map]
  rfl

theorem floatClasses_eq {args : List Word} (hlength : args.length = sig.params.length) :
    sig.floatClasses = (sig.floatPairs args).map fun (_, kind, _) => kind := by
  have hpairs := congrArg (List.map Prod.snd) (map_pairsOf Slot.floatClass? hlength)
  rw [List.map_map, List.map_filterMap] at hpairs
  refine Eq.trans ?_ hpairs.symm
  rw [floatClasses]
  congr 1
  funext slot
  cases slot.floatClass? <;> rfl

theorem length_integerPairs {args : List Word} (hlength : args.length = sig.params.length) :
    (sig.integerPairs args).length = sig.integerCount :=
  length_pairsOf Slot.integerClass? hlength

theorem length_floatPairs {args : List Word} (hlength : args.length = sig.params.length) :
    (sig.floatPairs args).length = sig.floatCount :=
  length_pairsOf Slot.floatClass? hlength

def registers (sig : Signature) (args : List Word) : Registers :=
  .ofArguments (Invoker.integerArguments sig.params args) (Invoker.floatArguments sig.params args)

theorem length_integerArguments {args : List Word} (hlength : args.length = sig.params.length) :
    (Invoker.integerArguments sig.params args).length = sig.integerCount := by
  rw [integerArguments_eq, List.length_map, length_integerPairs hlength]

theorem length_floatArguments {args : List Word} (hlength : args.length = sig.params.length) :
    (Invoker.floatArguments sig.params args).length = sig.floatCount := by
  rw [floatArguments_eq, List.length_map, length_floatPairs hlength]

theorem registers?_eq {args : List Word} (hlength : args.length = sig.params.length)
    (hints : sig.integerCount ≤ 6) (hfloats : sig.floatCount ≤ 8) :
    Invoker.registers? sig.params args = some (sig.registers args) := by
  have hfits : (Invoker.integerArguments sig.params args).length ≤ Registers.integerLimit ∧
      (Invoker.floatArguments sig.params args).length ≤ Registers.floatLimit := by
    rw [length_integerArguments hlength, length_floatArguments hlength]
    exact ⟨hints, hfloats⟩
  exact if_pos hfits

theorem registers?_eq_none {args : List Word} (hlength : args.length = sig.params.length)
    (hcrowded : 6 < sig.integerCount ∨ 8 < sig.floatCount) :
    Invoker.registers? sig.params args = none := by
  apply if_neg
  rw [length_integerArguments hlength, length_floatArguments hlength]
  rintro ⟨hints, hfloats⟩
  exact hcrowded.elim (Nat.not_lt.mpr hints) (Nat.not_lt.mpr hfloats)

theorem int_registers {args : List Word} {i : Fin 6} {slot : Slot} {kind : ValueClass} {arg : Word}
    (h : (sig.integerPairs args)[i.val]? = some (slot, kind, arg)) :
    (sig.registers args).int i = HostValue.extend kind arg := by
  simp [registers, Registers.ofArguments, integerArguments_eq, h]

theorem float_registers {args : List Word} {i : Fin 8} {slot : Slot} {kind : ValueClass}
    {arg : Word} (h : (sig.floatPairs args)[i.val]? = some (slot, kind, arg)) :
    (sig.registers args).float i = arg := by
  simp [registers, Registers.ofArguments, floatArguments_eq, h]

end Signature

/-!
# Calls
-/

namespace Invoker

theorem create_eq {sig : Signature} (target : Address) (host : sig.arch = Arch.host)
    (primitive : sig.isPrimitive = true) :
    create sig target = .ok { signature := sig, target, host, primitive } := by
  unfold create
  rw [dif_pos host, dif_pos primitive]

variable {invoker : Invoker} {args : List Word}

theorem invoke_of_length_ne (function : NativeFunction) (state : ErrorState)
    (hlength : args.length ≠ invoker.signature.params.length) :
    invoker.invoke function args state =
      (.error (.argCountMismatch invoker.signature.params.length args.length), state) := by
  unfold invoke
  dsimp only
  rw [if_pos hlength]

/-- A register file that cannot hold its arguments is refused. -/
theorem invoke_of_crowded (function : NativeFunction) (state : ErrorState)
    (hlength : args.length = invoker.signature.params.length)
    (hcrowded : 6 < invoker.signature.integerCount ∨ 8 < invoker.signature.floatCount) :
    invoker.invoke function args state = (.error .tooManyArgs, state) := by
  unfold invoke
  dsimp only
  rw [if_neg (fun h => h hlength), Signature.registers?_eq_none hlength hcrowded]

theorem invoke_of_fits (function : NativeFunction) (state : ErrorState)
    (hlength : args.length = invoker.signature.params.length)
    (hints : invoker.signature.integerCount ≤ 6) (hfloats : invoker.signature.floatCount ≤ 8) :
    let called := function (invoker.signature.registers args) state.system
    let returned := state.setSystem called.2
    invoker.invoke function args state =
      (.ok (hostResult invoker.signature.result called.1),
        if invoker.signature.capturesError then returned.capture else returned) := by
  unfold invoke
  dsimp only
  rw [if_neg (fun h => h hlength), Signature.registers?_eq hlength hints hfloats]

theorem invoke_eq (function : NativeFunction) (state : ErrorState)
    (hlength : args.length = invoker.signature.params.length)
    (hints : invoker.signature.integerCount ≤ 6) (hfloats : invoker.signature.floatCount ≤ 8) :
    (invoker.invoke function args state).1 =
      .ok (hostResult invoker.signature.result
        (function (invoker.signature.registers args) state.system).1) := by
  rw [invoke_of_fits function state hlength hints hfloats]

end Invoker
end NativeCall
