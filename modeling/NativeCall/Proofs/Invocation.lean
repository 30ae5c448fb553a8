import Mathlib.Data.Countable.Basic
import Mathlib.Data.List.GetD
import Mathlib.Logic.Equiv.List
import NativeCall.Proofs.BufferPath

/-!
# Invocations

An invocation calls its function once, or it fails and calls nothing. What the function sees is
told by positions alone: an argument is in the register of its file that is numbered by the
parameters of that file before it. How often the function is called is told by behaviour alone:
the calls that are made are those whose results decide the answer and after the last of which
the system is left.
-/

namespace NativeCall

/-!
# Places of arguments
-/

section Places

variable {class? : Slot -> Option ValueClass}

theorem pairsOf_cons_none {slot : Slot} (hclass : class? slot = none) (params : List Slot)
    (arg : Word) (args : List Word) :
    pairsOf class? (slot :: params) (arg :: args) = pairsOf class? params args := by
  exact List.filterMap_cons_none (congrArg (Option.map _) hclass)

theorem pairsOf_cons_some {slot : Slot} {kind : ValueClass} (hclass : class? slot = some kind)
    (params : List Slot) (arg : Word) (args : List Word) :
    pairsOf class? (slot :: params) (arg :: args) =
      (slot, kind, arg) :: pairsOf class? params args := by
  exact List.filterMap_cons_some (congrArg (Option.map _) hclass)

/-- A parameter with a class has as many pairs before its own as there are parameters with a
class before it. -/
theorem getElem?_pairsOf {params : List Slot} {args : List Word} {n : Nat} {slot : Slot}
    {kind : ValueClass} {arg : Word} (hslot : params[n]? = some slot) (harg : args[n]? = some arg)
    (hclass : class? slot = some kind) :
    (pairsOf class? params args)[(params.take n).countP fun slot => (class? slot).isSome]? =
      some (slot, kind, arg) := by
  induction n generalizing params args with
  | zero =>
      cases params with
      | nil => cases hslot
      | cons first params =>
          cases args with
          | nil => cases harg
          | cons value args =>
              cases hslot
              cases harg
              rw [pairsOf_cons_some hclass]
              rfl
  | succ n ih =>
      cases params with
      | nil => cases hslot
      | cons first params =>
          cases args with
          | nil => cases harg
          | cons value args =>
              have hrest := ih hslot harg
              cases hfirst : class? first with
              | none =>
                  rw [pairsOf_cons_none hfirst, List.take_succ_cons,
                    List.countP_cons_of_neg (by simp [hfirst])]
                  exact hrest
              | some other =>
                  rw [pairsOf_cons_some hfirst, List.take_succ_cons,
                    List.countP_cons_of_pos (by simp [hfirst])]
                  exact hrest

theorem exists_of_getElem?_pairsOf {params : List Slot} {args : List Word} {k : Nat}
    {slot : Slot} {kind : ValueClass} {arg : Word}
    (h : (pairsOf class? params args)[k]? = some (slot, kind, arg)) :
    exists n, params[n]? = some slot ∧ args[n]? = some arg ∧ class? slot = some kind ∧
      (params.take n).countP (fun slot => (class? slot).isSome) = k := by
  induction params generalizing args k with
  | nil => cases h
  | cons first params ih =>
      cases args with
      | nil => cases h
      | cons value args =>
          cases hfirst : class? first with
          | none =>
              rw [pairsOf_cons_none hfirst] at h
              rcases ih h with ⟨n, hslot, harg, hclass, hcount⟩
              refine ⟨n + 1, hslot, harg, hclass, ?_⟩
              rw [List.take_succ_cons, List.countP_cons_of_neg (by simp [hfirst])]
              exact hcount
          | some other =>
              rw [pairsOf_cons_some hfirst] at h
              cases k with
              | zero =>
                  cases h
                  exact ⟨0, rfl, rfl, hfirst, rfl⟩
              | succ k =>
                  rcases ih h with ⟨n, hslot, harg, hclass, hcount⟩
                  refine ⟨n + 1, hslot, harg, hclass, ?_⟩
                  rw [List.take_succ_cons, List.countP_cons_of_pos (by simp [hfirst]), hcount]

end Places

/-- The argument of a parameter that has a class and `k` parameters with one before it. -/
def Signature.IsArgument (sig : Signature) (class? : Slot -> Option ValueClass)
    (args : List Word) (k : Nat) (kind : ValueClass) (arg : Word) : Prop :=
  exists n slot, sig.params[n]? = some slot ∧ args[n]? = some arg ∧ class? slot = some kind ∧
    (sig.params.take n).countP (fun slot => (class? slot).isSome) = k

theorem Signature.exists_isArgument {sig : Signature} {class? : Slot -> Option ValueClass}
    {args : List Word} {k : Nat} (hlength : args.length = sig.params.length)
    (hk : k < sig.params.countP fun slot => (class? slot).isSome) :
    exists kind arg, sig.IsArgument class? args k kind arg := by
  rw [← length_pairsOf class? hlength] at hk
  rcases exists_of_getElem?_pairsOf (List.getElem?_eq_getElem hk) with ⟨n, hplace⟩
  exact ⟨_, _, n, _, hplace⟩

namespace Registers

/-- Each register file has the arguments of its classes in order, integers extended and floats
as they are, and nothing behind them. -/
structure Carry (registers : Registers) (sig : Signature) (args : List Word) : Prop where
  int : forall (i : Fin 6) kind arg, sig.IsArgument Slot.integerClass? args i kind arg ->
    registers.int i = HostValue.extend kind arg
  int_rest : forall i : Fin 6, sig.integerCount ≤ i -> registers.int i = 0
  float : forall (i : Fin 8) kind arg, sig.IsArgument Slot.floatClass? args i kind arg ->
    registers.float i = arg
  float_rest : forall i : Fin 8, sig.floatCount ≤ i -> registers.float i = 0

variable {sig : Signature} {args : List Word}

theorem carry_registers (hlength : args.length = sig.params.length) :
    (sig.registers args).Carry sig args := by
  constructor
  case int =>
    rintro i kind arg ⟨n, slot, hslot, harg, hclass, hcount⟩
    apply Signature.int_registers
    rw [← hcount]
    exact getElem?_pairsOf hslot harg hclass
  case int_rest =>
    intro i hrest
    apply List.getD_eq_default
    rwa [Signature.length_integerArguments hlength]
  case float =>
    rintro i kind arg ⟨n, slot, hslot, harg, hclass, hcount⟩
    apply Signature.float_registers
    rw [← hcount]
    exact getElem?_pairsOf hslot harg hclass
  case float_rest =>
    intro i hrest
    apply List.getD_eq_default
    rwa [Signature.length_floatArguments hlength]

theorem Carry.eq {registers : Registers} (h : registers.Carry sig args)
    (hlength : args.length = sig.params.length) : registers = sig.registers args := by
  have hcarry := carry_registers hlength
  have hint : registers.int = (sig.registers args).int := by
    funext i
    rcases Nat.lt_or_ge i.val sig.integerCount with hused | hrest
    · rcases Signature.exists_isArgument hlength hused with ⟨kind, arg, harg⟩
      rw [h.int i kind arg harg, hcarry.int i kind arg harg]
    · rw [h.int_rest i hrest, hcarry.int_rest i hrest]
  have hfloat : registers.float = (sig.registers args).float := by
    funext i
    rcases Nat.lt_or_ge i.val sig.floatCount with hused | hrest
    · rcases Signature.exists_isArgument hlength hused with ⟨kind, arg, harg⟩
      rw [h.float i kind arg harg, hcarry.float i kind arg harg]
    · rw [h.float_rest i hrest, hcarry.float_rest i hrest]
  cases registers
  exact congrArg₂ Registers.mk hint hfloat

theorem carry_iff (hlength : args.length = sig.params.length) (registers : Registers) :
    registers.Carry sig args <-> registers = sig.registers args := by
  constructor
  · intro hcarry
    exact hcarry.eq hlength
  · rintro rfl
    exact carry_registers hlength

end Registers

/-!
# Calls that are made
-/

namespace NativeFunction

/-- Calls made one after the other: their results, and the error number that is left. -/
def replay (function : NativeFunction) : List Registers -> Int -> List Word × Int
  | [], code => ([], code)
  | registers :: rest, code =>
      let called := function registers code
      let others := replay function rest called.2
      (called.1 :: others.1, others.2)

theorem exists_encoding : exists encode : List Registers -> Int, Function.Injective encode := by
  let words : Registers -> (Fin 6 -> Fin (2 ^ 64)) × (Fin 8 -> Fin (2 ^ 64)) :=
    fun registers => (fun i => (registers.int i).toFin, fun i => (registers.float i).toFin)
  have hwords : Function.Injective words := by
    rintro ⟨int, float⟩ ⟨int', float'⟩ hsame
    have hint : int = int' := funext fun i =>
      BitVec.toFin_inj.mp (congrFun (congrArg Prod.fst hsame) i)
    have hfloat : float = float' := funext fun i =>
      BitVec.toFin_inj.mp (congrFun (congrArg Prod.snd hsame) i)
    rw [hint, hfloat]
  have hcountable : Countable Registers := hwords.countable
  rcases exists_injective_nat (List Registers) with ⟨number, hnumber⟩
  exact ⟨fun calls => number calls, Nat.cast_injective.comp hnumber⟩

/-- There is a function that keeps a log of its calls in the error number. -/
theorem exists_logging : exists (function : NativeFunction) (encode : List Registers -> Int),
    Function.Injective encode ∧
      forall registers log, (function registers (encode log)).2 = encode (registers :: log) := by
  rcases exists_encoding with ⟨encode, hinjective⟩
  let decode := Function.invFun encode
  have hdecode : forall log, decode (encode log) = log := Function.leftInverse_invFun hinjective
  refine ⟨fun registers code => (0, encode (registers :: decode code)), encode, hinjective, ?_⟩
  intro registers log
  exact congrArg (fun log => encode (registers :: log)) (hdecode log)

theorem replay_logging {function : NativeFunction} {encode : List Registers -> Int}
    (hlogs : forall registers log,
      (function registers (encode log)).2 = encode (registers :: log))
    (calls log : List Registers) :
    (function.replay calls (encode log)).2 = encode (calls.reverse ++ log) := by
  induction calls generalizing log with
  | nil => rfl
  | cons registers calls ih =>
      calc
        (function.replay (registers :: calls) (encode log)).2
            = (function.replay calls (function registers (encode log)).2).2 := rfl
        _ = (function.replay calls (encode (registers :: log))).2 := by rw [hlogs]
        _ = encode (calls.reverse ++ registers :: log) := ih (registers :: log)
        _ = encode ((registers :: calls).reverse ++ log) := by
              rw [List.reverse_cons, List.append_assoc, List.singleton_append]

end NativeFunction

namespace Invoker

variable {invoker : Invoker} {args : List Word}

/-- Whatever the function is, these calls of it are made and no others. -/
def Makes (invoker : Invoker) (args : List Word) (calls : List Registers) : Prop :=
  exists answer : List Word -> Except CallError Word,
    forall (function : NativeFunction) (state : ErrorState),
      (invoker.invoke function args state).1 = answer (function.replay calls state.system).1 ∧
      (invoker.invoke function args state).2.system = (function.replay calls state.system).2

/-- A function that logs its calls tells which ones are made. -/
theorem Makes.unique {calls other : List Registers} (h : invoker.Makes args calls)
    (hother : invoker.Makes args other) : calls = other := by
  rcases h with ⟨_, hcalls⟩
  rcases hother with ⟨_, hothers⟩
  rcases NativeFunction.exists_logging with ⟨function, encode, hinjective, hlogs⟩
  let state : ErrorState := { system := encode [], captured := 0 }
  have hsame : (function.replay calls (encode [])).2 = (function.replay other (encode [])).2 :=
    (hcalls function state).right.symm.trans (hothers function state).right
  rw [NativeFunction.replay_logging hlogs, NativeFunction.replay_logging hlogs,
    List.append_nil, List.append_nil] at hsame
  exact List.reverse_injective (hinjective hsame)

theorem Makes.iff_eq {calls : List Registers} (h : invoker.Makes args calls)
    (other : List Registers) : invoker.Makes args other <-> other = calls := by
  constructor
  · intro hother
    exact hother.unique h
  · rintro rfl
    exact h

theorem makes_nil {e : CallError}
    (h : forall function state, invoker.invoke function args state = (.error e, state)) :
    invoker.Makes args [] := by
  refine ⟨fun _ => .error e, ?_⟩
  intro function state
  rw [h]
  exact ⟨rfl, rfl⟩

theorem makes_registers (hlength : args.length = invoker.signature.params.length)
    (hints : invoker.signature.integerCount ≤ 6) (hfloats : invoker.signature.floatCount ≤ 8) :
    invoker.Makes args [invoker.signature.registers args] := by
  refine ⟨fun results => .ok (hostResult invoker.signature.result (results.headD 0)), ?_⟩
  intro function state
  rw [invoke_of_fits function state hlength hints hfloats]
  refine ⟨rfl, ?_⟩
  dsimp only
  split <;> rfl

end Invoker

/-!
# Invocations of primitive signatures
-/

/-- A host value that stands for the result register of a call. -/
inductive Slot.HasValue (result : Slot) (bits : Word) : Word -> Prop where
  | void (hvoid : result.isVoid = true) : HasValue result bits 0
  | integer {kind : ValueClass} (hclass : result.HasClass kind)
      (hinteger : kind.register = .integer) :
      HasValue result bits (HostValue.ofNative kind result.host bits)
  | float {kind : ValueClass} (hclass : result.HasClass kind)
      (hfloat : kind.register ≠ .integer) :
      HasValue result bits bits

theorem Slot.IsResult.hasValue {result : Slot} (h : result.IsResult) (bits : Word) :
    result.HasValue bits (Invoker.hostResult result bits) := by
  cases h with
  | nothing hkind _ hvoid =>
      rw [Invoker.hostResult, hkind]
      exact .void hvoid
  | value kind hclass _ =>
      rw [Invoker.hostResult, hclass.kind_eq]
      dsimp only
      split
      case isTrue hinteger => exact .integer hclass (kind.isInteger_iff.mp hinteger)
      case isFalse hfloat =>
        exact .float hclass fun hinteger => hfloat (kind.isInteger_iff.mpr hinteger)

namespace Invoker

def stateAfter (sig : Signature) (state : ErrorState) (code : Int) : ErrorState :=
  { system := code, captured := if sig.capturesError then code else state.captured }

/-- There is an argument for each parameter, and a register for each argument. -/
def Takes (invoker : Invoker) (args : List Word) : Prop :=
  args.length = invoker.signature.params.length ∧
    invoker.signature.integerCount ≤ 6 ∧ invoker.signature.floatCount ≤ 8

/-- The arguments alone decide whether a call is made, whatever the function is. -/
theorem refused_or_made (invoker : Invoker) (args : List Word) :
    (¬invoker.Takes args ∧
      exists e, forall function state, invoker.invoke function args state = (.error e, state)) ∨
    (invoker.Takes args ∧ exists registers, invoker.Makes args [registers] ∧
      forall function state, invoker.invoke function args state =
        (.ok (hostResult invoker.signature.result (function registers state.system).1),
          stateAfter invoker.signature state (function registers state.system).2)) := by
  by_cases htakes : invoker.Takes args
  case pos =>
    rcases htakes with ⟨hlength, hints, hfloats⟩
    refine Or.inr ⟨⟨hlength, hints, hfloats⟩, _, makes_registers hlength hints hfloats, ?_⟩
    intro function state
    rw [invoke_of_fits function state hlength hints hfloats, stateAfter]
    split <;> rfl
  case neg =>
    by_cases hlength : args.length = invoker.signature.params.length
    case neg =>
      exact Or.inl ⟨htakes, _, fun function state => invoke_of_length_ne function state hlength⟩
    case pos =>
      have hcrowded : 6 < invoker.signature.integerCount ∨ 8 < invoker.signature.floatCount := by
        by_contra hfits
        exact htakes ⟨hlength, by omega, by omega⟩
      exact Or.inl ⟨htakes, _, fun function state =>
        invoke_of_crowded function state hlength hcrowded⟩

theorem exists_ok_iff (invoker : Invoker) (function : NativeFunction) (args : List Word)
    (state : ErrorState) :
    (exists value, (invoker.invoke function args state).1 = .ok value) <->
      invoker.Takes args := by
  rcases invoker.refused_or_made args with ⟨hnot, e, hrefused⟩ | ⟨htakes, registers, _, hmade⟩
  · rw [hrefused]
    exact iff_of_false nofun hnot
  · rw [hmade]
    exact iff_of_true ⟨_, rfl⟩ htakes

/-- What comes of invoking with a list of arguments. -/
structure Invocation (invoker : Invoker) (args : List Word) : Prop where
  mismatch_iff : forall function state expected got,
    (invoker.invoke function args state).1 = .error (.argCountMismatch expected got) <->
      args.length ≠ invoker.signature.params.length ∧
        expected = invoker.signature.params.length ∧ got = args.length
  tooMany_iff : forall function state,
    (invoker.invoke function args state).1 = .error .tooManyArgs <->
      args.length = invoker.signature.params.length ∧
        (6 < invoker.signature.integerCount ∨ 8 < invoker.signature.floatCount)
  /-- Otherwise there is one call, with the one content of the registers that carries the
  arguments. -/
  made : args.length = invoker.signature.params.length ->
    invoker.signature.integerCount ≤ 6 -> invoker.signature.floatCount ≤ 8 ->
      exists registers : Registers,
        (forall other : Registers, other.Carry invoker.signature args <-> other = registers) ∧
        (forall calls, invoker.Makes args calls <-> calls = [registers]) ∧
        forall function state, exists value,
          invoker.invoke function args state =
            (.ok value, stateAfter invoker.signature state (function registers state.system).2) ∧
          invoker.signature.result.HasValue (function registers state.system).1 value
  /-- An error is all that there is of a call that is not made. -/
  failed : forall function state e, (invoker.invoke function args state).1 = .error e ->
    (forall calls, invoker.Makes args calls <-> calls = []) ∧
      (invoker.invoke function args state).2 = state

variable {invoker : Invoker} {args : List Word}

theorem failed_of_refused {e : CallError}
    (h : forall function state, invoker.invoke function args state = (.error e, state))
    (function : NativeFunction) (state : ErrorState) :
    (forall calls, invoker.Makes args calls <-> calls = []) ∧
      (invoker.invoke function args state).2 = state := by
  rw [h]
  exact ⟨(makes_nil h).iff_eq, rfl⟩

theorem invocation_of_length_ne (hlength : args.length ≠ invoker.signature.params.length) :
    Invocation invoker args := by
  have hrefused := fun function state => invoke_of_length_ne function state hlength
  constructor
  case mismatch_iff =>
    intro function state expected got
    rw [hrefused]
    simp only [Except.error.injEq, CallError.argCountMismatch.injEq, ne_eq, hlength,
      not_false_eq_true, true_and, eq_comm]
  case tooMany_iff =>
    intro function state
    rw [hrefused]
    exact iff_of_false nofun fun h => hlength h.left
  case made => exact fun h => absurd h hlength
  case failed => exact fun function state _ _ => failed_of_refused hrefused function state

theorem invocation_of_crowded (hlength : args.length = invoker.signature.params.length)
    (hcrowded : 6 < invoker.signature.integerCount ∨ 8 < invoker.signature.floatCount) :
    Invocation invoker args := by
  have hrefused := fun function state => invoke_of_crowded function state hlength hcrowded
  constructor
  case mismatch_iff =>
    intro function state expected got
    rw [hrefused]
    exact iff_of_false nofun fun h => h.left hlength
  case tooMany_iff =>
    intro function state
    rw [hrefused]
    exact iff_of_true rfl ⟨hlength, hcrowded⟩
  case made =>
    intro _ hints hfloats
    exact absurd hcrowded (by omega)
  case failed => exact fun function state _ _ => failed_of_refused hrefused function state

theorem invocation_of_fits (hresult : invoker.signature.result.IsResult)
    (hlength : args.length = invoker.signature.params.length)
    (hints : invoker.signature.integerCount ≤ 6) (hfloats : invoker.signature.floatCount ≤ 8) :
    Invocation invoker args := by
  have hcalled := fun function state => invoke_of_fits function state hlength hints hfloats
  constructor
  case mismatch_iff =>
    intro function state expected got
    rw [hcalled]
    exact iff_of_false nofun fun h => h.left hlength
  case tooMany_iff =>
    intro function state
    rw [hcalled]
    exact iff_of_false nofun fun h => absurd h.right (by omega)
  case made =>
    intro _ _ _
    refine ⟨_, Registers.carry_iff hlength,
      (makes_registers hlength hints hfloats).iff_eq, ?_⟩
    intro function state
    refine ⟨_, ?_, hresult.hasValue _⟩
    rw [hcalled, stateAfter]
    split <;> rfl
  case failed =>
    intro function state e herror
    rw [hcalled] at herror
    cases herror

/-- A primitive signature of this machine has an invoker for any target. It fails if the number
of arguments is wrong or a register file cannot hold its own, and then nothing is called.
Otherwise the arguments reach the target in their registers, in one call. -/
theorem create_routes_arguments {sig : Signature} (target : Address) (hbuilt : sig.Built)
    (harch : sig.arch = .amd64) (hprimitive : sig.isPrimitive = true) :
    exists invoker, create sig target = .ok invoker ∧ invoker.signature = sig ∧
      invoker.target = target ∧ forall args, Invocation invoker args := by
  refine ⟨_, create_eq target harch hprimitive, rfl, rfl, ?_⟩
  intro args
  by_cases hlength : args.length = sig.params.length
  case neg => exact invocation_of_length_ne hlength
  case pos =>
    by_cases hfits : sig.integerCount ≤ 6 ∧ sig.floatCount ≤ 8
    case pos => exact invocation_of_fits (hbuilt.isResult hprimitive) hlength hfits.left hfits.right
    case neg =>
      apply invocation_of_crowded hlength
      show 6 < sig.integerCount ∨ 8 < sig.floatCount
      omega

def interleaved : Signature :=
  .ofTypes .amd64 [(.schar, .int), (.double, .double), (.uchar, .int)] (.void, .void) true

/-- The second byte is in the second integer register. -/
theorem create_routes_arguments_interleaved :
    exists invoker registers,
      create interleaved 0x1000 = .ok invoker ∧
      invoker.Makes [0x80, 0x4000000000000000, 0x180] [registers] ∧
      registers.int 0 = -128 ∧ registers.int 1 = 0x80 ∧ registers.int 2 = 0 ∧
      registers.float 0 = 0x4000000000000000 := by
  have hbuilt : interleaved.Built :=
    .ofTypes .amd64 [(.schar, .int), (.double, .double), (.uchar, .int)] (.void, .void) true
  rcases create_routes_arguments 0x1000 hbuilt rfl (by decide) with
    ⟨invoker, hcreate, hsig, -, hinvocation⟩
  have hmade := (hinvocation [0x80, 0x4000000000000000, 0x180]).made
  rw [hsig] at hmade
  rcases hmade rfl (by decide) (by decide) with ⟨registers, hcarries, hmakes, -⟩
  have hcarry := (hcarries registers).mpr rfl
  have hfirst := hcarry.int 0 _ _ ⟨0, _, rfl, rfl, rfl, rfl⟩
  have hsecond := hcarry.int 1 _ _ ⟨2, _, rfl, rfl, rfl, rfl⟩
  have hdouble := hcarry.float 0 _ _ ⟨1, _, rfl, rfl, rfl, rfl⟩
  exact ⟨invoker, registers, hcreate, (hmakes _).mpr rfl, hfirst, hsecond,
    hcarry.int_rest 2 (by decide), hdouble⟩

end Invoker
end NativeCall
