import NativeCall.Proofs.Execution

/-!
# Traces of machine code

What code does besides its work in registers: which places it reads and writes, and to whom
it hands control. A run of code goes on after each call wherever the called function comes
back, and it ends with a jump or a return.
-/

namespace NativeCall

/-- What an instruction does, as it is seen from outside of the registers. -/
inductive Action (w : Nat) where
  | compute
  /-- A constant is loaded, or a piece of one is put in its place. -/
  | constant (bits : BitVec w)
  | load (place : BitVec w) (count : Nat)
  | store (place : BitVec w) (count : Nat) (value : BitVec (8 * count))
  | call (target : BitVec w)
  | jump (target : BitVec w)
  | ret (target : BitVec w)
  | resume

namespace Action

variable {w : Nat}

def transfer? : Action w -> Option (BitVec w)
  | .call target | .jump target => some target
  | _ => none

def isStraight : Action w -> Bool
  | .compute | .constant _ | .load .. | .store .. => true
  | _ => false

def isStore : Action w -> Bool
  | .store .. => true
  | _ => false

def isLast : Action w -> Bool
  | .jump _ | .ret _ => true
  | _ => false

def constant? : Action w -> Option (BitVec w)
  | .constant bits => some bits
  | _ => none

/-- The memory after an action that is no call. -/
def apply (a : Action w) (m : Memory w) : Memory w :=
  match a with
  | .store place count value => m.write count place value
  | _ => m

theorem transfer?_of_isStraight {a : Action w} (h : a.isStraight = true) : a.transfer? = none := by
  cases a <;> first | rfl | cases h

theorem not_isLast_of_isStraight {a : Action w} (h : a.isStraight = true) : ¬a.isLast = true := by
  cases a <;> first | exact Bool.false_ne_true | cases h

theorem apply_of_not_isStore {a : Action w} (h : a.isStore = false) (m : Memory w) :
    a.apply m = m := by
  cases a <;> first | rfl | cases h

end Action

/-- An action with the machine before and after it. -/
structure Transition (core : Type) (w : Nat) where
  before : core
  action : Action w
  after : core

/-- A machine whose code is watched: its steps, the action of each, and the registers and the
memory that frames are made of. -/
structure Machine where
  width : Nat
  /-- The state but for the program counter. -/
  core : Type
  state : Type
  toCore : state -> core
  pc : state -> BitVec width
  step : Image width -> state -> Option state
  action? : Image width -> state -> Option (Action width)
  sp : core -> BitVec width
  memory : core -> Memory width
  /-- Bytes that a call puts on the stack and a return takes from it. -/
  pushed : Nat
  /-- Where a function returns to that has just been entered. -/
  returnAddress : core -> BitVec width
  /-- The registers that link a frame to the one of the caller. -/
  linkage : core -> List (BitVec width)

namespace Machine

abbrev Trace (m : Machine) :=
  List (Transition m.core m.width)

/-- However the functions come back that it calls, the code runs on to its end, and what it has
done until then and the state that it leaves have a property. -/
inductive Runs (m : Machine) (image : Image m.width) (returns : m.state -> m.state -> Prop) :
    (m.Trace -> m.state -> Prop) -> m.state -> Prop where
  | last {goal : m.Trace -> m.state -> Prop} {s t : m.state} {a : Action m.width} :
      m.step image s = some t -> m.action? image s = some a -> a.isLast = true ->
        goal [⟨m.toCore s, a, m.toCore t⟩] t -> Runs m image returns goal s
  | next {goal : m.Trace -> m.state -> Prop} {s t : m.state} {a : Action m.width} :
      m.step image s = some t -> m.action? image s = some a -> a.isStraight = true ->
        Runs m image returns (fun trace => goal (⟨m.toCore s, a, m.toCore t⟩ :: trace)) t ->
          Runs m image returns goal s
  | call {goal : m.Trace -> m.state -> Prop} {s called : m.state} {target : BitVec m.width} :
      m.step image s = some called -> m.action? image s = some (.call target) ->
        (forall back, returns called back ->
          Runs m image returns (fun trace => goal
            (⟨m.toCore s, .call target, m.toCore called⟩ ::
              ⟨m.toCore called, .resume, m.toCore back⟩ :: trace)) back) ->
          Runs m image returns goal s

/-- One run of the code, with what it does and the state that it leaves. -/
inductive Run (m : Machine) (image : Image m.width) (returns : m.state -> m.state -> Prop) :
    m.state -> m.Trace -> m.state -> Prop where
  | last {s t : m.state} {a : Action m.width} :
      m.step image s = some t -> m.action? image s = some a -> a.isLast = true ->
        Run m image returns s [⟨m.toCore s, a, m.toCore t⟩] t
  | next {s t back : m.state} {a : Action m.width} {trace : m.Trace} :
      m.step image s = some t -> m.action? image s = some a -> a.isStraight = true ->
        Run m image returns t trace back ->
          Run m image returns s (⟨m.toCore s, a, m.toCore t⟩ :: trace) back
  | call {s called resumed back : m.state} {target : BitVec m.width} {trace : m.Trace} :
      m.step image s = some called -> m.action? image s = some (.call target) ->
        returns called resumed -> Run m image returns resumed trace back ->
          Run m image returns s
            (⟨m.toCore s, .call target, m.toCore called⟩ ::
              ⟨m.toCore called, .resume, m.toCore resumed⟩ :: trace) back

namespace Runs

variable {m : Machine} {image : Image m.width} {returns : m.state -> m.state -> Prop}
  {goal goal' : m.Trace -> m.state -> Prop} {s : m.state}

theorem mono (h : Runs m image returns goal s)
    (hgoal : forall trace back, goal trace back -> goal' trace back) :
    Runs m image returns goal' s := by
  induction h generalizing goal' with
  | last hstep haction hlast hdone => exact last hstep haction hlast (hgoal _ _ hdone)
  | next hstep haction hstraight _ ih =>
      exact next hstep haction hstraight (ih fun trace back => hgoal _ back)
  | call hstep haction _ ih =>
      exact call hstep haction fun back hback => ih back hback fun trace last => hgoal _ last

/-! A state has one step and one action, which tell how the code runs on from it. -/

theorem of_last {t : m.state} {a : Action m.width} (h : Runs m image returns goal s)
    (hstep : m.step image s = some t) (haction : m.action? image s = some a)
    (hlast : a.isLast = true) : goal [⟨m.toCore s, a, m.toCore t⟩] t := by
  cases h with
  | last hstep' haction' _ hgoal =>
      cases hstep.symm.trans hstep'
      cases haction.symm.trans haction'
      exact hgoal
  | next _ haction' hstraight _ =>
      cases haction.symm.trans haction'
      exact absurd hlast (Action.not_isLast_of_isStraight hstraight)
  | call _ haction' _ =>
      cases haction.symm.trans haction'
      cases hlast

theorem of_straight {t : m.state} {a : Action m.width} (h : Runs m image returns goal s)
    (hstep : m.step image s = some t) (haction : m.action? image s = some a)
    (hstraight : a.isStraight = true) :
    Runs m image returns (fun trace => goal (⟨m.toCore s, a, m.toCore t⟩ :: trace)) t := by
  cases h with
  | last _ haction' hlast _ =>
      cases haction.symm.trans haction'
      exact absurd hlast (Action.not_isLast_of_isStraight hstraight)
  | next hstep' haction' _ hruns =>
      cases hstep.symm.trans hstep'
      cases haction.symm.trans haction'
      exact hruns
  | call _ haction' _ =>
      cases haction.symm.trans haction'
      cases hstraight

theorem of_call {called back : m.state} {target : BitVec m.width} (h : Runs m image returns goal s)
    (hstep : m.step image s = some called) (haction : m.action? image s = some (.call target))
    (hback : returns called back) :
    Runs m image returns (fun trace => goal (⟨m.toCore s, .call target, m.toCore called⟩ ::
      ⟨m.toCore called, .resume, m.toCore back⟩ :: trace)) back := by
  cases h with
  | last _ haction' hlast _ =>
      cases haction.symm.trans haction'
      cases hlast
  | next _ haction' hstraight _ =>
      cases haction.symm.trans haction'
      cases hstraight
  | call hstep' haction' hruns =>
      cases hstep.symm.trans hstep'
      cases haction.symm.trans haction'
      exact hruns back hback

/-- A property of all runs is one of each run. -/
theorem of_run {trace : m.Trace} {back : m.state} (h : Runs m image returns goal s)
    (hrun : Run m image returns s trace back) : goal trace back := by
  induction hrun generalizing goal with
  | last hstep haction hlast => exact h.of_last hstep haction hlast
  | next hstep haction hstraight _ ih => exact ih (h.of_straight hstep haction hstraight)
  | call hstep haction hback _ ih => exact ih (h.of_call hstep haction hback)

/-- Where functions can come back, the code has a run. -/
theorem exists_run (h : Runs m image returns goal s)
    (hreturns : forall called, exists back, returns called back) :
    exists trace back, Run m image returns s trace back ∧ goal trace back := by
  induction h with
  | last hstep haction hlast hgoal => exact ⟨_, _, .last hstep haction hlast, hgoal⟩
  | next hstep haction hstraight _ ih =>
      rcases ih with ⟨trace, back, hrun, hgoal⟩
      exact ⟨_, back, .next hstep haction hstraight hrun, hgoal⟩
  | call hstep haction _ ih =>
      rcases hreturns _ with ⟨resumed, hresumed⟩
      rcases ih resumed hresumed with ⟨trace, back, hrun, hgoal⟩
      exact ⟨_, back, .call hstep haction hresumed hrun, hgoal⟩

end Runs
end Machine
end NativeCall
