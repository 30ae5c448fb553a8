import NativeCall.Proofs.Trace

/-!
# Code at two places

The same code lies at two places of the memory and is entered in the same state. Its runs keep in
step if they do the same at each offset of the code. Only a call tells the places apart, as it
leaves the address that it returns to. States that differ in what is left of such an address
are alike, and functions that return alike do not look at it.
-/

namespace NativeCall
namespace Machine

/-- Two runs of code at two places do the same, offset by offset, to the end that they have in
common. After a call they go on, as long as the functions come back alike. -/
inductive InStep (m : Machine) (image moved : Image m.width)
    (returns : m.state -> m.state -> Prop) (alike : m.core -> m.core -> Prop) :
    m.state -> m.state -> Prop where
  | last {s other t later : m.state} {a : Action m.width}
      (hplace : m.pc other - moved.base = m.pc s - image.base)
      (hstep : m.step image s = some t) (hother : m.step moved other = some later)
      (haction : m.action? image s = some a) (hsame : m.action? moved other = some a)
      (hlast : a.isLast = true) (hpc : m.pc later = m.pc t)
      (halike : alike (m.toCore t) (m.toCore later)) : InStep m image moved returns alike s other
  | next {s other t later : m.state} {a : Action m.width}
      (hplace : m.pc other - moved.base = m.pc s - image.base)
      (hstep : m.step image s = some t) (hother : m.step moved other = some later)
      (haction : m.action? image s = some a) (hsame : m.action? moved other = some a)
      (hstraight : a.isStraight = true) (halike : alike (m.toCore t) (m.toCore later))
      (hrest : InStep m image moved returns alike t later) :
      InStep m image moved returns alike s other
  | call {s other called reached : m.state} {target : BitVec m.width}
      (hplace : m.pc other - moved.base = m.pc s - image.base)
      (hstep : m.step image s = some called) (hother : m.step moved other = some reached)
      (haction : m.action? image s = some (.call target))
      (hsame : m.action? moved other = some (.call target)) (hpc : m.pc reached = m.pc called)
      (halike : alike (m.toCore called) (m.toCore reached))
      (hrest : forall back resumed, returns called back -> returns reached resumed ->
        alike (m.toCore back) (m.toCore resumed) ->
          InStep m image moved returns alike back resumed) :
      InStep m image moved returns alike s other

namespace InStep

variable {m : Machine} {image moved : Image m.width} {returns : m.state -> m.state -> Prop}
  {alike : m.core -> m.core -> Prop} {s other : m.state}

/-- Functions come back alike from wherever they are called. -/
def Indifferent (m : Machine) (alike : m.core -> m.core -> Prop)
    (functions : m.state -> m.state -> Prop) : Prop :=
  forall called reached back, m.pc reached = m.pc called ->
    alike (m.toCore called) (m.toCore reached) -> functions called back ->
      exists resumed, functions reached resumed ∧ alike (m.toCore back) (m.toCore resumed)

/-! What the first run does at a state tells what the second one does there. -/

theorem of_last {t : m.state} {a : Action m.width} (h : InStep m image moved returns alike s other)
    (hstep : m.step image s = some t) (haction : m.action? image s = some a)
    (hlast : a.isLast = true) : exists later, m.step moved other = some later ∧
      m.action? moved other = some a ∧ m.pc later = m.pc t ∧
        alike (m.toCore t) (m.toCore later) := by
  cases h with
  | last _ hstep' hother haction' hsame _ hpc halike =>
      cases hstep.symm.trans hstep'
      cases haction.symm.trans haction'
      exact ⟨_, hother, hsame, hpc, halike⟩
  | next _ _ _ haction' _ hstraight _ _ =>
      cases haction.symm.trans haction'
      exact absurd hlast (Action.not_isLast_of_isStraight hstraight)
  | call _ _ _ haction' _ _ _ _ =>
      cases haction.symm.trans haction'
      cases hlast

theorem of_straight {t : m.state} {a : Action m.width}
    (h : InStep m image moved returns alike s other) (hstep : m.step image s = some t)
    (haction : m.action? image s = some a) (hstraight : a.isStraight = true) :
    exists later, m.step moved other = some later ∧ m.action? moved other = some a ∧
      InStep m image moved returns alike t later := by
  cases h with
  | last _ _ _ haction' _ hlast _ _ =>
      cases haction.symm.trans haction'
      exact absurd hlast (Action.not_isLast_of_isStraight hstraight)
  | next _ hstep' hother haction' hsame _ _ hrest =>
      cases hstep.symm.trans hstep'
      cases haction.symm.trans haction'
      exact ⟨_, hother, hsame, hrest⟩
  | call _ _ _ haction' _ _ _ _ =>
      cases haction.symm.trans haction'
      cases hstraight

theorem of_call {called : m.state} {target : BitVec m.width}
    (h : InStep m image moved returns alike s other) (hstep : m.step image s = some called)
    (haction : m.action? image s = some (.call target)) :
    exists reached, m.step moved other = some reached ∧
      m.action? moved other = some (.call target) ∧ m.pc reached = m.pc called ∧
        alike (m.toCore called) (m.toCore reached) ∧
          forall back resumed, returns called back -> returns reached resumed ->
            alike (m.toCore back) (m.toCore resumed) ->
              InStep m image moved returns alike back resumed := by
  cases h with
  | last _ _ _ haction' _ hlast _ _ =>
      cases haction.symm.trans haction'
      cases hlast
  | next _ _ _ haction' _ hstraight _ _ =>
      cases haction.symm.trans haction'
      cases hstraight
  | call _ hstep' hother haction' hsame hpc halike hrest =>
      cases hstep.symm.trans hstep'
      cases haction.symm.trans haction'
      exact ⟨_, hother, hsame, hpc, halike, hrest⟩

/-- What the code does with indifferent functions at one place, it does at the other. -/
theorem exists_run (h : InStep m image moved returns alike s other)
    {functions : m.state -> m.state -> Prop}
    (hreturns : forall called back, functions called back -> returns called back)
    (hfunctions : Indifferent m alike functions) {trace : m.Trace} {back : m.state}
    (hrun : Run m image functions s trace back) :
    exists course end', Run m moved functions other course end' ∧
      course.map (·.action) = trace.map (·.action) ∧ m.pc end' = m.pc back ∧
        alike (m.toCore back) (m.toCore end') := by
  induction hrun generalizing other with
  | last hstep haction hlast =>
      rcases h.of_last hstep haction hlast with ⟨_, hother, hsame, hpc, halike⟩
      exact ⟨_, _, .last hother hsame hlast, rfl, hpc, halike⟩
  | next hstep haction hstraight _ ih =>
      rcases h.of_straight hstep haction hstraight with ⟨_, hother, hsame, hrest⟩
      rcases ih hrest with ⟨course, end', hcourse, hactions, hpc, halike⟩
      exact ⟨_, end', .next hother hsame hstraight hcourse, congrArg (_ :: ·) hactions, hpc, halike⟩
  | call hstep haction hback _ ih =>
      rcases h.of_call hstep haction with ⟨_, hother, hsame, hpc, halike, hrest⟩
      -- The functions come back alike, and the code goes on from there.
      rcases hfunctions _ _ _ hpc halike hback with ⟨resumed, hresumed, hbacks⟩
      rcases ih (hrest _ _ (hreturns _ _ hback) (hreturns _ _ hresumed) hbacks) with
        ⟨course, end', hcourse, hactions, hends, hlast⟩
      exact ⟨_, end', .call hother hsame hresumed hcourse, congrArg (_ :: _ :: ·) hactions, hends,
        hlast⟩

end InStep
end Machine

namespace InstructionSet

variable {instr operation : Type} {isa : InstructionSet instr operation} {w : Nat}

theorem Ahead.offset_eq {image moved : Image w} {code : List instr} {pc place : BitVec w}
    (hcode : moved.code = image.code) (h : Ahead isa image code pc)
    (hmoved : Ahead isa moved code place) : place - moved.base = pc - image.base := by
  rcases h.found with ⟨_, bytes, _, hbytes, rfl⟩
  rcases hmoved.found with ⟨_, others, _, hothers, rfl⟩
  cases hbytes.symm.trans hothers
  unfold Image.addressOfRest Image.address
  rw [hcode, add_sub_cancel_left, add_sub_cancel_left]

end InstructionSet

/-!
# Instructions in step
-/

namespace Machine

/-- How a machine performs the instructions of a set, as it is told from their effects and
actions, if they go on to the next one. -/
structure Performs {instr operation : Type} (m : Machine) (isa : InstructionSet instr operation)
    (isStraight : instr -> Bool) (effect : m.core -> instr -> m.core)
    (action : m.core -> instr -> Action m.width) : Prop where
  action_eq : forall {image : Image m.width} {s : m.state} {first : instr} {rest : List instr},
    InstructionSet.Ahead isa image (first :: rest) (m.pc s) ->
      m.action? image s = some (action (m.toCore s) first)
  step : forall {image : Image m.width} {s : m.state} {first : instr} {rest : List instr},
    InstructionSet.Ahead isa image (first :: rest) (m.pc s) -> isStraight first = true ->
      exists t, m.step image s = some t ∧ m.toCore t = effect (m.toCore s) first ∧
        InstructionSet.Ahead isa image rest (m.pc t)
  straight : forall (c : m.core) (first : instr), isStraight first = true ->
    (action c first).isStraight = true

variable {instr operation : Type} {m : Machine} {isa : InstructionSet instr operation}
  {isStraight : instr -> Bool} {effect : m.core -> instr -> m.core}
  {action : m.core -> instr -> Action m.width} {image moved : Image m.width}
  {returns : m.state -> m.state -> Prop} {alike : m.core -> m.core -> Prop}

/-- Instructions that do the same in cores that are kin, and keep them kin, keep runs in step. -/
theorem Performs.inStep (hm : m.Performs isa isStraight effect action)
    (hcode : moved.code = image.code) (kin : m.core -> m.core -> Prop)
    (hkin : forall c other, kin c other -> alike c other) {body rest : List instr}
    (hstraight : forall i, i ∈ body -> isStraight i = true)
    (hbody : forall i, i ∈ body -> forall c other, kin c other ->
      kin (effect c i) (effect other i) ∧ action other i = action c i)
    {s other : m.state} (hahead : InstructionSet.Ahead isa image (body ++ rest) (m.pc s))
    (hmoved : InstructionSet.Ahead isa moved (body ++ rest) (m.pc other))
    (hstart : kin (m.toCore s) (m.toCore other))
    (hgoal : forall t later, m.toCore t = body.foldl effect (m.toCore s) ->
      m.toCore later = body.foldl effect (m.toCore other) -> kin (m.toCore t) (m.toCore later) ->
        InstructionSet.Ahead isa image rest (m.pc t) ->
          InstructionSet.Ahead isa moved rest (m.pc later) ->
            InStep m image moved returns alike t later) :
    InStep m image moved returns alike s other := by
  induction body generalizing s other with
  | nil => exact hgoal s other rfl rfl hstart hahead hmoved
  | cons first body ih =>
      have hfirst := hstraight first List.mem_cons_self
      rcases hbody first List.mem_cons_self _ _ hstart with ⟨hkept, hsame⟩
      rcases hm.step hahead hfirst with ⟨t, hstep, hcore, hnext⟩
      rcases hm.step hmoved hfirst with ⟨later, hother, hlater, hmovedNext⟩
      have haction := hm.action_eq hmoved
      rw [hsame] at haction
      rw [← hcore, ← hlater] at hkept
      refine .next (hahead.offset_eq hcode hmoved) hstep hother (hm.action_eq hahead) haction
        (hm.straight _ first hfirst) (hkin _ _ hkept) ?_
      refine ih (fun i hmem => hstraight i (List.mem_cons_of_mem first hmem))
        (fun i hmem => hbody i (List.mem_cons_of_mem first hmem)) hnext hmovedNext hkept ?_
      intro last end' hlast hend
      rw [hcore] at hlast
      rw [hlater] at hend
      exact hgoal last end' hlast hend

end Machine
end NativeCall
