import NativeCall.Frame
import NativeCall.Proofs.Trace

/-!
# Courses of trampolines

What a trampoline does from its entry to its end, told in terms of its frame. A direct one
jumps to its target. A wrapped one calls the target, and the helper if there is one, from the
bottom of a frame that it leaves in the end. The control transfers of a course and the writes
of its own instructions follow from that.
-/

namespace NativeCall

/-- The frame below the stack pointer that a trampoline is entered with. At its bottom lies a
block that is filled before the target is called, and somewhere in it the spill slot. -/
structure Layout where
  size : Nat
  block : Nat
  slot : Nat
  slotSize : Nat

/-- The block and the spill slot have room in the frame, and the frame with what a call puts
below it has room in memory. -/
structure Layout.Fits (layout : Layout) (m : Machine) : Prop where
  block : layout.block ≤ layout.size
  slot : layout.slot + layout.slotSize ≤ layout.size
  memory : layout.size + m.pushed < 2 ^ m.width

namespace Action

variable {w : Nat}

/-- Whatever is stored lies between two offsets from a base. -/
def StoresIn (base : BitVec w) (low high : Nat) : Action w -> Prop
  | .store place count _ =>
      exists n, place = base + BitVec.ofNat w n ∧ low ≤ n ∧ n + count ≤ high
  | _ => True

/-- A part of a value is stored in its place in a slot that has room for so many bytes. -/
def Spills (slot : BitVec w) (room : Nat) (value : Word) : Action w -> Prop
  | .store place count part =>
      exists n, place = slot + BitVec.ofNat w n ∧ n + count ≤ room ∧
        part = value.extractLsb' (8 * n) (8 * count)
  | _ => False

/-- Nothing is stored. -/
def IsQuiet (a : Action w) : Prop :=
  a.isStore = false

def IsConstant (a : Action w) : Prop :=
  a.constant?.isSome = true

theorem IsQuiet.storesIn {a : Action w} (h : a.IsQuiet) (base : BitVec w) (low high : Nat) :
    a.StoresIn base low high := by
  cases a with
  | store place count value => cases h
  | _ => trivial

theorem IsConstant.isQuiet {a : Action w} (h : a.IsConstant) : a.IsQuiet := by
  cases a with
  | store place count value => cases h
  | _ => rfl

theorem Spills.storesIn {a : Action w} {base : BitVec w} {slot room : Nat} {value : Word}
    (h : a.Spills (base + BitVec.ofNat w slot) room value) :
    a.StoresIn base slot (slot + room) := by
  cases a with
  | store place count part =>
      rcases h with ⟨n, hplace, hroom, _⟩
      rw [Memory.offset_add] at hplace
      exact ⟨slot + n, hplace, by omega, by omega⟩
  | _ => trivial

theorem StoresIn.mono {a : Action w} {base : BitVec w} {low high low' high' : Nat}
    (h : a.StoresIn base low high) (hlow : low' ≤ low) (hhigh : high ≤ high') :
    a.StoresIn base low' high' := by
  cases a with
  | store place count value =>
      rcases h with ⟨n, hplace, hlown, hhighn⟩
      exact ⟨n, hplace, by omega, by omega⟩
  | _ => trivial

end Action

namespace Machine

section Events

variable (m : Machine)

/-- An instruction that goes on to the next one, with an action that is allowed. -/
structure Does (allowed : Action m.width -> Prop) (e : Transition m.core m.width) : Prop where
  straight : e.action.isStraight = true
  allowed : allowed e.action
  memory : m.memory e.after = e.action.apply (m.memory e.before)

theorem Does.mono {m : Machine} {allowed allowed' : Action m.width -> Prop}
    {e : Transition m.core m.width} (h : m.Does allowed e)
    (hallowed : forall a, allowed a -> allowed' a) : m.Does allowed' e :=
  ⟨h.straight, hallowed _ h.allowed, h.memory⟩

def transfers (trace : m.Trace) : List (BitVec m.width) :=
  trace.filterMap (·.action.transfer?)

theorem transfers_append (first rest : m.Trace) :
    m.transfers (first ++ rest) = m.transfers first ++ m.transfers rest := by
  exact List.filterMap_append

theorem transfers_of_does {m : Machine} {allowed : Action m.width -> Prop} {trace : m.Trace}
    (h : forall e, e ∈ trace -> m.Does allowed e) : m.transfers trace = [] := by
  refine List.filterMap_eq_nil_iff.mpr ?_
  intro e hmem
  exact Action.transfer?_of_isStraight (h e hmem).straight

/-- The constants that are loaded, put together. -/
def constants (trace : m.Trace) : BitVec m.width :=
  (trace.filterMap (·.action.constant?)).foldr (· ||| ·) 0

end Events

/-!
# Courses
-/

section Courses

variable (m : Machine) (entry : m.core) (layout : Layout)

def base : BitVec m.width :=
  m.sp entry - BitVec.ofNat m.width layout.size

/-- A call from the bottom of the frame, which writes below it at most, and the return to
it. -/
inductive Calls (target : BitVec m.width) (native : m.core) : m.Trace -> Prop where
  | intro (s called : m.core) (hsp : m.sp s = m.base entry layout)
      (hmemory : forall n, n + m.pushed < 2 ^ m.width ->
        m.memory called (m.base entry layout + BitVec.ofNat m.width n) =
          m.memory s (m.base entry layout + BitVec.ofNat m.width n)) :
      Calls target native [⟨s, .call target, called⟩, ⟨called, .resume, native⟩]

/-- The frame is left for the trampoline's caller, and nothing is stored any more. -/
inductive Leaves (back : m.state) : m.Trace -> Prop where
  | intro (body : m.Trace) (s : m.core) (hbody : forall e, e ∈ body -> m.Does Action.IsQuiet e)
      (hsp : m.sp s = m.sp entry) (hlinkage : m.linkage s = m.linkage entry)
      (hmemory : m.memory (m.toCore back) = m.memory s)
      (hpc : m.pc back = m.returnAddress entry)
      (hpopped : m.sp (m.toCore back) = m.sp entry + BitVec.ofNat m.width m.pushed) :
      Leaves back (body ++ [⟨s, .ret (m.returnAddress entry), m.toCore back⟩])

def spillSlot : BitVec m.width :=
  m.base entry layout + BitVec.ofNat m.width layout.slot

/-- What a trampoline does on one run. The result of the target is `result` of the state in
which the target comes back. -/
inductive Course (result : m.core -> Word) (target : BitVec m.width) :
    Frame -> Option (BitVec m.width) -> m.Trace -> m.state -> Prop where
  | jump {opening : m.Trace} {called : m.state}
      (hopening : forall e, e ∈ opening -> m.Does Action.IsQuiet e)
      (hsp : m.sp (m.toCore called) = m.sp entry)
      (hreturn : m.returnAddress (m.toCore called) = m.returnAddress entry)
      (hlinkage : m.linkage (m.toCore called) = m.linkage entry)
      (hpc : m.pc called = target) :
      Course result target .direct none
        (opening ++ [⟨m.toCore called, .jump target, m.toCore called⟩]) called
  | call {opening call closing : m.Trace} {native : m.core} {back : m.state}
      (hopening : forall e, e ∈ opening ->
        m.Does (Action.StoresIn (m.base entry layout) 0 layout.block) e)
      (hcall : m.Calls entry layout target native call)
      (hclosing : m.Leaves entry back closing) :
      Course result target .wrapped none (opening ++ (call ++ closing)) back
  | capture {opening call spills load helperCall closing : m.Trace} {native kept : m.core}
      {back : m.state} {helper : BitVec m.width}
      (hopening : forall e, e ∈ opening ->
        m.Does (Action.StoresIn (m.base entry layout) 0 layout.block) e)
      (hcall : m.Calls entry layout target native call)
      (hspills : forall e, e ∈ spills ->
        m.Does (Action.Spills (m.spillSlot entry layout) layout.slotSize (result native)) e)
      (hload : forall e, e ∈ load -> m.Does Action.IsConstant e)
      (hconstants : m.constants load = helper)
      (hhelper : m.Calls entry layout helper kept helperCall)
      (hclosing : m.Leaves entry back closing) :
      Course result target .wrapped (some helper)
        (opening ++ (call ++ (spills ++ (load ++ (helperCall ++ closing))))) back

end Courses

/-!
# Control transfers
-/

section Transfers

variable {m : Machine} {entry : m.core} {layout : Layout}

theorem Calls.transfers_eq {target : BitVec m.width} {native : m.core} {trace : m.Trace}
    (h : m.Calls entry layout target native trace) : m.transfers trace = [target] := by
  cases h
  rfl

theorem Leaves.transfers_eq {back : m.state} {trace : m.Trace} (h : m.Leaves entry back trace) :
    m.transfers trace = [] := by
  cases h with
  | intro body s hbody _ _ _ _ _ =>
      rw [transfers_append, transfers_of_does hbody]
      rfl

theorem Course.transfers_eq {result : m.core -> Word} {target : BitVec m.width} {frame : Frame}
    {helper : Option (BitVec m.width)} {trace : m.Trace} {back : m.state}
    (h : m.Course entry layout result target frame helper trace back) :
    m.transfers trace = target :: helper.toList := by
  cases h with
  | jump hopening _ _ _ _ =>
      rw [transfers_append, transfers_of_does hopening]
      rfl
  | call hopening hcall hclosing =>
      rw [transfers_append, transfers_append, transfers_of_does hopening, hcall.transfers_eq,
        hclosing.transfers_eq]
      rfl
  | capture hopening hcall hspills hload _ hhelper hclosing =>
      rw [transfers_append, transfers_append, transfers_append, transfers_append, transfers_append,
        transfers_of_does hopening, hcall.transfers_eq, transfers_of_does hspills,
        transfers_of_does hload, hhelper.transfers_eq, hclosing.transfers_eq]
      rfl

end Transfers
end Machine
end NativeCall
