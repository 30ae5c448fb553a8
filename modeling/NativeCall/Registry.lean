import NativeCall.Arena

/-!
# Classes and their arenas

A class is alive as long as a handle to it is held. The registry keeps the arenas of each
class without holding the class: an entry whose class is gone goes with the next sweep,
and every question to the registry begins with one.
-/

namespace NativeCall

structure ClassId where
  index : Nat
  deriving DecidableEq, Repr

/-- How many handles of each class are held, by class index. -/
structure Classes where
  handles : List Nat
  deriving DecidableEq, Repr

namespace Classes

def empty : Classes :=
  { handles := [] }

def create (classes : Classes) : ClassId × Classes :=
  (⟨classes.handles.length⟩, { handles := classes.handles ++ [1] })

def count (classes : Classes) (id : ClassId) : Nat :=
  classes.handles.getD id.index 0

def isLive (classes : Classes) (id : ClassId) : Bool :=
  0 < classes.count id

def retain (classes : Classes) (id : ClassId) : Classes :=
  { handles := classes.handles.modify id.index (· + 1) }

def drop (classes : Classes) (id : ClassId) : Classes :=
  { handles := classes.handles.modify id.index (· - 1) }

end Classes

/-- The arenas of a class, in the order of their registration. -/
structure Holding where
  owner : ClassId
  arenas : List Arena

structure Registry where
  holdings : List Holding

namespace Registry

def empty : Registry :=
  { holdings := [] }

def size (registry : Registry) : Nat :=
  registry.holdings.length

def holding? (registry : Registry) (owner : ClassId) : Option Holding :=
  registry.holdings.find? fun holding => holding.owner = owner

def arenas (registry : Registry) : List Arena :=
  registry.holdings.flatMap (·.arenas)

/-- The registry without the entries of dead classes. -/
def live (registry : Registry) (classes : Classes) : Registry :=
  { holdings := registry.holdings.filter fun holding => classes.isLive holding.owner }

def stale (registry : Registry) (classes : Classes) : List Arena :=
  (registry.holdings.filter fun holding => !classes.isLive holding.owner).flatMap (·.arenas)

def addTo (owner : ClassId) (arena : Arena) : List Holding -> List Holding
  | [] => [{ owner, arenas := [arena] }]
  | holding :: rest =>
      if holding.owner = owner then
        { holding with arenas := holding.arenas ++ [arena] } :: rest
      else
        holding :: addTo owner arena rest

def add (registry : Registry) (owner : ClassId) (arena : Arena) : Registry :=
  { holdings := addTo owner arena registry.holdings }

end Registry
end NativeCall
