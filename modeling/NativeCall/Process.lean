import NativeCall.Registry

/-!
# Processes

The state that classes, arenas and the registry share, and the questions to the registry.
-/

namespace NativeCall

structure Process where
  classes : Classes
  registry : Registry
  pages : Pages

namespace Process

def initial : Process :=
  { classes := .empty, registry := .empty, pages := .empty }

/-!
# Handles
-/

def newClass (process : Process) : ClassId × Process :=
  let (id, classes) := process.classes.create
  (id, { process with classes })

def retain (process : Process) (id : ClassId) : Process :=
  { process with classes := process.classes.retain id }

def drop (process : Process) (id : ClassId) : Process :=
  { process with classes := process.classes.drop id }

/-!
# The registry
-/

def discardAll (pages : Pages) : List Arena -> Step Pages Unit
  | [] => .silent () pages
  | arena :: rest =>
      let first := arena.discard pages
      let others := discardAll first.state rest
      { others with events := first.events ++ others.events }

/-- Drop the entries of dead classes and their arenas; the value is the number of entries
dropped. A sweep that drops nothing reports nothing. -/
def sweep (process : Process) : Step Process Nat :=
  let discarded := discardAll process.pages (process.registry.stale process.classes)
  let registry := process.registry.live process.classes
  let expunged := process.registry.size - registry.size
  { value := expunged
    state := { process with registry, pages := discarded.state }
    events :=
      discarded.events
        ++ (if expunged = 0 then [] else [.registrySwept expunged registry.size]) }

def ask {α : Type} (process : Process) (question : Registry -> α) : Step Process α :=
  let swept := process.sweep
  { swept with value := question swept.state.registry }

def isRegistered (process : Process) (id : ClassId) : Step Process Bool :=
  process.ask fun registry => (registry.holding? id).isSome

def arenaCount (process : Process) (id : ClassId) : Step Process Nat :=
  process.ask fun registry => ((registry.holding? id).map (·.arenas.length)).getD 0

def ownsAddress (process : Process) (address : Address) : Step Process Bool :=
  process.ask fun registry => registry.arenas.any (·.contains address)

def registrySize (process : Process) : Step Process Nat :=
  process.ask (·.size)

/-- Keep an arena for as long as a class lives. -/
def register (process : Process) (owner : ClassId) (arena : Arena) : Step Process Unit :=
  let swept := process.sweep
  { value := ()
    state := { swept.state with registry := swept.state.registry.add owner arena }
    events := swept.events }

/-!
# Memory
-/

/-- The bytes from an address on, if one registered arena holds them all. -/
def readCode (process : Process) (address : Address) (count : Nat) :
    Step Process (Option (List Byte)) :=
  process.ask fun registry => do
    let arena <- registry.arenas.find? (·.contains address)
    let offset := address.toNat - arena.base.toNat
    if offset + count ≤ arena.capacity then
      return arena.read offset count
    else
      none

end Process
end NativeCall
