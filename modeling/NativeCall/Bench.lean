import NativeCall.Arena

/-!
# Benches

A bench has room for one arena at a time.
-/

namespace NativeCall

structure Bench where
  pages : Pages
  arena : Option Arena

namespace Bench

def empty : Bench :=
  { pages := .empty, arena := none }

def clear (bench : Bench) : Step Bench Unit :=
  match bench.arena with
  | none => .silent () bench
  | some arena => (arena.discard bench.pages).lift fun pages => { pages, arena := none }

/-- Put a new arena on the bench. The old one goes first, even if there will be no new one. -/
def allocate (bench : Bench) (total : Nat) : Step Bench (Outcome ArenaError Unit) :=
  let cleared := bench.clear
  match Arena.allocate cleared.state.pages total with
  | .error failure => { cleared with value := .error failure }
  | .ok (arena, pages) =>
      { value := .ok ()
        state := { pages, arena := some arena }
        events := cleared.events ++ [arena.allocatedEvent] }

/-- Change the arena in its place. A change that fails leaves it as it was. -/
def change {α : Type} (bench : Bench) (changed : Except ArenaError (Arena × α))
    (report : Arena -> List Event) : Step Bench (Except ArenaError α) :=
  match changed with
  | .error e => .silent (.error e) bench
  | .ok (arena, value) =>
      { value := .ok value
        state := { bench with arena := some arena }
        events := report arena }

def write (bench : Bench) (arena : Arena) (code : List Byte) : Step Bench (Except ArenaError Nat) :=
  bench.change (arena.write code) fun _ => []

def finalize (bench : Bench) (arena : Arena) : Step Bench (Except ArenaError Unit) :=
  bench.change ((arena.finalize bench.pages).map fun final => (final, ()))
    fun final => [final.finalizedEvent]

end Bench
end NativeCall
