import NativeCall.Log.Level
import NativeCall.Strategy

/-!
# Events

What the library reports about its work. Each event has a level, a message and named
fields in a fixed order. All but the warning about a failed release are named.
-/

namespace NativeCall

inductive Event where
  | stubCompiled (signature : String) (arch : Arch) (frame : Frame) (size : Nat)
  | stubDeclined (signature : String) (arch : Arch)
  | stubDump (name signature hex : String)
  | arenaAllocated (size : Nat) (base : Address)
  | arenaFinalized (used : Nat) (base : Address)
  | arenaReclaimed (size : Nat) (base : Address)
  | releaseFailed (error : String)
  | strategySelected (signature : String) (strategy : Strategy)
  | registrySwept (expunged remaining : Nat)
  deriving DecidableEq, Repr

/-- A field's value: text that is quoted in lines, text that is not, or a number. -/
inductive FieldValue where
  | quoted (text : String)
  | bare (text : String)
  | number (n : Nat)
  deriving DecidableEq, Repr

namespace Event

def target : String :=
  "stubjit::logging"

/-- The module that an event comes from. -/
def origin : Event -> String
  | .releaseFailed .. => "stubjit::arena"
  | _ => target

def level : Event -> Level
  | .stubCompiled .. | .stubDump .. | .arenaFinalized .. | .arenaReclaimed ..
  | .strategySelected .. => .debug
  | .stubDeclined .. | .arenaAllocated .. | .registrySwept .. => .trace
  | .releaseFailed .. => .warn

def message : Event -> String
  | .stubCompiled .. => "Trampoline compiled"
  | .stubDeclined .. => "Compiler declined signature"
  | .stubDump _ _ hex => "\n" ++ hex
  | .arenaAllocated .. => "Code arena reserved"
  | .arenaFinalized .. => "Code arena made executable"
  | .arenaReclaimed .. => "Code arena released"
  | .releaseFailed .. => "failed to release code arena"
  | .strategySelected .. => "Invocation strategy selected"
  | .registrySwept .. => "Stale stub arenas expunged"

def name? : Event -> Option String
  | .stubCompiled .. => some "stub_compiled"
  | .stubDeclined .. => some "stub_declined"
  | .stubDump .. => some "stub_dump"
  | .arenaAllocated .. => some "arena_allocated"
  | .arenaFinalized .. => some "arena_finalized"
  | .arenaReclaimed .. => some "arena_reclaimed"
  | .releaseFailed .. => none
  | .strategySelected .. => some "strategy_selected"
  | .registrySwept .. => some "registry_swept"

def addressField (address : Address) : String × FieldValue :=
  ("address", .bare (Hex.number address.toNat))

def fields (event : Event) : List (String × FieldValue) :=
  (event.name?.map fun name => ("event", .quoted name)).toList ++
    match event with
    | .stubCompiled signature arch frame size =>
        [("signature", .quoted signature), ("arch", .bare arch.name),
         ("frame", .bare frame.name), ("size_bytes", .number size)]
    | .stubDeclined signature arch =>
        [("signature", .quoted signature), ("arch", .bare arch.name)]
    | .stubDump name signature _ => [("name", .quoted name), ("signature", .quoted signature)]
    | .arenaAllocated size base => [("size_bytes", .number size), addressField base]
    | .arenaFinalized used base => [("used_bytes", .number used), addressField base]
    | .arenaReclaimed size base => [("size_bytes", .number size), addressField base]
    | .releaseFailed error => [("error", .bare error)]
    | .strategySelected signature strategy =>
        [("signature", .quoted signature), ("strategy", .bare strategy.name)]
    | .registrySwept expunged remaining =>
        [("expunged", .number expunged), ("remaining", .number remaining)]

/-- What is reported of a compilation; of its errors only that the signature is declined. -/
def ofCompilation (arch : Arch) (sig : Signature) :
    Outcome CompileError Trampoline -> List Event
  | .ok trampoline => [.stubCompiled sig.text arch trampoline.frame trampoline.size]
  | .error (.error (.unsupported ..)) => [.stubDeclined sig.text arch]
  | .error _ => []

end Event
end NativeCall
