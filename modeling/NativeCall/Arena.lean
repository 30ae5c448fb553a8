import NativeCall.Pages
import NativeCall.Step

/-!
# Arenas

An arena is a run of pages that code is written into, piece by piece, until the whole
becomes executable. From then on nothing is written.
-/

namespace NativeCall

inductive ArenaError where
  | outOfMemory (requested : Nat) (osCode : Option Int)
  | protect (osCode : Option Int)
  | release (osCode : Option Int)
  | capacity (needed remaining : Nat)
  | empty
  | alreadyFinalized
  | notFinalized
  | outOfBounds (offset used : Nat)
  | unsupported
  deriving DecidableEq, Repr

namespace ArenaError

def name : ArenaError -> String
  | .outOfMemory .. => "OutOfMemory"
  | .protect .. => "Protect"
  | .release .. => "Release"
  | .capacity .. => "Capacity"
  | .empty => "Empty"
  | .alreadyFinalized => "AlreadyFinalized"
  | .notFinalized => "NotFinalized"
  | .outOfBounds .. => "OutOfBounds"
  | .unsupported => "Unsupported"

/-- The system's error number, where there is one. -/
def osText : Option Int -> String
  | none => ""
  | some code => " (os error " ++ toString code ++ ")"

def message : ArenaError -> String
  | .outOfMemory requested osCode =>
      "Out of executable memory reserving " ++ requested.repr ++ " bytes" ++ osText osCode
  | .protect osCode => "Failed to make code pages executable" ++ osText osCode
  | .release osCode => "Failed to release code pages" ++ osText osCode
  | .capacity needed remaining =>
      "Stub of " ++ needed.repr ++ " bytes exceeds remaining arena space " ++ remaining.repr
  | .empty => "Cannot allocate an empty code arena"
  | .alreadyFinalized => "Code arena is already executable"
  | .notFinalized => "Code arena is not yet executable"
  | .outOfBounds offset used =>
      "Offset " ++ offset.repr ++ " is outside the " ++ used.repr ++ " written bytes"
  | .unsupported => "Executable memory not supported on this platform"

end ArenaError

inductive ArenaState where
  | writable
  | executable
  deriving DecidableEq, Repr

def ArenaState.name : ArenaState -> String
  | .writable => "Writable"
  | .executable => "Executable"

def Arena.codeAlign : Nat := 8

/-- `image` holds the bytes written so far, padding included; the memory behind it is zero. -/
structure Arena where
  base : Address
  capacity : Nat
  image : List Byte
  state : ArenaState
  image_le_capacity : image.length ≤ capacity
  inside_userSpace : base.toNat + capacity ≤ userSpace
  codeAlign_dvd_base : Arena.codeAlign ∣ base.toNat

namespace Arena

def outOfMemoryCode : Int := 12

/-!
# Views
-/

/-- Bytes taken, padding included. -/
def used (arena : Arena) : Nat :=
  arena.image.length

theorem used_le_capacity (arena : Arena) : arena.used ≤ arena.capacity :=
  arena.image_le_capacity

def remaining (arena : Arena) : Nat :=
  arena.capacity - arena.used

def isExecutable (arena : Arena) : Bool :=
  arena.state == .executable

def read (arena : Arena) (offset count : Nat) : List Byte :=
  let written := (arena.image.drop offset).take count
  written ++ List.replicate (count - written.length) 0

theorem length_read (arena : Arena) (offset count : Nat) :
    (arena.read offset count).length = count := by
  simp only [read, List.length_append, List.length_replicate, List.length_take]
  omega

def contains (arena : Arena) (address : Address) : Bool :=
  arena.base.toNat ≤ address.toNat && address.toNat < arena.base.toNat + arena.capacity

def describe (arena : Arena) (base : String) : String :=
  "CodeArena \x7b base: " ++ base ++ ", capacity: " ++ arena.capacity.repr ++ ", used: "
    ++ arena.used.repr ++ ", state: " ++ arena.state.name ++ " \x7d"

/-!
# Life of an arena
-/

/-- Reserve whole pages for at least `total` bytes. Rounding up adds a page before it cuts
off what is too much, and the sum must stay below 2^64. -/
def allocate (pages : Pages) (total : Nat) : Outcome ArenaError (Arena × Pages) :=
  if total = 0 then
    .error (.error .empty)
  else if wordCount ≤ total + pages.pageSize.bytes then
    .error (.fault .sizeOverflow)
  else
    let capacity := alignUp pages.pageSize.bytes total
    match pages.reserve capacity with
    | none => .error (.error (.outOfMemory capacity (some outOfMemoryCode)))
    | some (⟨base, _, inside, aligned⟩, rest) =>
        let arena : Arena :=
          { base, capacity, image := [], state := .writable
            image_le_capacity := Nat.zero_le _, inside_userSpace := inside
            codeAlign_dvd_base := Nat.dvd_trans pages.pageSize.eight_dvd_bytes aligned }
        .ok (arena, rest)

/-- Write a piece of code at the next aligned offset, which is the answer. -/
def write (arena : Arena) (code : List Byte) : Except ArenaError (Arena × Nat) :=
  match arena.state with
  | .executable => .error .alreadyFinalized
  | .writable =>
      let offset := alignUp codeAlign arena.used
      let image := arena.image ++ List.replicate (offset - arena.used) 0 ++ code
      if fits : image.length ≤ arena.capacity then
        .ok ({ arena with image, image_le_capacity := fits }, offset)
      else
        .error (.capacity code.length arena.remaining)

/-- Make the whole arena executable, once, unless the system refuses. -/
def finalize (arena : Arena) (pages : Pages) : Except ArenaError Arena :=
  match arena.state with
  | .executable => .error .alreadyFinalized
  | .writable =>
      match pages.refusal with
      | some code => .error (.protect (some code))
      | none => .ok { arena with state := .executable }

/-- The address of an offset at which something was written. -/
def entry (arena : Arena) (offset : Nat) : Except ArenaError Address :=
  match arena.state with
  | .writable => .error .notFinalized
  | .executable =>
      if arena.used ≤ offset then .error (.outOfBounds offset arena.used)
      else .ok (arena.base + BitVec.ofNat 64 offset)

def writeAll (arena : Arena) : List (List Byte) -> Except ArenaError (Arena × List Nat)
  | [] => .ok (arena, [])
  | code :: rest => do
      let (next, offset) <- arena.write code
      let (final, offsets) <- next.writeAll rest
      return (final, offset :: offsets)

/-- Give the pages of an arena back, unless the system refuses. -/
def reclaim (arena : Arena) (pages : Pages) : Except ArenaError Pages :=
  match pages.retention arena.base with
  | some code => .error (.release (some code))
  | none => .ok (pages.release arena.base)

/-!
# Reports
-/

def allocatedEvent (arena : Arena) : Event :=
  .arenaAllocated arena.capacity arena.base

def finalizedEvent (arena : Arena) : Event :=
  .arenaFinalized arena.used arena.base

def reclaimedEvent (arena : Arena) : Event :=
  .arenaReclaimed arena.capacity arena.base

/-- Drop an arena. If its pages cannot be given back they stay mapped, and a warning is all that
comes of it. -/
def discard (arena : Arena) (pages : Pages) : Step Pages Unit :=
  match arena.reclaim pages with
  | .ok rest => { value := (), state := rest, events := [arena.reclaimedEvent] }
  | .error e => { value := (), state := pages, events := [.releaseFailed e.message] }

end Arena
end NativeCall
