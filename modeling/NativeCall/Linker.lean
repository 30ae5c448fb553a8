import NativeCall.CallSite
import NativeCall.Process
import NativeCall.Selector

/-!
# Linking

A linker collects trampolines and places them all in one arena, which then belongs to a
class. `Process.link` does so for all call sites of a class at once.
-/

namespace NativeCall

structure PendingStub where
  name : String
  signature : String
  trampoline : Trampoline
  deriving DecidableEq, Repr

structure NativeMethod where
  name : String
  signature : String
  address : Address
  deriving DecidableEq, Repr

structure Linker where
  stubs : List PendingStub
  dumpCode : Bool
  deriving DecidableEq, Repr

namespace Linker

def create (dumpCode : Bool) : Linker :=
  { stubs := [], dumpCode }

def add (linker : Linker) (stub : PendingStub) : Linker :=
  { linker with stubs := linker.stubs ++ [stub] }

def size (linker : Linker) : Nat :=
  linker.stubs.length

def isEmpty (linker : Linker) : Bool :=
  linker.stubs.isEmpty

/-- Bytes to reserve: each stub may have to skip to its alignment. -/
def codeSize (linker : Linker) : Nat :=
  linker.stubs.foldr (fun stub rest => stub.trampoline.size + Arena.codeAlign + rest) 0

/-- Write all stubs and make them executable; the answer holds the offset of each. -/
def fill (linker : Linker) (pages : Pages) (arena : Arena) :
    Except ArenaError (Arena × List Nat) := do
  let (written, offsets) <- arena.writeAll (linker.stubs.map (·.trampoline.code))
  let final <- written.finalize pages
  return (final, offsets)

def methods (linker : Linker) (arena : Arena) (offsets : List Nat) :
    Except ArenaError (List NativeMethod) :=
  (linker.stubs.zip offsets).mapM fun (stub, offset) => do
    let address <- arena.entry offset
    return { name := stub.name, signature := stub.signature, address }

def dumps (linker : Linker) : List Event :=
  if linker.dumpCode then
    linker.stubs.map fun stub => .stubDump stub.name stub.signature stub.trampoline.hexDump
  else
    []

end Linker

namespace Process

/-- Place the stubs of a linker in an arena of a class. A linker without stubs needs none.
An arena that could not be filled is dropped at once. -/
def attach (process : Process) (owner : ClassId) (linker : Linker) :
    Step Process (Outcome LinkError (List NativeMethod)) :=
  if linker.isEmpty then
    .silent (.ok []) process
  else
    match Arena.allocate process.pages linker.codeSize with
    | .error failure => .silent (.error (failure.map .arena)) process
    | .ok (arena, pages) =>
        let giveUp (e : ArenaError) (events : List Event) :=
          let discarded := arena.discard pages
          { value := .error (.error (.arena e))
            state := { process with pages := discarded.state }
            events := arena.allocatedEvent :: events ++ discarded.events }
        match linker.fill pages arena with
        | .error e => giveUp e []
        | .ok (full, offsets) =>
            match linker.methods full offsets with
            | .error e => giveUp e [full.finalizedEvent]
            | .ok methods =>
                let registered := { process with pages }.register owner full
                { value := .ok methods
                  state := registered.state
                  events :=
                    [arena.allocatedEvent, full.finalizedEvent] ++ linker.dumps
                      ++ registered.events }

/-!
# Call sites of a class
-/

/-- A site with its binding settled, or one that waits for the address of its code. -/
inductive Surveyed where
  | settled (site : CallSite)
  | awaiting (site : CallSite) (strategy : Strategy) (trampoline : Trampoline)

namespace Surveyed

def site : Surveyed -> CallSite
  | .settled site => site
  | .awaiting site _ _ => site

def stub? : Surveyed -> Option PendingStub
  | .settled _ => none
  | .awaiting site _ trampoline =>
      some { name := site.name, signature := site.signature.text, trampoline }

end Surveyed

structure Survey where
  sites : List Surveyed
  failure : Option (Failure LinkError)
  events : List Event

/-- Bind a site that needs no code, or compile the code of one that does. -/
def surveySite (selector : Selector) (helper : Address) (site : CallSite) :
    Outcome LinkError Surveyed × List Event :=
  let sig := site.signature
  let strategy := selector.select sig
  let selected := Event.strategySelected sig.text strategy
  let settle (entry : Entry) : Outcome LinkError Surveyed :=
    match site.bind { strategy, entry } with
    | .error e => .error (.error e)
    | .ok bound => .ok (.settled bound)
  match strategy with
  | .fast path => (settle (.fast path site.target), [selected])
  | .buffer => (settle (.buffered sig site.target), [selected])
  | .compiled _ =>
      match selector.compilerArch? with
      | none => (.error (.error (.compile (.unsupported sig.arch sig.text))), [selected])
      | some arch =>
          let used := if sig.capturesError then some helper else none
          let compiled := Trampoline.compile arch sig site.target used
          let events := selected :: Event.ofCompilation arch sig compiled
          match compiled with
          | .error failure => (.error (failure.map .compile), events)
          | .ok trampoline => (.ok (.awaiting site strategy trampoline), events)

/-- Go through the sites in order. A bound site stays as it is; the first failure at any other
ends the survey. -/
def survey (selector : Selector) (helper : Address) : List CallSite -> Survey
  | [] => { sites := [], failure := none, events := [] }
  | site :: rest =>
      if site.isBound then
        let others := survey selector helper rest
        { others with sites := .settled site :: others.sites }
      else
        match surveySite selector helper site with
        | (.error failure, events) =>
            { sites := (site :: rest).map .settled, failure := some failure, events }
        | (.ok surveyed, events) =>
            let others := survey selector helper rest
            { others with sites := surveyed :: others.sites, events := events ++ others.events }

/-- Bind the sites that wait to the methods of their code, in order. -/
def bindAwaiting : List Surveyed -> List NativeMethod -> List CallSite × Except LinkError Unit
  | [], _ => ([], .ok ())
  | .settled site :: rest, methods =>
      let (sites, result) := bindAwaiting rest methods
      (site :: sites, result)
  | .awaiting site _ _ :: rest, [] =>
      let (sites, result) := bindAwaiting rest []
      (site :: sites, result)
  | .awaiting site strategy _ :: rest, method :: methods =>
      match site.bind { strategy, entry := .compiled method.address } with
      | .error e => (site :: rest.map (·.site), .error e)
      | .ok bound =>
          let (sites, result) := bindAwaiting rest methods
          (bound :: sites, result)

structure Linked where
  sites : List CallSite
  result : Outcome LinkError (List NativeMethod)

/-- Select, compile and attach all sites of a class. Code of compiled sites shares one
arena. After a failure the sites that need code are as before. -/
def link (process : Process) (owner : ClassId) (selector : Selector) (helper : Address)
    (sites : List CallSite) : Step Process Linked :=
  let surveyed := survey selector helper sites
  let unchanged := surveyed.sites.map (·.site)
  match surveyed.failure with
  | some failure =>
      { value := { sites := unchanged, result := .error failure }
        state := process, events := surveyed.events }
  | none =>
      let linker : Linker :=
        { stubs := surveyed.sites.filterMap (·.stub?)
          dumpCode := selector.settings.dumpCode }
      let attached := process.attach owner linker
      let events := surveyed.events ++ attached.events
      match attached.value with
      | .error failure =>
          { value := { sites := unchanged, result := .error failure }
            state := attached.state, events }
      | .ok methods =>
          let (bound, result) := bindAwaiting surveyed.sites methods
          { value := { sites := bound, result := (result.mapError .error).map fun _ => methods }
            state := attached.state, events }

end Process
end NativeCall
