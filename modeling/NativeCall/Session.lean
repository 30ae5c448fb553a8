import NativeCall.Linker
import NativeCall.Probe

/-!
# Sessions

A session works on one process by names: handles to classes and linkers have names, methods
and call sites are counted in the order of their making. A name that is given again stands
for the new thing from then on.
-/

namespace NativeCall

structure PlacedSite where
  site : CallSite
  origin : Address

structure Session where
  process : Process
  handles : List (String × ClassId)
  linkers : List (String × Linker)
  methods : List NativeMethod
  sites : List PlacedSite

namespace Session

def initial : Session :=
  { process := .initial, handles := [], linkers := [], methods := [], sites := [] }

def without {α : Type} (name : String) (named : List (String × α)) : List (String × α) :=
  named.filter fun entry => entry.1 != name

/-!
# Handles
-/

def class? (session : Session) (name : String) : Option ClassId :=
  session.handles.lookup name

def release (session : Session) (name : String) : Session :=
  match session.class? name with
  | none => session
  | some owner =>
      { session with
        process := session.process.drop owner
        handles := without name session.handles }

def hold (session : Session) (name : String) (owner : ClassId) : Session :=
  let released := session.release name
  { released with handles := released.handles ++ [(name, owner)] }

def newClass (session : Session) (name : String) : Session :=
  let (owner, process) := session.process.newClass
  { session with process }.hold name owner

def retain (session : Session) (name : String) (owner : ClassId) : Session :=
  { session with process := session.process.retain owner }.hold name owner

def onProcess {α : Type} (session : Session) (step : Step Process α) : Step Session α :=
  step.lift fun process => { session with process }

/-!
# Linkers
-/

def linker? (session : Session) (name : String) : Option Linker :=
  session.linkers.lookup name

def putLinker (session : Session) (name : String) (linker : Linker) : Session :=
  { session with linkers := without name session.linkers ++ [(name, linker)] }

def compile (session : Session) (sig : Signature) (target : Address)
    (helper : Option Address) : Step Session (Outcome CompileError Trampoline) :=
  let compiled := Trampoline.compile sig.arch sig target helper
  { value := compiled, state := session, events := Event.ofCompilation sig.arch sig compiled }

def addMethods (session : Session) (methods : List NativeMethod) : Session :=
  { session with methods := session.methods ++ methods }

/-- Attach a linker to a class, which uses the linker up. -/
def attach (session : Session) (owner : ClassId) (name : String) (linker : Linker) :
    Step Session (Outcome LinkError (List NativeMethod)) :=
  let step := session.onProcess (session.process.attach owner linker)
  let rest := { step.state with linkers := without name session.linkers }
  { step with state := rest.addMethods (step.value.toOption.getD []) }

/-!
# Call sites
-/

def addSite (session : Session) (site : CallSite) : Session :=
  { session with sites := session.sites ++ [{ site, origin := 0 }] }

def replaceSite (session : Session) (index : Nat) (site : CallSite) : Session :=
  { session with sites := session.sites.set index { site, origin := 0 } }

def sitesBetween (session : Session) (first last : Nat) : List PlacedSite :=
  (session.sites.take last).drop first

/-- Link the sites of a range for a class. Code that was made for it is counted from its
first byte. -/
def link (session : Session) (owner : ClassId) (selector : Selector) (helper : Address)
    (first last : Nat) : Step Session (Outcome LinkError (List PlacedSite)) :=
  let range := session.sitesBetween first last
  let step := session.process.link owner selector helper (range.map (·.site))
  let methods := step.value.result.toOption.getD []
  let origin := (methods.head?.map (·.address)).getD 0
  let placed := (range.zip step.value.sites).map fun (old, site) =>
    if old.site.isBound then old else { site, origin }
  let sites := session.sites.take first ++ placed ++ session.sites.drop last
  { value := step.value.result.map fun _ => placed
    state := { session with process := step.state, sites }.addMethods methods
    events := step.events }

end Session
end NativeCall
