import NativeCall.Arena
import NativeCall.Invoker

/-!
# Call sites

A call site belongs to one native method. It is bound once, to a strategy and the entry
that calls are made through.
-/

namespace NativeCall

inductive LinkError where
  | arena (e : ArenaError)
  | compile (e : CompileError)
  | call (e : CallError)
  | alreadyBound (name : String)
  deriving DecidableEq, Repr

namespace LinkError

def name : LinkError -> String
  | .arena .. => "Arena"
  | .compile .. => "Compile"
  | .call .. => "Call"
  | .alreadyBound .. => "AlreadyBound"

def message : LinkError -> String
  | .arena e => "Stub arena: " ++ e.message
  | .compile e => "Stub compilation: " ++ e.message
  | .call e => "Generic path: " ++ e.message
  | .alreadyBound name => "Call site " ++ name ++ " is already bound"

/-- The message of the error that this one wraps. -/
def source? : LinkError -> Option String
  | .arena e => some e.message
  | .compile e => some e.message
  | .call e => some e.message
  | .alreadyBound _ => none

end LinkError

inductive Entry where
  | compiled (address : Address)
  | fast (path : FastPath) (target : Address)
  | generic (target : Address) (invoker : Option Invoker)

structure Binding where
  strategy : Strategy
  entry : Entry

structure CallSite where
  name : String
  signature : Signature
  target : Address
  binding : Option Binding

namespace Entry

/-- An entry that needs no code. There is an invoker when the signature allows one. -/
def buffered (sig : Signature) (target : Address) : Entry :=
  .generic target (Invoker.create sig target).toOption

end Entry

namespace CallSite

def create (name : String) (sig : Signature) (target : Address) : CallSite :=
  { name, signature := sig, target, binding := none }

def isBound (site : CallSite) : Bool :=
  site.binding.isSome

/-- Bind for good; a second binding is refused. -/
def bind (site : CallSite) (binding : Binding) : Except LinkError CallSite :=
  match site.binding with
  | some _ => .error (.alreadyBound site.name)
  | none => .ok { site with binding := some binding }

def entryAddress? (site : CallSite) : Option Address :=
  match site.binding with
  | some { entry := .compiled address, .. } => some address
  | _ => none

end CallSite
end NativeCall
