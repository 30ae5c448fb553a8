import NativeCall.Capabilities
import NativeCall.Settings
import NativeCall.Strategy

/-!
# Selection

A selector tries the strategies that the platform and the settings offer, in a fixed
order, and takes the first that admits a signature.
-/

namespace NativeCall

structure Selector where
  caps : Capabilities
  settings : Settings
  deriving DecidableEq, Repr

namespace Selector

/-- The architecture that compiled calls are offered for. -/
def compilerArch? (selector : Selector) : Option Arch :=
  if selector.settings.compileEnabled && !selector.caps.isWindows
      && selector.caps.pageProtection then
    selector.caps.arch
  else
    none

def fastEnabled (settings : Settings) : FastPath -> Bool
  | .int32 => settings.fastIntEnabled
  | .int64 => settings.fastLongEnabled
  | .numeric => settings.fastNumericEnabled

def offersFast (selector : Selector) (path : FastPath) : Bool :=
  !selector.caps.isWindows && fastEnabled selector.settings path
    && selector.caps.arch.any path.supportsArch

/-- The strategies on offer, in the order of trial. -/
def candidates (selector : Selector) : List Strategy :=
  (selector.compilerArch?.map .compiled).toList
    ++ (FastPath.all.filter selector.offersFast).map .fast
    ++ [.buffer]

/-- Compiled code captures error numbers through a helper, so there has to be one. -/
def admits (selector : Selector) (sig : Signature) (strategy : Strategy) : Bool :=
  match strategy with
  | .compiled _ =>
      (!sig.capturesError || selector.caps.helperPresent) && strategy.accepts sig
  | .fast _ | .buffer => strategy.accepts sig

def select (selector : Selector) (sig : Signature) : Strategy :=
  (selector.candidates.find? (selector.admits sig)).getD .buffer

end Selector
end NativeCall
