/-!
# Settings

Switches for the ways of making a call, and for dumps of generated code.
-/

namespace NativeCall

structure Settings where
  compileEnabled : Bool
  fastIntEnabled : Bool
  fastLongEnabled : Bool
  fastNumericEnabled : Bool
  dumpCode : Bool
  deriving DecidableEq, Repr

def Settings.default : Settings :=
  { compileEnabled := true
    fastIntEnabled := true
    fastLongEnabled := true
    fastNumericEnabled := true
    dumpCode := false }

end NativeCall
