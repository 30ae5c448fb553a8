import NativeCall.Log.Level
import NativeCall.Settings.Flag

/-!
# Log configuration

How much is logged, where to, and in which form.
-/

namespace NativeCall

structure LogConfig where
  level : Level
  /-- The file to log to; the standard error stream without one. -/
  path : Option String
  json : Bool
  /-- Records for the entering and leaving of spans. -/
  spans : Bool
  deriving DecidableEq, Repr

namespace LogConfig

def default : LogConfig :=
  { level := .warn, path := none, json := false, spans := false }

def verbose : LogConfig :=
  { level := .trace, path := none, json := false, spans := true }

/-- The configuration that variables ask for. An unknown level and an empty path count as
not given; the two switches are on if their variable is set, to whatever. -/
def ofLookup (lookup : Lookup) : LogConfig :=
  { level := ((lookup "STUBJIT_LOG_LEVEL").bind Level.ofText?).getD LogConfig.default.level
    path := (lookup "STUBJIT_LOG_FILE").filter fun path => !path.isEmpty
    json := (lookup "STUBJIT_LOG_JSON").isSome
    spans := (lookup "STUBJIT_LOG_SPANS").isSome }

end LogConfig
end NativeCall
