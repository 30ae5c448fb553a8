import NativeCall.Settings.Flag
import NativeCall.Toml.Document

/-!
# Settings files

Settings as a TOML document with one Boolean per switch. A switch that is not named keeps
its default, and other keys are ignored.
-/

namespace NativeCall
namespace Settings

def entries (settings : Settings) : List (String × Bool) :=
  [("compile_enabled", settings.compileEnabled),
   ("fast_int_enabled", settings.fastIntEnabled),
   ("fast_long_enabled", settings.fastLongEnabled),
   ("fast_numeric_enabled", settings.fastNumericEnabled),
   ("dump_code", settings.dumpCode)]

def toToml (settings : Settings) : String :=
  String.join <| settings.entries.map fun (key, b) =>
    key ++ " = " ++ (if b then "true" else "false") ++ "\n"

/-- Settings from what each key is found to say, given the default of its switch. -/
def ofEntries {m : Type -> Type} [Monad m] (find : String -> Bool -> m Bool) : m Settings := do
  let default := Settings.default
  return { compileEnabled := <- find "compile_enabled" default.compileEnabled
           fastIntEnabled := <- find "fast_int_enabled" default.fastIntEnabled
           fastLongEnabled := <- find "fast_long_enabled" default.fastLongEnabled
           fastNumericEnabled := <- find "fast_numeric_enabled" default.fastNumericEnabled
           dumpCode := <- find "dump_code" default.dumpCode }

/-- The Boolean under a key, or a default for a key that is missing. -/
def booleanAt? (table : Toml.Table) (key : String) (default : Bool) : Option Bool :=
  match table.get? key with
  | none => some default
  | some (.leaf (.boolean b)) => some b
  | some _ => none

def ofTable? (table : Toml.Table) : Option Settings :=
  ofEntries (booleanAt? table)

def ofToml (text : String) : Except SettingsError Settings :=
  match Toml.read? text with
  | none => .error (.malformed "not a TOML document")
  | some table =>
      match ofTable? table with
      | none => .error (.malformed "a switch is not a Boolean")
      | some settings => .ok settings

/-- Settings from the content of a file; `none` is a file that does not exist. -/
def ofFile (content : Option ByteArray) : Except SettingsError Settings :=
  match content with
  | none => .error (.unreadable "No such file or directory (os error 2)")
  | some bytes =>
      match String.fromUTF8? bytes with
      | none => .error (.unreadable "stream did not contain valid UTF-8")
      | some text => ofToml text

end Settings
end NativeCall
