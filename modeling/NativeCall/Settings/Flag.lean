import NativeCall.Settings
import NativeCall.Text.Blank
import NativeCall.Text.Quoted

/-!
# Settings from variables

Each switch has a variable. A variable that is not set leaves its switch alone; one whose
value is no flag is an error, and of several such the first in the order of the switches
counts.
-/

namespace NativeCall

inductive SettingsError where
  | unreadable (reason : String)
  | malformed (reason : String)
  | invalidValue (key value : String)
  deriving DecidableEq, Repr

def SettingsError.name : SettingsError -> String
  | .unreadable .. => "Io"
  | .malformed .. => "Parse"
  | .invalidValue .. => "InvalidValue"

def SettingsError.message : SettingsError -> String
  | .unreadable reason => "Failed to read config: " ++ reason
  | .malformed reason => "Failed to parse config: " ++ reason
  | .invalidValue key value => "Invalid value " ++ Text.quoted value ++ " for " ++ key

abbrev Lookup := String -> Option String

/-- A flag with blanks around it and in any case. Lower case of ASCII letters decides: no
other letter has a lower case form among those of the words. -/
def flag? (text : String) : Option Bool :=
  let word := (String.ofList (Text.trimChars text.toList)).toLower
  if word ∈ ["1", "true", "yes", "on"] then some true
  else if word ∈ ["0", "false", "no", "off"] then some false
  else none

namespace Settings

def switches : List (String × (Bool -> Settings -> Settings)) :=
  [("STUBJIT_ASM_ENABLED", fun b s => { s with compileEnabled := b }),
   ("STUBJIT_FAST_INT", fun b s => { s with fastIntEnabled := b }),
   ("STUBJIT_FAST_LONG", fun b s => { s with fastLongEnabled := b }),
   ("STUBJIT_FAST_NUMERIC", fun b s => { s with fastNumericEnabled := b }),
   ("STUBJIT_DUMP", fun b s => { s with dumpCode := b })]

def ofLookup (lookup : Lookup) : Except SettingsError Settings :=
  switches.foldlM
    (fun settings (key, set) =>
      match lookup key with
      | none => .ok settings
      | some value =>
          match flag? value with
          | none => .error (.invalidValue key value)
          | some b => .ok (set b settings))
    Settings.default

end Settings
end NativeCall
