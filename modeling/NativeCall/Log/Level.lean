/-!
# Log levels

From the most urgent to the most detailed.
-/

namespace NativeCall

inductive Level where
  | error
  | warn
  | info
  | debug
  | trace
  deriving DecidableEq, Repr

namespace Level

def all : List Level :=
  [.error, .warn, .info, .debug, .trace]

theorem mem_all (level : Level) : level ∈ all := by
  cases level <;> decide

def name : Level -> String
  | .error => "ERROR"
  | .warn => "WARN"
  | .info => "INFO"
  | .debug => "DEBUG"
  | .trace => "TRACE"

def verbosity : Level -> Nat
  | .error => 1
  | .warn => 2
  | .info => 3
  | .debug => 4
  | .trace => 5

/-- A level by its name in any case. Lower case of ASCII letters decides: no other letter
has a lower case form among those of the names. -/
def ofText? (text : String) : Option Level :=
  all.find? fun level => level.name.toLower == text.toLower

end Level
end NativeCall
