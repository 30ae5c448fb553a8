import NativeCall.Log.Config
import NativeCall.Log.Filter
import NativeCall.Log.Record

/-!
# Loggers

A logger lets records through its filter and writes them, to the standard error stream or
to a file. A process gets its logger once: later configurations have no effect.
-/

namespace NativeCall

inductive Destination where
  | stderr
  | file (path : List String)
  deriving DecidableEq, Repr

inductive LogLine where
  | text (t : String)
  | structured (data : Structured)

structure Logger where
  config : LogConfig
  filter : Filter

namespace Destination

def fallbackName : String :=
  "stubjit.log"

/-- The parts of a path up to its file name. Empty parts and single dots name nothing. A
path that does not end in a name stands for a folder of the fallback name. -/
def ofPath (path : String) : Destination :=
  let parts := (path.splitOn "/").filter fun part => !part.isEmpty && part != "."
  match parts.getLast? with
  | none => .file [fallbackName]
  | some ".." => .file (parts.dropLast ++ [fallbackName])
  | some _ => .file parts

end Destination

namespace Logger

/-- A logger with the filter that is written down, or else, where none is or it cannot be
read, with the level of the configuration. -/
def create (config : LogConfig) (filterText : Option String) : Except Fault Logger :=
  match filterText.map Filter.read with
  | some (.ok filter) => .ok { config, filter }
  | some (.error (.fault fault)) => .error fault
  | some (.error (.error ())) | none => .ok { config, filter := Filter.ofLevel config.level }

def install (installed : Option Logger) (config : LogConfig) (filterText : Option String) :
    Except Fault (Option Logger) :=
  match installed with
  | some logger => .ok (some logger)
  | none => (create config filterText).map some

def installAll (filterText : Option String) (installed : Option Logger) :
    List LogConfig -> Except Fault (List (Option Logger))
  | [] => .ok [installed]
  | config :: rest => do
      let next <- install installed config filterText
      let later <- installAll filterText next rest
      return installed :: later

def destination (logger : Logger) : Destination :=
  match logger.config.path with
  | none => .stderr
  | some path => Destination.ofPath path

def records (logger : Logger) (span : Span) (event : Event) : List LogRecord :=
  let entered := if logger.filter.admitsSpan span then [span] else []
  let about (message : String) (scope : List Span) : List LogRecord :=
    if logger.config.spans then entered.map (LogRecord.ofSpan · message scope) else []
  let own :=
    if logger.filter.admitsEvent entered event then [LogRecord.ofEvent event entered] else []
  about "enter" entered ++ own ++ about "close" []

/-- The lines of a record. The thread is named on the standard error stream alone, with
two digits in text. -/
def write (logger : Logger) (record : LogRecord) : List LogLine :=
  let named (name : String) : Option String :=
    if logger.destination = .stderr then some name else none
  if logger.config.json then [.structured (record.structured (named "ThreadId(1)"))]
  else (record.lines (named "ThreadId(01)")).map .text

def run (logger : Logger) (span : Span) (events : List Event) : List LogLine :=
  (events.flatMap (logger.records span)).flatMap logger.write

end Logger
end NativeCall
