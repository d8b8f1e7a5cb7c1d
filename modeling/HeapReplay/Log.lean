import HeapReplay.Failure

namespace HeapReplay

/-- How much is logged on the console. -/
inductive LogLevel where
  | error
  | warn
  | info
  | debug
  | trace
  deriving DecidableEq, Repr

namespace LogLevel

def all : List LogLevel := [.error, .warn, .info, .debug, .trace]

def name : LogLevel → String
  | .error => "error"
  | .warn => "warn"
  | .info => "info"
  | .debug => "debug"
  | .trace => "trace"

/-- The level of a name. Letter case counts, or is ignored for ASCII letters. -/
def ofName? (ignoreCase : Bool) (name : String) : Option LogLevel :=
  let key (s : String) := if ignoreCase then s.toLower else s
  all.find? fun level => key level.name == key name

end LogLevel

/-- The console log of a process. -/
structure Console where
  installed : Bool := false
  deriving DecidableEq, Repr

/-- Installs the console log, which can be done once in a process. -/
def Console.install (console : Console) : Except Failure Console :=
  if console.installed then
    .error (.settings ("tracing already initialized: "
      ++ "a global default trace dispatcher has already been set"))
  else .ok { installed := true }

end HeapReplay
