import HeapReplay.Settings
import HeapReplay.Trace.Record

namespace HeapReplay

/-- What can go wrong around a replay: a trace that cannot be read, settings that
    make no sense, text that is not the JSON expected, or a file or stream that
    fails. -/
inductive Failure where
  | trace (error : Trace.ReadError)
  | settings (reason : String)
  | json (sourceFailed : Bool)
  | file (reason : String)
  deriving DecidableEq, Repr

namespace Failure

/-- Whether the one who gave the input can mend it. A source that fails is not
    theirs to mend. -/
def isUserError : Failure → Bool
  | .trace (.malformed _ _) => true
  | .trace (.unreadable _) => false
  | .settings _ => true
  | .json sourceFailed => !sourceFailed
  | .file _ => false

def message : Failure → String
  | .trace error => "Trace error: " ++ error.message
  | .settings reason => "Configuration error: " ++ reason
  | .json _ => "Serialization error"
  | .file reason => "I/O error: " ++ reason

def ofSettingsError (error : SettingsError) : Failure := .settings error.reason

end Failure
end HeapReplay
