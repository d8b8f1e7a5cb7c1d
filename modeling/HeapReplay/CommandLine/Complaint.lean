import HeapReplay.CommandLine.Host
import HeapReplay.Failure
import HeapReplay.Simulation

namespace HeapReplay.CommandLine

/-- A link in the chain of what went wrong. A text says what was being done, or repeats
    an error of the machine. -/
inductive Cause where
  | text (message : String)
  | failure (error : Failure)
  | simulation (error : SimulationError)
  | replay (error : Replay.ReplayError)

namespace Cause

def message : Cause → String
  | .text message => message
  | .failure error => error.message
  | .simulation error => error.message
  | .replay error => error.message

/-- Whether a cause is one that the user can mend. -/
def isUserError : Cause → Bool
  | .failure error => error.isUserError
  | .simulation _ => true
  | .text _ | .replay _ => false

end Cause

/-- The exit status that a chain of causes stands for: two when the user can mend one
    of them, and else one. -/
def statusOf (causes : List Cause) : UInt8 := if causes.any Cause.isUserError then 2 else 1

/-- Why a command fails. -/
inductive Complaint where
  | logging (error : FileError)
  | openParameters (path : String) (error : FileError)
  | readParameters (path : String) (error : FileError)
  | parseParameters (path : String)
  | configure (error : SimulationError)
  | workloadTooLarge
  | replay (error : Replay.ReplayError)
  | openTrace (path : String) (error : FileError)
  | readTrace (source : Option String) (error : Trace.ReadError)
  | settings (error : SettingsError)
  | createOutput (path : String) (error : FileError)
  | writeOutput (error : FileError)

namespace Complaint

/-- A reason that stands for itself behind what it causes. -/
def underlying : Trace.ReadError → List Cause
  | .malformed _ _ => []
  | .unreadable reason => [.text reason]

/-- What went wrong, from the command down to the first cause. -/
def causes : Complaint → List Cause
  | .logging error =>
    [.text "Failed to initialize logging", .failure (.file error.message), .text error.message]
  | .openParameters path error => [.text ("Failed to open parameters " ++ path), .text error.message]
  | .readParameters path error =>
    [.text ("Invalid parameters in " ++ path), .failure (.json true), .text error.message]
  | .parseParameters path =>
    [.text ("Invalid parameters in " ++ path), .failure (.json false),
      .text "the text is not a set of sample parameters"]
  | .configure error => [.text "Failed to configure simulation", .simulation error]
  | .workloadTooLarge => [.text "capacity overflow"]
  | .replay error => [.replay error]
  | .openTrace path error => [.text ("Failed to open trace " ++ path), .text error.message]
  | .readTrace source error =>
    [.text ("Failed to read trace " ++ source.getD "from stdin"), .failure (.trace error),
      .text error.message] ++ underlying error
  | .settings error => [.failure (.ofSettingsError error)]
  | .createOutput path error => [.text ("Failed to create " ++ path), .text error.message]
  | .writeOutput error => [.text error.message]

/-- The messages of the causes. -/
def chain (complaint : Complaint) : List String := complaint.causes.map Cause.message

/-- The exit status: what the causes stand for, or a status of its own when the program
    breaks off for want of memory. -/
def exitStatus (complaint : Complaint) : UInt8 :=
  match complaint with
  | .workloadTooLarge => 101
  | complaint => statusOf complaint.causes

/-- The lines of the causes. They are numbered when there are several. -/
def causeLines : List String → List String
  | [] => []
  | [cause] => ["    " ++ cause]
  | causes => causes.zipIdx.map fun (cause, index) => s!"    {index}: " ++ cause

/-- What a complaint is called. When the program breaks off, it has no time for that. -/
def heading : Complaint → String
  | .workloadTooLarge => ""
  | _ => "Error: "

/-- The complaint as it is printed. -/
def report (complaint : Complaint) : String :=
  match complaint.chain with
  | [] => ""
  | [head] => complaint.heading ++ head ++ "\n"
  | head :: causes =>
    complaint.heading ++ head ++ "\n\nCaused by:\n" ++ "\n".intercalate (causeLines causes) ++ "\n"

end Complaint
end HeapReplay.CommandLine
