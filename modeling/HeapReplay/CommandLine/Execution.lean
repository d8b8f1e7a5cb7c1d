import HeapReplay.CommandLine.Complaint
import HeapReplay.CommandLine.Invocation
import HeapReplay.Heap.Encoding
import HeapReplay.Heap.FirstFit
import HeapReplay.Heap.Tally
import HeapReplay.Json.Parser
import HeapReplay.Replay.Encoding
import HeapReplay.Trace.Encoding
import HeapReplay.Trace.Histogram
import HeapReplay.Trace.Reader
import HeapReplay.Workload.Encoding

namespace HeapReplay.CommandLine

open Heap Workload

/-- What a finished program leaves behind besides files. -/
structure Outcome where
  status : UInt8
  output : String := ""
  complaint : String := ""
  deriving DecidableEq, Repr

variable {m : Type → Type} [Monad m]

/-- Turns the failure of an operation into a complaint. -/
def orComplain {α : Type} (complaint : FileError → Complaint)
    (action : m (Except FileError α)) : ExceptT Complaint m α := do
  match ← action with
  | .ok value => pure value
  | .error error => throw (complaint error)

/-- The name of the log of a run in the folder of the log. -/
def logName : String := "tracealloc-last-run.log"

/-- Makes the folder of the log and starts the log in it. -/
def openLog (host : Host m) (level : LogLevel) (directory : String) :
    ExceptT Complaint m Unit := do
  let path := Path.join directory logName
  orComplain .logging (host.makeFolders directory)
  orComplain .logging (host.startLog path)
  host.note (.opened level path)

/-- The parameters in what a file gives. -/
def parametersIn (path : String) : FileContent → Except Complaint Parameters
  | .unopened error => .error (.openParameters path error)
  | .unreadable error => .error (.readParameters path error)
  | .bytes content =>
    match (Json.parse? content).bind Parameters.ofJson? with
    | some parameters => .ok parameters
    | none => .error (.parseParameters path)

/-- Reads the parameters of a simulation, by default the reference workload. -/
def loadParameters (host : Host m) (path : Option String) : ExceptT Complaint m Parameters := do
  match path with
  | none => pure .reference
  | some path => MonadExcept.ofExcept (parametersIn path (← host.readFile path))

/-- The records in what a trace gives, which is a file or else the standard input. -/
def recordsIn (path : Option String) : FileContent → Except Complaint (List Trace.Record)
  | .unopened error => .error (.openTrace (path.getD "from stdin") error)
  | .unreadable error => .error (.readTrace path (.unreadable error.message))
  | .bytes content => (Trace.read content).mapError (.readTrace path)

/-- Reads the records of a trace, by default from the standard input. -/
def loadRecords (host : Host m) (path : Option String) :
    ExceptT Complaint m (List Trace.Record) := do
  let records ← MonadExcept.ofExcept (recordsIn path (← host.readTrace path))
  host.note (.read records.length)
  pure records

/-- The settings of a simulation under its options. -/
def SimulateOptions.apply (options : SimulateOptions) (settings : SimulationSettings) :
    SimulationSettings where
  eventCount := options.events.getD settings.eventCount
  alignment := options.alignment.getD settings.alignment
  reportFraction := options.reportFraction.getD settings.reportFraction
  seed := options.seed <|> settings.seed

/-- The settings of an extraction under its options. -/
def ExtractOptions.apply (options : ExtractOptions) (settings : ExtractionSettings) :
    ExtractionSettings :=
  { settings with
    maxSize := options.maxSize.getD settings.maxSize
    maxInterval := options.maxInterval.getD settings.maxInterval
    lifetimeFloor := options.lifetimeFloor.getD settings.lifetimeFloor }

/-- The settings of a histogram under its options. -/
def HistogramOptions.apply (options : HistogramOptions) (settings : ExtractionSettings) :
    ExtractionSettings :=
  { settings with
    histogramBucket := options.bucket.getD settings.histogramBucket
    histogramLimit := options.limit.getD settings.histogramLimit }

/-- Replays a workload against the chosen allocator. A heap adds the statistics it
    noted, and those at the end. -/
def replayAgainst (choice : AllocatorChoice) (heapSize : UInt64) (simulation : Simulation) :
    Option (Except Replay.ReplayError (Replay.Report × List Statistics)) :=
  match choice with
  | .nop => do
    let (result, _, _) ← simulation.run Tally.allocator {}
    some (result.map fun report => (report, []))
  | .firstFit => do
    let (result, _, heap) ← simulation.run FirstFit.allocator (.ofCapacity heapSize)
    some (result.map fun report => (report, (heap.reports.push heap.statistics).toList))

/-- A report with statistics, if there are any. -/
def replayJson (report : Replay.Report) (statistics : List Statistics) : Json :=
  .record
    (("report", report.toJson) ::
      if statistics.isEmpty then [] else [("statistics", .list Statistics.toJson statistics)])

/-- A value over many lines, with a line feed at the end. -/
def document (json : Json) : String := json.indented ++ "\n"

/-- What a simulation prints. -/
def simulated (settings : SimulationSettings) (parameters : Parameters) (seed : UInt64)
    (choice : AllocatorChoice) (heapSize : UInt64) : Except Complaint String :=
  match Simulation.create settings parameters seed with
  | .error error => .error (.configure error)
  | .ok simulation =>
    match replayAgainst choice heapSize simulation with
    | none => .error .workloadTooLarge
    | some (.error error) => .error (.replay error)
    | some (.ok (report, statistics)) => .ok (document (replayJson report statistics))

/-- Replays a workload. What it writes to the log meanwhile, a line for each event among
    it, is left out: nothing that it prints and no file but the log depends on that. -/
def simulate (host : Host m) (settings : SimulationSettings) (options : SimulateOptions) :
    ExceptT Complaint m String := do
  let parameters ← loadParameters host options.params
  let seed ← host.drawSeed
  MonadExcept.ofExcept
    (simulated (options.apply settings) parameters seed options.allocator options.heapSize)

/-- Samples with a summary of each. -/
def samplesJson (samples : Trace.Samples) : Json :=
  .record
    [("samples", samples.toJson), ("sizes", (Trace.Summary.ofValues samples.sizes).toJson),
      ("intervals", (Trace.Summary.ofValues samples.intervals).toJson),
      ("lifetimes", (Trace.Summary.ofValues samples.lifetimes).toJson)]

def extract (host : Host m) (settings : ExtractionSettings) (options : ExtractOptions) :
    ExceptT Complaint m String := do
  let records ← loadRecords host options.trace
  let samples := Trace.Samples.ofRecords (options.apply settings) records
  let text := document (samplesJson samples)
  let note := Note.extracted samples records.length
  match options.output with
  | none =>
    host.note note
    pure text
  | some path =>
    orComplain (.createOutput path) (host.createFile path)
    host.note note
    orComplain .writeOutput (host.overwriteFile path text.toUTF8.toList)
    pure ("Samples written to " ++ path ++ "\n")

/-- One line for each bucket with its least size and its count. -/
def histogramText (counts : List (UInt64 × Nat)) : String :=
  counts.foldl (fun text (bucket, count) => text ++ s!"{bucket} {count}\n") ""

def histogram (host : Host m) (settings : ExtractionSettings) (options : HistogramOptions) :
    ExceptT Complaint m String := do
  let records ← loadRecords host options.trace
  let settings := options.apply settings
  match settings.validate with
  | .error error => throw (.settings error)
  | .ok width => pure (histogramText (Trace.histogram width settings.histogramLimit records))

/-- Opens the log, if there is to be one. -/
def Invocation.openLog (host : Host m) (invocation : Invocation) : ExceptT Complaint m Unit :=
  match invocation.logDirectory with
  | some directory => CommandLine.openLog host invocation.logLevel directory
  | none => pure ()

/-- Runs a command; gives what it prints. -/
def Command.run (host : Host m) (settings : Settings) : Command → ExceptT Complaint m String
  | .simulate options => CommandLine.simulate host settings.simulation options
  | .extract options => CommandLine.extract host settings.extraction options
  | .histogram options => CommandLine.histogram host settings.extraction options
  | .params => pure (document Parameters.reference.toJson)

/-- Opens the log and runs the command; gives what it prints. -/
def Invocation.run (host : Host m) (settings : Settings) (invocation : Invocation) :
    ExceptT Complaint m String := do
  invocation.openLog host
  invocation.command.run host settings

def usage : String :=
  "usage: tracealloc [--log-level LEVEL] [--log-dir DIR] simulate|extract|histogram|params [OPTIONS]\n"

/-- Runs the program on its arguments and environment. Arguments that make no
    invocation end it with status two. -/
def execute (host : Host m) (environment : String → Option String) (arguments : List String) :
    m Outcome := do
  match Invocation.ofArguments? arguments with
  | none => pure { status := 2, complaint := usage }
  | some invocation =>
    match ← (invocation.run host (.ofEnvironment environment)).run with
    | .ok output => pure { status := 0, output }
    | .error complaint =>
      pure { status := complaint.exitStatus, complaint := complaint.report }

end HeapReplay.CommandLine
