namespace HeapReplay.Replay

/-- What happened in a replay. -/
structure Report where
  seed : Option UInt64 := none
  eventsDispatched : Nat := 0
  allocationsSucceeded : Nat := 0
  allocationsFailed : Nat := 0
  freesDispatched : Nat := 0
  untrackedFrees : Nat := 0
  periodicReports : Nat := 0
  failureReports : Nat := 0
  peakLiveObjects : Nat := 0
  liveObjectsRemaining : Nat := 0
  finalTime : UInt64 := 0
  deriving DecidableEq, Repr

namespace Report

/-- How often statistics were asked for, as a word. -/
def totalReports (report : Report) : UInt64 := .ofNat (report.periodicReports + report.failureReports)

/-- The report as text for a reader. -/
def summary (report : Report) : String :=
  let title :=
    match report.seed with
    | some seed => s!"Replay Report (seed: {seed})\n"
    | none => "Replay Report\n"
  title ++ s!"Events dispatched: {report.eventsDispatched}\n"
    ++ s!"Final time: {report.finalTime}\n"
    ++ "\nAllocations:\n"
    ++ s!"  Succeeded: {report.allocationsSucceeded}\n"
    ++ s!"  Failed: {report.allocationsFailed}\n"
    ++ s!"  Frees: {report.freesDispatched} ({report.untrackedFrees} untracked)\n"
    ++ s!"\nReports: {report.periodicReports} periodic, {report.failureReports} on failure\n"
    ++ s!"Live objects: peak {report.peakLiveObjects}, remaining {report.liveObjectsRemaining}\n"

end Report
end HeapReplay.Replay
