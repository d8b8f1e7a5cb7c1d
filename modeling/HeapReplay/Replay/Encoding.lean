import HeapReplay.Json.Decoder
import HeapReplay.Replay.Event
import HeapReplay.Replay.Report

namespace HeapReplay.Replay

def Request.toJson (request : Request) : Json :=
  .record [("id", .word request.id), ("size", .word request.size),
    ("birth_time", .word request.birth), ("death_time", .word request.death)]

def Request.ofJson? (json : Json) : Option Request :=
  match json.fields? ["id", "size", "birth_time", "death_time"] with
  | some [some id, some size, some birth, some death] => do
    let id ← id.word?
    let size ← size.word?
    let birth ← birth.word?
    let death ← death.word?
    some ⟨id, size, birth, death⟩
  | _ => none

def EventKind.ofName? (name : String) : Option EventKind :=
  [EventKind.allocate, .free].find? (·.name == name)

def Event.toJson (event : Event) : Json :=
  .record [("time", .word event.time), ("request_id", .word event.id), ("size", .word event.size),
    ("kind", .text event.kind.name)]

def Event.ofJson? (json : Json) : Option Event :=
  match json.fields? ["time", "request_id", "size", "kind"] with
  | some [some time, some id, some size, some kind] => do
    let time ← time.word?
    let id ← id.word?
    let size ← size.word?
    let kind ← kind.bareName?.bind EventKind.ofName?
    some ⟨time, id, size, kind⟩
  | _ => none

def Report.toJson (report : Report) : Json :=
  .record [("seed", .optional .word report.seed), ("events_dispatched", .nat report.eventsDispatched),
    ("allocations_succeeded", .nat report.allocationsSucceeded),
    ("allocations_failed", .nat report.allocationsFailed),
    ("frees_dispatched", .nat report.freesDispatched),
    ("untracked_frees", .nat report.untrackedFrees),
    ("periodic_reports", .nat report.periodicReports),
    ("failure_reports", .nat report.failureReports),
    ("peak_live_objects", .nat report.peakLiveObjects),
    ("live_objects_remaining", .nat report.liveObjectsRemaining),
    ("final_time", .word report.finalTime)]

/-- Reads a report; a missing seed is none. -/
def Report.ofJson? (json : Json) : Option Report :=
  match json.fields? ["seed", "events_dispatched", "allocations_succeeded", "allocations_failed",
    "frees_dispatched", "untracked_frees", "periodic_reports", "failure_reports",
    "peak_live_objects", "live_objects_remaining", "final_time"] with
  | some [seed, some eventsDispatched, some allocationsSucceeded, some allocationsFailed,
      some freesDispatched, some untrackedFrees, some periodicReports, some failureReports,
      some peakLiveObjects, some liveObjectsRemaining, some finalTime] => do
    let seed ← (seed.getD .null).optional? Json.word?
    let eventsDispatched ← eventsDispatched.count?
    let allocationsSucceeded ← allocationsSucceeded.count?
    let allocationsFailed ← allocationsFailed.count?
    let freesDispatched ← freesDispatched.count?
    let untrackedFrees ← untrackedFrees.count?
    let periodicReports ← periodicReports.count?
    let failureReports ← failureReports.count?
    let peakLiveObjects ← peakLiveObjects.count?
    let liveObjectsRemaining ← liveObjectsRemaining.count?
    let finalTime ← finalTime.word?
    some { seed, eventsDispatched, allocationsSucceeded, allocationsFailed, freesDispatched,
           untrackedFrees, periodicReports, failureReports, peakLiveObjects, liveObjectsRemaining,
           finalTime }
  | _ => none

end HeapReplay.Replay
