import HeapReplay.Json.Decoder
import HeapReplay.Json.Printer
import HeapReplay.Workload.Parameters

namespace HeapReplay.Workload

def Family.ofJson? (json : Json) : Option Family := json.bareName?.bind Family.ofName?

def ParameterSet.toJson (set : ParameterSet) : Json :=
  .record [("family", .text set.family.name), ("params", .list .ofFloat set.params)]

def ParameterSet.ofJson? (json : Json) : Option ParameterSet :=
  match json.fields? ["family", "params"] with
  | some [some family, some params] => do
    let family ← Family.ofJson? family
    let params ← params.list? Json.float?
    some ⟨family, params⟩
  | _ => none

def Parameters.toJson (parameters : Parameters) : Json :=
  .record [("size", parameters.size.toJson), ("interval", parameters.interval.toJson),
    ("duration", parameters.duration.toJson)]

def Parameters.ofJson? (json : Json) : Option Parameters :=
  match json.fields? ["size", "interval", "duration"] with
  | some [some size, some interval, some duration] => do
    let size ← ParameterSet.ofJson? size
    let interval ← ParameterSet.ofJson? interval
    let duration ← ParameterSet.ofJson? duration
    some ⟨size, interval, duration⟩
  | _ => none

end HeapReplay.Workload
