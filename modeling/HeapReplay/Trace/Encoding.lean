import HeapReplay.Json.Decoder
import HeapReplay.Json.Printer
import HeapReplay.Trace.Samples
import HeapReplay.Trace.Summary

namespace HeapReplay.Trace

def Call.toJson : Call → Json
  | .malloc size address =>
    .record [("Malloc", .record [("size", .word size), ("address", .word address)])]
  | .free address => .record [("Free", .record [("address", .word address)])]

def Call.ofJson? (json : Json) : Option Call :=
  match json.alternative? with
  | some ("Malloc", some content) =>
    match content.fields? ["size", "address"] with
    | some [some size, some address] => do
      let size ← size.word?
      let address ← address.word?
      some (.malloc size address)
    | _ => none
  | some ("Free", some content) =>
    match content.fields? ["address"] with
    | some [some address] => .free <$> address.word?
    | _ => none
  | _ => none

def Record.toJson (record : Record) : Json :=
  .record [("pid", .nat record.pid.toNat), ("timestamp", .word record.timestamp),
    ("op", record.call.toJson)]

def Record.ofJson? (json : Json) : Option Record :=
  match json.fields? ["pid", "timestamp", "op"] with
  | some [some pid, some timestamp, some call] => do
    let pid ← pid.natBelow? UInt32.size
    let timestamp ← timestamp.word?
    let call ← Call.ofJson? call
    some ⟨.ofNat pid, timestamp, call⟩
  | _ => none

def Samples.toJson (samples : Samples) : Json :=
  .record [("sizes", .list .word samples.sizes), ("intervals", .list .word samples.intervals),
    ("lifetimes", .list .word samples.lifetimes)]

def Samples.ofJson? (json : Json) : Option Samples :=
  match json.fields? ["sizes", "intervals", "lifetimes"] with
  | some [some sizes, some intervals, some lifetimes] => do
    let sizes ← sizes.list? Json.word?
    let intervals ← intervals.list? Json.word?
    let lifetimes ← lifetimes.list? Json.word?
    some ⟨sizes, intervals, lifetimes⟩
  | _ => none

def Summary.toJson (summary : Summary) : Json :=
  .record [("count", .nat summary.count), ("min", .word summary.min), ("max", .word summary.max),
    ("mean", .ofFloat summary.mean)]

def Summary.ofJson? (json : Json) : Option Summary :=
  match json.fields? ["count", "min", "max", "mean"] with
  | some [some count, some min, some max, some mean] => do
    let count ← count.count?
    let min ← min.word?
    let max ← max.word?
    let mean ← mean.float?
    some ⟨count, min, max, mean⟩
  | _ => none

end HeapReplay.Trace
