import HeapReplay.Text.Line
import HeapReplay.Trace.Record

namespace HeapReplay.Trace

/-- The record on a numbered line of bytes, which has to be UTF-8. -/
def readLine (number : Nat) (line : List UInt8) : Except ReadError (Option Record) :=
  match Text.decode? line with
  | some line => Record.parseNumbered number line
  | none => .error (.unreadable "stream did not contain valid UTF-8")

/-- Adds the records on the coming lines to those read so far. The first line
    that cannot be read ends the reading. -/
def readLines (number : Nat) (records : Array Record) :
    List (List UInt8) → Except ReadError (Array Record)
  | [] => .ok records
  | line :: lines =>
    match readLine number line with
    | .ok none => readLines (number + 1) records lines
    | .ok (some record) => readLines (number + 1) (records.push record) lines
    | .error error => .error error

/-- The records of a trace. Lines are numbered from one, skipped lines
    included. -/
def read (bytes : List UInt8) : Except ReadError (List Record) :=
  Array.toList <$> readLines 1 #[] (Text.lines bytes)

end HeapReplay.Trace
