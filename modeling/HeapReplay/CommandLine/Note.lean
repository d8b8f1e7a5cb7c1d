import HeapReplay.Log
import HeapReplay.Text.Control
import HeapReplay.Trace.Samples

namespace HeapReplay.CommandLine

/-- A moment in universal time. -/
structure Moment where
  year : Nat
  month : Nat
  day : Nat
  hour : Nat
  minute : Nat
  second : Nat
  microsecond : Nat
  deriving DecidableEq, Repr

/-- The digits of a number, with zeros in front of them up to a width. -/
def padded (width n : Nat) : String :=
  let digits := Nat.toDigits 10 n
  String.ofList (List.replicate (width - digits.length) '0' ++ digits)

/-- Date and time of a moment, to the microsecond. -/
def Moment.text (moment : Moment) : String :=
  "-".intercalate [padded 4 moment.year, padded 2 moment.month, padded 2 moment.day]
    ++ "T" ++ ":".intercalate [padded 2 moment.hour, padded 2 moment.minute, padded 2 moment.second]
    ++ "." ++ padded 6 moment.microsecond ++ "Z"

/-- What a run notes in its log: that the log is open, that a trace has been read,
    that samples have been taken from its records. The notes of a simulation are left
    out. -/
inductive Note where
  | opened (level : LogLevel) (path : String)
  | read (records : Nat)
  | extracted (samples : Trace.Samples) (records : Nat)
  deriving DecidableEq, Repr

namespace Note

def message : Note → String
  | .opened level path => "Logging at " ++ level.name.toUpper ++ ", run log at " ++ path
  | .read records => s!"Read {records} trace records"
  | .extracted samples records =>
    s!"Extracted {samples.sizes.length} sizes, {samples.intervals.length} intervals, "
      ++ s!"{samples.lifetimes.length} lifetimes from {records} records"

/-- The line of a note in the log. It names the place in the program that the note
    comes from. -/
def line (note : Note) (origin : String) (moment : Moment) : String :=
  moment.text ++ " DEBUG " ++ origin ++ ": " ++ Text.disarmed note.message ++ "\n"

end Note
end HeapReplay.CommandLine
