import HeapReplay.Text.Blank
import HeapReplay.Text.Numeral

namespace HeapReplay.Trace

/-- A call that a traced process made on its heap. -/
inductive Call where
  | malloc (size address : UInt64)
  | free (address : UInt64)
  deriving DecidableEq, Repr

/-- A heap call with the process that made it and the time it was made. -/
structure Record where
  pid : UInt32
  timestamp : UInt64
  call : Call
  deriving DecidableEq, Repr

/-- The numbers of a record. -/
inductive Field where
  | size
  | address
  | pid
  | timestamp
  deriving DecidableEq, Repr

def Field.name : Field → String
  | .size => "size"
  | .address => "address"
  | .pid => "pid"
  | .timestamp => "timestamp"

/-- A word that stands where a number should. -/
structure FieldError where
  field : Field
  word : List Char
  deriving DecidableEq, Repr

def FieldError.message (error : FieldError) : String :=
  s!"invalid {error.field.name} '" ++ String.ofList error.word ++ "'"

/-- Why a trace cannot be read: a line that is no record, or a source that gives
    no text. -/
inductive ReadError where
  | malformed (line : Nat) (reason : String)
  | unreadable (reason : String)
  deriving DecidableEq, Repr

def ReadError.message : ReadError → String
  | .malformed line reason => s!"Malformed trace record on line {line}: " ++ reason
  | .unreadable reason => "Failed to read trace: " ++ reason

/-- Reads the number of a field from its word. -/
def Field.read (field : Field) (word : List Char) : Except FieldError UInt64 :=
  match Text.readWord? word with
  | some value => .ok value
  | none => .error ⟨field, word⟩

/-- Reads a process number, which is narrower than a word. -/
def readPid (word : List Char) : Except FieldError UInt32 :=
  match Text.readBelow? UInt32.size word with
  | some value => .ok (.ofNat value)
  | none => .error ⟨.pid, word⟩

/-- Reads the numbers in front of a call. -/
def Call.toRecord (call : Call) (pid timestamp : List Char) : Except FieldError Record := do
  let pid ← readPid pid
  let timestamp ← Field.timestamp.read timestamp
  pure ⟨pid, timestamp, call⟩

/-- The record that a list of words describes, if it describes one: a process, a
    time, the name of a call and its arguments. Words past the arguments are
    ignored, and so are unknown or incomplete calls. The arguments are read before
    the process and the time. -/
def Record.ofWords : List (List Char) → Except FieldError (Option Record)
  | pid :: timestamp :: ['m', 'a', 'l', 'l', 'o', 'c'] :: size :: address :: _ => do
    let size ← Field.size.read size
    let address ← Field.address.read address
    some <$> (Call.malloc size address).toRecord pid timestamp
  | pid :: timestamp :: ['f', 'r', 'e', 'e'] :: address :: _ => do
    let address ← Field.address.read address
    some <$> (Call.free address).toRecord pid timestamp
  | _ => .ok none

/-- The record on a line, if there is one. -/
def Record.parse (line : String) : Except FieldError (Option Record) :=
  Record.ofWords (Text.words line.toList)

/-- The record on a numbered line, if there is one. -/
def Record.parseNumbered (number : Nat) (line : String) : Except ReadError (Option Record) :=
  match Record.parse line with
  | .ok record => .ok record
  | .error error => .error (.malformed number error.message)

end HeapReplay.Trace
