import HeapReplay.CommandLine.Execution
import Std.Time.Zoned

namespace HeapReplay.CommandLine

/-- The number of an error. Some operations report it with its sign turned. -/
def errorNumber (code : UInt32) : UInt32 := if code < 0x80000000 then code else 0 - code

/-- The error of a file operation in the words of the operating system. -/
def fileError (error : IO.Error) : FileError :=
  match error with
  | .noFileOrDirectory _ _ _ | .noSuchThing _ _ _ => .missing
  | .alreadyExists _ _ _ => .alreadyExists
  | .inappropriateType _ code _ => if errorNumber code = 20 then .notFolder else .isFolder
  | .resourceExhausted _ code _ =>
    if errorNumber code = 28 then .noSpace else .other (toString error)
  | .invalidArgument _ code _ =>
    if errorNumber code = 36 then .nameTooLong else .other (toString error)
  | .permissionDenied _ code _ => .other s!"Permission denied (os error {errorNumber code})"
  | error => .other (toString error)

/-- The answer of an operation on a file that gives nothing back. -/
def attempt (action : IO Unit) : IO (Except FileError Unit) := do
  try
    action
    pure (.ok ())
  catch error => pure (.error (fileError error))

/-- The bytes of a file. A folder can be opened but not read. -/
def readContent (path : String) : IO FileContent := do
  match ← (IO.FS.Handle.mk path .read).toBaseIO with
  | .error error => pure (.unopened (fileError error))
  | .ok file =>
    match ← file.readBinToEnd.toBaseIO with
    | .error error => pure (.unreadable (fileError error))
    | .ok content => pure (.bytes content.toList)

/-- The bytes of a stream up to its end, or why they cannot be read. -/
def readAll (stream : IO.FS.Stream) : IO FileContent := do
  let mut content := ByteArray.empty
  try
    repeat
      let chunk ← stream.read 0x10000
      if chunk.isEmpty then break
      content := content ++ chunk
  catch error => return .unreadable (fileError error)
  pure (.bytes content.toList)

/-- The time of the machine's clock. -/
def clockTime : IO Moment := do
  let time := Std.Time.DateTime.ofTimestamp (← Std.Time.Timestamp.now) .UTC
  pure
    { year := time.year.toInt.toNat
      month := time.month.val.toNat
      day := time.day.val.toNat
      hour := time.hour.val.toNat
      minute := time.minute.val.toNat
      second := time.second.val.toNat
      microsecond := time.nanosecond.val.toNat / 1000 }

/-- The machine that the program runs on. -/
def host (log : IO.Ref (Option IO.FS.Handle)) : Host IO where
  readInput := do readAll (← IO.getStdin)
  readFile := readContent
  createFile path := attempt do
    let _ ← IO.FS.Handle.mk path .write
  overwriteFile path content := attempt do
    let file ← IO.FS.Handle.mk path .readWrite
    file.write content.toByteArray
    file.flush
  startLog path := attempt do log.set (some (← IO.FS.Handle.mk path .write))
  writeLog text := do
    if let some file ← log.get then
      let _ ← attempt (do file.putStr text; file.flush)
  makeFolder path := attempt (IO.FS.createDir path)
  isFolder path := do try (← IO.FS.realPath path).isDir catch _ => pure false
  drawSeed := do
    let bytes ← IO.getRandomBytes 8
    pure (bytes.toList.foldl (fun seed byte => seed * 256 + byte.toUInt64) 0)
  now := clockTime
  origin _ := "HeapReplay.CommandLine"

/-- The environment variables that override settings. -/
def settingNames : List String :=
  ["TRACEALLOC_EVENT_COUNT", "TRACEALLOC_ALIGNMENT", "TRACEALLOC_REPORT_FRACTION", "TRACEALLOC_SEED"]

end HeapReplay.CommandLine

open HeapReplay.CommandLine

def main (arguments : List String) : IO UInt32 := do
  let values ← settingNames.mapM fun name => do pure (name, ← IO.getEnv name)
  let outcome ← execute (host (← IO.mkRef none)) (fun name => (values.lookup name).join) arguments
  (← IO.getStdout).putStr outcome.output
  (← IO.getStderr).putStr outcome.complaint
  pure outcome.status.toUInt32
