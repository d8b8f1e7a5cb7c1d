import HeapReplay.CommandLine.Note
import HeapReplay.CommandLine.Path

namespace HeapReplay.CommandLine

/-- What a command needs from the machine that it runs on. -/
structure Host (m : Type → Type) where
  readInput : m FileContent
  readFile : String → m FileContent
  /-- Creates a file or empties it. -/
  createFile : String → m (Except FileError Unit)
  /-- Writes over the start of a file that is there; the rest of it stays. -/
  overwriteFile : String → List UInt8 → m (Except FileError Unit)
  /-- Creates a file or empties it, and makes it the log. -/
  startLog : String → m (Except FileError Unit)
  /-- Writes behind what was written to the log before. Without a log, nothing
      happens. -/
  writeLog : String → m Unit
  makeFolder : String → m (Except FileError Unit)
  isFolder : String → m Bool
  drawSeed : m UInt64
  now : m Moment
  /-- The place in the program that a note comes from, as the log names it. -/
  origin : Note → String

namespace Host

variable {m : Type → Type} [Monad m]

/-- Reads a file, or the standard input in place of one. -/
def readTrace (host : Host m) : Option String → m FileContent
  | some path => host.readFile path
  | none => host.readInput

/-- Writes a note to the log. -/
def note (host : Host m) (note : Note) : m Unit := do
  host.writeLog (note.line (host.origin note) (← host.now))

/-- Makes a folder. When the folder around it is missing, `makeAround` makes that
    one first. A folder that is there already is no failure. -/
def makeFolderAfter (host : Host m) (path : String) (makeAround : m (Except FileError Unit)) :
    m (Except FileError Unit) := do
  let settle (made : Except FileError Unit) : m (Except FileError Unit) := do
    match made with
    | .ok () => pure (.ok ())
    | .error error => if ← host.isFolder path then pure (.ok ()) else pure (.error error)
  match ← host.makeFolder path with
  | .error .missing =>
    match ← makeAround with
    | .error error => pure (.error error)
    | .ok () => settle (← host.makeFolder path)
  | made => settle made

/-- Makes the folder that names lead to from a root, the last name first, and those
    around it as needed. -/
def makeFoldersUnder (host : Host m) (root : String) : List String → m (Except FileError Unit)
  | [] => pure (.ok ())
  | name :: around =>
    host.makeFolderAfter (root ++ "/".intercalate (name :: around).reverse)
      (host.makeFoldersUnder root around)

/-- Makes a folder and those around it as needed. Parts that are a dot count in the
    path of the folder itself, but lead to no folder around it. -/
def makeFolders (host : Host m) (path : String) : m (Except FileError Unit) :=
  let root := if path.startsWith "/" then "/" else ""
  let names := ((Path.parts path).filter (· != ".")).reverse
  host.makeFolderAfter path (host.makeFoldersUnder root names.tail)

end Host
end HeapReplay.CommandLine
