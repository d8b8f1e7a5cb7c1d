import HeapReplay.CommandLine.Host

namespace HeapReplay.CommandLine

/-- What becomes of the bytes that are written to a device. -/
inductive Outlet where
  | swallow
  | print
  | full
  deriving DecidableEq, Repr

/-- A file, a folder of named entries, or a device, which keeps nothing of what is
    written to it and always gives the same content. Nothing can be made in a folder
    that is fixed. -/
inductive Entry where
  | file (content : List UInt8)
  | folder (entries : List (String × Entry)) (isFixed : Bool)
  | device (content : List UInt8) (outlet : Outlet)
  deriving Repr

namespace Entry

def isFolder : Entry → Bool
  | .folder _ _ => true
  | _ => false

/-- Whether it is a folder in which nothing can be made. -/
def isFixedFolder : Entry → Bool
  | .folder _ isFixed => isFixed
  | _ => false

/-- An entry of a folder. -/
def child? (name : String) : Entry → Except FileError Entry
  | .folder entries _ =>
    match entries.lookup name with
    | some entry => .ok entry
    | none => .error .missing
  | _ => .error .notFolder

/-- The entry that names lead to. -/
def find? (entry : Entry) : List String → Except FileError Entry
  | [] => .ok entry
  | name :: names => do
    let child ← entry.child? name
    child.find? names

/-- Puts an entry where names lead to, in place of one that is there. Folders on
    the way are made as needed. -/
def put (entry : Entry) : List String → Entry → Entry
  | [], _ => entry
  | name :: names, .folder entries isFixed =>
    let child := (entries.lookup name).getD (.folder [] false)
    .folder ((name, put entry names child) :: entries.filter (·.1 != name)) isFixed
  | _, target => target

/-- Puts a file at a path in a folder. -/
def withFile (entry : Entry) (path : String) (content : List UInt8) : Entry :=
  put (.file content) (Path.parts path) entry

end Entry

/-- A log: the names that lead to its file, and the number of bytes written to it. -/
structure OpenLog where
  names : List String
  written : Nat := 0

/-- A machine that consists of a tree of files. -/
structure Machine where
  root : Entry
  /-- The names that lead to the working folder. -/
  working : List String
  log : Option OpenLog := none
  /-- What was printed by way of a device. -/
  printed : List UInt8 := []

namespace Machine

/-- Where a part of a path leads to from a place. A place is a list of names from
    the root, the last name first. -/
def step (machine : Machine) (place : List String) (part : String) :
    Except FileError (List String) := do
  match ← machine.root.find? place.reverse with
  | .folder entries _ =>
    if part = "." then .ok place
    else if part = ".." then .ok place.tail
    else if Path.nameLimit < part.utf8ByteSize then .error .nameTooLong
    else if (entries.lookup part).isSome then .ok (part :: place)
    else .error .missing
  | _ => .error .notFolder

/-- The place of the folder around the last part of a path. -/
def placeAround (machine : Machine) (path : Path) : Except FileError (List String) := do
  let start := if path.isAbsolute then [] else machine.working.reverse
  let place ← path.around.foldlM machine.step start
  if (← machine.root.find? place.reverse).isFolder then .ok place else .error .notFolder

/-- The entry at a path, with the names that lead to it from the root. -/
def locate (machine : Machine) (path : String) : Except FileError (List String × Entry) := do
  let path ← Path.ofString path
  let around ← machine.placeAround path
  let place ←
    match path.last with
    | none => .ok around
    | some part => machine.step around part
  let entry ← machine.root.find? place.reverse
  if path.endsInSlash && !entry.isFolder then .error .notFolder else .ok (place.reverse, entry)

/-- The entry at a path. -/
def entryAt (machine : Machine) (path : String) : Except FileError Entry := do
  let (_, entry) ← machine.locate path
  .ok entry

/-- Whether there is something at a path. -/
def pathExists (machine : Machine) (path : String) : Bool :=
  match machine.entryAt path with
  | .ok _ => true
  | .error _ => false

/-- Reads a file. A folder can be opened but not read. -/
def read (machine : Machine) (path : String) : FileContent :=
  match machine.entryAt path with
  | .ok (.file content) => .bytes content
  | .ok (.device content _) => .bytes content
  | .ok (.folder _ _) => .unreadable .isFolder
  | .error error => .unopened error

/-- Puts a new entry into the folder at a place. -/
def addEntry (machine : Machine) (around : List String) (name : String) (entry : Entry) :
    Except FileError Machine := do
  if (← machine.root.find? around.reverse).isFixedFolder then .error .missing
  else .ok { machine with root := Entry.put entry (name :: around).reverse machine.root }

/-- Creates a file under a name in the folder at a place, or empties it. -/
def createIn (machine : Machine) (around : List String) (name : String) :
    Except FileError Machine :=
  match (machine.step around name).bind fun _ => machine.root.find? (name :: around).reverse with
  | .ok (.folder _ _) => .error .isFolder
  | .ok (.device _ _) => .ok machine
  | .ok (.file _) =>
    .ok { machine with root := Entry.put (.file []) (name :: around).reverse machine.root }
  | .error .missing => machine.addEntry around name (.file [])
  | .error error => .error error

/-- Creates a file in a folder that is there, or empties it. A path that ends in dots
    or a slash stands for a folder, even if there is none. -/
def createFile (machine : Machine) (path : String) : Except FileError Machine := do
  let path ← Path.ofString path
  let around ← machine.placeAround path
  match path.last with
  | none => .error .isFolder
  | some name =>
    if Path.isDots name || path.endsInSlash then .error .isFolder
    else machine.createIn around name

/-- Writes over the start of a file, or to a device. -/
def overwriteFile (machine : Machine) (path : String) (content : List UInt8) :
    Except FileError Machine := do
  match ← machine.locate path with
  | (names, .file old) =>
    .ok { machine with root := Entry.put (.file (writeOver 0 content old)) names machine.root }
  | (_, .folder _ _) => .error .isFolder
  | (_, .device _ .swallow) => .ok machine
  | (_, .device _ .print) => .ok { machine with printed := machine.printed ++ content }
  | (_, .device _ .full) => .error .noSpace

/-- Creates the file of the log, or empties it. -/
def startLog (machine : Machine) (path : String) : Except FileError Machine := do
  let machine ← machine.createFile path
  let (names, _) ← machine.locate path
  .ok { machine with log := some { names } }

/-- Writes to the log behind what was written to it before, whatever has become of its
    file. -/
def writeLog (machine : Machine) (text : List UInt8) : Machine :=
  match machine.log with
  | none => machine
  | some log =>
    match machine.root.find? log.names with
    | .ok (.file old) =>
      { machine with
        root := Entry.put (.file (writeOver log.written text old)) log.names machine.root
        log := some { log with written := log.written + text.length } }
    | _ => machine

/-- Makes an empty folder in a folder that is there. -/
def makeFolder (machine : Machine) (path : String) : Except FileError Machine := do
  let path ← Path.ofString path
  let around ← machine.placeAround path
  match path.last with
  | none => .error .alreadyExists
  | some name =>
    if Path.isDots name then .error .alreadyExists
    else
      match machine.step around name with
      | .ok _ => .error .alreadyExists
      | .error .missing => machine.addEntry around name (.folder [] false)
      | .error error => .error error

/-- Carries out an operation that changes the machine, unless it fails. -/
def attempt (operation : Machine → Except FileError Machine) :
    StateM Machine (Except FileError Unit) := fun machine =>
  match operation machine with
  | .ok machine => (.ok (), machine)
  | .error error => (.error error, machine)

/-- The machine as a host, with its input, the seed that it draws, the time that its
    clock shows, and the origins of notes. -/
def host (input : List UInt8) (seed : UInt64) (now : Moment) (origin : Note → String) :
    Host (StateM Machine) where
  readInput := pure (.bytes input)
  readFile path := fun machine => (machine.read path, machine)
  createFile path := attempt (·.createFile path)
  overwriteFile path content := attempt (·.overwriteFile path content)
  startLog path := attempt (·.startLog path)
  writeLog text := modify (·.writeLog text.toUTF8.toList)
  makeFolder path := attempt (·.makeFolder path)
  isFolder path := fun machine =>
    (match machine.entryAt path with
      | .ok entry => entry.isFolder
      | .error _ => false, machine)
  drawSeed := pure seed
  now := pure now
  origin

end Machine
end HeapReplay.CommandLine
