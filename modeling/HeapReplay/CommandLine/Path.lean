import HeapReplay.CommandLine.File

namespace HeapReplay.CommandLine

/-- A path in its parts. Slashes in a row count as one. -/
structure Path where
  /-- Whether it leads from the root, and not from the working folder. -/
  isAbsolute : Bool
  /-- The parts before the last one. They have to lead to a folder. -/
  around : List String
  /-- The last part; none when the path is nothing but slashes. -/
  last : Option String
  /-- Whether slashes follow the last part, which then stands for a folder. -/
  endsInSlash : Bool
  deriving DecidableEq, Repr

namespace Path

/-- A path has fewer bytes than this. -/
def lengthLimit : Nat := 4096

/-- The largest number of bytes in a name. -/
def nameLimit : Nat := 255

/-- What stands between the slashes of a path. -/
def parts (text : String) : List String := (text.splitOn "/").filter (!·.isEmpty)

/-- Whether a part leads to the folder itself or back, and so is no name. -/
def isDots (part : String) : Bool := part == "." || part == ".."

/-- Reads a path, which must be neither empty nor too long. -/
def ofString (text : String) : Except FileError Path :=
  if text.isEmpty then .error .missing
  else if lengthLimit ≤ text.utf8ByteSize then .error .nameTooLong
  else
    let parts := parts text
    .ok
      { isAbsolute := text.startsWith "/"
        around := parts.dropLast
        last := parts.getLast?
        endsInSlash := text.endsWith "/" }

/-- The path of an entry of a folder. -/
def join (folder name : String) : String :=
  if folder.endsWith "/" then folder ++ name else folder ++ "/" ++ name

end Path
end HeapReplay.CommandLine
