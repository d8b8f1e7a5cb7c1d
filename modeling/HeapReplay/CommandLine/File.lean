namespace HeapReplay.CommandLine

/-- Why an operation on a file fails. -/
inductive FileError where
  | missing
  | alreadyExists
  | notFolder
  | isFolder
  | noSpace
  | nameTooLong
  | other (text : String)
  deriving DecidableEq, Repr

def FileError.message : FileError → String
  | .missing => "No such file or directory (os error 2)"
  | .alreadyExists => "File exists (os error 17)"
  | .notFolder => "Not a directory (os error 20)"
  | .isFolder => "Is a directory (os error 21)"
  | .noSpace => "No space left on device (os error 28)"
  | .nameTooLong => "File name too long (os error 36)"
  | .other text => text

/-- Writes bytes over others from an offset on. A gap in front of the offset is filled
    with zeros. -/
def writeOver (offset : Nat) (new old : List UInt8) : List UInt8 :=
  (old ++ List.replicate (offset - old.length) 0).take offset ++ new
    ++ old.drop (offset + new.length)

/-- What a file gives when it is read: it cannot be opened, it is open but cannot
    be read, or it has content. -/
inductive FileContent where
  | unopened (error : FileError)
  | unreadable (error : FileError)
  | bytes (content : List UInt8)
  deriving DecidableEq, Repr

end HeapReplay.CommandLine
