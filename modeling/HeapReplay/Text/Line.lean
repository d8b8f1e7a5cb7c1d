namespace HeapReplay.Text

/-- Puts a byte in front of the lines that follow it. A line feed ends a line of
    its own; any other byte starts the line that it stands in front of. -/
def prependByte (byte : UInt8) (lines : List (List UInt8)) : List (List UInt8) :=
  if byte = 10 then [] :: lines
  else
    match lines with
    | [] => [[byte]]
    | line :: lines => (byte :: line) :: lines

/-- Splits bytes into lines at every line feed. The last line need not end in
    one, and there is no line after the last line feed. -/
def lines (bytes : List UInt8) : List (List UInt8) := bytes.foldr prependByte []

/-- Reads bytes as UTF-8. -/
def decode? (bytes : List UInt8) : Option String := String.fromUTF8? ⟨bytes.toArray⟩

end HeapReplay.Text
