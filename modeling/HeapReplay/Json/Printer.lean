import HeapReplay.Decimal.Layout
import HeapReplay.Json.Value

namespace HeapReplay.Json

/-- Decimals are written positionally from five places behind the point to
    sixteen in front of it, and a whole one ends in `.0`. -/
def Number.layout : Decimal.Layout where
  positionalFrom := some (-5)
  positionalTo := some 15
  wholePoint := true
  exponentPlus := "+"
  tie := .even

def Number.render : Number → String
  | .whole negative magnitude => (if negative then "-" else "") ++ toString magnitude
  | .decimal value => layout.render value

/-- A double by its shortest digits; null when it is not finite. -/
def ofFloat (x : Float) : Json :=
  match Binary64.datum x with
  | .finite negative significand exponent =>
    .number (.decimal (Decimal.shortest Number.layout.tie negative significand exponent))
  | _ => .null

/-- A character as it is written between quotes. -/
def escape (c : Char) : String :=
  if c = '"' then "\\\""
  else if c = '\\' then "\\\\"
  else if c = '\n' then "\\n"
  else if c = '\r' then "\\r"
  else if c = '\t' then "\\t"
  else if c.toNat = 0x08 then "\\b"
  else if c.toNat = 0x0c then "\\f"
  else if c.toNat < 0x20 then
    "\\u00" ++ String.ofList (Nat.toDigits 16 (c.toNat / 16) ++ Nat.toDigits 16 (c.toNat % 16))
  else c.toString

def quote (s : String) : String := "\"" ++ s.foldl (fun text c => text ++ escape c) "" ++ "\""

/-- What separates the items of a container, and a key from its value. -/
structure Spacing where
  /-- The line break and indent in front of an item at a depth. -/
  breakAt : Nat → String
  afterColon : String

/-- Everything on one line without blanks. -/
def Spacing.compact : Spacing := ⟨fun _ => "", ""⟩

/-- One item a line, indented by two blanks for each container around it. -/
def Spacing.indented : Spacing := ⟨fun depth => "\n" ++ "".pushn ' ' (2 * depth), " "⟩

mutual

/-- Writes a value that stands inside `depth` containers. An empty container has
    nothing between its brackets. -/
def write (spacing : Spacing) (depth : Nat) : Json → String
  | .null => "null"
  | .bool value => if value then "true" else "false"
  | .number value => value.render
  | .string text => quote (text.getD "")
  | .array [] => "[]"
  | .array (item :: items) =>
    writeItems spacing (depth + 1)
        ("[" ++ spacing.breakAt (depth + 1) ++ write spacing (depth + 1) item) items
      ++ spacing.breakAt depth ++ "]"
  | .object [] => "\x7b\x7d"
  | .object ((key, value) :: members) =>
    writeMembers spacing (depth + 1)
        ("\x7b" ++ spacing.breakAt (depth + 1) ++ quote (key.getD "") ++ ":" ++ spacing.afterColon
          ++ write spacing (depth + 1) value) members
      ++ spacing.breakAt depth ++ "\x7d"

/-- Writes further items behind a text. -/
def writeItems (spacing : Spacing) (depth : Nat) (text : String) : List Json → String
  | [] => text
  | item :: items =>
    writeItems spacing depth (text ++ "," ++ spacing.breakAt depth ++ write spacing depth item) items

/-- Writes further members behind a text. -/
def writeMembers (spacing : Spacing) (depth : Nat) (text : String) :
    List (Option String × Json) → String
  | [] => text
  | (key, value) :: members =>
    writeMembers spacing depth
      (text ++ "," ++ spacing.breakAt depth ++ quote (key.getD "") ++ ":" ++ spacing.afterColon
        ++ write spacing depth value) members

end

/-- Writes a value on one line. -/
def compact (json : Json) : String := json.write .compact 0

/-- Writes a value over many lines. -/
def indented (json : Json) : String := json.write .indented 0

end HeapReplay.Json
