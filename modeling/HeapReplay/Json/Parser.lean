import HeapReplay.Json.Token

namespace HeapReplay.Json

/-- A container that is read in part: the items or members so far, the last one
    first, and the key of the member that is being read. -/
inductive Frame where
  | array (items : List Json)
  | object (members : List (Option String × Json)) (key : Option String)

mutual

/-- Reads a value inside the given containers, the innermost one first. -/
def readValue : List Frame → List Token → Option Json
  | frames, .scalar value :: tokens => readRest value frames tokens
  | frames, .openArray :: .closeArray :: tokens => readRest (.array []) frames tokens
  | frames, .openArray :: tokens => readValue (.array [] :: frames) tokens
  | frames, .openObject :: .closeObject :: tokens => readRest (.object []) frames tokens
  | frames, .openObject :: .scalar (.string key) :: .colon :: tokens =>
    readValue (.object [] key :: frames) tokens
  | _, _ => none

/-- Reads what follows a value inside the given containers. -/
def readRest : Json → List Frame → List Token → Option Json
  | value, [], [] => some value
  | value, .array items :: frames, .comma :: tokens =>
    readValue (.array (value :: items) :: frames) tokens
  | value, .array items :: frames, .closeArray :: tokens =>
    readRest (.array (value :: items).reverse) frames tokens
  | value, .object members key :: frames, .comma :: .scalar (.string next) :: .colon :: tokens =>
    readValue (.object ((key, value) :: members) next :: frames) tokens
  | value, .object members key :: frames, .closeObject :: tokens =>
    readRest (.object ((key, value) :: members).reverse) frames tokens
  | _, _, _ => none

end

/-- Reads JSON text that holds one value. -/
def parse? (bytes : List UInt8) : Option Json := (tokens? bytes).bind (readValue [])

end HeapReplay.Json
