import HeapReplay.Json.Value

namespace HeapReplay.Json

/-- A count below `limit`. -/
def natBelow? (limit : Nat) : Json → Option Nat
  | .number (.whole false magnitude) => if magnitude < limit then some magnitude else none
  | _ => none

/-- A count that is a word. -/
def count? (json : Json) : Option Nat := json.natBelow? UInt64.size

def word? (json : Json) : Option UInt64 := UInt64.ofNat <$> json.count?

/-- A number as the double nearest to it, when that is finite. -/
def float? : Json → Option Float
  | .number value =>
    let decimal : Decimal :=
      match value with
      | .whole negative magnitude => ⟨negative, magnitude, 0⟩
      | .decimal decimal => decimal
    let x := decimal.toFloat
    if x.isFinite then some x else none
  | _ => none

/-- A value, or none for null. -/
def optional? {α : Type} (read : Json → Option α) : Json → Option (Option α)
  | .null => some none
  | json => some <$> read json

/-- A list of values that share a form. -/
def list? {α : Type} (read : Json → Option α) : Json → Option (List α)
  | .array items => items.mapM read
  | _ => none

/-- The values of a key. -/
def valuesOf (name : String) (members : List (Option String × Json)) : List Json :=
  members.filterMap fun (key, value) => if key = some name then some value else none

/-- The value of a key that may be missing but is not repeated. -/
def member? (members : List (Option String × Json)) (name : String) : Option (Option Json) :=
  match valuesOf name members with
  | [] => some none
  | [value] => some (some value)
  | _ => none

/-- The values of named fields, each of which may be missing. An object may have
    further members, but none of its keys may be no text. An array holds exactly
    the values of all fields in order. -/
def fields? (names : List String) : Json → Option (List (Option Json))
  | .object members =>
    if members.all fun (key, _) => key.isSome then names.mapM (member? members) else none
  | .array items => if items.length = names.length then some (items.map some) else none
  | _ => none

/-- A named alternative with its content, if it has one. A name may stand alone,
    or be the only key of an object. -/
def alternative? : Json → Option (String × Option Json)
  | .string (some name) => some (name, none)
  | .object [(some name, content)] => some (name, some content)
  | _ => none

/-- The name of an alternative without content. -/
def bareName? (json : Json) : Option String :=
  match json.alternative? with
  | some (name, none) => some name
  | some (name, some .null) => some name
  | _ => none

end HeapReplay.Json
