import HeapReplay.Decimal.Basic

namespace HeapReplay

/-- A number as it is written: a whole number without point and exponent, or a
    decimal. Only the first kind can stand for a count. -/
inductive Json.Number where
  | whole (negative : Bool) (magnitude : Nat)
  | decimal (value : Decimal)
  deriving DecidableEq, Repr

/-- A JSON value. Members keep their order and may repeat a key. A string is
    `none` when what is between its quotes is no text: it can be skipped but not
    be used. -/
inductive Json where
  | null
  | bool (value : Bool)
  | number (value : Json.Number)
  | string (text : Option String)
  | array (items : List Json)
  | object (members : List (Option String × Json))

namespace Json

/-- A count. -/
def nat (n : Nat) : Json := .number (.whole false n)

/-- A word. -/
def word (w : UInt64) : Json := nat w.toNat

/-- A text. -/
def text (s : String) : Json := .string (some s)

/-- A record with its fields in order. -/
def record (fields : List (String × Json)) : Json :=
  .object (fields.map fun (name, value) => (some name, value))

/-- A list of values that share a form. -/
def list {α : Type} (form : α → Json) (values : List α) : Json := .array (values.map form)

/-- A value or null. -/
def optional {α : Type} (form : α → Json) : Option α → Json
  | none => .null
  | some value => form value

end Json
end HeapReplay
