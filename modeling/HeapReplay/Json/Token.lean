import HeapReplay.Decimal.Literal
import HeapReplay.Json.Value
import HeapReplay.Text.Line

namespace HeapReplay.Json

/-- A token of JSON text. Numbers, strings and names are values of their own. -/
inductive Token where
  | openArray
  | closeArray
  | openObject
  | closeObject
  | comma
  | colon
  | scalar (value : Json)

/-- Reads the exponent of a number: nothing, or a mark and a signed whole
    number. -/
def Number.readExponent? : List Char → Option Int
  | [] => some 0
  | 'e' :: rest | 'E' :: rest => Decimal.readExponent? rest
  | _ => none

/-- The number of digits of a decimal that are looked at. It is enough to tell any
    decimal within it from the points halfway between two doubles. -/
def Number.digitLimit : Nat := 768

/-- The decimal of the digits in front of a point and of those behind it. Zeros that
    start it or end its fraction do not count as digits. When there are more digits
    than are looked at, the number is taken to be above those, even if zeros are
    all that follows. -/
def Number.ofDigits (negative : Bool) (whole fraction : List Char) (exponent : Int) : Decimal :=
  let fraction := (fraction.reverse.dropWhile (· == '0')).reverse
  let digits := (whole ++ fraction).dropWhile (· == '0')
  let exponent := exponent - fraction.length
  if digits.length ≤ digitLimit then ⟨negative, Decimal.digitsValue digits, exponent⟩
  else
    ⟨negative, Decimal.digitsValue (digits.take digitLimit ++ ['1']),
      exponent + (digits.length - digitLimit - 1 : Nat)⟩

/-- Reads a number without its sign. The whole part does not start with a zero
    that is followed by a digit, and a point has digits on both sides. -/
def Number.readMagnitude? (negative : Bool) (text : List Char) : Option Number := do
  let whole := text.takeWhile Char.isDigit
  if whole.isEmpty || (whole.head? == some '0' && whole.length != 1) then none
  match text.dropWhile Char.isDigit with
  | [] => some (.whole negative (Decimal.digitsValue whole))
  | '.' :: rest =>
    let fraction := rest.takeWhile Char.isDigit
    if fraction.isEmpty then none
    let exponent ← readExponent? (rest.dropWhile Char.isDigit)
    some (.decimal (ofDigits negative whole fraction exponent))
  | rest =>
    let exponent ← readExponent? rest
    some (.decimal (ofDigits negative whole [] exponent))

/-- Reads a number. -/
def Number.read? : List Char → Option Number
  | '-' :: rest => readMagnitude? true rest
  | text => readMagnitude? false text

/-- Whether a byte can belong to a number. -/
def isNumberByte (byte : UInt8) : Bool :=
  "+-.0123456789Ee".toList.contains (Char.ofNat byte.toNat)

/-- What stands between the quotes of a string: bytes, and code units written as
    escapes. -/
inductive Piece where
  | byte (value : UInt8)
  | unit (value : Nat)
  deriving DecidableEq, Repr

/-- The byte that an escape letter stands for. -/
def escaped? (letter : UInt8) : Option UInt8 :=
  match Char.ofNat letter.toNat with
  | '"' => some 0x22
  | '\\' => some 0x5c
  | '/' => some 0x2f
  | 'b' => some 0x08
  | 'f' => some 0x0c
  | 'n' => some 0x0a
  | 'r' => some 0x0d
  | 't' => some 0x09
  | _ => none

/-- The value of a hexadecimal digit. -/
def hexDigit? (byte : UInt8) : Option Nat :=
  let c := Char.ofNat byte.toNat
  if c.isDigit then some (c.toNat - '0'.toNat)
  else if 'a' ≤ c ∧ c ≤ 'f' then some (c.toNat - 'a'.toNat + 10)
  else if 'A' ≤ c ∧ c ≤ 'F' then some (c.toNat - 'A'.toNat + 10)
  else none

/-- The code unit written in four hexadecimal digits. -/
def codeUnit? (a b c d : UInt8) : Option Nat := do
  let a ← hexDigit? a
  let b ← hexDigit? b
  let c ← hexDigit? c
  let d ← hexDigit? d
  some (((a * 16 + b) * 16 + c) * 16 + d)

/-- The pieces of a string up to its closing quote, and how many bytes they take
    with that quote. Control characters have to be escaped. -/
def pieces? : List UInt8 → Option (List Piece × Nat)
  | [] => none
  | 0x22 :: _ => some ([], 1)
  | 0x5c :: 0x75 :: a :: b :: c :: d :: rest => do
    let unit ← codeUnit? a b c d
    let (pieces, length) ← pieces? rest
    some (.unit unit :: pieces, length + 6)
  | 0x5c :: letter :: rest => do
    let byte ← escaped? letter
    let (pieces, length) ← pieces? rest
    some (.byte byte :: pieces, length + 2)
  | byte :: rest => do
    if byte < 0x20 then none
    let (pieces, length) ← pieces? rest
    some (.byte byte :: pieces, length + 1)

/-- The UTF-8 bytes of a code point. -/
def utf8 (codePoint : Nat) : List UInt8 := (String.singleton (Char.ofNat codePoint)).toUTF8.toList

/-- The bytes that pieces stand for. Two code units may be the halves of one code
    point; a half on its own stands for nothing. -/
def assemble? : List Piece → Option (List UInt8)
  | [] => some []
  | .byte byte :: rest => (byte :: ·) <$> assemble? rest
  | .unit high :: .unit low :: rest =>
    if 0xd800 ≤ high ∧ high < 0xdc00 then
      if 0xdc00 ≤ low ∧ low < 0xe000 then
        (utf8 (0x10000 + (high - 0xd800) * 0x400 + (low - 0xdc00)) ++ ·) <$> assemble? rest
      else none
    else if 0xdc00 ≤ high ∧ high < 0xe000 then none
    else (utf8 high ++ ·) <$> assemble? (.unit low :: rest)
  | .unit unit :: rest =>
    if 0xd800 ≤ unit ∧ unit < 0xe000 then none else (utf8 unit ++ ·) <$> assemble? rest

/-- The token that starts with a byte, and how many of the bytes behind it belong
    to it. -/
def Token.start? (first : UInt8) (rest : List UInt8) : Option (Token × Nat) :=
  let name (letters : String) (value : Json) : Option (Token × Nat) :=
    let letters := letters.toUTF8.toList
    if letters.isPrefixOf rest then some (.scalar value, letters.length) else none
  match Char.ofNat first.toNat with
  | '[' => some (.openArray, 0)
  | ']' => some (.closeArray, 0)
  | '\x7b' => some (.openObject, 0)
  | '\x7d' => some (.closeObject, 0)
  | ',' => some (.comma, 0)
  | ':' => some (.colon, 0)
  | 't' => name "rue" (.bool true)
  | 'f' => name "alse" (.bool false)
  | 'n' => name "ull" .null
  | '"' => do
    let (pieces, length) ← pieces? rest
    some (.scalar (.string ((assemble? pieces).bind Text.decode?)), length)
  | _ => do
    let digits := (first :: rest).takeWhile isNumberByte
    let number ← Number.read? (digits.map fun byte => Char.ofNat byte.toNat)
    some (.scalar (.number number), digits.length - 1)

/-- Whether a byte may stand between tokens. -/
def isSpace (byte : UInt8) : Bool := byte == 0x20 || byte == 0x09 || byte == 0x0a || byte == 0x0d

/-- The tokens of JSON text. -/
def tokens? : List UInt8 → Option (List Token)
  | [] => some []
  | byte :: rest =>
    if isSpace byte then tokens? rest
    else
      match Token.start? byte rest with
      | none => none
      | some (token, length) => (token :: ·) <$> tokens? (rest.drop length)
termination_by bytes => bytes.length

end HeapReplay.Json
