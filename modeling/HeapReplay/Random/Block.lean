namespace HeapReplay.Random

/-- Four words of 32 bits. -/
structure Row where
  a : UInt32
  b : UInt32
  c : UInt32
  d : UInt32
  deriving DecidableEq, Repr

namespace Row

/-- Applies an operation place by place. -/
def zip (f : UInt32 → UInt32 → UInt32) (x y : Row) : Row :=
  ⟨f x.a y.a, f x.b y.b, f x.c y.c, f x.d y.d⟩

/-- Turns the bits of each word to the left. -/
def turnBits (x : Row) (places : UInt32) : Row :=
  let turn (w : UInt32) := w <<< places ||| w >>> (32 - places)
  ⟨turn x.a, turn x.b, turn x.c, turn x.d⟩

/-- Turns the words of a row by one place to the left. -/
def shift (x : Row) : Row := ⟨x.b, x.c, x.d, x.a⟩

def toList (x : Row) : List UInt32 := [x.a, x.b, x.c, x.d]

end Row

/-- A square of sixteen words: a constant row, two rows of a key, and a row with
    the number of the block. -/
structure Block where
  constant : Row
  keyLow : Row
  keyHigh : Row
  number : Row
  deriving DecidableEq, Repr

namespace Block

/-- Mixes the four columns of a square. -/
def mixColumns (x : Block) : Block :=
  let a := x.constant.zip (· + ·) x.keyLow
  let d := (x.number.zip (· ^^^ ·) a).turnBits 16
  let c := x.keyHigh.zip (· + ·) d
  let b := (x.keyLow.zip (· ^^^ ·) c).turnBits 12
  let a := a.zip (· + ·) b
  let d := (d.zip (· ^^^ ·) a).turnBits 8
  let c := c.zip (· + ·) d
  let b := (b.zip (· ^^^ ·) c).turnBits 7
  ⟨a, b, c, d⟩

/-- Turns each row so that the diagonals become columns. -/
def slant (x : Block) : Block :=
  ⟨x.constant, x.keyLow.shift, x.keyHigh.shift.shift, x.number.shift.shift.shift⟩

/-- Turns each row so that the columns become diagonals again. -/
def unslant (x : Block) : Block :=
  ⟨x.constant, x.keyLow.shift.shift.shift, x.keyHigh.shift.shift, x.number.shift⟩

/-- Mixes the columns and then the diagonals. -/
def doubleRound (x : Block) : Block := x.mixColumns.slant.mixColumns.unslant

/-- The words that a square stands for: those of the square after four double
    rounds, added to its own. This is the block function of ChaCha with eight
    rounds. -/
def words (x : Block) : List UInt32 :=
  let y := x.doubleRound.doubleRound.doubleRound.doubleRound
  let add (own mixed : Row) := (own.zip (· + ·) mixed).toList
  add x.constant y.constant ++ add x.keyLow y.keyLow ++ add x.keyHigh y.keyHigh
    ++ add x.number y.number

end Block
end HeapReplay.Random
