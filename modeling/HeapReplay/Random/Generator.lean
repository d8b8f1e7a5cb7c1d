import HeapReplay.Random.Block

namespace HeapReplay.Random

/-- A generator of words: a key, the number of the next block, and the words of
    the present block that are left. -/
structure Generator where
  keyLow : Row
  keyHigh : Row
  next : UInt64 := 0
  left : List UInt32 := []
  deriving DecidableEq, Repr

namespace Generator

/-- One step of the generator that spreads a seed over a key: its next state and
    the word it gives. -/
def spread (state : UInt64) : UInt64 × UInt32 :=
  let state := state * 6364136223846793005 + 11634580027462260723
  let word := (((state >>> 18) ^^^ state) >>> 27).toUInt32
  let places := (state >>> 59).toUInt32
  (state, word >>> places ||| word <<< (32 - places))

/-- Four words of a key, and the state behind them. -/
def spreadRow (state : UInt64) : UInt64 × Row :=
  let (state, a) := spread state
  let (state, b) := spread state
  let (state, c) := spread state
  let (state, d) := spread state
  (state, ⟨a, b, c, d⟩)

/-- The generator of a seed. -/
def ofSeed (seed : UInt64) : Generator :=
  let (state, keyLow) := spreadRow seed
  let (_, keyHigh) := spreadRow state
  { keyLow, keyHigh }

/-- The constant row of every block. -/
def constant : Row := ⟨0x61707865, 0x3320646e, 0x79622d32, 0x6b206574⟩

/-- A block of the generator by its number. -/
def block (g : Generator) (number : UInt64) : Block :=
  ⟨constant, g.keyLow, g.keyHigh, ⟨number.toUInt32, (number >>> 32).toUInt32, 0, 0⟩⟩

/-- The next word of 32 bits. -/
def word32 (g : Generator) : UInt32 × Generator :=
  match g.left with
  | word :: left => (word, { g with left })
  | [] =>
    let words := (g.block g.next).words
    (words.headD 0, { g with next := g.next + 1, left := words.tail })

/-- The next word of 64 bits; its low half is drawn first. -/
def word64 (g : Generator) : UInt64 × Generator :=
  let (low, g) := g.word32
  let (high, g) := g.word32
  (low.toUInt64 ||| high.toUInt64 <<< 32, g)

/-- The next bytes, four from each word, lowest first. What is left of the last
    word is lost. -/
def bytes : Nat → Generator → List UInt8 × Generator
  | 0, g => ([], g)
  | 1, g =>
    let (w, g) := g.word32
    ([w.toUInt8], g)
  | 2, g =>
    let (w, g) := g.word32
    ([w.toUInt8, (w >>> 8).toUInt8], g)
  | 3, g =>
    let (w, g) := g.word32
    ([w.toUInt8, (w >>> 8).toUInt8, (w >>> 16).toUInt8], g)
  | count + 4, g =>
    let (w, g) := g.word32
    let (rest, g) := bytes count g
    (w.toUInt8 :: (w >>> 8).toUInt8 :: (w >>> 16).toUInt8 :: (w >>> 24).toUInt8 :: rest, g)

end Generator

/-- A generator with the seed that it started from. -/
structure SeededGenerator where
  seed : UInt64
  generator : Generator
  deriving DecidableEq, Repr

def SeededGenerator.ofSeed (seed : UInt64) : SeededGenerator := ⟨seed, .ofSeed seed⟩

end HeapReplay.Random
