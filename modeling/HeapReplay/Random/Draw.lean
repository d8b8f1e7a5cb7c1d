import HeapReplay.Random.Generator

namespace HeapReplay.Random

/-- A random value: how it is drawn from a generator. -/
abbrev Draw (α : Type) := StateM Generator α

namespace Draw

/-- A word of 64 bits. -/
def word : Draw UInt64 := fun g => g.word64

/-- Draws `count` values and puts them behind those drawn before. -/
def into {α : Type} (draw : Draw α) (drawn : Array α) : Nat → Draw (Array α)
  | 0, g => (drawn, g)
  | count + 1, g =>
    let (value, g) := draw g
    into draw (drawn.push value) count g

/-- Draws `count` values one after the other. -/
def many {α : Type} (draw : Draw α) (count : Nat) : Draw (List α) :=
  Array.toList <$> draw.into #[] count

/-- A list of doubles has to be shorter than this to fit into the address space. That
    memory holds the shorter ones, and all that is made from them, is taken for granted. -/
def valueLimit : Nat := 0x1000000000000000

/-- Draws `count` doubles, unless a list of so many does not fit into the address space:
    then none is drawn. -/
def many? (draw : Draw Float) (count : Nat) : StateT Generator Option (List Float) := fun g =>
  if valueLimit ≤ count then none else some (draw.many count g)

/-- A double of the binade from one to two, with the fraction taken from the high
    bits of a word. -/
def oneToTwo : Draw Float := do
  let w ← word
  pure (.ofBits (w >>> 12 ||| 0x3ff0000000000000))

/-- A multiple of `2 ^ -53` in the interval from zero to one without one. -/
def unit : Draw Float := do
  let w ← word
  pure ((w >>> 11).toFloat * .ofBits 0x3ca0000000000000)

/-- One less half of the distance between one and the next double. -/
def belowOne : Float := .ofBits 0x3fefffffffffffff

/-- A double strictly between zero and one. -/
def openUnit : Draw Float := do
  let x ← oneToTwo
  pure (x - belowOne)

end Draw
end HeapReplay.Random
