import HeapReplay.Random.Draw
import HeapReplay.Random.ExponentialTable
import HeapReplay.Random.NormalTable

namespace HeapReplay.Random

/-- A decreasing density on the positive numbers cut into 256 layers of equal
    area, perhaps mirrored at zero. The widest layer holds the tail too. -/
structure Ziggurat where
  symmetric : Bool
  edges : Array UInt64
  heights : Array UInt64
  density : Float → Float
  tail : Float → Draw Float

namespace Ziggurat

/-- An entry of a table of doubles. -/
def entry (table : Array UInt64) (index : Nat) : Float := .ofBits (table.getD index 0)

/-- A place in a layer: from minus one to one when the density is mirrored, else
    from zero to one. -/
def place (z : Ziggurat) (w : UInt64) : Float :=
  if z.symmetric then .ofBits (w >>> 12 ||| 0x4000000000000000) - 3
  else .ofBits (w >>> 12 ||| 0x3ff0000000000000) - Draw.belowOne

/-- Draws by rejection: a layer and a place in it, kept when the place is under
    the next layer, is under the density, or stands for the tail. A trial fails
    with a chance below two in a hundred; after `trials` failures the answer is
    zero. -/
def sampleWithin (z : Ziggurat) : Nat → Draw Float
  | 0 => pure 0
  | trials + 1 => do
    let w ← Draw.word
    let layer := (w &&& 0xff).toNat
    let u := z.place w
    let x := u * entry z.edges layer
    if (if z.symmetric then x.abs else x) < entry z.edges (layer + 1) then pure x
    else if layer = 0 then z.tail u
    else
      let y ← Draw.unit
      let lower := entry z.heights layer
      let upper := entry z.heights (layer + 1)
      if upper + (lower - upper) * y < z.density x then pure x else z.sampleWithin trials

/-- The trials allowed for one draw. -/
def trialLimit : Nat := 10000

def sample (z : Ziggurat) : Draw Float := z.sampleWithin trialLimit

end Ziggurat

/-- Where the tail of the normal density starts. -/
def normalEdge : Float := 3.654152885361009

/-- Draws from the tail of the normal density by rejection: how far past the edge,
    as a number that is not positive. -/
def normalTailWithin : Nat → Draw Float
  | 0 => pure 0
  | trials + 1 => do
    let a ← Draw.openUnit
    let b ← Draw.openUnit
    let x := a.log / normalEdge
    let y := b.log
    if -2 * y < x * x then normalTailWithin trials else pure x

/-- The normal distribution of mean zero and variance one. -/
def standardNormal : Draw Float :=
  Ziggurat.sample
    { symmetric := true
      edges := NormalTable.edges
      heights := NormalTable.heights
      density := fun x => (-x * x / 2).exp
      tail := fun u => do
        let x ← normalTailWithin Ziggurat.trialLimit
        pure (if u < 0 then x - normalEdge else normalEdge - x) }

/-- Where the tail of the exponential density starts. -/
def exponentialEdge : Float := 7.69711747013105

/-- The exponential distribution of mean one. -/
def standardExponential : Draw Float :=
  Ziggurat.sample
    { symmetric := false
      edges := ExponentialTable.edges
      heights := ExponentialTable.heights
      density := fun x => (-x).exp
      tail := fun _ => do
        let y ← Draw.unit
        pure (exponentialEdge - y.log) }

end HeapReplay.Random
