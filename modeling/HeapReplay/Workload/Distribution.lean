import HeapReplay.Random.Ziggurat

namespace HeapReplay.Workload

open HeapReplay.Random

/-- A distribution that can be drawn from. Those with a location and a scale are
    a standard distribution stretched by the scale and then moved. -/
inductive Distribution where
  | inverseGaussian (mean location scale : Float)
  | normal (mean deviation : Float)
  | logNormal (shape location scale : Float)
  | exponential (location scale : Float)
  | uniform (low width : Float)
  | constant (value : Float)

namespace Distribution

/-- The inverse Gaussian distribution of shape one. -/
def standardInverseGaussian (mean : Float) : Draw Float := do
  let v ← standardNormal
  let y := mean * v * v
  let x := mean + mean / 2 * (y - (4 * y + y * y).sqrt)
  let u ← Draw.unit
  pure (if u ≤ mean / (mean + x) then x else mean * mean / x)

/-- Draws one value. -/
def sample : Distribution → Draw Float
  | .inverseGaussian mean location scale => do
    let x ← standardInverseGaussian mean
    pure (location + scale * x)
  | .normal mean deviation => do
    let x ← standardNormal
    pure (mean + deviation * x)
  | .logNormal shape location scale => do
    let x ← standardNormal
    pure (location + scale * (0 + shape * x).exp)
  | .exponential location scale => do
    let x ← standardExponential
    pure (location + scale * x)
  | .uniform low width => do
    let x ← Draw.oneToTwo
    pure ((x - 1) * width + low)
  | .constant value => pure value

/-- The largest width, among the doubles whose bits are at most those given, for
    which no draw from `low` passes `high`. Positive doubles are ordered as their
    bits. -/
def fittingWidth (low high : Float) : Nat → Float
  | 0 => 0
  | bits + 1 =>
    let width := Float.ofBits (.ofNat (bits + 1))
    if width * .ofBits 0x3feffffffffffffe + low > high then fittingWidth low high bits else width

end Distribution
end HeapReplay.Workload
