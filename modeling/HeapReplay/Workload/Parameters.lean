import HeapReplay.Decimal.Layout
import HeapReplay.Workload.Distribution

namespace HeapReplay.Workload

/-- The families of distributions that can be fitted. -/
inductive Family where
  | inverseGaussian
  | normal
  | logNormal
  | exponential
  | uniform
  | constant
  deriving DecidableEq, Repr

namespace Family

def all : List Family := [.inverseGaussian, .normal, .logNormal, .exponential, .uniform, .constant]

/-- The number of parameters. -/
def arity : Family → Nat
  | .inverseGaussian | .logNormal => 3
  | .normal | .exponential | .uniform => 2
  | .constant => 1

def name : Family → String
  | .inverseGaussian => "inverse_gaussian"
  | .normal => "normal"
  | .logNormal => "log_normal"
  | .exponential => "exponential"
  | .uniform => "uniform"
  | .constant => "constant"

def ofName? (name : String) : Option Family := all.find? (·.name == name)

end Family

/-- A family with the parameters fitted for it, in the order shape, location,
    scale. -/
structure ParameterSet where
  family : Family
  params : List Float

/-- What is wrong with a parameter set. -/
inductive ParameterFault where
  | wrongNumber (expected actual : Nat)
  | notFinite
  | meanNotPositive
  | scaleNotPositive
  | rangeNotFinite
  | rangeEmpty
  deriving DecidableEq, Repr

def ParameterFault.message : ParameterFault → String
  | .wrongNumber expected actual => s!"expected {expected} parameters, got {actual}"
  | .notFinite => "parameters must be finite"
  | .meanNotPositive => "mean <= 0 or is NaN in inverse Gaussian distribution"
  | .scaleNotPositive => "scale must be positive"
  | .rangeNotFinite => "Non-finite range in uniform distribution"
  | .rangeEmpty => "low > high (or equal if exclusive) in uniform distribution"

namespace ParameterSet

/-- Checks that a scale is positive. -/
def checkScale (scale : Float) : Except ParameterFault Unit :=
  if 0 < scale then .ok () else .error .scaleNotPositive

/-- The uniform distribution from `low` up to `high`. -/
def uniform (low high : Float) : Except ParameterFault Distribution :=
  let width := high - low
  if !high.isFinite then .error .rangeNotFinite
  else if !(low < high) then .error .rangeEmpty
  else if !width.isFinite then .error .rangeNotFinite
  else .ok (.uniform low (Distribution.fittingWidth low high width.toBits.toNat))

/-- The distribution of a parameter set. The number of parameters is checked
    first, then that all are finite, then those that have to be positive. -/
def fit (set : ParameterSet) : Except ParameterFault Distribution :=
  if set.params.length ≠ set.family.arity then
    .error (.wrongNumber set.family.arity set.params.length)
  else if !set.params.all Float.isFinite then .error .notFinite
  else
    match set.family, set.params with
    | .inverseGaussian, [mean, location, scale] => do
      if !(0 < mean) then .error .meanNotPositive
      checkScale scale
      .ok (.inverseGaussian mean location scale)
    | .normal, [mean, deviation] => do
      checkScale deviation
      .ok (.normal mean deviation)
    | .logNormal, [shape, location, scale] => do
      checkScale scale
      .ok (.logNormal shape location scale)
    | .exponential, [location, scale] => do
      checkScale scale
      .ok (.exponential location scale)
    | .uniform, [low, scale] => do
      checkScale scale
      uniform low (low + scale)
    | .constant, [value] => .ok (.constant value)
    | family, params => .error (.wrongNumber family.arity params.length)

/-- Parameters in a message are written positionally from four places behind the
    point to sixteen in front of it, and a whole one ends in `.0`. -/
def layout : Decimal.Layout where
  positionalFrom := some (-4)
  positionalTo := some 15
  wholePoint := true
  exponentPlus := ""
  tie := .up

/-- The set as it stands in a message. -/
def describe (set : ParameterSet) : String :=
  set.family.name ++ " [" ++ ", ".intercalate (set.params.map layout.renderFloat) ++ "]"

end ParameterSet

/-- A parameter set that describes no distribution, with the quantity it was
    meant for, if any. -/
structure ParameterError where
  quantity : Option String
  set : ParameterSet
  fault : ParameterFault

def ParameterError.reason (error : ParameterError) : String :=
  (match error.quantity with
    | some quantity => quantity ++ ": "
    | none => "")
  ++ error.set.describe ++ ": " ++ error.fault.message

/-- The parameters of a workload: of the sizes, of the gaps between requests, and
    of the lifetimes. -/
structure Parameters where
  size : ParameterSet
  interval : ParameterSet
  duration : ParameterSet

namespace Parameters

/-- A workload fitted to a real trace. -/
def reference : Parameters where
  size := ⟨.inverseGaussian, [4.4104723603507887, -2.6088737757264524, 38.771521098316683]⟩
  interval := ⟨.inverseGaussian, [1.1323738333275997, 453.39611575820913, 3727.4636141720862]⟩
  duration := ⟨.inverseGaussian, [2.4486917249574072, 399004.31314749306, 4145977.1006420013]⟩

/-- A workload of equal requests at equal distances. -/
def constant (size interval duration : Float) : Parameters :=
  ⟨⟨.constant, [size]⟩, ⟨.constant, [interval]⟩, ⟨.constant, [duration]⟩⟩

end Parameters
end HeapReplay.Workload
