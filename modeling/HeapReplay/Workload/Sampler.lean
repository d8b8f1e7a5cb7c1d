import HeapReplay.Workload.Parameters

namespace HeapReplay.Workload

open HeapReplay.Random

/-- Draws values from the distribution of a parameter set. -/
def ParameterSet.sample (set : ParameterSet) (count : Nat) :
    Except ParameterError (StateT Generator Option (List Float)) :=
  match set.fit with
  | .ok distribution => .ok (distribution.sample.many? count)
  | .error fault => .error ⟨none, set, fault⟩

/-- The distributions of a workload. -/
structure Sampler where
  size : Distribution
  interval : Distribution
  duration : Distribution

/-- What is drawn for a workload. -/
structure Sampled where
  sizes : List Float
  intervals : List Float
  durations : List Float

/-- The number of requests that the samples suffice for. -/
def Sampled.length (sampled : Sampled) : Nat :=
  min (min sampled.sizes.length sampled.intervals.length) sampled.durations.length

namespace Sampler

/-- The distribution of a parameter set for a quantity. -/
def fitFor (quantity : String) (set : ParameterSet) : Except ParameterError Distribution :=
  match set.fit with
  | .ok distribution => .ok distribution
  | .error fault => .error ⟨some quantity, set, fault⟩

/-- The distributions of parameters; the first faulty set in the order size,
    interval, duration is reported. -/
def ofParameters (parameters : Parameters) : Except ParameterError Sampler := do
  let size ← fitFor "size" parameters.size
  let interval ← fitFor "interval" parameters.interval
  let duration ← fitFor "duration" parameters.duration
  .ok { size, interval, duration }

/-- Draws a workload in the given way: all gaps, then all lifetimes, then all sizes. -/
def sampleBy (draw : Distribution → Draw Float) (sampler : Sampler) (count : Nat) :
    StateT Generator Option Sampled := do
  let intervals ← (draw sampler.interval).many? count
  let durations ← (draw sampler.duration).many? count
  let sizes ← (draw sampler.size).many? count
  pure { sizes, intervals, durations }

/-- Draws a workload, unless its lists do not fit into the address space. -/
def sample (sampler : Sampler) (count : Nat) : StateT Generator Option Sampled :=
  sampler.sampleBy Distribution.sample count

end Sampler
end HeapReplay.Workload
