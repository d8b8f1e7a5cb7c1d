import HeapReplay.Replay.Scheduler
import HeapReplay.Settings
import HeapReplay.Workload.Requests

namespace HeapReplay

open Heap HeapReplay.Random Replay Workload

/-- Why a simulation cannot be set up. -/
inductive SimulationError where
  | settings (error : SettingsError)
  | parameters (error : ParameterError)

def SimulationError.message : SimulationError → String
  | .settings error => "Invalid simulation configuration: Configuration error: " ++ error.reason
  | .parameters error => "Invalid distribution parameters: " ++ error.reason

/-- A workload that is replayed against allocators, with its requests once they have
    been made, and the history of the last replay that succeeded. -/
structure Simulation where
  settings : SimulationSettings
  alignment : PosWord
  sampler : Sampler
  generator : SeededGenerator
  made : Option (List Request) := none
  historyLimit : Nat := 0
  history : Array Event := #[]

namespace Simulation

/-- A simulation with checked settings and parameters. Without a chosen seed it
    takes the one drawn for it. -/
def create (settings : SimulationSettings) (parameters : Parameters) (drawnSeed : UInt64) :
    Except SimulationError Simulation := do
  let alignment ← settings.validate.mapError .settings
  let sampler ← (Sampler.ofParameters parameters).mapError .parameters
  .ok { settings, alignment, sampler, generator := .ofSeed (settings.seed.getD drawnSeed) }

/-- The seed of the workload, chosen or drawn. -/
def seed (simulation : Simulation) : UInt64 := simulation.generator.seed

/-- The requests of the workload. They are sampled when they are first asked for, and
    kept from then on. When the samples do not fit into the address space, the program
    breaks off, which is no result. -/
def requests (simulation : Simulation) : Option (List Request × Simulation) :=
  match simulation.made with
  | some made => some (made, simulation)
  | none => do
    let count := simulation.settings.eventCount
    let (sampled, generator) ← simulation.sampler.sample count simulation.generator.generator
    let made := Workload.requests simulation.alignment count sampled
    some
      (made,
        { simulation with
          made := some made
          generator := { simulation.generator with generator } })

variable {State Handle : Type}

/-- Replays the workload against an allocator, unless the program breaks off before it has
    the requests. The report names the seed, and a replay that succeeds leaves its history
    behind. -/
def run (simulation : Simulation) (allocator : Allocator State Handle) (state : State) :
    Option (Except ReplayError Report × Simulation × State) := do
  let (requests, simulation) ← simulation.requests
  let outcome :=
    replay requests allocator state simulation.settings.reportThreshold simulation.historyLimit
  match outcome.result with
  | .ok report =>
    some (.ok { report with seed := some simulation.seed },
      { simulation with history := outcome.scheduler.history }, outcome.allocator)
  | .error error => some (.error error, simulation, outcome.allocator)

end Simulation
end HeapReplay
