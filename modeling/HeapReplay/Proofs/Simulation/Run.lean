import HeapReplay.Proofs.Except
import HeapReplay.Proofs.Workload.Requests
import HeapReplay.Simulation

namespace HeapReplay

theorem SimulationSettings.validate_eq_ok {settings : SimulationSettings}
    (hpos : settings.alignment ≠ 0) (hfraction : isFraction settings.reportFraction) :
    settings.validate = .ok ⟨settings.alignment, hpos⟩ := by
  rw [validate, dif_neg hpos, if_pos hfraction]

namespace Simulation

open Heap HeapReplay.Random Replay Workload

/-- A simulation is set up exactly when its settings and its parameters are accepted. -/
theorem create_eq_ok_iff {settings : SimulationSettings} {parameters : Parameters}
    {drawnSeed : UInt64} {simulation : Simulation} :
    create settings parameters drawnSeed = .ok simulation ↔
      ∃ alignment sampler, settings.validate = .ok alignment ∧
        Sampler.ofParameters parameters = .ok sampler ∧
        simulation =
          { settings, alignment, sampler
            generator := .ofSeed (settings.seed.getD drawnSeed) } := by
  cases hsettings : settings.validate with
  | error error => simp [create, hsettings, bind, Except.bind]
  | ok alignment =>
    cases hparameters : Sampler.ofParameters parameters with
    | error error => simp [create, hsettings, hparameters, bind, Except.bind]
    | ok sampler => simp [create, hsettings, hparameters, bind, Except.bind, eq_comm]

theorem exists_create {settings : SimulationSettings} {parameters : Parameters}
    {alignment : PosWord} {sampler : Sampler} (hsettings : settings.validate = .ok alignment)
    (hparameters : Sampler.ofParameters parameters = .ok sampler) (drawnSeed : UInt64) :
    ∃ simulation, create settings parameters drawnSeed = .ok simulation :=
  ⟨_, create_eq_ok_iff.2 ⟨alignment, sampler, hsettings, hparameters, rfl⟩⟩

/-- A simulation is rejected for its settings, or else for its parameters. -/
theorem create_eq_error_iff {settings : SimulationSettings} {parameters : Parameters}
    {drawnSeed : UInt64} {error : SimulationError} :
    create settings parameters drawnSeed = .error error ↔
      (∃ reason, settings.validate = .error reason ∧ error = .settings reason) ∨
        ∃ alignment reason, settings.validate = .ok alignment ∧
          Sampler.ofParameters parameters = .error reason ∧ error = .parameters reason := by
  cases hsettings : settings.validate with
  | error error => simp [create, hsettings, bind, Except.bind, eq_comm]
  | ok alignment =>
    cases hparameters : Sampler.ofParameters parameters with
    | error error => simp [create, hsettings, hparameters, bind, Except.bind, eq_comm]
    | ok sampler => simp [create, hsettings, hparameters, bind, Except.bind]

/-- What a simulation starts from. -/
theorem create_spec {settings : SimulationSettings} {parameters : Parameters}
    {drawnSeed : UInt64} {simulation : Simulation}
    (hcreate : create settings parameters drawnSeed = .ok simulation) :
    simulation.settings = settings ∧ simulation.seed = settings.seed.getD drawnSeed ∧
      simulation.history = #[] := by
  obtain ⟨_, _, _, _, rfl⟩ := create_eq_ok_iff.1 hcreate
  exact ⟨rfl, rfl, rfl⟩

/-- The requests that a simulation draws from a new generator of its seed, if their samples
    fit into the address space. -/
def workload (simulation : Simulation) : Option (List Request) :=
  let count := simulation.settings.eventCount
  (simulation.sampler.sample count (.ofSeed simulation.seed)).map fun (sampled, _) =>
    Workload.requests simulation.alignment count sampled

theorem isSome_workload (simulation : Simulation) :
    simulation.workload.isSome ↔ simulation.settings.eventCount < Draw.valueLimit := by
  rw [workload, Option.isSome_map]
  exact simulation.sampler.isSome_sampleBy Distribution.sample _

theorem exists_workload {simulation : Simulation}
    (hfits : simulation.settings.eventCount < Draw.valueLimit) :
    ∃ requests, simulation.workload = some requests :=
  Option.isSome_iff_exists.1 (simulation.isSome_workload.2 hfits)

theorem workload_eq_none {simulation : Simulation}
    (hlimit : Draw.valueLimit ≤ simulation.settings.eventCount) : simulation.workload = none := by
  rw [← Option.not_isSome_iff_eq_none, isSome_workload]
  exact Nat.not_lt.2 hlimit

/-- Simulations that differ in what they have done so far, at most, and in how they came
    to their seed. -/
structure SameWorkload (simulation other : Simulation) : Prop where
  eventCount_eq : simulation.settings.eventCount = other.settings.eventCount
  threshold_eq : simulation.settings.reportThreshold = other.settings.reportThreshold
  alignment_eq : simulation.alignment = other.alignment
  sampler_eq : simulation.sampler = other.sampler
  seed_eq : simulation.seed = other.seed
  historyLimit_eq : simulation.historyLimit = other.historyLimit

namespace SameWorkload

variable {simulation other third : Simulation}

theorem refl (simulation : Simulation) : SameWorkload simulation simulation :=
  ⟨rfl, rfl, rfl, rfl, rfl, rfl⟩

theorem trans (hfirst : SameWorkload simulation other) (hsecond : SameWorkload other third) :
    SameWorkload simulation third :=
  ⟨hfirst.eventCount_eq.trans hsecond.eventCount_eq,
    hfirst.threshold_eq.trans hsecond.threshold_eq,
    hfirst.alignment_eq.trans hsecond.alignment_eq,
    hfirst.sampler_eq.trans hsecond.sampler_eq, hfirst.seed_eq.trans hsecond.seed_eq,
    hfirst.historyLimit_eq.trans hsecond.historyLimit_eq⟩

theorem workload_eq (hsame : SameWorkload simulation other) :
    simulation.workload = other.workload := by
  rw [workload, workload, hsame.eventCount_eq, hsame.alignment_eq, hsame.sampler_eq, hsame.seed_eq]

end SameWorkload

/-- Whether a simulation holds the requests of its workload, or none while its generator
    is still at the seed. -/
def Memoized (simulation : Simulation) : Prop :=
  simulation.made = none ∧ simulation.generator.generator = .ofSeed simulation.seed ∨
    ∃ made, simulation.made = some made ∧ simulation.workload = some made

theorem Memoized.withHistory {simulation : Simulation} (hmemoized : simulation.Memoized)
    (historyLimit : Nat) : ({ simulation with historyLimit } : Simulation).Memoized :=
  hmemoized

/-- A simulation that has just been set up holds no requests. -/
theorem memoized_of_create {settings : SimulationSettings} {parameters : Parameters}
    {drawnSeed : UInt64} {simulation : Simulation}
    (hcreate : create settings parameters drawnSeed = .ok simulation) : simulation.Memoized := by
  obtain ⟨_, _, _, _, rfl⟩ := create_eq_ok_iff.1 hcreate
  exact Or.inl ⟨rfl, rfl⟩

/-- Asking for the requests gives those of the workload, whether they are sampled now or
    were sampled before. Without a workload the program breaks off. -/
theorem Memoized.requests {simulation : Simulation} (hmemoized : simulation.Memoized) :
    simulation.requests.map Prod.fst = simulation.workload ∧
      ∀ made next, simulation.requests = some (made, next) →
        next.Memoized ∧ SameWorkload next simulation ∧ next.history = simulation.history := by
  obtain ⟨hmade, hgenerator⟩ | ⟨made, hmade, hworkload⟩ := hmemoized
  · cases hsample : simulation.sampler.sample simulation.settings.eventCount
      (.ofSeed simulation.seed) with
    | none =>
      have hnone : simulation.requests = none := by
        simp only [Simulation.requests, hmade, hgenerator, hsample, bind, Option.bind_none]
      refine ⟨by simp only [hnone, workload, hsample, Option.map_none], ?_⟩
      intro made next hrequests
      cases hnone.symm.trans hrequests
    | some drawn =>
      obtain ⟨sampled, generator⟩ := drawn
      have hworkload : simulation.workload = some (Workload.requests simulation.alignment
          simulation.settings.eventCount sampled) := by
        simp only [workload, hsample, Option.map_some]
      have hsome : simulation.requests = some
          (Workload.requests simulation.alignment simulation.settings.eventCount sampled,
            { simulation with
              made := some (Workload.requests simulation.alignment
                simulation.settings.eventCount sampled)
              generator := { simulation.generator with generator } }) := by
        simp only [Simulation.requests, hmade, hgenerator, hsample, bind, Option.bind_some]
      refine ⟨by rw [hsome, hworkload]; rfl, ?_⟩
      intro made next hrequests
      cases hsome.symm.trans hrequests
      exact ⟨Or.inr ⟨_, rfl, hworkload⟩, ⟨rfl, rfl, rfl, rfl, rfl, rfl⟩, rfl⟩
  · have hsome : simulation.requests = some (made, simulation) := by
      simp only [Simulation.requests, hmade]
    refine ⟨by rw [hsome, hworkload]; rfl, ?_⟩
    intro other next hrequests
    cases hsome.symm.trans hrequests
    exact ⟨Or.inr ⟨made, hmade, hworkload⟩, .refl simulation, rfl⟩

theorem Memoized.isSome_requests {simulation : Simulation} (hmemoized : simulation.Memoized) :
    simulation.requests.isSome = simulation.workload.isSome := by
  rw [← hmemoized.requests.1, Option.isSome_map]

variable {State Handle : Type}

/-- The replay that a run comes to. -/
def replayed (simulation : Simulation) (allocator : Allocator State Handle) (state : State) :
    Option (Replay.Outcome State Handle) :=
  simulation.workload.map fun requests =>
    replay requests allocator state simulation.settings.reportThreshold simulation.historyLimit

theorem SameWorkload.replayed_eq {simulation other : Simulation}
    (hsame : SameWorkload simulation other) (allocator : Allocator State Handle) (state : State) :
    simulation.replayed allocator state = other.replayed allocator state := by
  rw [replayed, replayed, hsame.workload_eq, hsame.threshold_eq, hsame.historyLimit_eq]

/-- The answer of a run with the state that it leaves of the allocator. -/
def shown : Except ReplayError Report × Simulation × State → Except ReplayError Report × State
  | (answer, _, final) => (answer, final)

/-- A run that has its requests replays them. -/
theorem run_of_requests {simulation drawn : Simulation} {made : List Request}
    (hrequests : simulation.requests = some (made, drawn)) (allocator : Allocator State Handle)
    (state : State) :
    let outcome :=
      replay made allocator state drawn.settings.reportThreshold drawn.historyLimit
    simulation.run allocator state =
      some (outcome.result.map fun report => { report with seed := some drawn.seed },
        { drawn with
          history :=
            match outcome.result with
            | .ok _ => outcome.scheduler.history
            | .error _ => drawn.history },
        outcome.allocator) := by
  simp only [Simulation.run, hrequests, bind, Option.bind_some]
  cases (replay made allocator state drawn.settings.reportThreshold drawn.historyLimit).result with
  | error error => rfl
  | ok report => rfl

/-- A run replays the workload, if there is one. Its report names the seed, and only a run
    without an error changes the history. -/
theorem Memoized.run {simulation : Simulation} (hmemoized : simulation.Memoized)
    (allocator : Allocator State Handle) (state : State) :
    (simulation.run allocator state).map shown =
        (simulation.replayed allocator state).map (fun outcome =>
          (outcome.result.map fun report => { report with seed := some simulation.seed },
            outcome.allocator)) ∧
      ∀ answer next final, simulation.run allocator state = some (answer, next, final) →
        next.Memoized ∧ SameWorkload next simulation ∧
          ∃ outcome, simulation.replayed allocator state = some outcome ∧
            next.history =
              match outcome.result with
              | .ok _ => outcome.scheduler.history
              | .error _ => simulation.history := by
  obtain ⟨hworkload, hnext⟩ := hmemoized.requests
  cases hrequests : simulation.requests with
  | none =>
    rw [hrequests] at hworkload
    have hnone : simulation.run allocator state = none := by
      simp only [Simulation.run, hrequests, bind, Option.bind_none]
    refine ⟨by simp only [hnone, replayed, ← hworkload, Option.map_none], ?_⟩
    intro answer next final hrun
    cases hnone.symm.trans hrun
  | some found =>
    obtain ⟨made, drawn⟩ := found
    rw [hrequests] at hworkload
    obtain ⟨hdrawn, hsame, hhistory⟩ := hnext made drawn hrequests
    have hsome := run_of_requests hrequests allocator state
    have hreplayed : simulation.replayed allocator state =
        some (replay made allocator state drawn.settings.reportThreshold drawn.historyLimit) := by
      simp only [replayed, ← hworkload, hsame.threshold_eq, hsame.historyLimit_eq, Option.map_some]
    rw [hsame.seed_eq, hhistory] at hsome
    refine ⟨by rw [hsome, hreplayed]; rfl, ?_⟩
    intro answer next final hrun
    cases hsome.symm.trans hrun
    exact ⟨hdrawn, { hsame with }, _, hreplayed, rfl⟩

/-- With a workload there is a run, which answers what the replay of the workload answers. -/
theorem Memoized.exists_run {simulation : Simulation} (hmemoized : simulation.Memoized)
    {requests : List Request} (hworkload : simulation.workload = some requests)
    (allocator : Allocator State Handle) (state : State) :
    let outcome := replay requests allocator state simulation.settings.reportThreshold
      simulation.historyLimit
    ∃ next, simulation.run allocator state =
      some (outcome.result.map fun report => { report with seed := some simulation.seed },
        next, outcome.allocator) := by
  intro outcome
  have hshown := (hmemoized.run allocator state).1
  have hreplayed : simulation.replayed allocator state = some outcome := by
    rw [replayed, hworkload, Option.map_some]
  rw [hreplayed, Option.map_some] at hshown
  obtain ⟨⟨answer, next, final⟩, hrun, hanswer⟩ := Option.map_eq_some_iff.1 hshown
  cases hanswer
  exact ⟨next, hrun⟩

theorem Memoized.isSome_run {simulation : Simulation} (hmemoized : simulation.Memoized)
    (allocator : Allocator State Handle) (state : State) :
    (simulation.run allocator state).isSome = simulation.workload.isSome := by
  have hshown := congrArg Option.isSome (hmemoized.run allocator state).1
  simpa only [Option.isSome_map, replayed] using hshown

end Simulation
end HeapReplay
