import HeapReplay.Heap.FirstFit
import HeapReplay.Heap.Script
import HeapReplay.Proofs.Simulation.Run
import Mathlib.Data.List.Induction

namespace HeapReplay.Simulation

open Heap HeapReplay.Random Replay Workload

/-- What a simulation is used for: it is asked for its requests, or it runs, with any
    allocator. -/
inductive Use : Type 1
  | requests
  | run {State Handle : Type} (allocator : Allocator State Handle) (state : State)

/-- The simulation behind a use, unless the program breaks off. -/
def use (simulation : Simulation) : Use → Option Simulation
  | .requests => simulation.requests.map Prod.snd
  | .run allocator state => (simulation.run allocator state).map fun (_, next, _) => next

/-- The simulation behind uses, unless the program breaks off during one of them. -/
def after (simulation : Simulation) (uses : List Use) : Option Simulation :=
  uses.foldlM use simulation

/-- The history of the replay that a use comes to, if it comes to one without an error. -/
def kept? (simulation : Simulation) : Use → Option (Array Event)
  | .requests => none
  | .run allocator state =>
    (simulation.replayed allocator state).bind fun outcome =>
      match outcome.result with
      | .ok _ => some outcome.scheduler.history
      | .error _ => none

theorem SameWorkload.kept?_eq {simulation other : Simulation}
    (hsame : SameWorkload simulation other) : simulation.kept? = other.kept? := by
  funext use
  cases use with
  | requests => rfl
  | run allocator state => simp only [kept?, hsame.replayed_eq]

theorem Memoized.isSome_use {simulation : Simulation} (hmemoized : simulation.Memoized)
    (use : Use) : (simulation.use use).isSome = simulation.workload.isSome := by
  cases use with
  | requests => rw [Simulation.use, Option.isSome_map, hmemoized.isSome_requests]
  | run allocator state => rw [Simulation.use, Option.isSome_map, hmemoized.isSome_run]

/-- No use changes the workload, and only a run without an error changes the history. -/
theorem Memoized.use {simulation next : Simulation} (hmemoized : simulation.Memoized) {use : Use}
    (huse : simulation.use use = some next) :
    next.Memoized ∧ SameWorkload next simulation ∧
      next.history = (simulation.kept? use).getD simulation.history := by
  cases use with
  | requests =>
    obtain ⟨⟨made, next⟩, hrequests, rfl⟩ := Option.map_eq_some_iff.1 huse
    exact hmemoized.requests.2 made next hrequests
  | run allocator state =>
    obtain ⟨⟨answer, next, final⟩, hrun, rfl⟩ := Option.map_eq_some_iff.1 huse
    obtain ⟨hnext, hsame, outcome, hreplayed, hhistory⟩ :=
      (hmemoized.run allocator state).2 answer next final hrun
    refine ⟨hnext, hsame, hhistory.trans ?_⟩
    simp only [kept?, hreplayed, Option.bind_some]
    cases outcome.result <;> rfl

theorem after_append (simulation : Simulation) (uses : List Use) (use : Use) :
    simulation.after (uses ++ [use]) =
      (simulation.after uses).bind fun before => before.use use := by
  simp only [after, List.foldlM_append, List.foldlM_cons, List.foldlM_nil, bind_pure]
  rfl

/-- What uses leave of a simulation: its workload, and the history of the last run among
    them that had no error. -/
theorem Memoized.after {simulation used : Simulation} (hmemoized : simulation.Memoized)
    {uses : List Use} (hused : simulation.after uses = some used) :
    used.Memoized ∧ SameWorkload used simulation ∧
      used.history = (uses.filterMap simulation.kept?).getLast?.getD simulation.history := by
  induction uses using List.reverseRecOn generalizing used with
  | nil =>
    cases hused
    exact ⟨hmemoized, .refl simulation, rfl⟩
  | append_singleton uses use ih =>
    rw [after_append] at hused
    obtain ⟨before, hbefore, huse⟩ := Option.bind_eq_some_iff.1 hused
    obtain ⟨hmemoized, hsame, hhistory⟩ := ih hbefore
    obtain ⟨hnext, hstep, hkept⟩ := hmemoized.use huse
    refine ⟨hnext, hstep.trans hsame, ?_⟩
    rw [hkept, hsame.kept?_eq, hhistory, List.filterMap_append, List.getLast?_append]
    cases hlast : simulation.kept? use <;> simp [hlast]

/-- The first use decides whether the program breaks off. -/
theorem Memoized.isSome_after {simulation : Simulation} (hmemoized : simulation.Memoized)
    (uses : List Use) :
    (simulation.after uses).isSome ↔ uses = [] ∨ simulation.workload.isSome := by
  induction uses using List.reverseRecOn with
  | nil => exact iff_of_true rfl (.inl rfl)
  | append_singleton uses use ih =>
    rw [after_append]
    cases hbefore : simulation.after uses with
    | none =>
      rw [hbefore] at ih
      have hnone : ¬ simulation.workload.isSome :=
        fun hsome => Bool.false_ne_true (ih.2 (.inr hsome))
      simpa using hnone
    | some before =>
      obtain ⟨hmemoized, hsame, _⟩ := hmemoized.after hbefore
      simp [hmemoized.isSome_use, hsame.workload_eq]

variable {State Handle : Type}

/-- A run answers by the workload alone. -/
theorem SameWorkload.run_eq {simulation other : Simulation} (hsame : SameWorkload simulation other)
    (hmemoized : simulation.Memoized) (hother : other.Memoized)
    (allocator : Allocator State Handle) (state : State) :
    (simulation.run allocator state).map shown = (other.run allocator state).map shown := by
  rw [(hmemoized.run allocator state).1, (hother.run allocator state).1, hsame.replayed_eq,
    hsame.seed_eq]

theorem Memoized.seed_of_run_ok {simulation next : Simulation} (hmemoized : simulation.Memoized)
    {allocator : Allocator State Handle} {state final : State} {report : Report}
    (hrun : simulation.run allocator state = some (.ok report, next, final)) :
    report.seed = some simulation.seed := by
  have hshown := (hmemoized.run allocator state).1
  rw [hrun] at hshown
  obtain ⟨outcome, _, houtcome⟩ := Option.map_eq_some_iff.1 hshown.symm
  cases hresult : outcome.result with
  | error error =>
    rw [hresult] at houtcome
    cases houtcome
  | ok found =>
    rw [hresult] at houtcome
    cases houtcome
    rfl

/-- A simulation with the seed of another one chosen for it has the same workload. -/
theorem create_again {settings : SimulationSettings} {parameters : Parameters}
    {drawnSeed : UInt64} {simulation : Simulation}
    (hcreate : create settings parameters drawnSeed = .ok simulation) (otherSeed : UInt64) :
    create { settings with seed := some simulation.seed } parameters otherSeed =
      .ok { simulation with settings := { settings with seed := some simulation.seed } } := by
  obtain ⟨alignment, sampler, hsettings, hparameters, rfl⟩ := create_eq_ok_iff.1 hcreate
  exact create_eq_ok_iff.2 ⟨alignment, sampler, hsettings, hparameters, rfl⟩

/-- However a simulation has been used, it gives the requests that its seed stands for, and
    runs like a new simulation with this seed chosen does first of all: with the same answer,
    and leaving the same allocator. Its history is that of its last run without an error.
    From a number of events on, the program breaks off when it is first asked for the
    requests, and so does the new one. -/
theorem uses_repeat (settings : SimulationSettings) (parameters : Parameters)
    (drawnSeed otherSeed : UInt64) (simulation : Simulation)
    (hcreate : create settings parameters drawnSeed = .ok simulation) (historyLimit : Nat)
    (uses : List Use) :
    let started : Simulation := { simulation with historyLimit }
    ((started.after uses).isSome ↔ uses = [] ∨ settings.eventCount < Draw.valueLimit) ∧
      ∀ used, started.after uses = some used →
        used.seed = settings.seed.getD drawnSeed ∧
          (used.requests.isSome ↔ settings.eventCount < Draw.valueLimit) ∧
          used.requests.map Prod.fst =
            (simulation.sampler.sample settings.eventCount (.ofSeed used.seed)).map
              (fun (sampled, _) =>
                Workload.requests simulation.alignment settings.eventCount sampled) ∧
          ∃ fresh,
            create { settings with seed := some used.seed } parameters otherSeed = .ok fresh ∧
            (∀ {State Handle : Type} (allocator : Allocator State Handle) (state : State),
              ((used.run allocator state).isSome ↔ settings.eventCount < Draw.valueLimit) ∧
                (used.run allocator state).map shown =
                  (({ fresh with historyLimit } : Simulation).run allocator state).map shown ∧
                ∀ report next final, used.run allocator state = some (.ok report, next, final) →
                  report.seed = some used.seed) ∧
            used.history =
              (uses.filterMap ({ fresh with historyLimit } : Simulation).kept?).getLast?.getD
                #[] := by
  intro started
  obtain ⟨hsettings, hchosen, hnone⟩ := create_spec hcreate
  have hstarted : started.Memoized := (memoized_of_create hcreate).withHistory historyLimit
  have hfits : started.workload.isSome ↔ settings.eventCount < Draw.valueLimit := by
    rw [isSome_workload, ← hsettings]
  refine ⟨by rw [hstarted.isSome_after, hfits], ?_⟩
  intro used hafter
  obtain ⟨hused, hsame, hhistory⟩ := hstarted.after hafter
  have hseed : used.seed = simulation.seed := hsame.seed_eq
  have hagain := create_again hcreate otherSeed
  have hfresh := (memoized_of_create hagain).withHistory historyLimit
  -- The fresh simulation has the same settings but for the seed, which is chosen now.
  have hfirst : SameWorkload started
      { simulation with
        settings := { settings with seed := some simulation.seed }
        historyLimit } := by
    refine ⟨?_, ?_, rfl, rfl, rfl, rfl⟩
    · simp only [started, hsettings]
    · simp only [started, hsettings]
      rfl
  rw [hseed]
  refine ⟨hchosen, ?_, ?_, _, hagain, ?_, ?_⟩
  · rw [hused.isSome_requests, hsame.workload_eq, hfits]
  · rw [hused.requests.1, hsame.workload_eq, ← hsettings]
    rfl
  · intro State Handle allocator state
    refine ⟨?_, (hsame.trans hfirst).run_eq hused hfresh allocator state, ?_⟩
    · rw [hused.isSome_run, hsame.workload_eq, hfits]
    · intro report next final hrun
      rw [hused.seed_of_run_ok hrun, hseed]
  · rw [hhistory, hfirst.kept?_eq]
    exact congrArg _ hnone

/-- The first run fails at its second allocation, the second one on a heap that is too
    small does not fail, and the seed was drawn. -/
theorem uses_repeat_after_fault :
    let settings : SimulationSettings := { eventCount := 2, reportFraction := 0.5 }
    let parameters : Parameters := .constant 24 5 7
    let uses : List Use :=
      [.run (Script.allocator { faultAllocateAt := some 2 }) {}, .requests,
        .run FirstFit.allocator (.ofCapacity 16)]
    ∃ simulation used fresh,
      create settings parameters 7 = .ok simulation ∧
      create { settings with seed := some 7 } parameters 0 = .ok fresh ∧
      ({ simulation with historyLimit := 3 } : Simulation).after uses = some used ∧
      (used.run Tally.allocator {}).isSome ∧
      (used.run Tally.allocator {}).map shown =
        (({ fresh with historyLimit := 3 } : Simulation).run Tally.allocator {}).map shown := by
  intro settings parameters uses
  have hsettings : settings.validate = .ok ⟨8, by decide⟩ :=
    SimulationSettings.validate_eq_ok (by decide) (by decide +kernel)
  have hparameters : Sampler.ofParameters parameters =
      .ok ⟨.constant 24, .constant 5, .constant 7⟩ := rfl
  have hfits : settings.eventCount < Draw.valueLimit := by decide
  obtain ⟨simulation, hcreate⟩ := exists_create hsettings hparameters 7
  obtain ⟨hsome, huses⟩ := uses_repeat settings parameters 7 0 simulation hcreate 3 uses
  obtain ⟨used, hused⟩ := Option.isSome_iff_exists.1 (hsome.2 (.inr hfits))
  obtain ⟨hseed, _, _, fresh, hagain, hruns, _⟩ := huses used hused
  rw [hseed] at hagain
  obtain ⟨hends, hsame, _⟩ := hruns Tally.allocator {}
  exact ⟨simulation, used, fresh, hcreate, hagain, hused, hends.2 hfits, hsame⟩

end HeapReplay.Simulation
