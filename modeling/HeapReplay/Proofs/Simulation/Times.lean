import HeapReplay.Proofs.Simulation.Uses
import HeapReplay.Proofs.Workload.Parameters
import HeapReplay.Proofs.Workload.Timeline

namespace HeapReplay.Workload

open HeapReplay.Random Replay

section Draws

variable {draw : Distribution → Draw Float} {sampler other : Sampler} {count : Nat}
  {generator next otherNext : Generator} {sampled twin : Sampled}

/-- The gaps are drawn first, and so are the same whatever is drawn behind them. -/
theorem Sampler.intervals_eq (hinterval : sampler.interval = other.interval)
    (hsample : sampler.sampleBy draw count generator = some (sampled, next))
    (hother : other.sampleBy draw count generator = some (twin, otherNext)) :
    sampled.intervals = twin.intervals := by
  rw [sampled_eq hsample, sampled_eq hother, hinterval]

/-- The lifetimes are drawn from where the gaps have left the generator, however far that is. -/
theorem Sampler.durations_eq (hinterval : sampler.interval = other.interval)
    (hduration : sampler.duration = other.duration)
    (hsample : sampler.sampleBy draw count generator = some (sampled, next))
    (hother : other.sampleBy draw count generator = some (twin, otherNext)) :
    sampled.durations = twin.durations := by
  rw [sampled_eq hsample, sampled_eq hother, hinterval, hduration]

end Draws

section Times

variable {alignment otherAlignment : PosWord} {count place : Nat} {sampled other : Sampled}
  {request twin : Request}

/-- The times of a request depend on its place, the gaps before it and its lifetime. -/
theorem times_of_request (hintervals : sampled.intervals = other.intervals)
    (hrequest : (requests alignment count sampled)[place]? = some request)
    (htwin : (requests otherAlignment count other)[place]? = some twin) :
    request.id = twin.id ∧ request.birth = twin.birth ∧
      (sampled.durations = other.durations → request.death = twin.death) := by
  have helapsed : sampled.elapsed place = other.elapsed place := by
    rw [Sampled.elapsed, Sampled.elapsed, hintervals]
  have hbirth : request.birth = twin.birth := by
    rw [← UInt64.toNat_inj, toNat_birth hrequest, toNat_birth htwin, helapsed]
  obtain ⟨_, _, _, duration, hsample, rfl⟩ := exists_sample_of_request hrequest
  obtain ⟨_, _, _, lifetime, hother, rfl⟩ := exists_sample_of_request htwin
  obtain ⟨_, _, hduration⟩ := Sampled.getElem?_complete.1 hsample
  obtain ⟨_, _, hlifetime⟩ := Sampled.getElem?_complete.1 hother
  refine ⟨rfl, hbirth, ?_⟩
  intro hdurations
  rw [hdurations, hlifetime] at hduration
  cases hduration
  exact congrArg (Word.addSaturated · (ticks duration)) hbirth

/-- Lists of requests that agree at each place. -/
theorem map_requests_eq {α : Type} {f : Request → α} (hlength : sampled.length = other.length)
    (hsame : ∀ (place : Nat) request twin, (requests alignment count sampled)[place]? = some request →
      (requests otherAlignment count other)[place]? = some twin → f request = f twin) :
    (requests alignment count sampled).map f = (requests otherAlignment count other).map f := by
  refine List.ext_getElem ?_ ?_
  · rw [List.length_map, List.length_map, length_requests, length_requests, hlength]
  · intro place hplace hother
    rw [List.length_map] at hplace hother
    rw [List.getElem_map, List.getElem_map]
    exact hsame place _ _ (List.getElem?_eq_getElem hplace) (List.getElem?_eq_getElem hother)

end Times
end HeapReplay.Workload

namespace HeapReplay.Simulation

open Heap HeapReplay.Random Replay Workload

/-- The requests of a simulation that has been used, unless the program breaks off. -/
def requestsAfter (simulation : Simulation) (uses : List Use) : Option (List Request) :=
  (simulation.after uses).bind fun used => used.requests.map Prod.fst

/-- A simulation gives the requests that its seed stands for, however it has been used. -/
theorem Memoized.requestsAfter_eq {simulation : Simulation} (hmemoized : simulation.Memoized)
    (uses : List Use) : simulation.requestsAfter uses = simulation.workload := by
  unfold requestsAfter
  cases hafter : simulation.after uses with
  | none =>
    have hnone := (hmemoized.isSome_after uses).not
    rw [hafter, Option.isSome_none] at hnone
    have hworkload : ¬ simulation.workload.isSome :=
      fun hsome => hnone.1 Bool.false_ne_true (.inr hsome)
    exact (Option.not_isSome_iff_eq_none.1 hworkload).symm
  | some used =>
    obtain ⟨hused, hsame, _⟩ := hmemoized.after hafter
    rw [Option.bind_some, hused.requests.1, hsame.workload_eq]

theorem fits_of_create {settings : SimulationSettings} {parameters : Parameters}
    {drawnSeed : UInt64} {simulation : Simulation}
    (hcreate : create settings parameters drawnSeed = .ok simulation) :
    parameters.interval.fit = .ok simulation.sampler.interval ∧
      parameters.duration.fit = .ok simulation.sampler.duration := by
  obtain ⟨_, _, _, hparameters, rfl⟩ := create_eq_ok_iff.1 hcreate
  exact (fits_of_ofParameters hparameters).2

/-- However simulations have been used, the ids and the births of their requests depend on the
    seed, the number of requests and the parameters of the gaps alone, and the deaths on the
    parameters of the lifetimes as well. In particular no size and no alignment changes a time,
    however many random words the sizes take. There are requests exactly when their samples fit
    into the address space. -/
theorem times_without_sizes {settings otherSettings : SimulationSettings}
    {parameters otherParameters : Parameters} {drawnSeed otherSeed : UInt64}
    {simulation other : Simulation}
    (hcreate : create settings parameters drawnSeed = .ok simulation)
    (hother : create otherSettings otherParameters otherSeed = .ok other)
    (hseed : simulation.seed = other.seed)
    (hcount : settings.eventCount = otherSettings.eventCount)
    (hinterval : parameters.interval = otherParameters.interval) (uses otherUses : List Use) :
    (settings.eventCount < Draw.valueLimit →
        ∃ made others, simulation.requestsAfter uses = some made ∧
          other.requestsAfter otherUses = some others ∧
          made.length = settings.eventCount ∧
          made.map (fun request => (request.id, request.birth)) =
            others.map (fun request => (request.id, request.birth)) ∧
          (parameters.duration = otherParameters.duration →
            made.map (fun request => (request.id, request.birth, request.death)) =
              others.map (fun request => (request.id, request.birth, request.death)))) ∧
      (Draw.valueLimit ≤ settings.eventCount →
        simulation.requestsAfter uses = none ∧ other.requestsAfter otherUses = none) := by
  obtain ⟨hsettings, _⟩ := create_spec hcreate
  obtain ⟨hotherSettings, _⟩ := create_spec hother
  have hcounts : simulation.settings.eventCount = other.settings.eventCount := by
    rw [hsettings, hotherSettings, hcount]
  rw [(memoized_of_create hcreate).requestsAfter_eq uses,
    (memoized_of_create hother).requestsAfter_eq otherUses, ← hsettings]
  refine ⟨?_, fun hlimit => ⟨workload_eq_none hlimit, workload_eq_none (hcounts ▸ hlimit)⟩⟩
  intro hfits
  obtain ⟨made, hmade⟩ := exists_workload hfits
  obtain ⟨others, hothers⟩ := exists_workload (hcounts ▸ hfits)
  refine ⟨made, others, hmade, hothers, ?_⟩
  obtain ⟨⟨sampled, next⟩, hsample, rfl⟩ := Option.map_eq_some_iff.1 hmade
  obtain ⟨⟨twin, otherNext⟩, hotherSample, rfl⟩ := Option.map_eq_some_iff.1 hothers
  rw [hseed] at hsample
  rw [← hcounts] at hotherSample ⊢
  have hlength : sampled.length = twin.length := by
    rw [Sampler.length_sampleBy hsample, Sampler.length_sampleBy hotherSample]
  obtain ⟨hgap, hlifetime⟩ := fits_of_create hcreate
  obtain ⟨hotherGap, hotherLifetime⟩ := fits_of_create hother
  have hgaps : simulation.sampler.interval = other.sampler.interval := by
    rw [hinterval, hotherGap] at hgap
    exact (Except.ok.inj hgap).symm
  have hintervals := Sampler.intervals_eq hgaps hsample hotherSample
  refine ⟨?_, map_requests_eq hlength ?_, fun hduration => map_requests_eq hlength ?_⟩
  · rw [length_requests, Sampler.length_sampleBy hsample, Nat.min_self]
  · intro place request twin hrequest htwin
    obtain ⟨hid, hbirth, _⟩ := times_of_request hintervals hrequest htwin
    rw [hid, hbirth]
  · have hlifetimes : simulation.sampler.duration = other.sampler.duration := by
      rw [hduration, hotherLifetime] at hlifetime
      exact (Except.ok.inj hlifetime).symm
    have hdurations := Sampler.durations_eq hgaps hlifetimes hsample hotherSample
    intro place request twin hrequest htwin
    obtain ⟨hid, hbirth, hdeath⟩ := times_of_request hintervals hrequest htwin
    rw [hid, hbirth, hdeath hdurations]

/-- The seed is chosen for one simulation and drawn for the other. Their sizes are drawn by
    rejection, with different families and alignments, and one of them has run before. -/
theorem times_without_sizes_two_families :
    let settings : SimulationSettings := { eventCount := 500, seed := some 7 }
    let otherSettings : SimulationSettings := { eventCount := 500, alignment := 24 }
    let parameters : Parameters := .reference
    let otherParameters : Parameters := { parameters with size := ⟨.logNormal, [0.5, 3, 20]⟩ }
    ∃ simulation other made others,
      create settings parameters 0 = .ok simulation ∧
      create otherSettings otherParameters 7 = .ok other ∧ simulation.seed = other.seed ∧
      settings.eventCount < Draw.valueLimit ∧ simulation.requestsAfter [] = some made ∧
      other.requestsAfter [.run FirstFit.allocator (.ofCapacity 4096)] = some others ∧
      made.length = 500 ∧
      made.map (fun request => (request.id, request.birth, request.death)) =
        others.map (fun request => (request.id, request.birth, request.death)) := by
  intro settings otherSettings parameters otherParameters
  have hsettings : settings.validate = .ok ⟨8, by decide⟩ :=
    SimulationSettings.validate_eq_ok (by decide) (by decide +kernel)
  have hotherSettings : otherSettings.validate = .ok ⟨24, by decide⟩ :=
    SimulationSettings.validate_eq_ok (by decide) (by decide +kernel)
  have hfits : settings.eventCount < Draw.valueLimit := by decide
  obtain ⟨sampler, hparameters⟩ : ∃ sampler, Sampler.ofParameters parameters = .ok sampler :=
    ⟨_, rfl⟩
  obtain ⟨otherSampler, hotherParameters⟩ :
      ∃ sampler, Sampler.ofParameters otherParameters = .ok sampler :=
    ⟨_, rfl⟩
  obtain ⟨simulation, hcreate⟩ := exists_create hsettings hparameters 0
  obtain ⟨other, hother⟩ := exists_create hotherSettings hotherParameters 7
  have hseed : simulation.seed = other.seed :=
    (create_spec hcreate).2.1.trans (create_spec hother).2.1.symm
  obtain ⟨hrequests, _⟩ := times_without_sizes hcreate hother hseed rfl rfl []
    [.run FirstFit.allocator (.ofCapacity 4096)]
  obtain ⟨made, others, hmade, hothers, hlength, _, hdeaths⟩ := hrequests hfits
  exact ⟨simulation, other, made, others, hcreate, hother, hseed, hfits, hmade, hothers, hlength,
    hdeaths rfl⟩

end HeapReplay.Simulation
