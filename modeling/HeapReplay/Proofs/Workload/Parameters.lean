import HeapReplay.Proofs.Except
import HeapReplay.Workload.Sampler

namespace HeapReplay.Workload

/-- The parameter sets of a workload, with the quantities that they are for. -/
def Parameters.sets (parameters : Parameters) : List (String × ParameterSet) :=
  [("size", parameters.size), ("interval", parameters.interval), ("duration", parameters.duration)]

/-- The error that the set of a quantity is rejected with, if it is rejected. -/
def ParameterSet.error? : String × ParameterSet → Option ParameterError
  | (quantity, set) =>
    match set.fit with
    | .ok _ => none
    | .error fault => some ⟨some quantity, set, fault⟩

theorem ParameterSet.error?_eq_some {quantity : String} {set : ParameterSet}
    {error : ParameterError} : error? (quantity, set) = some error ↔
      ∃ fault, set.fit = .error fault ∧ error = ⟨some quantity, set, fault⟩ := by
  cases hfit : set.fit <;> simp [error?, hfit, eq_comm]

theorem fitFor_eq_ok {quantity : String} {set : ParameterSet} {distribution : Distribution} :
    Sampler.fitFor quantity set = .ok distribution ↔ set.fit = .ok distribution := by
  cases hfit : set.fit <;> simp [Sampler.fitFor, hfit]

variable {parameters : Parameters} {sampler : Sampler} {error : ParameterError}

/-- Accepted parameters have a distribution for each quantity. -/
theorem fits_of_ofParameters (haccept : Sampler.ofParameters parameters = .ok sampler) :
    parameters.size.fit = .ok sampler.size ∧ parameters.interval.fit = .ok sampler.interval ∧
      parameters.duration.fit = .ok sampler.duration := by
  obtain ⟨size, hsize, haccept⟩ := bind_eq_ok.1 haccept
  obtain ⟨interval, hinterval, haccept⟩ := bind_eq_ok.1 haccept
  obtain ⟨duration, hduration, haccept⟩ := bind_eq_ok.1 haccept
  cases haccept
  exact ⟨fitFor_eq_ok.1 hsize, fitFor_eq_ok.1 hinterval, fitFor_eq_ok.1 hduration⟩

/-- Parameters are accepted only when all their sets are. -/
theorem fit_of_ofParameters (haccept : Sampler.ofParameters parameters = .ok sampler)
    {quantity : String} {set : ParameterSet} (hset : (quantity, set) ∈ parameters.sets) :
    ∃ distribution, set.fit = .ok distribution := by
  obtain ⟨hsize, hinterval, hduration⟩ := fits_of_ofParameters haccept
  simp only [Parameters.sets, List.mem_cons, Prod.mk.injEq, List.not_mem_nil, or_false] at hset
  obtain ⟨_, rfl⟩ | ⟨_, rfl⟩ | ⟨_, rfl⟩ := hset
  · exact ⟨_, hsize⟩
  · exact ⟨_, hinterval⟩
  · exact ⟨_, hduration⟩

/-- A set is rejected, or the first one behind it is. -/
theorem bind_fitFor_eq_error {quantity : String} {set : ParameterSet} {α : Type}
    {next : Distribution → Except ParameterError α} {sets : List (String × ParameterSet)}
    (hnext : ∀ distribution, next distribution = .error error ↔
      sets.findSome? ParameterSet.error? = some error) :
    Sampler.fitFor quantity set >>= next = .error error ↔
      ((quantity, set) :: sets).findSome? ParameterSet.error? = some error := by
  cases hfit : set.fit with
  | ok distribution =>
    have haccept : Sampler.fitFor quantity set = .ok distribution := fitFor_eq_ok.2 hfit
    have hnone : ParameterSet.error? (quantity, set) = none := by simp [ParameterSet.error?, hfit]
    rw [haccept, List.findSome?_cons, hnone]
    exact hnext distribution
  | error fault =>
    have hreject : Sampler.fitFor quantity set = .error ⟨some quantity, set, fault⟩ := by
      simp [Sampler.fitFor, hfit]
    rw [hreject, List.findSome?_cons, ParameterSet.error?_eq_some.2 ⟨fault, hfit, rfl⟩,
      Option.some.injEq]
    constructor
    · rintro ⟨⟩
      rfl
    · rintro rfl
      rfl

/-- Parameters are rejected as the first of their sets that is rejected. -/
theorem ofParameters_eq_error_iff : Sampler.ofParameters parameters = .error error ↔
    parameters.sets.findSome? ParameterSet.error? = some error := by
  refine bind_fitFor_eq_error fun _ => ?_
  refine bind_fitFor_eq_error fun _ => ?_
  refine bind_fitFor_eq_error fun _ => ?_
  simp

/-- Parameters are rejected for one of their sets. -/
theorem ofParameters_eq_error (hreject : Sampler.ofParameters parameters = .error error) :
    ∃ quantity set fault, (quantity, set) ∈ parameters.sets ∧ set.fit = .error fault ∧
      error = ⟨some quantity, set, fault⟩ := by
  obtain ⟨⟨quantity, set⟩, hset, herror⟩ :=
    List.exists_of_findSome?_eq_some (ofParameters_eq_error_iff.1 hreject)
  obtain ⟨fault, hfit, hsame⟩ := ParameterSet.error?_eq_some.1 herror
  exact ⟨quantity, set, fault, hset, hfit, hsame⟩

end HeapReplay.Workload
