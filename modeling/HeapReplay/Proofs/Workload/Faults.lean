import HeapReplay.Proofs.Workload.Parameters
import Mathlib.Data.List.Basic

namespace HeapReplay.Workload

namespace ParameterSet

/-- The scale among the parameters. A constant has none. -/
def scale? (set : ParameterSet) : Option Float :=
  match set.family, set.params with
  | .inverseGaussian, [_, _, scale] | .logNormal, [_, _, scale] => some scale
  | .normal, [_, scale] | .exponential, [_, scale] | .uniform, [_, scale] => some scale
  | _, _ => none

/-- The shape among the parameters, for the families that have one. -/
def shape? (set : ParameterSet) : Option Float :=
  match set.family, set.params with
  | .inverseGaussian, [mean, _, _] => some mean
  | .logNormal, [shape, _, _] => some shape
  | _, _ => none

/-- Parameters as they should be: as many as the family takes, all of them finite, with a scale
    and a shape above zero. -/
structure Proper (set : ParameterSet) : Prop where
  number : set.params.length = set.family.arity
  finite : ∀ parameter ∈ set.params, parameter.isFinite
  scale_pos : ∀ scale, set.scale? = some scale → 0 < scale
  shape_pos : ∀ shape, set.shape? = some shape → 0 < shape

/-- The parameters of a log-normal distribution, as they should be but for the shape. -/
structure Overlooked (set : ParameterSet) : Prop where
  family : set.family = .logNormal
  number : set.params.length = set.family.arity
  finite : ∀ parameter ∈ set.params, parameter.isFinite
  scale_pos : ∀ scale, set.scale? = some scale → 0 < scale
  shape_not_pos : ∀ shape, set.shape? = some shape → ¬ 0 < shape

/-- What each family asks of finite parameters, and the distribution that they stand for. -/
inductive Fits : ParameterSet → Distribution → Prop
  | inverseGaussian {mean location scale : Float} (mean_pos : 0 < mean) (scale_pos : 0 < scale) :
      Fits ⟨.inverseGaussian, [mean, location, scale]⟩ (.inverseGaussian mean location scale)
  | normal {mean deviation : Float} (scale_pos : 0 < deviation) :
      Fits ⟨.normal, [mean, deviation]⟩ (.normal mean deviation)
  | logNormal {shape location scale : Float} (scale_pos : 0 < scale) :
      Fits ⟨.logNormal, [shape, location, scale]⟩ (.logNormal shape location scale)
  | exponential {location scale : Float} (scale_pos : 0 < scale) :
      Fits ⟨.exponential, [location, scale]⟩ (.exponential location scale)
  | uniform {low scale : Float} {distribution : Distribution} (scale_pos : 0 < scale)
      (range : ParameterSet.uniform low (low + scale) = .ok distribution) :
      Fits ⟨.uniform, [low, scale]⟩ distribution
  | constant (value : Float) : Fits ⟨.constant, [value]⟩ (.constant value)

variable {set : ParameterSet} {distribution : Distribution}

theorem checkScale_eq_ok_iff {scale : Float} {value : Unit} :
    checkScale scale = .ok value ↔ 0 < scale := by
  by_cases hpos : 0 < scale <;> simp [checkScale, hpos]

/-- The number of parameters and their finiteness are checked in every family. -/
theorem number_finite_of_fit (hfit : set.fit = .ok distribution) :
    set.params.length = set.family.arity ∧ ∀ parameter ∈ set.params, parameter.isFinite := by
  unfold fit at hfit
  split at hfit
  · cases hfit
  · next hnumber =>
    split at hfit
    · cases hfit
    · next hfinite =>
      refine ⟨Decidable.not_not.1 hnumber, ?_⟩
      simpa using hfinite

/-- A distribution behind the check of a scale. -/
theorem scale_pos_of_bind {scale : Float} {next : Except ParameterFault Distribution}
    (hnext : (checkScale scale >>= fun _ => next) = .ok distribution) :
    0 < scale ∧ next = .ok distribution := by
  obtain ⟨_, hscale, hnext⟩ := bind_eq_ok.1 hnext
  exact ⟨checkScale_eq_ok_iff.1 hscale, hnext⟩

theorem fits_of_fit (hfit : set.fit = .ok distribution) : set.Fits distribution := by
  obtain ⟨hnumber, hfinite⟩ := number_finite_of_fit hfit
  obtain ⟨family, params⟩ := set
  have hall : (!params.all Float.isFinite) = false := by
    rw [List.all_eq_true.2 hfinite]
    rfl
  rw [fit, if_neg (not_not_intro hnumber), if_neg (by rw [hall]; exact Bool.false_ne_true)] at hfit
  cases family with
  | inverseGaussian =>
    obtain ⟨mean, location, scale, rfl⟩ := List.length_eq_three.1 hnumber
    by_cases hmean : 0 < mean
    · simp only [hmean, decide_true, Bool.not_true] at hfit
      obtain ⟨hscale, hlast⟩ := scale_pos_of_bind hfit
      cases hlast
      exact .inverseGaussian hmean hscale
    · simp only [hmean, decide_false, Bool.not_false] at hfit
      cases hfit
  | normal =>
    obtain ⟨mean, deviation, rfl⟩ := List.length_eq_two.1 hnumber
    obtain ⟨hscale, hlast⟩ := scale_pos_of_bind hfit
    cases hlast
    exact .normal hscale
  | logNormal =>
    obtain ⟨shape, location, scale, rfl⟩ := List.length_eq_three.1 hnumber
    obtain ⟨hscale, hlast⟩ := scale_pos_of_bind hfit
    cases hlast
    exact .logNormal hscale
  | exponential =>
    obtain ⟨location, scale, rfl⟩ := List.length_eq_two.1 hnumber
    obtain ⟨hscale, hlast⟩ := scale_pos_of_bind hfit
    cases hlast
    exact .exponential hscale
  | uniform =>
    obtain ⟨low, scale, rfl⟩ := List.length_eq_two.1 hnumber
    obtain ⟨hscale, hrange⟩ := scale_pos_of_bind hfit
    exact .uniform hscale hrange
  | constant =>
    obtain ⟨value, rfl⟩ := List.length_eq_one_iff.1 hnumber
    cases hfit
    exact .constant value

theorem Fits.number (hfits : set.Fits distribution) : set.params.length = set.family.arity := by
  cases hfits <;> rfl

theorem fit_of_fits (hfits : set.Fits distribution)
    (hfinite : ∀ parameter ∈ set.params, parameter.isFinite) : set.fit = .ok distribution := by
  have hall : set.params.all Float.isFinite = true := List.all_eq_true.2 hfinite
  rw [fit, if_neg (not_not_intro hfits.number), hall]
  cases hfits with
  | inverseGaussian mean_pos scale_pos => simp [checkScale, mean_pos, scale_pos, bind, Except.bind]
  | uniform scale_pos range => simp [checkScale, scale_pos, range, bind, Except.bind]
  | constant value => rfl
  | _ scale_pos => simp [checkScale, scale_pos, bind, Except.bind]

/-- A set is fitted exactly when all of it is finite and it is what its family asks for. -/
theorem fit_eq_ok_iff : set.fit = .ok distribution ↔
    set.Fits distribution ∧ ∀ parameter ∈ set.params, parameter.isFinite := by
  constructor
  · intro hfit
    exact ⟨fits_of_fit hfit, (number_finite_of_fit hfit).2⟩
  · rintro ⟨hfits, hfinite⟩
    exact fit_of_fits hfits hfinite

/-- A log-normal distribution is the only one that is fitted with a shape that is not positive. -/
theorem proper_or_overlooked_of_fit (hfit : set.fit = .ok distribution) :
    set.Proper ∨ set.Overlooked := by
  obtain ⟨hfits, hfinite⟩ := fit_eq_ok_iff.1 hfit
  have hnumber := hfits.number
  cases hfits with
  | inverseGaussian mean_pos scale_pos =>
    refine .inl ⟨hnumber, hfinite, ?_, ?_⟩
    · rintro _ ⟨⟩
      exact scale_pos
    · rintro _ ⟨⟩
      exact mean_pos
  | @logNormal shape location scale scale_pos =>
    have hscale : ∀ found, some scale = some found → 0 < found := by
      rintro _ ⟨⟩
      exact scale_pos
    by_cases hshape : 0 < shape
    · refine .inl ⟨hnumber, hfinite, hscale, ?_⟩
      rintro _ ⟨⟩
      exact hshape
    · refine .inr ⟨rfl, hnumber, hfinite, hscale, ?_⟩
      rintro _ ⟨⟩
      exact hshape
  | constant value => exact .inl ⟨hnumber, hfinite, nofun, nofun⟩
  | _ scale_pos =>
    refine .inl ⟨hnumber, hfinite, ?_, nofun⟩
    rintro _ ⟨⟩
    exact scale_pos

theorem exists_fault_of_improper (hproper : ¬ set.Proper) (hoverlooked : ¬ set.Overlooked) :
    ∃ fault, set.fit = .error fault := by
  cases hfit : set.fit with
  | error fault => exact ⟨fault, rfl⟩
  | ok distribution => exact absurd (proper_or_overlooked_of_fit hfit) (not_or.2 ⟨hproper, hoverlooked⟩)

theorem Overlooked.exists_fit (hoverlooked : set.Overlooked) :
    ∃ distribution, set.fit = .ok distribution := by
  obtain ⟨family, params⟩ := set
  obtain ⟨rfl, hnumber, hfinite, hscale, _⟩ := hoverlooked
  obtain ⟨shape, location, scale, rfl⟩ := List.length_eq_three.1 hnumber
  exact ⟨_, fit_of_fits (.logNormal (hscale scale rfl)) hfinite⟩

end ParameterSet

/-- Parameters are rejected when one of their sets is not as it should be, save for log-normal
    distributions, whose shape is not looked at. The error is that of the first such set, and
    names what the set is for, when the sets before it are accepted. -/
theorem improper_parameters_rejected (parameters : Parameters) :
    (∀ quantity set, (quantity, set) ∈ parameters.sets → ¬ set.Proper → ¬ set.Overlooked →
      ∃ error, Sampler.ofParameters parameters = .error error) ∧
      (∀ before quantity set behind, parameters.sets = before ++ (quantity, set) :: behind →
        (∀ earlier ∈ before, ∃ distribution, earlier.2.fit = .ok distribution) →
        ¬ set.Proper → ¬ set.Overlooked →
        ∃ fault, Sampler.ofParameters parameters = .error ⟨some quantity, set, fault⟩ ∧
          ParameterError.reason ⟨some quantity, set, fault⟩ =
            quantity ++ ": " ++ set.describe ++ ": " ++ fault.message) ∧
      ∀ set : ParameterSet, set.Overlooked → ∃ distribution, set.fit = .ok distribution := by
  refine ⟨?_, ?_, fun set hoverlooked => hoverlooked.exists_fit⟩
  · intro quantity set hmem hproper hoverlooked
    obtain ⟨fault, hfault⟩ := ParameterSet.exists_fault_of_improper hproper hoverlooked
    have hsome : (parameters.sets.findSome? ParameterSet.error?).isSome := by
      rw [List.findSome?_isSome_iff]
      refine ⟨(quantity, set), hmem, ?_⟩
      rw [ParameterSet.error?_eq_some.2 ⟨fault, hfault, rfl⟩]
      rfl
    obtain ⟨error, herror⟩ := Option.isSome_iff_exists.1 hsome
    exact ⟨error, ofParameters_eq_error_iff.2 herror⟩
  · intro before quantity set behind hsplit hbefore hproper hoverlooked
    obtain ⟨fault, hfault⟩ := ParameterSet.exists_fault_of_improper hproper hoverlooked
    refine ⟨fault, ofParameters_eq_error_iff.2 (List.findSome?_eq_some_iff.2 ?_), rfl⟩
    refine ⟨before, (quantity, set), behind, hsplit,
      ParameterSet.error?_eq_some.2 ⟨fault, hfault, rfl⟩, ?_⟩
    intro earlier hearlier
    obtain ⟨distribution, hfit⟩ := hbefore earlier hearlier
    simp only [ParameterSet.error?, hfit]

/-- The scale of the gaps is negative, and there are too few parameters for the lifetimes. -/
theorem improper_parameters_rejected_scale :
    let interval : ParameterSet := ⟨.logNormal, [0.5, 0, -2]⟩
    let parameters : Parameters := ⟨⟨.inverseGaussian, [1, 50, 10]⟩, interval, ⟨.normal, [0]⟩⟩
    ¬ interval.Proper ∧ ¬ interval.Overlooked ∧
      ∃ fault, Sampler.ofParameters parameters = .error ⟨some "interval", interval, fault⟩ := by
  intro interval parameters
  have hscale : ¬ (0 : Float) < -2 := by decide +kernel
  have hproper : ¬ interval.Proper := fun hproper => hscale (hproper.scale_pos _ rfl)
  have hoverlooked : ¬ interval.Overlooked :=
    fun hoverlooked => hscale (hoverlooked.scale_pos _ rfl)
  obtain ⟨_, hfirst, _⟩ := improper_parameters_rejected parameters
  have hbefore : ∀ earlier ∈ [("size", parameters.size)],
      ∃ distribution, earlier.2.fit = .ok distribution := by
    rintro _ (_ | ⟨_, ⟨⟩⟩)
    exact ⟨_, rfl⟩
  obtain ⟨fault, hrejected, _⟩ := hfirst [("size", parameters.size)] "interval" interval
    [("duration", parameters.duration)] rfl hbefore hproper hoverlooked
  exact ⟨hproper, hoverlooked, fault, hrejected⟩

/-- A log-normal distribution with a negative shape is accepted. -/
theorem negative_shape_accepted :
    let size : ParameterSet := ⟨.logNormal, [-1, 0, 1]⟩
    ¬ size.Proper ∧
      ∃ sampler, Sampler.ofParameters ⟨size, ⟨.constant, [1]⟩, ⟨.constant, [1]⟩⟩ = .ok sampler := by
  intro size
  have hshape : ¬ (0 : Float) < -1 := by decide +kernel
  exact ⟨fun hproper => hshape (hproper.shape_pos _ rfl), _, rfl⟩

end HeapReplay.Workload
