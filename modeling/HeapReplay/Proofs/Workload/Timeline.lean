import HeapReplay.Proofs.Binary64.Truncation
import HeapReplay.Proofs.Word.Overstep
import HeapReplay.Proofs.Workload.Requests
import Mathlib.Algebra.GroupWithZero.Nat
import Mathlib.Algebra.Order.BigOperators.Group.List

namespace HeapReplay.Workload

open Replay

variable (alignment : PosWord)

/-- The request that the samples at a place stand for, when it is made at a time. -/
def requestOf (place : Nat) (clock : UInt64) : Float × Float × Float → Request
  | (size, _, duration) =>
    { id := .ofNat place
      size := requestSize alignment size
      birth := clock
      death := Word.addSaturated clock (ticks duration) }

/-- The requests of samples, the first of them at a place and a time. -/
def timeline (place : Nat) (clock : UInt64) : List (Float × Float × Float) → List Request
  | [] => []
  | sample :: samples =>
    requestOf alignment place clock sample ::
      timeline (place + 1) (Word.addSaturated clock (ticks sample.2.1)) samples

theorem toList_requestsInto (made : Array Request) (clock : UInt64)
    (samples : List (Float × Float × Float)) :
    (requestsInto alignment made clock samples).toList =
      made.toList ++ timeline alignment made.size clock samples := by
  induction samples generalizing made clock with
  | nil => simp [requestsInto, timeline]
  | cons sample samples ih =>
    rw [requestsInto, ih, Array.toList_push, Array.size_push, List.append_assoc]
    rfl

section Clock

/-- The clock behind the gaps of samples, which stops at the largest word. -/
def clockAfter (clock : UInt64) (samples : List (Float × Float × Float)) : UInt64 :=
  samples.foldl (fun clock sample => Word.addSaturated clock (ticks sample.2.1)) clock

/-- Once the clock has stopped it stays, so that it is as if the gaps had been added up
    without bound. -/
theorem toNat_clockAfter (clock : UInt64) (samples : List (Float × Float × Float)) :
    (clockAfter clock samples).toNat =
      min (clock.toNat + (samples.map fun sample => (ticks sample.2.1).toNat).sum)
        (UInt64.size - 1) := by
  induction samples generalizing clock with
  | nil =>
    have hclock := clock.toNat_lt
    simp only [clockAfter, List.foldl_nil, List.map_nil, List.sum_nil, UInt64.size]
    omega
  | cons sample samples ih =>
    rw [clockAfter, List.foldl_cons, ← clockAfter, ih, Word.toNat_addSaturated, List.map_cons,
      List.sum_cons]
    omega

end Clock

theorem getElem?_timeline (first : Nat) (clock : UInt64) (samples : List (Float × Float × Float))
    (place : Nat) :
    (timeline alignment first clock samples)[place]? =
      samples[place]?.map
        (requestOf alignment (first + place) (clockAfter clock (samples.take place))) := by
  induction samples generalizing first clock place with
  | nil => rfl
  | cons sample samples ih =>
    cases place with
    | zero => rfl
    | succ place =>
      have hlater := ih (first + 1) (Word.addSaturated clock (ticks sample.2.1)) place
      rw [Nat.add_right_comm] at hlater
      exact hlater

namespace Sampled

variable (sampled : Sampled)

/-- The samples that are complete, in the order of their places. -/
def complete : List (Float × Float × Float) :=
  sampled.sizes.zip (sampled.intervals.zip sampled.durations)

/-- The samples at a place, when there is one of each quantity. -/
def at? (place : Nat) : Option (Float × Float × Float) := do
  let size ← sampled.sizes[place]?
  let duration ← sampled.durations[place]?
  let interval ← sampled.intervals[place]?
  some (size, interval, duration)

/-- The time that the gaps before a place come to, without bound. -/
def elapsed (place : Nat) : Nat :=
  ((sampled.intervals.take place).map fun interval => (ticks interval).toNat).sum

variable {sampled}

theorem getElem?_complete {place : Nat} {size interval duration : Float} :
    sampled.complete[place]? = some (size, interval, duration) ↔
      sampled.sizes[place]? = some size ∧ sampled.intervals[place]? = some interval ∧
        sampled.durations[place]? = some duration := by
  simp only [complete, List.getElem?_zip_eq_some]

theorem at?_eq_getElem? (place : Nat) : sampled.at? place = sampled.complete[place]? := by
  refine Option.ext ?_
  rintro ⟨size, interval, duration⟩
  simp only [getElem?_complete, at?, bind, Option.bind_eq_some_iff, Option.some.injEq,
    Prod.mk.injEq]
  constructor
  · rintro ⟨_, hsize, _, hduration, _, hinterval, rfl, rfl, rfl⟩
    exact ⟨hsize, hinterval, hduration⟩
  · rintro ⟨hsize, hinterval, hduration⟩
    exact ⟨size, hsize, duration, hduration, interval, hinterval, rfl, rfl, rfl⟩

theorem length_complete : sampled.complete.length = sampled.length := by
  simp only [complete, List.length_zip, length, Nat.min_assoc]

theorem take_map_complete {place : Nat} (hplace : place ≤ sampled.length) :
    (sampled.complete.take place).map (fun sample => sample.2.1) =
      sampled.intervals.take place := by
  refine List.ext_getElem? ?_
  intro earlier
  rw [List.getElem?_map, List.getElem?_take, List.getElem?_take]
  split
  · next hearlier =>
    have hlt : earlier < sampled.complete.length := by
      rw [length_complete]
      omega
    rcases hsample : sampled.complete[earlier] with ⟨size, interval, duration⟩
    have hsome := List.getElem?_eq_getElem hlt
    rw [hsample] at hsome
    rw [hsome, (getElem?_complete.1 hsome).2.1]
    rfl
  · rfl

theorem toNat_clockAfter_complete {place : Nat} (hplace : place ≤ sampled.length) :
    (clockAfter 0 (sampled.complete.take place)).toNat =
      min (sampled.elapsed place) (UInt64.size - 1) := by
  have hgaps : (sampled.complete.take place).map (fun sample => (ticks sample.2.1).toNat) =
      (sampled.intervals.take place).map fun interval => (ticks interval).toNat := by
    rw [← take_map_complete hplace, List.map_map]
    rfl
  rw [toNat_clockAfter, hgaps, elapsed, UInt64.toNat_zero, Nat.zero_add]

theorem elapsed_mono {earlier later : Nat} (hle : earlier ≤ later) :
    sampled.elapsed earlier ≤ sampled.elapsed later := by
  have htaken := List.take_prefix_take_left (l := sampled.intervals) hle
  exact (htaken.sublist.map _).sum_le_sum fun _ _ => Nat.zero_le _

end Sampled

variable {alignment}

theorem requests_eq_timeline (count : Nat) (sampled : Sampled) :
    requests alignment count sampled =
      timeline alignment 0 0 (sampled.complete.take count) := by
  exact toList_requestsInto alignment #[] 0 _

section Places

variable (sampled : Sampled)

/-- A number of requests made place by place, each from the samples at its place. There are
    none when a place is out of range. -/
def requestsFrom? (alignment : PosWord) (place : Nat) (clock : UInt64) :
    Nat → Option (List Request)
  | 0 => some []
  | count + 1 => do
    let sample ← sampled.at? place
    let later ← requestsFrom? alignment (place + 1) (Word.addSaturated clock (ticks sample.2.1))
      count
    some (requestOf alignment place clock sample :: later)

variable {sampled}

theorem requestsFrom?_eq {place count : Nat} (hrange : place + count ≤ sampled.length)
    (clock : UInt64) :
    requestsFrom? sampled alignment place clock count =
      some (timeline alignment place clock ((sampled.complete.drop place).take count)) := by
  induction count generalizing place clock with
  | zero => rfl
  | succ count ih =>
    have hplace : place < sampled.complete.length := by
      rw [Sampled.length_complete]
      omega
    rw [requestsFrom?, Sampled.at?_eq_getElem?, List.getElem?_eq_getElem hplace,
      List.drop_eq_getElem_cons hplace, List.take_succ_cons]
    simp only [bind, Option.bind_some]
    rw [ih (by omega)]
    rfl

end Places

section Sizes

/-- The sizes that a request can have. -/
def alignedSizes (alignment : PosWord) : Set Nat :=
  {size | 0 < size ∧ alignment.val.toNat ∣ size ∧ size < UInt64.size}

/-- The unit itself is a word, so the largest multiple that is one is not zero. -/
theorem isGreatest_alignedSizes {alignment : PosWord} {size : Nat}
    (hgreatest : IsGreatest (Word.wordMultiples alignment) size) :
    IsGreatest (alignedSizes alignment) size := by
  obtain ⟨⟨hdvd, hword⟩, hupper⟩ := hgreatest
  have hunit := hupper ⟨Nat.dvd_refl alignment.val.toNat, alignment.val.toNat_lt⟩
  exact ⟨⟨Nat.lt_of_lt_of_le (Word.unit_pos alignment) hunit, hdvd, hword⟩,
    fun other hother => hupper hother.2⟩

/-- A request has the least size that has room for its sample, or else the largest size
    there is. -/
theorem requestSize_fits (alignment : PosWord) (sample : Float) :
    let roomy := {size ∈ alignedSizes alignment | (ticks sample).toNat ≤ size}
    IsLeast roomy (requestSize alignment sample).toNat ∨
      roomy = ∅ ∧ IsGreatest (alignedSizes alignment) (requestSize alignment sample).toNat := by
  intro roomy
  have hvalue : (max (ticks sample) 1).toNat = max (ticks sample).toNat 1 := Word.toNat_max _ _
  have hrounded := Word.isLeast_roundUp alignment (max (ticks sample) 1).toNat
  have hleast : ∀ size ∈ roomy,
      Word.roundUp alignment.val.toNat (max (ticks sample) 1).toNat ≤ size := by
    rintro size ⟨⟨hsize, hdvd, _⟩, hroom⟩
    exact hrounded.2 ⟨hdvd, by omega⟩
  by_cases hword : Word.roundUp alignment.val.toNat (max (ticks sample) 1).toNat < UInt64.size
  · left
    obtain ⟨hdvd, hle⟩ := hrounded.1
    rw [requestSize, Word.toNat_alignUp_of_lt hword]
    exact ⟨⟨⟨by omega, hdvd, hword⟩, by omega⟩, hleast⟩
  · right
    have hlarge := Word.isGreatest_alignUp_of_le (Nat.not_lt.1 hword)
    refine ⟨?_, isGreatest_alignedSizes hlarge⟩
    refine Set.eq_empty_of_forall_notMem ?_
    intro size hsize
    exact hword (Nat.lt_of_le_of_lt (hleast size hsize) hsize.1.2.2)

theorem requestSize_mem_alignedSizes (alignment : PosWord) (sample : Float) :
    (requestSize alignment sample).toNat ∈ alignedSizes alignment := by
  rcases requestSize_fits alignment sample with hleast | ⟨_, hgreatest⟩
  · exact hleast.1.1
  · exact hgreatest.1

end Sizes

section Closed

variable {count place : Nat} {sampled : Sampled} {request : Request}

/-- The request at a place, from the samples at this place and the gaps before it. -/
theorem exists_sample_of_request
    (hrequest : (requests alignment count sampled)[place]? = some request) :
    place < sampled.length ∧ ∃ size interval duration,
      sampled.complete[place]? = some (size, interval, duration) ∧
        request = requestOf alignment place (clockAfter 0 (sampled.complete.take place))
          (size, interval, duration) := by
  rw [requests_eq_timeline, getElem?_timeline, Option.map_eq_some_iff] at hrequest
  obtain ⟨⟨size, interval, duration⟩, hsample, hmade⟩ := hrequest
  rw [List.getElem?_take] at hsample
  split at hsample
  · next hplace =>
    rw [List.take_take, Nat.min_eq_left (Nat.le_of_lt hplace), Nat.zero_add] at hmade
    obtain ⟨hrange, _⟩ := List.getElem?_eq_some_iff.1 hsample
    rw [Sampled.length_complete] at hrange
    exact ⟨hrange, size, interval, duration, hsample, hmade.symm⟩
  · cases hsample

theorem toNat_birth (hrequest : (requests alignment count sampled)[place]? = some request) :
    request.birth.toNat = min (sampled.elapsed place) (UInt64.size - 1) := by
  obtain ⟨hplace, size, interval, duration, _, rfl⟩ := exists_sample_of_request hrequest
  exact Sampled.toNat_clockAfter_complete (Nat.le_of_lt hplace)

/-- Requests are born in the order of their places. -/
theorem births_ascend (alignment : PosWord) (count : Nat) (sampled : Sampled) :
    (requests alignment count sampled).Pairwise fun earlier later => earlier.birth ≤ later.birth := by
  rw [List.pairwise_iff_getElem]
  intro earlier later hearlier hlater hlt
  have hmono := sampled.elapsed_mono (Nat.le_of_lt hlt)
  rw [UInt64.le_iff_toNat_le, toNat_birth (List.getElem?_eq_getElem hearlier),
    toNat_birth (List.getElem?_eq_getElem hlater)]
  omega

end Closed

/-- The requests of a workload in closed form. There is one for each place at which there
    is a sample of each quantity, up to the count, and no other place is looked at. Each is
    born when the gaps before its place have passed and dies when its lifetime has passed as
    well, as if times had no bound, with the largest word for all times above the words. So
    requests are born in the order of their places, none dies before it is born, and each
    has room for at least one byte. -/
theorem requests_closed_form (alignment : PosWord) (count : Nat) (sampled : Sampled) :
    let made := requests alignment count sampled
    let shortest :=
      min (min sampled.sizes.length sampled.intervals.length) sampled.durations.length
    (∀ sample, (ticks sample).toNat = (Binary64.datum sample).truncated) ∧
      requestsFrom? sampled alignment 0 0 (min count shortest) = some made ∧
      made.length = min count shortest ∧
      (∀ place request, made[place]? = some request →
        ∃ size duration, sampled.sizes[place]? = some size ∧
          sampled.durations[place]? = some duration ∧
          request.id = .ofNat place ∧
          request.birth.toNat = min (sampled.elapsed place) (UInt64.size - 1) ∧
          request.death.toNat =
            min (sampled.elapsed place + (ticks duration).toNat) (UInt64.size - 1) ∧
          let roomy := {n ∈ alignedSizes alignment | (ticks size).toNat ≤ n}
          (IsLeast roomy request.size.toNat ∨
            roomy = ∅ ∧ IsGreatest (alignedSizes alignment) request.size.toNat)) ∧
      (made.Pairwise fun earlier later => earlier.birth ≤ later.birth) ∧
      ∀ request ∈ made, request.birth ≤ request.death ∧
        request.size.toNat ∈ alignedSizes alignment := by
  intro made shortest
  refine ⟨fun sample => Binary64.toNat_toUInt64 sample, ?_, length_requests alignment count sampled,
    ?_, births_ascend alignment count sampled, ?_⟩
  · have hrange : 0 + min count sampled.length ≤ sampled.length := by
      omega
    have htake : sampled.complete.take (min count sampled.length) =
        sampled.complete.take count := by
      rw [← Sampled.length_complete, ← List.take_take, List.take_length]
    refine (requestsFrom?_eq hrange 0).trans ?_
    rw [List.drop_zero, htake, ← requests_eq_timeline]
  · intro place request hrequest
    obtain ⟨hplace, size, interval, duration, hsample, hmade⟩ := exists_sample_of_request hrequest
    obtain ⟨hsize, _, hduration⟩ := Sampled.getElem?_complete.1 hsample
    have hbirth := toNat_birth hrequest
    refine ⟨size, duration, hsize, hduration, ?_, hbirth, ?_, ?_⟩
    · rw [hmade]
      rfl
    · have hdeath : request.death = Word.addSaturated request.birth (ticks duration) := by
        rw [hmade]
        rfl
      rw [hdeath, Word.toNat_addSaturated, hbirth]
      omega
    · have hrounded : request.size = requestSize alignment size := by
        rw [hmade]
        rfl
      rw [hrounded]
      exact requestSize_fits alignment size
  · intro request hmem
    obtain ⟨place, hplace⟩ := List.getElem?_of_mem hmem
    obtain ⟨_, size, _, _, _, hmade⟩ := exists_sample_of_request hplace
    refine ⟨birth_le_death_of_mem alignment hmem, ?_⟩
    rw [hmade]
    exact requestSize_mem_alignedSizes alignment size

/-- Among the samples are none, infinite ones and negative ones. The second request is larger
    than any multiple of six that is a word, and the third is made after the last word. -/
theorem requests_closed_form_stopped :
    let alignment : PosWord := ⟨6, by decide⟩
    let sampled : Sampled :=
      { sizes := [-4, 1e300, 7.9, 8]
        intervals := [5.5, 1e30, Binary64.nan]
        durations := [Binary64.nan, 1, Binary64.infinity false, 2, 3] }
    let request : Request := ⟨2, 12, 0xffffffffffffffff, 0xffffffffffffffff⟩
    (requests alignment 9 sampled)[2]? = some request ∧
      request.birth.toNat = min (sampled.elapsed 2) (UInt64.size - 1) := by
  intro alignment sampled request
  have hrequest : (requests alignment 9 sampled)[2]? = some request := by
    decide +kernel
  obtain ⟨_, _, _, hplaces, _⟩ := requests_closed_form alignment 9 sampled
  obtain ⟨_, _, _, _, _, hbirth, _⟩ := hplaces 2 request hrequest
  exact ⟨hrequest, hbirth⟩

end HeapReplay.Workload
