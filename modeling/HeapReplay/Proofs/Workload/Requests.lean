import HeapReplay.Workload.Requests
import Mathlib.Data.List.Nodup
import Mathlib.Data.List.Range

namespace HeapReplay.Random.Draw

variable {α : Type}

theorem size_into (draw : Draw α) (drawn : Array α) (count : Nat) (generator : Generator) :
    (into draw drawn count generator).1.size = drawn.size + count := by
  induction count generalizing drawn generator with
  | zero => rfl
  | succ count ih =>
    have hnext : into draw drawn (count + 1) generator =
        into draw (drawn.push (draw generator).1) count (draw generator).2 := rfl
    rw [hnext, ih, Array.size_push, Nat.add_right_comm, Nat.add_assoc]

/-- As many values are drawn as were asked for, whatever the values are. -/
theorem length_many (draw : Draw α) (count : Nat) (generator : Generator) :
    (draw.many count generator).1.length = count := by
  have hsize := size_into draw #[] count generator
  rw [Array.size_empty, Nat.zero_add] at hsize
  exact Array.length_toList.trans hsize

theorem many?_of_lt (draw : Draw Float) {count : Nat} (hfits : count < valueLimit)
    (generator : Generator) : draw.many? count generator = some (draw.many count generator) :=
  if_neg (Nat.not_le.2 hfits)

/-- A list that does not fit into the address space is not begun. -/
theorem many?_of_le (draw : Draw Float) {count : Nat} (hlimit : valueLimit ≤ count)
    (generator : Generator) : draw.many? count generator = none :=
  if_pos hlimit

end HeapReplay.Random.Draw

namespace HeapReplay.Workload

open HeapReplay.Random Replay

section Draws

variable (draw : Distribution → Draw Float) (sampler : Sampler) {count : Nat}

theorem Sampler.sampleBy_of_lt (hfits : count < Draw.valueLimit) (generator : Generator) :
    sampler.sampleBy draw count generator =
      let intervals := (draw sampler.interval).many count generator
      let durations := (draw sampler.duration).many count intervals.2
      let sizes := (draw sampler.size).many count durations.2
      some (⟨sizes.1, intervals.1, durations.1⟩, sizes.2) := by
  simp only [sampleBy, bind, StateT.bind, Draw.many?_of_lt _ hfits, Option.bind_some]
  rfl

theorem Sampler.sampleBy_of_le (hlimit : Draw.valueLimit ≤ count) (generator : Generator) :
    sampler.sampleBy draw count generator = none := by
  simp only [sampleBy, bind, StateT.bind, Draw.many?_of_le _ hlimit, Option.bind_none]

/-- A workload is sampled exactly when its lists fit into the address space. -/
theorem Sampler.isSome_sampleBy (generator : Generator) :
    (sampler.sampleBy draw count generator).isSome ↔ count < Draw.valueLimit := by
  by_cases hfits : count < Draw.valueLimit
  · rw [sampleBy_of_lt draw sampler hfits]
    exact iff_of_true rfl hfits
  · rw [sampleBy_of_le draw sampler (Nat.not_lt.1 hfits)]
    exact iff_of_false Bool.false_ne_true hfits

variable {draw sampler} {sampled : Sampled} {generator next : Generator}

/-- Each quantity is drawn from where the one before it has left the generator, in whatever
    way values are drawn from a distribution. -/
theorem Sampler.sampled_eq (hsample : sampler.sampleBy draw count generator = some (sampled, next)) :
    let intervals := (draw sampler.interval).many count generator
    let durations := (draw sampler.duration).many count intervals.2
    let sizes := (draw sampler.size).many count durations.2
    sampled = ⟨sizes.1, intervals.1, durations.1⟩ := by
  have hfits : count < Draw.valueLimit := by
    rw [← isSome_sampleBy draw sampler generator, hsample]
    rfl
  rw [sampleBy_of_lt draw sampler hfits] at hsample
  exact (congrArg Prod.fst (Option.some.inj hsample)).symm

theorem Sampler.length_sampleBy
    (hsample : sampler.sampleBy draw count generator = some (sampled, next)) :
    sampled.length = count := by
  rw [sampled_eq hsample]
  simp only [Sampled.length, Draw.length_many, Nat.min_self]

end Draws

/-- Requests with the number of their place, none of which ends before it begins. -/
structure Numbered (made : Array Request) : Prop where
  id_eq : ∀ (place : Nat) (request : Request), made[place]? = some request →
    request.id = .ofNat place
  birth_le_death : ∀ request ∈ made, request.birth ≤ request.death

theorem numbered_empty : Numbered #[] := by
  constructor
  · intro place request hplace
    cases hplace
  · intro request hmem
    cases Array.not_mem_empty request hmem

theorem Numbered.push {made : Array Request} (hmade : Numbered made) {request : Request}
    (hid : request.id = .ofNat made.size) (htimes : request.birth ≤ request.death) :
    Numbered (made.push request) := by
  constructor
  · intro place other hplace
    rw [Array.getElem?_push] at hplace
    split at hplace
    · next hsize =>
      cases hplace
      rw [hid, hsize]
    · exact hmade.id_eq place other hplace
  · intro other hmem
    rcases Array.mem_push.1 hmem with hmem | rfl
    · exact hmade.birth_le_death other hmem
    · exact htimes

/-- Numbers do not come round again while there are no more requests than words. -/
theorem Numbered.nodup_ids {made : Array Request} (hmade : Numbered made)
    (hsize : made.size ≤ UInt64.size) : (made.toList.map Request.id).Nodup := by
  have hids : made.toList.map Request.id = (List.range made.size).map UInt64.ofNat := by
    refine List.ext_getElem (by simp) ?_
    intro place hplace _
    simp only [List.length_map, Array.length_toList] at hplace
    simp only [List.getElem_map, Array.getElem_toList, List.getElem_range]
    exact hmade.id_eq place _ (Array.getElem?_eq_getElem hplace)
  rw [hids]
  refine List.Nodup.map_on ?_ List.nodup_range
  intro a ha b hb heq
  rw [List.mem_range] at ha hb
  have hnumbers := congrArg UInt64.toNat heq
  rwa [UInt64.toNat_ofNat_of_lt' (by omega), UInt64.toNat_ofNat_of_lt' (by omega)] at hnumbers

theorem le_addSaturated (a b : UInt64) : a ≤ Word.addSaturated a b := by
  have hword := a.toNat_lt
  rw [UInt64.le_iff_toNat_le, Word.toNat_addSaturated]
  simp only [UInt64.size]
  omega

variable (alignment : PosWord)

theorem size_requestsInto (made : Array Request) (clock : UInt64)
    (samples : List (Float × Float × Float)) :
    (requestsInto alignment made clock samples).size = made.size + samples.length := by
  induction samples generalizing made clock with
  | nil => rfl
  | cons sample samples ih =>
    rw [requestsInto, ih, Array.size_push, List.length_cons, Nat.add_right_comm, Nat.add_assoc]

theorem numbered_requestsInto {made : Array Request} (hmade : Numbered made) (clock : UInt64)
    (samples : List (Float × Float × Float)) :
    Numbered (requestsInto alignment made clock samples) := by
  induction samples generalizing made clock with
  | nil => exact hmade
  | cons sample samples ih => exact ih (hmade.push rfl (le_addSaturated clock _)) _

/-- A request is made for each sample, up to the count. -/
theorem length_requests (count : Nat) (sampled : Sampled) :
    (requests alignment count sampled).length = min count sampled.length := by
  rw [requests, Array.length_toList, size_requestsInto, Array.size_empty, Nat.zero_add,
    List.length_take, List.length_zip, List.length_zip, Sampled.length, Nat.min_assoc]

theorem nodup_ids_requests {count : Nat} (hcount : count ≤ UInt64.size) (sampled : Sampled) :
    ((requests alignment count sampled).map Request.id).Nodup := by
  have hlength := length_requests alignment count sampled
  rw [requests, Array.length_toList] at hlength
  exact (numbered_requestsInto alignment numbered_empty 0 _).nodup_ids (by omega)

/-- Whatever is drawn, no request ends before it begins: a lifetime that is no number or
    below zero counts as none, and times stop at the largest word. -/
theorem birth_le_death_of_mem {count : Nat} {sampled : Sampled} {request : Request}
    (hmem : request ∈ requests alignment count sampled) : request.birth ≤ request.death := by
  rw [requests, Array.mem_toList_iff] at hmem
  exact (numbered_requestsInto alignment numbered_empty 0 _).birth_le_death request hmem

end HeapReplay.Workload
