import HeapReplay.Proofs.Word.Rounding
import HeapReplay.Trace.Histogram
import Mathlib.Algebra.GroupWithZero.Nat
import Mathlib.Algebra.Order.BigOperators.Group.List
import Mathlib.Data.List.Dedup
import Mathlib.Data.List.Sort

namespace HeapReplay.Trace

/-- The sum of the counts of some buckets. -/
def total (p : UInt64 → Bool) (counts : List (UInt64 × Nat)) : Nat :=
  ((counts.filter fun bucket => p bucket.1).map Prod.snd).sum

section Total

variable {p : UInt64 → Bool} {bucket : UInt64 × Nat} {counts others : List (UInt64 × Nat)}

theorem total_cons (p : UInt64 → Bool) (bucket : UInt64 × Nat) (counts : List (UInt64 × Nat)) :
    total p (bucket :: counts) = (if p bucket.1 then bucket.2 else 0) + total p counts := by
  by_cases hp : p bucket.1 <;> simp [total, hp]

theorem total_eq_zero (hnone : ∀ bucket ∈ counts, p bucket.1 = false) : total p counts = 0 := by
  have hempty : counts.filter (fun bucket => p bucket.1) = [] := by
    rw [List.filter_eq_nil_iff]
    intro bucket hmem
    simp [hnone bucket hmem]
  rw [total, hempty]
  rfl

theorem le_total (hmem : bucket ∈ counts) (hp : p bucket.1) : bucket.2 ≤ total p counts := by
  have hkept : bucket ∈ counts.filter fun bucket => p bucket.1 := List.mem_filter.2 ⟨hmem, hp⟩
  exact List.le_sum_of_mem (List.mem_map_of_mem hkept)

/-- In ascending buckets, each is the only one of its name. -/
theorem total_of_mem (hascend : counts.Pairwise fun a b => a.1 < b.1) (hmem : bucket ∈ counts) :
    total (· = bucket.1) counts = bucket.2 := by
  induction counts with
  | nil => cases hmem
  | cons first counts ih =>
    obtain ⟨hfirst, hlater⟩ := List.pairwise_cons.1 hascend
    rw [total_cons]
    rcases List.mem_cons.1 hmem with rfl | hmem
    · have hnone : total (· = bucket.1) counts = 0 := by
        refine total_eq_zero ?_
        intro other hother
        exact decide_eq_false (UInt64.ne_of_lt (hfirst other hother)).symm
      simp [hnone]
    · have hne : first.1 ≠ bucket.1 := UInt64.ne_of_lt (hfirst bucket hmem)
      simp [hne, ih hlater hmem]

theorem nodup_of_ascending (hascend : counts.Pairwise fun a b => a.1 < b.1) : counts.Nodup := by
  refine hascend.imp ?_
  rintro a b hlt rfl
  exact UInt64.lt_irrefl _ hlt

/-- Ascending buckets are told by what they are. -/
theorem eq_of_mem_iff (hcounts : counts.Pairwise fun a b => a.1 < b.1)
    (hothers : others.Pairwise fun a b => a.1 < b.1)
    (hsame : ∀ bucket, bucket ∈ counts ↔ bucket ∈ others) : counts = others := by
  have hperm := (List.perm_ext_iff_of_nodup (nodup_of_ascending hcounts)
    (nodup_of_ascending hothers)).2 hsame
  refine hperm.eq_of_pairwise ?_ hcounts hothers
  intro a b _ _ hab hba
  exact absurd hab (UInt64.lt_asymm hba)

end Total

/-- Buckets in ascending order that count the occurrences of values. -/
structure Tabulates (values : List UInt64) (counts : List (UInt64 × Nat)) : Prop where
  ascending : counts.Pairwise fun a b => a.1 < b.1
  positive : ∀ bucket ∈ counts, 0 < bucket.2
  total_eq : ∀ p, total p counts = values.countP p

namespace Tabulates

variable {values more : List UInt64} {counts others : List (UInt64 × Nat)} {key : UInt64}
  {count : Nat} {p : UInt64 → Bool}

theorem perm (htable : Tabulates values counts) (hperm : values.Perm more) :
    Tabulates more counts := by
  refine ⟨htable.ascending, htable.positive, ?_⟩
  intro p
  rw [htable.total_eq, hperm.countP_eq]

/-- Some bucket is counted where some value occurs. -/
theorem exists_mem_iff (htable : Tabulates values counts) :
    (∃ bucket ∈ counts, p bucket.1) ↔ 0 < values.countP p := by
  rw [← htable.total_eq]
  constructor
  · rintro ⟨bucket, hmem, hp⟩
    exact Nat.lt_of_lt_of_le (htable.positive bucket hmem) (le_total hmem hp)
  · intro hpos
    by_contra hnone
    have hzero : total p counts = 0 := by
      refine total_eq_zero ?_
      intro bucket hmem
      exact eq_false_of_ne_true fun hp => hnone ⟨bucket, hmem, hp⟩
    omega

/-- The values that occur are listed, with the number of their occurrences. -/
theorem mem_iff (htable : Tabulates values counts) :
    (key, count) ∈ counts ↔ 0 < count ∧ count = values.countP (· = key) := by
  constructor
  · intro hmem
    have htotal := total_of_mem htable.ascending hmem
    rw [htable.total_eq] at htotal
    exact ⟨htable.positive _ hmem, htotal.symm⟩
  · rintro ⟨hpos, rfl⟩
    obtain ⟨⟨found, occurrences⟩, hmem, hkey⟩ := htable.exists_mem_iff.2 hpos
    obtain rfl := of_decide_eq_true hkey
    have htotal := total_of_mem htable.ascending hmem
    rw [htable.total_eq] at htotal
    rwa [htotal]

theorem unique (htable : Tabulates values counts) (hothers : Tabulates values others) :
    counts = others := by
  refine eq_of_mem_iff htable.ascending hothers.ascending ?_
  rintro ⟨key, count⟩
  rw [htable.mem_iff, hothers.mem_iff]

end Tabulates

section Runs

variable {bucket : UInt64} {values : List UInt64} {counts : List (UInt64 × Nat)}

theorem total_countBucket (p : UInt64 → Bool) (bucket : UInt64) (counts : List (UInt64 × Nat)) :
    total p (countBucket bucket counts) = total p counts + if p bucket then 1 else 0 := by
  cases counts with
  | nil => rw [countBucket, total_cons, Nat.add_comm]
  | cons first counts =>
    rw [countBucket]
    split
    · next hsame =>
      rw [hsame, total_cons, total_cons]
      split <;> omega
    · rw [total_cons, Nat.add_comm]

theorem positive_countBucket (hpositive : ∀ bucket ∈ counts, 0 < bucket.2) :
    ∀ other ∈ countBucket bucket counts, 0 < other.2 := by
  cases counts with
  | nil => simp [countBucket]
  | cons first counts =>
    obtain ⟨hfirst, hlater⟩ := List.forall_mem_cons.1 hpositive
    rw [countBucket]
    split
    · exact List.forall_mem_cons.2 ⟨Nat.succ_pos _, hlater⟩
    · exact List.forall_mem_cons.2 ⟨Nat.one_pos, hpositive⟩

/-- A bucket that is not behind the first one is put in front of it, or counted with it. -/
theorem ascending_countBucket (hascend : counts.Pairwise fun a b => a.1 < b.1)
    (hleast : ∀ other ∈ counts, bucket ≤ other.1) :
    (countBucket bucket counts).Pairwise fun a b => a.1 < b.1 := by
  cases counts with
  | nil => exact List.pairwise_singleton _ _
  | cons first counts =>
    rw [countBucket]
    split
    · exact List.pairwise_cons.2 (List.pairwise_cons.1 hascend)
    · next hne =>
      refine List.pairwise_cons.2 ⟨?_, hascend⟩
      have hfirst : bucket < first.1 :=
        UInt64.lt_of_le_of_ne (hleast first List.mem_cons_self) hne
      intro other hmem
      rcases List.mem_cons.1 hmem with rfl | hlater
      · exact hfirst
      · exact UInt64.lt_trans hfirst ((List.pairwise_cons.1 hascend).1 other hlater)

/-- The runs of an ascending list count its values. -/
theorem tabulates_runs (hascend : values.Pairwise (· ≤ ·)) : Tabulates values (runs values) := by
  induction values with
  | nil => exact ⟨.nil, by simp [runs], by simp [runs, total]⟩
  | cons value values ih =>
    obtain ⟨hfirst, hlater⟩ := List.pairwise_cons.1 hascend
    have htable := ih hlater
    refine ⟨ascending_countBucket htable.ascending ?_, positive_countBucket htable.positive, ?_⟩
    · intro bucket hmem
      -- The bucket counts a later value, which is not below this one.
      obtain ⟨hpos, hcount⟩ := htable.mem_iff.1 hmem
      rw [hcount, List.countP_pos_iff] at hpos
      obtain ⟨found, hfound, hkey⟩ := hpos
      rw [← of_decide_eq_true hkey]
      exact hfirst found hfound
    · intro p
      have htotal := total_countBucket p value (runs values)
      rw [htable.total_eq, ← List.countP_cons] at htotal
      exact htotal

end Runs

section Regroup

/-- Counted buckets regrouped to those of another width: each bucket that they fall into, with
    their counts added. -/
def regroup (width : PosWord) (counts : List (UInt64 × Nat)) : List (UInt64 × Nat) :=
  (counts.map fun bucket => Word.alignDown width bucket.1).dedup.map fun key =>
    (key, total (Word.alignDown width · = key) counts)

variable {width : PosWord} {values : List UInt64} {counts : List (UInt64 × Nat)}

theorem mem_regroup_iff {key : UInt64} {count : Nat} : (key, count) ∈ regroup width counts ↔
    (∃ bucket ∈ counts, Word.alignDown width bucket.1 = key) ∧
      count = total (Word.alignDown width · = key) counts := by
  rw [← List.mem_map, regroup, List.mem_map]
  constructor
  · rintro ⟨found, hfound, hbucket⟩
    cases hbucket
    exact ⟨List.mem_dedup.1 hfound, rfl⟩
  · rintro ⟨hlisted, rfl⟩
    exact ⟨key, List.mem_dedup.2 hlisted, rfl⟩

theorem ascending_regroup (hascend : counts.Pairwise fun a b => a.1 < b.1) :
    (regroup width counts).Pairwise fun a b => a.1 < b.1 := by
  have hkeys : (counts.map fun bucket => Word.alignDown width bucket.1).Pairwise (· ≤ ·) := by
    rw [List.pairwise_map]
    exact hascend.imp fun hlt => Word.alignDown_mono width (UInt64.le_of_lt hlt)
  rw [regroup, List.pairwise_map]
  refine ((hkeys.sublist (List.dedup_sublist _)).and (List.nodup_dedup _)).imp ?_
  rintro a b ⟨hle, hne⟩
  exact UInt64.lt_of_le_of_ne hle hne

/-- Regrouping the buckets of values is the same as putting the values into wider ones. -/
theorem Tabulates.regroup_eq (htable : Tabulates values counts) {wider : List (UInt64 × Nat)}
    (hwider : Tabulates (values.map (Word.alignDown width)) wider) :
    regroup width counts = wider := by
  refine eq_of_mem_iff (ascending_regroup htable.ascending) hwider.ascending ?_
  rintro ⟨key, count⟩
  have hcount : (values.map (Word.alignDown width)).countP (· = key) =
      values.countP (Word.alignDown width · = key) := List.countP_map
  have hlisted : (∃ bucket ∈ counts, Word.alignDown width bucket.1 = key) ↔
      0 < values.countP (Word.alignDown width · = key) := by
    rw [← htable.exists_mem_iff]
    simp only [decide_eq_true_eq]
  rw [mem_regroup_iff, hwider.mem_iff, hcount, hlisted, htable.total_eq]
  constructor
  · rintro ⟨hpos, rfl⟩
    exact ⟨hpos, rfl⟩
  · rintro ⟨hpos, rfl⟩
    exact ⟨hpos, rfl⟩

end Regroup

section Records

variable {width : PosWord} {limit key : UInt64} {records : List Record}

theorem countP_sizesUpTo (p : UInt64 → Bool) (limit : UInt64) (records : List Record) :
    (sizesUpTo limit records).countP p =
      records.countP fun record => record.mallocSize?.any fun size => size ≤ limit && p size := by
  rw [sizesUpTo, List.countP_filter, List.countP_filterMap]
  refine List.countP_congr ?_
  intro record _
  cases record.mallocSize? <;> simp [Bool.and_comm]

/-- A histogram counts the buckets that the sizes fall into. -/
theorem tabulates_histogram (width : PosWord) (limit : UInt64) (records : List Record) :
    Tabulates ((sizesUpTo limit records).map (Word.alignDown width))
      (histogram width limit records) := by
  refine (tabulates_runs ?_).perm (List.mergeSort_perm _ _)
  exact List.pairwise_mergeSort' (· ≤ ·) _

/-- The sizes that fall into a bucket are those less than a width above its name. -/
theorem countP_bucket (hdvd : width.val.toNat ∣ key.toNat) :
    ((sizesUpTo limit records).map (Word.alignDown width)).countP (· = key) =
      records.countP fun record => record.mallocSize?.any fun size =>
        size ≤ limit ∧ key ≤ size ∧ size.toNat - key.toNat < width.val.toNat := by
  rw [List.countP_map, countP_sizesUpTo]
  refine List.countP_congr ?_
  intro record _
  simp [Word.alignDown_eq_iff, hdvd]

/-- A bucket that is listed is the one of some size. -/
theorem exists_size_of_mem {count : Nat} (hmem : (key, count) ∈ histogram width limit records) :
    ∃ size ∈ sizesUpTo limit records, Word.alignDown width size = key := by
  obtain ⟨hpos, hcount⟩ := (tabulates_histogram width limit records).mem_iff.1 hmem
  rw [hcount, List.countP_pos_iff] at hpos
  obtain ⟨found, hfound, hkey⟩ := hpos
  obtain ⟨size, hsize, rfl⟩ := List.mem_map.1 hfound
  exact ⟨size, hsize, of_decide_eq_true hkey⟩

/-- The buckets that are listed are the multiples of the width into which sizes fall. -/
theorem mem_histogram_iff {count : Nat} : (key, count) ∈ histogram width limit records ↔
    width.val.toNat ∣ key.toNat ∧ 1 ≤ count ∧
      count = records.countP fun record => record.mallocSize?.any fun size =>
        size ≤ limit ∧ key ≤ size ∧ size.toNat - key.toNat < width.val.toNat := by
  constructor
  · intro hmem
    obtain ⟨size, _, hsize⟩ := exists_size_of_mem hmem
    have hdvd := (Word.alignDown_eq_iff.1 hsize).1
    obtain ⟨hpos, hcount⟩ := (tabulates_histogram width limit records).mem_iff.1 hmem
    exact ⟨hdvd, hpos, hcount.trans (countP_bucket hdvd)⟩
  · rintro ⟨hdvd, hpos, hcount⟩
    rw [← countP_bucket hdvd] at hcount
    exact (tabulates_histogram width limit records).mem_iff.2 ⟨hpos, hcount⟩

theorem le_limit_of_mem {count : Nat} (hmem : (key, count) ∈ histogram width limit records) :
    key ≤ limit := by
  obtain ⟨size, hsize, rfl⟩ := exists_size_of_mem hmem
  have hlimit := of_decide_eq_true (List.mem_filter.1 hsize).2
  exact UInt64.le_trans (Word.alignDown_le width size) hlimit

/-- No size is left out. -/
theorem sum_histogram (width : PosWord) (limit : UInt64) (records : List Record) :
    ((histogram width limit records).map Prod.snd).sum =
      records.countP fun record => record.mallocSize?.any fun size => size ≤ limit := by
  have htotal := (tabulates_histogram width limit records).total_eq fun _ => true
  rw [List.countP_map, countP_sizesUpTo] at htotal
  simpa [total] using htotal

theorem histogram_perm {others : List Record} (hperm : records.Perm others) :
    histogram width limit others = histogram width limit records := by
  have hsizes : (sizesUpTo limit records).Perm (sizesUpTo limit others) :=
    (hperm.filterMap _).filter _
  have htable := (tabulates_histogram width limit records).perm (hsizes.map _)
  exact (tabulates_histogram width limit others).unique htable

/-- A histogram with wider buckets is the narrower one regrouped. -/
theorem histogram_regroup {wide : PosWord} {factor : Nat}
    (hwide : wide.val.toNat = factor * width.val.toNat) :
    histogram wide limit records = regroup wide (histogram width limit records) := by
  have htable := tabulates_histogram wide limit records
  have hsizes : ((sizesUpTo limit records).map (Word.alignDown width)).map (Word.alignDown wide) =
      (sizesUpTo limit records).map (Word.alignDown wide) := by
    rw [List.map_map]
    exact List.map_congr_left fun size _ => Word.alignDown_alignDown hwide size
  rw [← hsizes] at htable
  exact ((tabulates_histogram width limit records).regroup_eq htable).symm

end Records

/-- A histogram lists the buckets that sizes fall into, in ascending order. Each is a multiple of
    the width and not above the limit, and its count is the number of the records that allocate a
    size of it. None is left out, and the order of the records makes no difference. With buckets
    some times as wide, the histogram is this one regrouped. Rounding a size down to its bucket
    stays within the words, and no count is above the number of records. -/
theorem histogram_counts (width : PosWord) (limit : UInt64) (records : List Record) :
    let counts := histogram width limit records
    (counts.Pairwise fun a b => a.1 < b.1) ∧
      (∀ key count, (key, count) ∈ counts → key ≤ limit ∧ count ≤ records.length) ∧
      (∀ key count, (key, count) ∈ counts ↔
        width.val.toNat ∣ key.toNat ∧ 1 ≤ count ∧
          count = records.countP fun record => record.mallocSize?.any fun size =>
            size ≤ limit ∧ key ≤ size ∧ size.toNat - key.toNat < width.val.toNat) ∧
      (counts.map Prod.snd).sum =
        records.countP (fun record => record.mallocSize?.any fun size => size ≤ limit) ∧
      (∀ others, records.Perm others → histogram width limit others = counts) ∧
      (∀ (wide : PosWord) (factor : Nat), wide.val.toNat = factor * width.val.toNat →
        histogram wide limit records = regroup wide counts) ∧
      ∀ size : UInt64,
        (Word.alignDown width size).toNat = size.toNat / width.val.toNat * width.val.toNat := by
  intro counts
  refine ⟨(tabulates_histogram width limit records).ascending, ?_, fun _ _ => mem_histogram_iff,
    sum_histogram width limit records, fun _ => histogram_perm, fun _ _ => histogram_regroup,
    Word.toNat_alignDown width⟩
  intro key count hmem
  refine ⟨le_limit_of_mem hmem, ?_⟩
  rw [(mem_histogram_iff.1 hmem).2.2]
  exact List.countP_le_length

/-- One size is above the limit, which is the largest word but one, and one is below it. -/
theorem histogram_counts_threefold :
    let width : PosWord := ⟨8, by decide⟩
    let wide : PosWord := ⟨24, by decide⟩
    let limit : UInt64 := 0xfffffffffffffffe
    let records : List Record :=
      [⟨1, 0, .malloc 0xffffffffffffffff 16⟩, ⟨1, 1, .malloc 23 0⟩, ⟨1, 5, .free 16⟩,
        ⟨1, 3, .malloc limit 32⟩, ⟨2, 4, .malloc 8 64⟩, ⟨2, 4, .malloc 15 96⟩, ⟨2, 9, .malloc 24 0⟩]
    let counts : List (UInt64 × Nat) := [(8, 2), (16, 1), (24, 1), (0xfffffffffffffff8, 1)]
    histogram width limit records = counts ∧ wide.val.toNat = 3 * width.val.toNat ∧
      records.Perm records.reverse ∧ (8, 2) ∈ counts ∧ (8 : UInt64) ≤ limit ∧
      histogram width limit records.reverse = counts ∧
      histogram wide limit records = regroup wide counts ∧
      regroup wide counts = [(0, 3), (24, 1), (0xfffffffffffffff0, 1)] := by
  intro width wide limit records counts
  have hsorted : Tabulates [8, 8, 16, 24, 0xfffffffffffffff8] counts := tabulates_runs (by decide)
  have hcounts : histogram width limit records = counts :=
    (tabulates_histogram width limit records).unique (hsorted.perm (by decide))
  have hperm : records.Perm records.reverse := records.reverse_perm.symm
  have hmem : ((8, 2) : UInt64 × Nat) ∈ counts := by decide
  obtain ⟨_, hbounds, _, _, hany, hregroup, _⟩ := histogram_counts width limit records
  rw [hcounts] at hbounds hany hregroup
  exact ⟨hcounts, rfl, hperm, hmem, (hbounds 8 2 hmem).1, hany _ hperm, hregroup wide 3 rfl,
    by decide⟩

end HeapReplay.Trace
