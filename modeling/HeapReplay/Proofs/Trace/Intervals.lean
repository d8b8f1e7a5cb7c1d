import HeapReplay.Proofs.Trace.Lifetimes
import Mathlib.Algebra.BigOperators.Group.List.Basic
import Mathlib.Algebra.GroupWithZero.Nat
import Mathlib.Data.List.Pairwise
import Mathlib.Data.List.Sort
import Mathlib.Order.Bounds.Defs

namespace HeapReplay.Trace

/-- Gaps that lead from each time exactly to the next one. -/
inductive Apart : List UInt64 → List UInt64 → Prop
  | nil : Apart [] []
  | last (time : UInt64) : Apart [time] []
  | next {earlier gap later : UInt64} {times gaps : List UInt64}
      (sum_eq : earlier.toNat + gap.toNat = later.toNat) (rest : Apart (later :: times) gaps) :
      Apart (earlier :: later :: times) (gap :: gaps)

namespace Apart

variable {times gaps : List UInt64}

theorem length_eq (hapart : Apart times gaps) : gaps.length = times.length - 1 := by
  induction hapart with
  | nil => rfl
  | last time => rfl
  | next sum_eq rest ih =>
    rw [List.length_cons, ih]
    rfl

/-- The gaps lead from the first time to the last one. -/
theorem sum_eq (hapart : Apart times gaps) (hne : times ≠ []) :
    (times.head hne).toNat + (gaps.map UInt64.toNat).sum = (times.getLast hne).toNat := by
  induction hapart with
  | nil => exact absurd rfl hne
  | last time => rfl
  | @next earlier gap later times gaps sum_eq rest ih =>
    have hrest := ih (List.cons_ne_nil later times)
    rw [List.getLast_cons_cons, List.map_cons, List.sum_cons, ← hrest, List.head_cons,
      List.head_cons]
    omega

end Apart

section Sorted

variable {times others : List UInt64}

/-- In ascending times no gap is negative. -/
theorem apart_gaps (hascend : times.Pairwise (· ≤ ·)) : Apart times (gaps times) := by
  induction times with
  | nil => exact .nil
  | cons earlier times ih =>
    obtain ⟨hfirst, hlater⟩ := List.pairwise_cons.1 hascend
    cases times with
    | nil => exact .last earlier
    | cons later times =>
      have hle := hfirst later List.mem_cons_self
      refine .next ?_ (ih hlater)
      rw [UInt64.toNat_sub_of_le later earlier hle]
      exact Nat.add_sub_cancel' (UInt64.le_iff_toNat_le.1 hle)

theorem mergeSort_eq_of_perm (hperm : times.Perm others) : times.mergeSort = others.mergeSort := by
  have hsorted : times.mergeSort.Perm others.mergeSort :=
    (List.mergeSort_perm times _).trans (hperm.trans (List.mergeSort_perm others _).symm)
  refine hsorted.eq_of_pairwise ?_ (times.pairwise_mergeSort' (· ≤ ·))
    (others.pairwise_mergeSort' (· ≤ ·))
  intro a b _ _
  exact UInt64.le_antisymm

variable {first last : UInt64}

theorem head_eq_of_isLeast (hascend : times.Pairwise (· ≤ ·))
    (hfirst : IsLeast {time | time ∈ times} first) :
    times.head (List.ne_nil_of_mem hfirst.1) = first :=
  UInt64.le_antisymm (hascend.rel_head hfirst.1) (hfirst.2 (List.head_mem _))

theorem getLast_eq_of_isGreatest (hascend : times.Pairwise (· ≤ ·))
    (hlast : IsGreatest {time | time ∈ times} last) :
    times.getLast (List.ne_nil_of_mem hlast.1) = last :=
  UInt64.le_antisymm (hlast.2 (List.getLast_mem _)) (hascend.rel_getLast hlast.1)

end Sorted

section Records

variable {limit : UInt64} {records others : List Record}

theorem mallocTimes_eq_filterMap (records : List Record) :
    mallocTimes records = records.filterMap Record.birth? := by
  induction records with
  | nil => rfl
  | cons record records ih =>
    obtain ⟨pid, timestamp, _ | _⟩ := record
    · exact congrArg _ ih
    · exact ih

theorem intervalsUpTo_perm (hperm : records.Perm others) :
    intervalsUpTo limit others = intervalsUpTo limit records := by
  have htimes : (mallocTimes others).Perm (mallocTimes records) :=
    (hperm.symm.filter _).map _
  rw [intervalsUpTo, intervalsUpTo, mergeSort_eq_of_perm htimes]

/-- A gap is kept or it is dropped. -/
theorem filter_le_append_filter_lt_perm (limit : UInt64) (gaps : List UInt64) :
    (gaps.filter (· ≤ limit) ++ gaps.filter (limit < ·)).Perm gaps := by
  have hdropped : gaps.filter (limit < ·) = gaps.filter fun gap => !decide (gap ≤ limit) := by
    refine List.filter_congr ?_
    intro gap _
    rw [← decide_not, decide_eq_decide, UInt64.not_le]
  rw [hdropped]
  exact List.filter_append_perm (· ≤ limit) gaps

end Records

/-- The intervals of a trace are those of the gaps between its allocations, failed ones among
    them, that are not above the limit. Each gap leads from a time to the next one in ascending
    order, so that none is negative, and the order of the records makes no difference. With the
    gaps that are dropped they are one less than the allocations, if there are any, and they add
    up to the time from the first allocation to the last one. -/
theorem intervals_between_allocations (limit : UInt64) (records : List Record) :
    let births := records.filterMap Record.birth?
    ∃ times gaps : List UInt64,
      times.Pairwise (· ≤ ·) ∧ times.Perm births ∧ Apart times gaps ∧
        let kept := intervalsUpTo limit records
        let dropped := gaps.filter (limit < ·)
        kept = gaps.filter (· ≤ limit) ∧
          kept.length + dropped.length = records.countP (·.birth?.isSome) - 1 ∧
          (∀ first last, IsLeast {time | time ∈ births} first →
            IsGreatest {time | time ∈ births} last →
            first.toNat + ((kept.map UInt64.toNat).sum + (dropped.map UInt64.toNat).sum) =
              last.toNat) ∧
          ∀ others, records.Perm others → intervalsUpTo limit others = kept := by
  intro births
  let times := (mallocTimes records).mergeSort
  have hascend : times.Pairwise (· ≤ ·) := (mallocTimes records).pairwise_mergeSort' (· ≤ ·)
  have hperm : times.Perm births :=
    (List.mergeSort_perm _ _).trans (.of_eq (mallocTimes_eq_filterMap records))
  have hapart := apart_gaps hascend
  have hparts := filter_le_append_filter_lt_perm limit (gaps times)
  refine ⟨times, gaps times, hascend, hperm, hapart, rfl, ?_, ?_, fun _ => intervalsUpTo_perm⟩
  · have hlength := hparts.length_eq
    rw [List.length_append] at hlength
    rw [← List.length_filterMap_eq_countP, ← hperm.length_eq, ← hapart.length_eq]
    exact hlength
  · intro first last hfirst hlast
    have hmem : {time | time ∈ births} = {time | time ∈ times} :=
      Set.ext fun time => hperm.mem_iff.symm
    rw [hmem] at hfirst hlast
    have hsum := hapart.sum_eq (List.ne_nil_of_mem hfirst.1)
    rw [head_eq_of_isLeast hascend hfirst, getLast_eq_of_isGreatest hascend hlast,
      ← (hparts.map UInt64.toNat).sum_eq, List.map_append, List.sum_append] at hsum
    exact hsum

/-- Two processes whose records are out of order, with allocations at one time, a failed one and
    gaps above the limit. -/
theorem intervals_between_allocations_interleaved :
    let records : List Record :=
      [⟨2, 30, .malloc 8 16⟩, ⟨1, 10, .malloc 8 0⟩, ⟨1, 20, .free 16⟩, ⟨2, 90, .malloc 8 32⟩,
        ⟨1, 30, .malloc 16 16⟩, ⟨1, 34, .malloc 8 48⟩]
    let births : List UInt64 := [30, 10, 90, 30, 34]
    records.filterMap Record.birth? = births ∧ IsLeast {time | time ∈ births} 10 ∧
      IsGreatest {time | time ∈ births} 90 ∧ records.Perm records.reverse ∧
      intervalsUpTo 5 records = [0, 4] ∧ intervalsUpTo 5 records.reverse = [0, 4] ∧
      ∃ dropped : List UInt64, dropped.length = 2 ∧
        10 + (4 + (dropped.map UInt64.toNat).sum) = 90 := by
  intro records births
  have hleast : IsLeast {time | time ∈ births} 10 := by
    simp [births, IsLeast, lowerBounds, UInt64.le_iff_toNat_le]
  have hgreatest : IsGreatest {time | time ∈ births} 90 := by
    simp [births, IsGreatest, upperBounds, UInt64.le_iff_toNat_le]
  have hperm : records.Perm records.reverse := records.reverse_perm.symm
  have hkept : intervalsUpTo 5 records = [0, 4] := by
    have hsorted : (mallocTimes records).Perm [10, 30, 30, 34, 90] := by decide
    rw [intervalsUpTo, mergeSort_eq_of_perm hsorted, List.mergeSort_of_pairwise (by decide)]
    rfl
  obtain ⟨times, gaps, _, _, _, _, hlength, hsum, hany⟩ := intervals_between_allocations 5 records
  have htotal := hsum 10 90 hleast hgreatest
  have hreverse := hany records.reverse hperm
  rw [hkept] at hlength htotal hreverse
  refine ⟨rfl, hleast, hgreatest, hperm, hkept, hreverse, gaps.filter (5 < ·), ?_, htotal⟩
  exact Nat.add_left_cancel (hlength.trans (by decide))

end HeapReplay.Trace
