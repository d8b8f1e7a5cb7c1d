import HeapReplay.Proofs.Replay.Step

namespace HeapReplay.Replay

variable {State Handle : Type}

/-- The successes of a run fall into full rounds, each with its periodic report, and a
    round that is not full. -/
structure Paced (threshold : PosWord) (progress : Progress State Handle) : Prop where
  succeeded_eq : progress.report.allocationsSucceeded =
    threshold.val.toNat * progress.report.periodicReports + progress.sinceReport
  since_lt : progress.sinceReport < threshold.val.toNat

theorem threshold_pos (threshold : PosWord) : 0 < threshold.val.toNat :=
  Nat.pos_of_ne_zero fun hzero => threshold.property (UInt64.toNat_inj.1 hzero)

theorem paced_start (threshold : PosWord) (state : State) (live : LiveTable Handle) :
    Paced threshold { allocator := state, live } :=
  ⟨rfl, threshold_pos threshold⟩

namespace Paced

variable {threshold : PosWord} {plan : Plan State Handle} {event : Event}
  {before after : Progress State Handle}

/-- A round is full with every success whose number the threshold divides. -/
theorem due_iff (hpaced : Paced threshold before) :
    threshold.val.toNat ≤ before.sinceReport + 1 ↔
      threshold.val.toNat ∣ before.report.allocationsSucceeded + 1 := by
  rw [hpaced.succeeded_eq, Nat.add_assoc, Nat.dvd_add_right (Nat.dvd_mul_right _ _)]
  constructor
  · intro hdue
    have hfull : before.sinceReport + 1 = threshold.val.toNat :=
      Nat.le_antisymm hpaced.since_lt hdue
    exact ⟨1, hfull.trans (Nat.mul_one _).symm⟩
  · exact Nat.le_of_dvd (Nat.succ_pos _)

theorem periodic_eq (hpaced : Paced threshold before) :
    before.report.periodicReports =
      before.report.allocationsSucceeded / threshold.val.toNat := by
  rw [hpaced.succeeded_eq, Nat.mul_add_div (threshold_pos threshold),
    Nat.div_eq_of_lt hpaced.since_lt, Nat.add_zero]

theorem since_eq (hpaced : Paced threshold before) :
    before.sinceReport = before.report.allocationsSucceeded % threshold.val.toNat := by
  rw [hpaced.succeeded_eq, Nat.mul_add_mod, Nat.mod_eq_of_lt hpaced.since_lt]

theorem dispatch (hpaced : Paced plan.threshold before)
    (hdispatch : plan.Dispatch event before (.ok ()) after) : Paced plan.threshold after := by
  obtain ⟨hsucceeded, hsince⟩ := hpaced
  cases hdispatch with
  | refused => exact ⟨hsucceeded, hsince⟩
  | granted _ _ _ hquiet =>
    refine ⟨?_, Nat.lt_of_not_le hquiet⟩
    simp only [hsucceeded, Nat.add_assoc]
  | grantedReport _ _ _ hdue _ =>
    refine ⟨?_, threshold_pos plan.threshold⟩
    have hfull : before.sinceReport + 1 = plan.threshold.val.toNat := Nat.le_antisymm hsince hdue
    simp only [hsucceeded, Nat.add_assoc, hfull, Nat.mul_add_one, Nat.add_zero]
  | untracked => exact ⟨hsucceeded, hsince⟩
  | freed => exact ⟨hsucceeded, hsince⟩

theorem record (hpaced : Paced threshold after) : Paced threshold (plan.record event after) :=
  { hpaced with }

end Paced
end HeapReplay.Replay
