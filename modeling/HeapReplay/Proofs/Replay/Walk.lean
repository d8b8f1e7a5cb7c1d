import HeapReplay.Proofs.Replay.Keyed
import HeapReplay.Proofs.Replay.Step

namespace HeapReplay.Replay

open Heap

variable {State Handle : Type}

/-- No event left is in the past of the clock or of the events before it. -/
def Timely (events : List Event) (progress : Progress State Handle) : Prop :=
  events.Pairwise (fun a b => a.time ≤ b.time) ∧ ∀ event ∈ events, progress.clock.now ≤ event.time

theorem timely_record {plan : Plan State Handle} {event : Event} {events : List Event}
    {before after : Progress State Handle} {result : Except ReplayError Unit}
    (htimely : Timely (event :: events) before)
    (hdispatch : plan.Dispatch event { before with clock := ⟨event.time⟩ } result after) :
    Timely events (plan.record event after) := by
  obtain ⟨hlater, hevents⟩ := List.pairwise_cons.1 htimely.1
  refine ⟨hevents, ?_⟩
  intro later hmem
  have hclock : (plan.record event after).clock = after.clock := rfl
  rw [hclock, hdispatch.clock_eq]
  exact hlater later hmem

theorem timely_start (queue : Queue) (state : State) (live : LiveTable Handle) :
    Timely queue.toList { allocator := state, live } := by
  refine ⟨queue.times_ascend, ?_⟩
  intro event _
  exact UInt64.zero_le

namespace Plan

variable {plan : Plan State Handle} {events more done rest : List Event} {event : Event}
  {progress before after final : Progress State Handle} {error : ReplayError}

theorem dispatch_of_step_ok (hstep : plan.step event before = (.ok (), after)) :
    before.clock.now ≤ event.time ∧ ∃ dispatched,
      plan.Dispatch event { before with clock := ⟨event.time⟩ } (.ok ()) dispatched ∧
        after = plan.record event dispatched := by
  by_cases hlate : event.time < before.clock.now
  · rw [step_late hlate] at hstep
    cases hstep
  · have hclock := UInt64.not_lt.1 hlate
    have hcases := dispatch_cases plan event { before with clock := ⟨event.time⟩ }
    rcases hdispatch : plan.dispatch event { before with clock := ⟨event.time⟩ } with
      ⟨_ | _, dispatched⟩
    · rw [step_error hclock hdispatch] at hstep
      cases hstep
    · rw [step_ok hclock hdispatch] at hstep
      rw [hdispatch] at hcases
      cases hstep
      exact ⟨hclock, dispatched, hcases, rfl⟩

theorem dispatch_of_step_error (hclock : before.clock.now ≤ event.time)
    (hstep : plan.step event before = (.error error, after)) :
    plan.Dispatch event { before with clock := ⟨event.time⟩ } (.error error) after := by
  have hcases := dispatch_cases plan event { before with clock := ⟨event.time⟩ }
  rcases hdispatch : plan.dispatch event { before with clock := ⟨event.time⟩ } with
    ⟨_ | _, dispatched⟩
  · rw [step_error hclock hdispatch] at hstep
    rw [hdispatch] at hcases
    cases hstep
    exact hcases
  · rw [step_ok hclock hdispatch] at hstep
    cases hstep

/-- A walk without an error leaves no event over. -/
theorem rest_eq_nil_of_walk_ok (hwalk : plan.walk progress events = (.ok (), final, rest)) :
    rest = [] := by
  induction events generalizing progress with
  | nil =>
    cases hwalk
    rfl
  | cons event events ih =>
    rcases hstep : plan.step event progress with ⟨_ | _, next⟩
    · simp only [walk, hstep] at hwalk
      cases hwalk
    · simp only [walk, hstep] at hwalk
      exact ih hwalk

/-- A walk goes on from where a walk over its first events ended. -/
theorem walk_append (hdone : plan.walk progress done = (.ok (), before, [])) (more : List Event) :
    plan.walk progress (done ++ more) = plan.walk before more := by
  induction done generalizing progress with
  | nil =>
    cases hdone
    rfl
  | cons event done ih =>
    rcases hstep : plan.step event progress with ⟨_ | _, next⟩
    · simp only [walk, hstep] at hdone
      cases hdone
    · simp only [walk, hstep] at hdone
      simp only [List.cons_append, walk, hstep]
      exact ih hdone

/-- A walk with an error has dispatched the events before the one that failed, and leaves
    the events behind it over. -/
theorem walk_split (hwalk : plan.walk progress events = (.error error, after, rest)) :
    ∃ done event before, events = done ++ event :: rest ∧
      plan.walk progress done = (.ok (), before, []) ∧
      plan.step event before = (.error error, after) := by
  induction events generalizing progress with
  | nil => cases hwalk
  | cons event events ih =>
    rcases hstep : plan.step event progress with ⟨_ | _, next⟩
    · simp only [walk, hstep] at hwalk
      cases hwalk
      exact ⟨[], event, progress, rfl, rfl, hstep⟩
    · simp only [walk, hstep] at hwalk
      obtain ⟨done, failed, before, rfl, hdone, hfailed⟩ := ih hwalk
      refine ⟨event :: done, failed, before, rfl, ?_, hfailed⟩
      simp only [walk, hstep, hdone]

/-- A walk leaves the end of its events over. -/
theorem suffix_of_walk {result : Except ReplayError Unit}
    (hwalk : plan.walk progress events = (result, final, rest)) : rest <:+ events := by
  cases result with
  | ok _ =>
    rw [rest_eq_nil_of_walk_ok hwalk]
    exact List.nil_suffix
  | error error =>
    obtain ⟨done, event, _, rfl, _, _⟩ := walk_split hwalk
    exact (List.suffix_cons event rest).trans (List.suffix_append done _)

/-- What each dispatched event keeps, of the events so far and the progress, holds at the
    end of a walk without an error. -/
theorem walk_induction (invariant : List Event → Progress State Handle → Prop)
    (hstep : ∀ done event before after, invariant done before →
      plan.Dispatch event { before with clock := ⟨event.time⟩ } (.ok ()) after →
      invariant (done ++ [event]) (plan.record event after))
    (hstart : invariant done progress)
    (hwalk : plan.walk progress events = (.ok (), final, rest)) :
    invariant (done ++ events) final := by
  -- Each step moves an event from `events` to the end of `done`.
  induction events generalizing done progress with
  | nil =>
    cases hwalk
    rwa [List.append_nil]
  | cons event events ih =>
    rcases hfirst : plan.step event progress with ⟨_ | _, next⟩
    · simp only [walk, hfirst] at hwalk
      cases hwalk
    · simp only [walk, hfirst] at hwalk
      obtain ⟨_, dispatched, hdispatch, rfl⟩ := dispatch_of_step_ok hfirst
      rw [List.append_cons]
      exact ih (hstep done event progress dispatched hstart hdispatch) hwalk

/-- What each dispatched event keeps of the progress holds at the end of a walk without an
    error. -/
theorem walk_invariant (invariant : Progress State Handle → Prop)
    (hstep : ∀ event before after, invariant before →
      plan.Dispatch event { before with clock := ⟨event.time⟩ } (.ok ()) after →
      invariant (plan.record event after))
    (hstart : invariant progress)
    (hwalk : plan.walk progress events = (.ok (), final, rest)) : invariant final :=
  @walk_induction _ _ plan events [] rest progress final (fun _ => invariant)
    (fun _ => hstep) hstart hwalk

/-- The clock shows the time of the last event. -/
theorem clock_of_walk_ok {state : State} {live : LiveTable Handle}
    (hwalk : plan.walk { allocator := state, live } events = (.ok (), final, rest)) :
    final.clock.now = (events.getLast?.map Event.time).getD 0 := by
  rw [← List.nil_append events]
  refine walk_induction
    (fun done progress => progress.clock.now = (done.getLast?.map Event.time).getD 0) ?_ rfl hwalk
  intro done event before after _ hdispatch
  have hclock : (plan.record event after).clock = after.clock := rfl
  simp only [hclock, hdispatch.clock_eq, List.getLast?_concat, Option.map_some, Option.getD_some]

/-- In the order of replay, the clock is not past the next event. -/
theorem clock_le_of_walk_ok {state : State} {live : LiveTable Handle}
    (hwalk : plan.walk { allocator := state, live } done = (.ok (), before, rest))
    (hordered : (done ++ event :: more).Pairwise fun a b => a.le b) :
    before.clock.now ≤ event.time := by
  rw [clock_of_walk_ok hwalk]
  cases hlast : done.getLast? with
  | none => exact UInt64.zero_le
  | some last =>
    have hle := (List.pairwise_append.1 hordered).2.2 last (List.mem_of_getLast? hlast) event
      List.mem_cons_self
    exact Event.time_le_of_le hle

/-- The history holds the first events, as far as there is room. -/
theorem history_of_walk_ok {state : State} {live : LiveTable Handle}
    (hwalk : plan.walk { allocator := state, live } events = (.ok (), final, rest)) :
    final.history.toList = events.take plan.historyLimit := by
  rw [← List.nil_append events]
  refine walk_induction
    (fun done progress => progress.history.toList = done.take plan.historyLimit) ?_ (by simp) hwalk
  intro done event before after hhistory hdispatch
  rw [← hdispatch.history_eq] at hhistory
  have hsize : after.history.size = min plan.historyLimit done.length := by
    rw [← Array.length_toList, hhistory, List.length_take]
  simp only [record]
  split
  · next hroom =>
    have hdone : done.length < plan.historyLimit := by omega
    rw [Array.toList_push, hhistory, List.take_of_length_le (by omega),
      List.take_of_length_le (by simp; omega)]
  · next hfull =>
    rw [hhistory, List.take_append_of_le_length (by omega)]

end Plan

namespace Scheduler

variable {scheduler : Scheduler} {allocator : Allocator State Handle} {state : State}
  {live : LiveTable Handle} {result : Except ReplayError Unit} {final : Progress State Handle}
  {rest : List Event} {report : Report} {error : ReplayError}

/-- What a run leaves, read off its walk. -/
theorem run_of_walk
    (hwalk : (scheduler.plan allocator).walk { allocator := state, live } scheduler.queue.toList =
      (result, final, rest)) :
    scheduler.run allocator state live =
      { result := result.map fun () => final.finalReport
        scheduler :=
          { scheduler with
            queue := .ofEvents rest
            clock := final.clock
            sinceReport := final.sinceReport
            history := final.history }
        allocator := final.allocator
        live := final.live } := by
  rw [plan] at hwalk
  simp only [run, hwalk]

/-- The events left over stay queued. -/
theorem queue_of_walk
    (hwalk : (scheduler.plan allocator).walk { allocator := state, live } scheduler.queue.toList =
      (result, final, rest)) :
    (scheduler.run allocator state live).scheduler.queue.toList = rest := by
  have hordered := scheduler.queue.ordered.sublist (Plan.suffix_of_walk hwalk).sublist
  rw [run_of_walk hwalk]
  exact Queue.toList_ofEvents_of_ordered hordered

theorem walk_of_run_ok (hresult : (scheduler.run allocator state live).result = .ok report) :
    ∃ final, report = final.finalReport ∧
      (scheduler.plan allocator).walk { allocator := state, live } scheduler.queue.toList =
        (.ok (), final, []) := by
  rcases hwalk : (scheduler.plan allocator).walk { allocator := state, live }
    scheduler.queue.toList with ⟨_ | _, final, rest⟩
  · rw [run_of_walk hwalk] at hresult
    cases hresult
  · obtain rfl := Plan.rest_eq_nil_of_walk_ok hwalk
    rw [run_of_walk hwalk] at hresult
    cases hresult
    exact ⟨final, rfl, rfl⟩

theorem walk_of_run_error (hresult : (scheduler.run allocator state live).result = .error error) :
    ∃ final rest,
      (scheduler.plan allocator).walk { allocator := state, live } scheduler.queue.toList =
        (.error error, final, rest) := by
  rcases hwalk : (scheduler.plan allocator).walk { allocator := state, live }
    scheduler.queue.toList with ⟨_ | _, final, rest⟩
  · rw [run_of_walk hwalk] at hresult
    cases hresult
    exact ⟨final, rest, rfl⟩
  · rw [run_of_walk hwalk] at hresult
    cases hresult

end Scheduler
end HeapReplay.Replay
