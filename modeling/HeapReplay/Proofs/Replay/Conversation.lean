import HeapReplay.Heap.Script
import HeapReplay.Proofs.Heap.Logged
import HeapReplay.Proofs.Replay.Alike
import HeapReplay.Proofs.Replay.Cadence
import HeapReplay.Proofs.Replay.Keyed
import HeapReplay.Proofs.Replay.LiveTable
import HeapReplay.Proofs.Replay.Walk
import Mathlib.Logic.Function.Basic

namespace HeapReplay.Replay

open Heap

/-- How far a conversation with an allocator has come: the allocator's state, the handles
    of the live requests, and the number of requests granted so far. -/
structure Stage (State Handle : Type) where
  state : State
  holder : RequestId → Option Handle
  granted : Nat := 0

variable {State Handle : Type}

namespace Stage

/-- The calls that an event asks for. Statistics are asked for right after an allocation
    that is refused, and after a grant whose number is a multiple of the threshold. A free
    is asked for when its request is live, with the handle held for it. -/
def calls (allocator : Allocator State Handle) (threshold : PosWord)
    (stage : Stage State Handle) (event : Event) : List (Call Handle) :=
  match event.kind with
  | .allocate =>
    .allocate event.id event.size ::
      match (allocator.allocate event.id event.size stage.state).1 with
      | .error _ => []
      | .ok none => [.report]
      | .ok (some _) => if threshold.val.toNat ∣ stage.granted + 1 then [.report] else []
  | .free =>
    match stage.holder event.id with
    | none => []
    | some handle => [.free event.id event.size handle]

/-- Where an exchange leads. A fault ends the conversation, and so does a grant for a
    request that is live already. -/
def hear (stage : Stage State Handle) (next : State) :
    Exchange Handle → Except ReplayError (Stage State Handle)
  | ⟨_, .error fault⟩ => .error (.allocator fault)
  | ⟨.allocate id _, .ok (some handle)⟩ =>
    match stage.holder id with
    | some _ => .error (.alreadyLive id)
    | none =>
      .ok
        { state := next
          holder := Function.update stage.holder id (some handle)
          granted := stage.granted + 1 }
  | ⟨.free id _ _, .ok _⟩ =>
    .ok { stage with state := next, holder := Function.update stage.holder id none }
  | ⟨_, .ok _⟩ => .ok { stage with state := next }

/-- Makes calls one after the other, up to one that ends the conversation. -/
def converse (allocator : Allocator State Handle) (stage : Stage State Handle) :
    List (Call Handle) → List (Exchange Handle) × Except ReplayError (Stage State Handle)
  | [] => ([], .ok stage)
  | call :: calls =>
    let (answer, next) := allocator.serve stage.state call
    match stage.hear next ⟨call, answer⟩ with
    | .error error => ([⟨call, answer⟩], .error error)
    | .ok stage =>
      let (log, last) := stage.converse allocator calls
      (⟨call, answer⟩ :: log, last)

/-- The exchanges on events, and where they lead. -/
def exchanges (allocator : Allocator State Handle) (threshold : PosWord)
    (stage : Stage State Handle) :
    List Event → List (Exchange Handle) × Except ReplayError (Stage State Handle)
  | [] => ([], .ok stage)
  | event :: events =>
    match stage.converse allocator (stage.calls allocator threshold event) with
    | (log, .error error) => (log, .error error)
    | (log, .ok stage) =>
      let (more, last) := stage.exchanges allocator threshold events
      (log ++ more, last)

/-- The stage that the progress of a run has reached. -/
structure Shows (stage : Stage State Handle) (progress : Progress (Logged State Handle) Handle) :
    Prop where
  state_eq : progress.allocator.state = stage.state
  holder_eq : ∀ id, progress.live.get? id = stage.holder id
  granted_eq : progress.report.allocationsSucceeded = stage.granted

/-- A run and a conversation that end alike: with one error, or at one stage. -/
inductive Agrees (progress : Progress (Logged State Handle) Handle) :
    Except ReplayError Unit → Except ReplayError (Stage State Handle) → Prop
  | ok {stage : Stage State Handle} (hshows : stage.Shows progress) :
      Agrees progress (.ok ()) (.ok stage)
  | error (error : ReplayError) : Agrees progress (.error error) (.error error)

end Stage

section Dispatch

variable {allocator : Allocator State Handle} {start : State}
  {plan : Plan (Logged State Handle) Handle} {event : Event} {stage next : Stage State Handle}
  {before after : Progress (Logged State Handle) Handle} {log : List (Exchange Handle)}

theorem Stage.converse_stop {call : Call Handle} {calls : List (Call Handle)} {state : State}
    {answer : Except AllocatorError (Option Handle)} {error : ReplayError}
    (hserve : allocator.serve stage.state call = (answer, state))
    (hhear : stage.hear state ⟨call, answer⟩ = .error error) :
    stage.converse allocator (call :: calls) = ([⟨call, answer⟩], .error error) := by
  simp only [converse, hserve, hhear]

theorem Stage.converse_go {call : Call Handle} {calls : List (Call Handle)} {state : State}
    {answer : Except AllocatorError (Option Handle)}
    (hserve : allocator.serve stage.state call = (answer, state))
    (hhear : stage.hear state ⟨call, answer⟩ = .ok next) :
    stage.converse allocator (call :: calls) =
      (⟨call, answer⟩ :: (next.converse allocator calls).1, (next.converse allocator calls).2) := by
  simp only [converse, hserve, hhear]

theorem Stage.hear_fresh {id : RequestId} {size : UInt64} {handle : Handle} {state : State}
    (hfresh : stage.holder id = none) :
    stage.hear state ⟨.allocate id size, .ok (some handle)⟩ =
      .ok ⟨state, Function.update stage.holder id (some handle), stage.granted + 1⟩ := by
  simp only [hear, hfresh]

theorem Stage.hear_live {id : RequestId} {size : UInt64} {handle held : Handle} {state : State}
    (hheld : stage.holder id = some held) :
    stage.hear state ⟨.allocate id size, .ok (some handle)⟩ = .error (.alreadyLive id) := by
  simp only [hear, hheld]

/-- The calls of an allocation, by the answer to the first. -/
theorem Stage.calls_of_allocate {threshold : PosWord} {state : State}
    {answer : Except AllocatorError (Option Handle)} (hkind : event.kind = .allocate)
    (hserve : allocator.serve stage.state (.allocate event.id event.size) = (answer, state)) :
    stage.calls allocator threshold event =
      .allocate event.id event.size ::
        match answer with
        | .error _ => []
        | .ok none => [.report]
        | .ok (some _) => if threshold.val.toNat ∣ stage.granted + 1 then [.report] else [] := by
  have hallocate : allocator.allocate event.id event.size stage.state = (answer, state) := hserve
  simp only [calls, hkind, hallocate]

theorem Stage.calls_of_free {threshold : PosWord} (hkind : event.kind = .free) :
    stage.calls allocator threshold event =
      match stage.holder event.id with
      | none => []
      | some handle => [.free event.id event.size handle] := by
  simp only [calls, hkind]

/-- The stage behind a grant is that of a table with the new handle. -/
theorem Stage.Shows.insert (hshows : stage.Shows before) {id : RequestId} {handle : Handle}
    (hlive : before.live.contains id = false) :
    ∀ other, (before.live.insert id handle).2.get? other =
      Function.update stage.holder id (some handle) other := by
  intro other
  by_cases hother : other = id
  · rw [hother, LiveTable.get?_insert_self hlive, Function.update_self]
  · rw [LiveTable.get?_insert_of_ne hlive hother, Function.update_of_ne hother,
      hshows.holder_eq other]

theorem Stage.Shows.erase (hshows : stage.Shows before) (id : RequestId) :
    ∀ other, (before.live.erase id).get? other = Function.update stage.holder id none other := by
  intro other
  by_cases hother : other = id
  · rw [hother, LiveTable.get?_erase_self, Function.update_self]
  · rw [LiveTable.get?_erase_of_ne hother, Function.update_of_ne hother, hshows.holder_eq other]

theorem Stage.Shows.holder_eq_none (hshows : stage.Shows before) {id : RequestId}
    (hlive : before.live.contains id = false) : stage.holder id = none := by
  rw [← hshows.holder_eq, ← LiveTable.contains_eq_false_iff]
  exact hlive

theorem Stage.Shows.holder_eq_some (hshows : stage.Shows before) {id : RequestId}
    (hlive : before.live.contains id = true) : ∃ held, stage.holder id = some held := by
  rw [← hshows.holder_eq, ← Option.isSome_iff_exists, ← LiveTable.contains_eq_isSome]
  exact hlive

theorem Stage.Shows.serve_allocate (hshows : stage.Shows before) {id : RequestId} {size : UInt64}
    {answer : Except AllocatorError (Option Handle)} {next : Logged State Handle}
    (hallocate : allocator.logged.allocate id size before.allocator = (answer, next)) :
    allocator.serve stage.state (.allocate id size) = (answer, next.state) := by
  rw [← hshows.state_eq]
  exact Logged.serve_allocate hallocate

theorem Stage.Shows.serve_free (hshows : stage.Shows before) {id : RequestId} {size : UInt64}
    {handle : Handle} {answer : Except AllocatorError Unit} {next : Logged State Handle}
    (hfree : allocator.logged.free id size handle before.allocator = (answer, next)) :
    allocator.serve stage.state (.free id size handle) =
      (answer.map fun () => none, next.state) := by
  rw [← hshows.state_eq]
  exact Logged.serve_free hfree

/-- A dispatch has the exchanges of its event. -/
theorem converse_dispatch (hplan : plan.allocator = allocator.logged)
    (hpaced : Paced plan.threshold before) (hshows : stage.Shows before)
    (hheard : Logged.Heard allocator start before.allocator log)
    {result : Except ReplayError Unit} (hdispatch : plan.Dispatch event before result after) :
    ∃ more ending,
      stage.converse allocator (stage.calls allocator plan.threshold event) = (more, ending) ∧
      Stage.Agrees after result ending ∧
      Logged.Heard allocator start after.allocator (log ++ more) := by
  obtain ⟨_, threshold, historyLimit⟩ := plan
  obtain rfl := hplan
  -- The run counts up to the threshold, the conversation asks what the threshold divides.
  have hdue := hpaced.due_iff
  rw [hshows.granted_eq] at hdue
  cases hdispatch with
  | allocateFault hkind hallocate =>
    have hserve := hshows.serve_allocate hallocate
    rw [Stage.calls_of_allocate hkind hserve, Stage.converse_stop hserve rfl]
    exact ⟨_, _, rfl, .error _, hheard.allocate hallocate⟩
  | refusedFault hkind hallocate hreport =>
    have hserve := hshows.serve_allocate hallocate
    rw [Stage.calls_of_allocate hkind hserve, Stage.converse_go hserve rfl,
      Stage.converse_stop (Logged.serve_report hreport) rfl]
    exact ⟨_, _, rfl, .error _, hheard.allocate_report hallocate hreport⟩
  | refused hkind hallocate hreport =>
    have hserve := hshows.serve_allocate hallocate
    rw [Stage.calls_of_allocate hkind hserve, Stage.converse_go hserve rfl,
      Stage.converse_go (Logged.serve_report hreport) rfl]
    exact ⟨_, _, rfl, .ok { hshows with state_eq := rfl },
      hheard.allocate_report hallocate hreport⟩
  | duplicate hkind hallocate hlive =>
    have hserve := hshows.serve_allocate hallocate
    obtain ⟨held, hheld⟩ := hshows.holder_eq_some hlive
    rw [Stage.calls_of_allocate hkind hserve, Stage.converse_stop hserve (Stage.hear_live hheld)]
    exact ⟨_, _, rfl, .error _, hheard.allocate hallocate⟩
  | granted hkind hallocate hlive hquiet =>
    have hserve := hshows.serve_allocate hallocate
    have hfresh := hshows.holder_eq_none hlive
    rw [Stage.calls_of_allocate hkind hserve, Stage.converse_go hserve (Stage.hear_fresh hfresh)]
    simp only [if_neg (mt hdue.2 hquiet)]
    exact ⟨_, _, rfl, .ok ⟨rfl, hshows.insert hlive, congrArg Nat.succ hshows.granted_eq⟩,
      hheard.allocate hallocate⟩
  | grantedFault hkind hallocate hlive hfull hreport =>
    have hserve := hshows.serve_allocate hallocate
    have hfresh := hshows.holder_eq_none hlive
    rw [Stage.calls_of_allocate hkind hserve, Stage.converse_go hserve (Stage.hear_fresh hfresh)]
    simp only [if_pos (hdue.1 hfull)]
    rw [Stage.converse_stop (Logged.serve_report hreport) rfl]
    exact ⟨_, _, rfl, .error _, hheard.allocate_report hallocate hreport⟩
  | grantedReport hkind hallocate hlive hfull hreport =>
    have hserve := hshows.serve_allocate hallocate
    have hfresh := hshows.holder_eq_none hlive
    rw [Stage.calls_of_allocate hkind hserve, Stage.converse_go hserve (Stage.hear_fresh hfresh)]
    simp only [if_pos (hdue.1 hfull)]
    rw [Stage.converse_go (Logged.serve_report hreport) rfl]
    exact ⟨_, _, rfl, .ok ⟨rfl, hshows.insert hlive, congrArg Nat.succ hshows.granted_eq⟩,
      hheard.allocate_report hallocate hreport⟩
  | untracked hkind hlive =>
    rw [hshows.holder_eq] at hlive
    rw [Stage.calls_of_free hkind]
    simp only [hlive]
    exact ⟨_, _, rfl, .ok { hshows with }, by rwa [List.append_nil]⟩
  | freeFault hkind hlive hfree =>
    rw [hshows.holder_eq] at hlive
    rw [Stage.calls_of_free hkind]
    simp only [hlive]
    rw [Stage.converse_stop (hshows.serve_free hfree) rfl]
    exact ⟨_, _, rfl, .error _, hheard.free hfree⟩
  | freed hkind hlive hfree =>
    rw [hshows.holder_eq] at hlive
    rw [Stage.calls_of_free hkind]
    simp only [hlive]
    rw [Stage.converse_go (hshows.serve_free hfree) rfl]
    exact ⟨_, _, rfl, .ok ⟨rfl, hshows.erase event.id, hshows.granted_eq⟩, hheard.free hfree⟩

end Dispatch

section Walk

variable {allocator : Allocator State Handle} {start : State} {threshold : PosWord}
  {historyLimit : Nat} {events rest : List Event} {stage : Stage State Handle}
  {progress final : Progress (Logged State Handle) Handle} {log : List (Exchange Handle)}
  {result : Except ReplayError Unit}

/-- A walk over events in order has their exchanges. -/
theorem exchanges_walk (htimely : Timely events progress) (hpaced : Paced threshold progress)
    (hshows : stage.Shows progress) (hheard : Logged.Heard allocator start progress.allocator log)
    (hwalk : Plan.walk { allocator := allocator.logged, threshold, historyLimit } progress events =
      (result, final, rest)) :
    ∃ more ending, stage.exchanges allocator threshold events = (more, ending) ∧
      Stage.Agrees final result ending ∧
      Logged.Heard allocator start final.allocator (log ++ more) := by
  induction events generalizing progress stage log with
  | nil =>
    cases hwalk
    exact ⟨[], .ok stage, rfl, .ok hshows, by rwa [List.append_nil]⟩
  | cons event events ih =>
    have hclock := htimely.2 event List.mem_cons_self
    -- A dispatch starts with the clock moved, which neither invariant looks at.
    have hpacedNow : Paced threshold { progress with clock := ⟨event.time⟩ } := { hpaced with }
    have hshowsNow : stage.Shows { progress with clock := ⟨event.time⟩ } := { hshows with }
    rcases hstep : Plan.step { allocator := allocator.logged, threshold, historyLimit } event
      progress with ⟨error | _, next⟩
    · simp only [Plan.walk, hstep] at hwalk
      cases hwalk
      obtain ⟨more, ending, hconverse, hagrees, hmore⟩ := converse_dispatch rfl hpacedNow hshowsNow
        hheard (Plan.dispatch_of_step_error hclock hstep)
      cases hagrees
      exact ⟨more, .error error, by simp only [Stage.exchanges, hconverse], .error error, hmore⟩
    · simp only [Plan.walk, hstep] at hwalk
      obtain ⟨_, dispatched, hdispatch, rfl⟩ := Plan.dispatch_of_step_ok hstep
      obtain ⟨more, ending, hconverse, hagrees, hmore⟩ := converse_dispatch rfl hpacedNow hshowsNow
        hheard hdispatch
      cases hagrees with
      | ok hreached =>
        obtain ⟨later, last, hlater, hends, hlog⟩ := ih (timely_record htimely hdispatch)
          (hpacedNow.dispatch hdispatch).record { hreached with } hmore hwalk
        refine ⟨more ++ later, last, ?_, hends, ?_⟩
        · simp only [Stage.exchanges, hconverse, hlater]
        · rwa [← List.append_assoc]

end Walk

section Fatal

/-- An exchange that ends a run with an error: a fault, or a grant for a request that is
    live already. -/
inductive Fatal : Exchange Handle → ReplayError → Prop
  | fault (call : Call Handle) (fault : AllocatorError) :
      Fatal ⟨call, .error fault⟩ (.allocator fault)
  | alreadyLive (id : RequestId) (size : UInt64) (handle : Handle) :
      Fatal ⟨.allocate id size, .ok (some handle)⟩ (.alreadyLive id)

variable {allocator : Allocator State Handle} {threshold : PosWord} {stage : Stage State Handle}
  {log : List (Exchange Handle)} {error : ReplayError}

theorem fatal_of_hear {next : State} {exchange : Exchange Handle}
    (hhear : stage.hear next exchange = .error error) : Fatal exchange error := by
  obtain ⟨call, fault | _ | handle⟩ := exchange
  · cases hhear
    exact .fault call fault
  · cases call <;> cases hhear
  · cases call with
    | allocate id size =>
      cases hholder : stage.holder id with
      | none =>
        rw [Stage.hear_fresh hholder] at hhear
        cases hhear
      | some held =>
        rw [Stage.hear_live hholder] at hhear
        cases hhear
        exact .alreadyLive id size handle
    | free => cases hhear
    | report => cases hhear

theorem fatal_of_converse {calls : List (Call Handle)}
    (hconverse : stage.converse allocator calls = (log, .error error)) :
    ∃ earlier last, log = earlier ++ [last] ∧ Fatal last error := by
  induction calls generalizing stage log with
  | nil => cases hconverse
  | cons call calls ih =>
    rcases hserve : allocator.serve stage.state call with ⟨answer, state⟩
    rcases hhear : stage.hear state ⟨call, answer⟩ with fatal | next
    · rw [Stage.converse_stop hserve hhear] at hconverse
      cases hconverse
      exact ⟨[], ⟨call, answer⟩, rfl, fatal_of_hear hhear⟩
    · rcases hlater : next.converse allocator calls with ⟨later, ending⟩
      rw [Stage.converse_go hserve hhear, hlater] at hconverse
      cases hconverse
      obtain ⟨earlier, last, rfl, hfatal⟩ := ih hlater
      exact ⟨⟨call, answer⟩ :: earlier, last, rfl, hfatal⟩

/-- A conversation with an error ends with the exchange that brought it. -/
theorem fatal_of_exchanges {events : List Event}
    (hexchanges : stage.exchanges allocator threshold events = (log, .error error)) :
    ∃ earlier last, log = earlier ++ [last] ∧ Fatal last error := by
  induction events generalizing stage log with
  | nil => cases hexchanges
  | cons event events ih =>
    rcases hconverse : stage.converse allocator (stage.calls allocator threshold event) with
      ⟨own, fatal | next⟩
    · simp only [Stage.exchanges, hconverse] at hexchanges
      cases hexchanges
      exact fatal_of_converse hconverse
    · rcases hlater : next.exchanges allocator threshold events with ⟨later, ending⟩
      simp only [Stage.exchanges, hconverse, hlater] at hexchanges
      cases hexchanges
      obtain ⟨earlier, last, rfl, hfatal⟩ := ih hlater
      exact ⟨own ++ earlier, last, (List.append_assoc _ _ _).symm, hfatal⟩

end Fatal

/-- The exchanges of a run are those on its events in the order of replay, to the first
    that ends it with an error. The stage at which a run without one ends is that of its
    table, and its history holds the first of the events. -/
theorem run_conversation (scheduler : Scheduler) (allocator : Allocator State Handle)
    (state : State) (live : LiveTable Handle) (events : List Event)
    (hqueued : events.Perm scheduler.queue.toList)
    (hordered : events.Pairwise fun a b => a.le b) (hkeyed : Keyed events) :
    let outcome := scheduler.run allocator state live
    let logged := scheduler.run allocator.logged { state } live
    let log := allocator.transcript state logged.allocator.calls.toList
    let told := Stage.exchanges allocator scheduler.threshold { state, holder := live.get? } events
    (logged.result = outcome.result ∧ logged.allocator.state = outcome.allocator) ∧
      log = told.1 ∧
      (∀ report, outcome.result = .ok report →
        outcome.scheduler.history.toList = events.take scheduler.historyLimit ∧
          ∃ last, told.2 = .ok last ∧ last.state = outcome.allocator ∧
            last.holder = outcome.live.get? ∧ last.granted = report.allocationsSucceeded) ∧
      ∀ error, outcome.result = .error error →
        told.2 = .error error ∧ ∃ earlier last, log = earlier ++ [last] ∧ Fatal last error := by
  intro outcome logged log told
  -- Keyed events have one order of replay, that of the queue.
  obtain rfl := hkeyed.eq_of_perm hqueued hordered scheduler.queue.ordered
  obtain ⟨hresult, hscheduler, hstate, hlive⟩ := Scheduler.run_alike allocator.alike_logged state
    { state } rfl scheduler live
  rcases hwalk : (scheduler.plan allocator.logged).walk { allocator := { state }, live }
    scheduler.queue.toList with ⟨result, final, rest⟩
  have hrun := Scheduler.run_of_walk hwalk
  have hstart : Stage.Shows { state, holder := live.get? }
      ({ allocator := { state }, live } : Progress (Logged State Handle) Handle) :=
    ⟨rfl, fun _ => rfl, rfl⟩
  obtain ⟨more, ending, htold, hagrees, hheard⟩ := exchanges_walk
    (timely_start scheduler.queue _ live) (paced_start scheduler.threshold _ live) hstart .refl
    hwalk
  have hlog : log = more := by
    rw [← List.nil_append more, hheard.exchanges_eq]
    simp only [log, logged, hrun]
  have htold : told = (more, ending) := htold
  rw [htold]
  refine ⟨⟨hresult.symm, hstate⟩, hlog, ?_, ?_⟩
  · intro report hreport
    rw [hresult, hrun] at hreport
    cases hagrees with
    | error => cases hreport
    | @ok last hreached =>
      cases hreport
      refine ⟨?_, last, rfl, ?_, ?_, hreached.granted_eq.symm⟩
      · rw [hscheduler, hrun]
        exact Plan.history_of_walk_ok hwalk
      · rw [← hstate, hrun]
        exact hreached.state_eq.symm
      · funext id
        rw [hlive.get?_eq, hrun]
        exact (hreached.holder_eq id).symm
  · intro error herror
    rw [hresult, hrun] at herror
    cases hagrees with
    | ok => cases herror
    | error =>
      cases herror
      rw [hlog]
      exact ⟨rfl, fatal_of_exchanges htold⟩

/-- One request is freed as it is allocated, one as another begins, and one is refused. -/
theorem run_conversation_ties :
    let requests : List Request := [⟨7, 24, 5, 5⟩, ⟨2, 16, 0, 5⟩, ⟨9, 64, 5, 9⟩]
    let events : List Event :=
      [⟨0, 2, 16, .allocate⟩, ⟨5, 2, 16, .free⟩, ⟨5, 7, 24, .allocate⟩, ⟨5, 7, 24, .free⟩,
        ⟨5, 9, 64, .allocate⟩, ⟨9, 9, 64, .free⟩]
    let scheduler :=
      ({ threshold := ⟨2, by decide⟩, historyLimit := 4 } : Scheduler).schedule requests
    let allocator := Script.allocator { refuseOver := some 32 }
    events.Perm scheduler.queue.toList ∧ events.Pairwise (fun a b => a.le b) ∧ Keyed events ∧
      (scheduler.run allocator.logged { state := {} } {}).allocator.calls.toList =
        [.allocate 2 16, .free 2 16 1, .allocate 7 24, .report, .free 7 24 2, .allocate 9 64,
          .report] := by
  intro requests events scheduler allocator
  have hqueued : events.Perm scheduler.queue.toList := by
    have hperm : events.Perm (requests.flatMap Request.events) := by decide
    exact hperm.trans (Queue.toList_schedule_perm Queue.empty requests).symm
  have hordered : events.Pairwise (fun a b => a.le b) := by decide
  have hkeyed : Keyed events := by decide
  refine ⟨hqueued, hordered, hkeyed, ?_⟩
  obtain ⟨_, hlog, _⟩ := run_conversation scheduler allocator {} {} events hqueued hordered hkeyed
  have hcalls := congrArg (List.map Exchange.call) hlog
  rw [Allocator.map_call_transcript] at hcalls
  rw [hcalls]
  simp [Stage.exchanges, Stage.calls, Stage.converse, Stage.hear, events, scheduler, allocator,
    Scheduler.schedule, Script.allocator, Script.refuses, Allocator.serve, Except.map]

end HeapReplay.Replay
