import HeapReplay.Proofs.Replay.Key
import Mathlib.Algebra.Order.Group.Multiset

namespace HeapReplay.Replay.Queue

/-- A form in which events are queued. Whatever the form, an event that is taken is one
    with the least key. -/
structure Form (State : Type) where
  contents : State → Multiset Event
  push : State → Event → State
  schedule : State → Request → State
  peek? : State → Option Event
  pop? : State → Option (Event × State)
  contents_push : ∀ state event, contents (push state event) = event ::ₘ contents state
  contents_schedule : ∀ state request,
    contents (schedule state request) = contents state + request.events
  next_peek? : ∀ state, Next (contents state) (peek? state)
  fst_pop? : ∀ state, (pop? state).map Prod.fst = peek? state
  contents_of_pop? : ∀ {state first rest}, pop? state = some (first, rest) →
    contents state = first ::ₘ contents rest

/-- A use of a queue. -/
inductive Use
  | schedule (request : Request)
  | push (event : Event)
  | peek
  | pop
  deriving DecidableEq, Repr

/-- The events that a use adds to the queue. -/
def Use.pushed : Use → List Event
  | .schedule request => request.events
  | .push event => [event]
  | .peek => []
  | .pop => []

namespace Form

variable {State Other : Type} (form : Form State) (state : State)

/-- The event that a use is answered with, and the queue behind it. -/
def use : Use → Option Event × State
  | .schedule request => (none, form.schedule state request)
  | .push event => (none, form.push state event)
  | .peek => (form.peek? state, state)
  | .pop =>
    match form.pop? state with
    | none => (none, state)
    | some (first, rest) => (some first, rest)

/-- The events that a use takes from the queue. -/
def taken : Use → List Event
  | .pop => (form.use state .pop).1.toList
  | _ => []

/-- The queue behind uses. -/
def after (uses : List Use) : State := uses.foldl (fun state use => (form.use state use).2) state

/-- The answers to uses. -/
def answers : State → List Use → List (Option Event)
  | _, [] => []
  | state, use :: uses => (form.use state use).1 :: answers (form.use state use).2 uses

/-- The events that uses take, in the order in which they are taken. -/
def popped : State → List Use → List Event
  | _, [] => []
  | state, use :: uses => form.taken state use ++ popped (form.use state use).2 uses

/-- Takes all events, one after the other. -/
def drain (state : State) : List Event :=
  match _ : form.pop? state with
  | none => []
  | some (first, rest) => first :: drain rest
termination_by (form.contents state).card
decreasing_by
  rw [form.contents_of_pop? ‹form.pop? state = some (first, rest)›, Multiset.card_cons]
  exact Nat.lt_succ_self _

theorem after_cons (use : Use) (uses : List Use) :
    form.after state (use :: uses) = form.after (form.use state use).2 uses := rfl

theorem next_pop? : Next (form.contents state) ((form.pop? state).map Prod.fst) := by
  rw [form.fst_pop?]
  exact form.next_peek? state

theorem contents_eq_zero_of_pop? {state : State} (hpop : form.pop? state = none) :
    form.contents state = 0 := by
  have hnext := form.next_pop? state
  rw [hpop] at hnext
  exact hnext.eq_none_iff.1 rfl

theorem next_of_pop? {state rest : State} {first : Event}
    (hpop : form.pop? state = some (first, rest)) :
    Next (form.contents state) (some first) := by
  have hnext := form.next_pop? state
  rwa [hpop] at hnext

/-- What a use takes and what it leaves are what was queued and what it adds. -/
theorem contents_use (use : Use) :
    (form.taken state use : Multiset Event) + form.contents (form.use state use).2 =
      form.contents state + use.pushed := by
  cases use with
  | schedule request => exact (zero_add _).trans (form.contents_schedule state request)
  | push event =>
    refine (zero_add _).trans ((form.contents_push state event).trans ?_)
    exact (Multiset.singleton_add event _).symm.trans (add_comm _ _)
  | peek => exact add_comm _ _
  | pop =>
    simp only [taken, Form.use]
    cases hpop : form.pop? state with
    | none => exact add_comm _ _
    | some pair => exact (form.contents_of_pop? hpop).symm.trans (add_zero _).symm

/-- What uses take and what they leave are what was queued and what they add. -/
theorem contents_after (uses : List Use) :
    (form.popped state uses : Multiset Event) + form.contents (form.after state uses) =
      form.contents state + uses.flatMap Use.pushed := by
  induction uses generalizing state with
  | nil => exact add_comm _ _
  | cons use uses ih =>
    have huse := form.contents_use state use
    rw [popped, after_cons, List.flatMap_cons, ← Multiset.coe_add, ← Multiset.coe_add, add_assoc,
      ih, ← add_assoc, huse, add_assoc]

theorem drain_of_none {state : State} (hpop : form.pop? state = none) :
    form.drain state = [] := by
  rw [drain]
  split
  · rfl
  · simp_all

theorem drain_of_some {state rest : State} {first : Event}
    (hpop : form.pop? state = some (first, rest)) :
    form.drain state = first :: form.drain rest := by
  rw [drain]
  split <;> simp_all

/-- Draining takes all that is queued, in the order of the keys. -/
theorem drain_spec :
    (form.drain state : Multiset Event) = form.contents state ∧
      (form.drain state).Pairwise fun a b => a.key ≤ b.key := by
  induction state using drain.induct form with
  | case1 state hpop =>
    rw [form.drain_of_none hpop, form.contents_eq_zero_of_pop? hpop]
    exact ⟨rfl, .nil⟩
  | case2 state first rest hpop ih =>
    obtain ⟨hcontents, hordered⟩ := ih
    have hfirst := form.contents_of_pop? hpop
    rw [form.drain_of_some hpop]
    refine ⟨?_, List.pairwise_cons.2 ⟨?_, hordered⟩⟩
    · rw [hfirst, ← hcontents]
      rfl
    · intro event hevent
      rw [← Multiset.mem_coe, hcontents] at hevent
      cases form.next_of_pop? hpop with
      | some hmem hleast => exact hleast event (hfirst ▸ Multiset.mem_cons_of_mem hevent)

section Alike

variable {form} {other : Form Other} {state} {twin : Other}

/-- With the same events in two queues of any form, a use is answered alike and leaves
    the same events. -/
theorem use_alike (hkeys : Set.InjOn Event.key {event | event ∈ form.contents state})
    (hcontents : form.contents state = other.contents twin) (use : Use) :
    (form.use state use).1 = (other.use twin use).1 ∧
      form.contents (form.use state use).2 = other.contents (other.use twin use).2 := by
  cases use with
  | schedule request =>
    refine ⟨rfl, (form.contents_schedule state request).trans ?_⟩
    rw [hcontents]
    exact (other.contents_schedule twin request).symm
  | push event =>
    refine ⟨rfl, (form.contents_push state event).trans ?_⟩
    rw [hcontents]
    exact (other.contents_push twin event).symm
  | peek =>
    refine ⟨(form.next_peek? state).unique hkeys ?_, hcontents⟩
    rw [hcontents]
    exact other.next_peek? twin
  | pop =>
    have hfirst : (form.pop? state).map Prod.fst = (other.pop? twin).map Prod.fst := by
      refine (form.next_pop? state).unique hkeys ?_
      rw [hcontents]
      exact other.next_pop? twin
    -- One event is the next one in both queues, so both answer or neither does.
    simp only [Form.use]
    rcases hpop : form.pop? state with _ | ⟨first, rest⟩ <;>
      rcases htwin : other.pop? twin with _ | ⟨event, left⟩ <;>
        simp only [hpop, htwin, Option.map_none, Option.map_some, reduceCtorEq,
          Option.some.injEq] at hfirst
    · exact ⟨rfl, hcontents⟩
    · subst hfirst
      rw [form.contents_of_pop? hpop, other.contents_of_pop? htwin] at hcontents
      exact ⟨rfl, (Multiset.cons_inj_right first).1 hcontents⟩

/-- With the same events in two queues of any form, uses are answered alike and leave
    the same events. -/
theorem answers_alike (uses : List Use)
    (hkeys : Set.InjOn Event.key
      {event | event ∈ form.contents state + (uses.flatMap Use.pushed : List Event)})
    (hcontents : form.contents state = other.contents twin) :
    form.answers state uses = other.answers twin uses ∧
      form.contents (form.after state uses) = other.contents (other.after twin uses) := by
  induction uses generalizing state twin with
  | nil => exact ⟨rfl, hcontents⟩
  | cons use uses ih =>
    obtain ⟨hanswer, hbehind⟩ := use_alike
      (hkeys.mono fun event hevent => Multiset.mem_add.2 (.inl hevent)) hcontents use
    have hsub : ∀ event ∈ form.contents (form.use state use).2 +
          (uses.flatMap Use.pushed : List Event),
        event ∈ form.contents state + ((use :: uses).flatMap Use.pushed : List Event) := by
      intro event hevent
      rw [List.flatMap_cons, ← Multiset.coe_add, ← add_assoc, ← form.contents_use, add_assoc]
      exact Multiset.mem_add.2 (.inr hevent)
    obtain ⟨hanswers, hafter⟩ := ih (hkeys.mono hsub) hbehind
    exact ⟨congrArg₂ List.cons hanswer hanswers, hafter⟩

/-- Queues of any form with the same events drain alike. -/
theorem drain_alike (hkeys : Set.InjOn Event.key {event | event ∈ form.contents state})
    (hcontents : form.contents state = other.contents twin) :
    form.drain state = other.drain twin := by
  obtain ⟨hdrain, hordered⟩ := form.drain_spec state
  obtain ⟨htwin, hother⟩ := other.drain_spec twin
  have hperm : (form.drain state).Perm (other.drain twin) := by
    rw [← Multiset.coe_eq_coe, hdrain, htwin, hcontents]
  refine Event.eq_of_perm (hkeys.mono ?_) hperm hordered hother
  intro event hevent
  rw [Set.mem_ofPred_eq, ← hdrain]
  exact hevent

end Alike

end Form

/-- Events in the order of replay, as a form of queue. -/
def form : Form Queue where
  contents := contents
  push := push
  schedule queue request := queue.schedule [request]
  peek? := peek?
  pop? := pop?
  contents_push := contents_push
  contents_schedule queue request := by simpa using queue.contents_schedule [request]
  next_peek? := next_peek?
  fst_pop? := fst_pop?
  contents_of_pop? := contents_of_pop?

end HeapReplay.Replay.Queue
