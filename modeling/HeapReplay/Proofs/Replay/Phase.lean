import HeapReplay.Proofs.Heap.Life
import HeapReplay.Proofs.Heap.Logged
import HeapReplay.Proofs.Replay.LiveTable
import HeapReplay.Proofs.Replay.Order
import HeapReplay.Proofs.Replay.Step

namespace HeapReplay.Replay

open Heap

variable {State Handle : Type}

/-- Where a request stands between two events: the events it still has, what an
    allocator was asked about it, and its handle in the table. -/
inductive Phase (id : RequestId) :
    List Event → List (Exchange Handle) → Option Handle → Prop
  | absent : Phase id [] [] none
  | waiting (size birth death : UInt64) :
      Phase id [⟨birth, id, size, .allocate⟩, ⟨death, id, size, .free⟩] [] none
  | held (size death : UInt64) (handle : Handle) :
      Phase id [⟨death, id, size, .free⟩] [⟨.allocate id size, .ok (some handle)⟩] (some handle)
  | refused (size death : UInt64) :
      Phase id [⟨death, id, size, .free⟩] [⟨.allocate id size, .ok none⟩] none
  | freed (size : UInt64) (handle : Handle) :
      Phase id [] [⟨.allocate id size, .ok (some handle)⟩, ⟨.free id size handle, .ok none⟩] none
  | dropped (size : UInt64) : Phase id [] [⟨.allocate id size, .ok none⟩] none

namespace Phase

variable {event : Event} {events : List Event} {log : List (Exchange Handle)}
  {live : Option Handle} {id : RequestId}

theorem life (hphase : Phase id events log live) : Life id log := by
  cases hphase with
  | absent => exact .silent
  | waiting => exact .silent
  | held => exact .asked _ _
  | refused => exact .asked _ _
  | freed => exact .ended _ _ _
  | dropped => exact .asked _ _

/-- A request is allocated first of all, and freed next. -/
theorem of_allocate (hphase : Phase event.id (event :: events) log live)
    (hkind : event.kind = .allocate) :
    log = [] ∧ live = none ∧ ∃ death, events = [⟨death, event.id, event.size, .free⟩] := by
  generalize hid : event.id = id at hphase ⊢
  cases hphase with
  | waiting size birth death => exact ⟨rfl, rfl, death, rfl⟩
  | held => cases hkind
  | refused => cases hkind

/-- A request is freed last of all, when its allocation was answered. -/
theorem of_free (hphase : Phase event.id (event :: events) log live) (hkind : event.kind = .free) :
    events = [] ∧
      ((∃ handle, live = some handle ∧
          log = [⟨.allocate event.id event.size, .ok (some handle)⟩]) ∨
        live = none ∧ log = [⟨.allocate event.id event.size, .ok none⟩]) := by
  generalize hid : event.id = id at hphase ⊢
  cases hphase with
  | waiting => cases hkind
  | held size death handle => exact ⟨rfl, Or.inl ⟨handle, rfl, rfl⟩⟩
  | refused => exact ⟨rfl, Or.inr ⟨rfl, rfl⟩⟩

/-- The granted block of a request that has no event left was freed. -/
theorem settled (hphase : Phase id [] log live) :
    live = none ∧ ∀ size handle, ⟨.allocate id size, .ok (some handle)⟩ ∈ log →
      ⟨.free id size handle, .ok none⟩ ∈ log ∧ log.countP (Exchange.frees id) = 1 := by
  cases hphase with
  | absent => simp
  | freed size handle => simp [Exchange.frees]
  | dropped size => simp

end Phase

/-- What a walk keeps: for each request, the events left, the exchanges heard and the
    table fit together. -/
def Standing (allocator : Allocator State Handle) (start : State) (events : List Event)
    (progress : Progress (Logged State Handle) Handle) : Prop :=
  ∃ log, Logged.Heard allocator start progress.allocator log ∧
    ∀ id, Phase id (eventsOf id events) (exchangesOf id log) (progress.live.get? id)

/-- What is left of it after an error: the last thing heard is a fault of the allocator. -/
def Halted (allocator : Allocator State Handle) (start : State) (error : ReplayError)
    (progress : Progress (Logged State Handle) Handle) : Prop :=
  ∃ log fault call, Logged.Heard allocator start progress.allocator log ∧
    (∀ id, Life id (exchangesOf id log)) ∧ error = .allocator fault ∧ ⟨call, .error fault⟩ ∈ log

section Dispatch

variable {event : Event} {events : List Event} {log more : List (Exchange Handle)}
  {live after : LiveTable Handle}

theorem own_phase
    (hphases : ∀ id, Phase id (eventsOf id (event :: events)) (exchangesOf id log) (live.get? id)) :
    Phase event.id (event :: eventsOf event.id events) (exchangesOf event.id log)
      (live.get? event.id) := by
  have hown := hphases event.id
  rwa [eventsOf_cons_self] at hown

theorem exchangesOf_append_of_ne {id : RequestId} (hne : id ≠ event.id)
    (hmore : ∀ exchange ∈ more, exchange.id? = some event.id ∨ exchange.id? = none) :
    exchangesOf id (log ++ more) = exchangesOf id log := by
  have hnone : exchangesOf id more = [] := by
    rw [exchangesOf, List.filter_eq_nil_iff]
    intro exchange hmem
    cases hmore exchange hmem with
    | inl hown => simp [hown, Ne.symm hne]
    | inr hreport => simp [hreport]
  rw [exchangesOf_append, hnone, List.append_nil]

/-- Only the request of an event moves on. -/
theorem phases_after
    (hphases : ∀ id, Phase id (eventsOf id (event :: events)) (exchangesOf id log) (live.get? id))
    (hmore : ∀ exchange ∈ more, exchange.id? = some event.id ∨ exchange.id? = none)
    (hlive : ∀ id, id ≠ event.id → after.get? id = live.get? id)
    (hown : Phase event.id (eventsOf event.id events) (exchangesOf event.id (log ++ more))
      (after.get? event.id)) :
    ∀ id, Phase id (eventsOf id events) (exchangesOf id (log ++ more)) (after.get? id) := by
  intro id
  by_cases hid : id = event.id
  · rw [hid]
    exact hown
  · rw [exchangesOf_append_of_ne hid hmore, hlive id hid]
    have hphase := hphases id
    rwa [eventsOf_cons_of_ne hid] at hphase

theorem lives_after
    (hphases : ∀ id, Phase id (eventsOf id (event :: events)) (exchangesOf id log) (live.get? id))
    (hmore : ∀ exchange ∈ more, exchange.id? = some event.id ∨ exchange.id? = none)
    (hown : Life event.id (exchangesOf event.id (log ++ more))) :
    ∀ id, Life id (exchangesOf id (log ++ more)) := by
  intro id
  by_cases hid : id = event.id
  · rw [hid]
    exact hown
  · rw [exchangesOf_append_of_ne hid hmore]
    exact (hphases id).life

/-- The exchanges about a request that is allocated for the first time. -/
theorem exchangesOf_allocate {answer : Except AllocatorError (Option Handle)}
    (hsilent : exchangesOf event.id log = []) (hmore : ∀ exchange ∈ more, exchange.id? = none) :
    exchangesOf event.id (log ++ (⟨.allocate event.id event.size, answer⟩ :: more)) =
      [⟨.allocate event.id event.size, answer⟩] := by
  have hnone : exchangesOf event.id more = [] := by
    rw [exchangesOf, List.filter_eq_nil_iff]
    intro exchange hmem
    simp [hmore exchange hmem]
  rw [exchangesOf_append, hsilent, List.nil_append, ← List.singleton_append, exchangesOf_append,
    hnone, List.append_nil]
  simp [exchangesOf, Exchange.id?]

theorem phases_granted {handle : Handle} (hkind : event.kind = .allocate)
    (hphases : ∀ id, Phase id (eventsOf id (event :: events)) (exchangesOf id log) (live.get? id))
    (hlive : live.contains event.id = false) (hmore : ∀ exchange ∈ more, exchange.id? = none) :
    ∀ id, Phase id (eventsOf id events)
      (exchangesOf id (log ++ (⟨.allocate event.id event.size, .ok (some handle)⟩ :: more)))
      ((live.insert event.id handle).2.get? id) := by
  obtain ⟨hsilent, _, death, hfree⟩ := (own_phase hphases).of_allocate hkind
  refine phases_after hphases ?_ (fun id hne => LiveTable.get?_insert_of_ne hlive hne) ?_
  · exact List.forall_mem_cons.2 ⟨Or.inl rfl, fun exchange hmem => Or.inr (hmore exchange hmem)⟩
  · rw [hfree, LiveTable.get?_insert_self hlive, exchangesOf_allocate hsilent hmore]
    exact .held event.size death handle

theorem phases_refused (hkind : event.kind = .allocate)
    (hphases : ∀ id, Phase id (eventsOf id (event :: events)) (exchangesOf id log) (live.get? id))
    (hmore : ∀ exchange ∈ more, exchange.id? = none) :
    ∀ id, Phase id (eventsOf id events)
      (exchangesOf id (log ++ (⟨.allocate event.id event.size, .ok none⟩ :: more)))
      (live.get? id) := by
  obtain ⟨hsilent, hnone, death, hfree⟩ := (own_phase hphases).of_allocate hkind
  refine phases_after hphases ?_ (fun _ _ => rfl) ?_
  · exact List.forall_mem_cons.2 ⟨Or.inl rfl, fun exchange hmem => Or.inr (hmore exchange hmem)⟩
  · rw [hfree, hnone, exchangesOf_allocate hsilent hmore]
    exact .refused event.size death

theorem lives_asked {answer : Except AllocatorError (Option Handle)}
    (hkind : event.kind = .allocate)
    (hphases : ∀ id, Phase id (eventsOf id (event :: events)) (exchangesOf id log) (live.get? id))
    (hmore : ∀ exchange ∈ more, exchange.id? = none) :
    ∀ id, Life id (exchangesOf id (log ++ (⟨.allocate event.id event.size, answer⟩ :: more))) := by
  obtain ⟨hsilent, _⟩ := (own_phase hphases).of_allocate hkind
  refine lives_after hphases ?_ ?_
  · exact List.forall_mem_cons.2 ⟨Or.inl rfl, fun exchange hmem => Or.inr (hmore exchange hmem)⟩
  · rw [exchangesOf_allocate hsilent hmore]
    exact .asked event.size answer

variable {allocator : Allocator State Handle} {start : State}
  {plan : Plan (Logged State Handle) Handle} {before next : Progress (Logged State Handle) Handle}

theorem standing_dispatch (hplan : plan.allocator = allocator.logged)
    (hstanding : Standing allocator start (event :: events) before)
    (hdispatch : plan.Dispatch event before (.ok ()) next) :
    Standing allocator start events next := by
  obtain ⟨log, hheard, hphases⟩ := hstanding
  cases hdispatch with
  | refused hkind hallocate hreport =>
    rw [hplan] at hallocate hreport
    exact ⟨_, hheard.allocate_report hallocate hreport,
      phases_refused hkind hphases (by simp [Exchange.id?])⟩
  | granted hkind hallocate hlive hquiet =>
    rw [hplan] at hallocate
    exact ⟨_, hheard.allocate hallocate, phases_granted hkind hphases hlive (by simp)⟩
  | grantedReport hkind hallocate hlive hdue hreport =>
    rw [hplan] at hallocate hreport
    exact ⟨_, hheard.allocate_report hallocate hreport,
      phases_granted hkind hphases hlive (by simp [Exchange.id?])⟩
  | untracked hkind hlive =>
    obtain ⟨hlast, ⟨handle, hsome, _⟩ | ⟨hnone, hrefused⟩⟩ := (own_phase hphases).of_free hkind
    · cases hlive.symm.trans hsome
    · refine ⟨log ++ [], by rwa [List.append_nil], ?_⟩
      refine phases_after hphases (by simp) (fun _ _ => rfl) ?_
      rw [hlast, hnone, List.append_nil, hrefused]
      exact .dropped event.size
  | @freed handle state hkind hlive hfree =>
    rw [hplan] at hfree
    obtain ⟨hlast, ⟨held, hsome, hgranted⟩ | ⟨hnone, _⟩⟩ := (own_phase hphases).of_free hkind
    · cases hlive.symm.trans hsome
      refine ⟨_, hheard.free hfree, ?_⟩
      refine phases_after hphases (by simp [Exchange.id?])
        (fun id hne => LiveTable.get?_erase_of_ne hne) ?_
      rw [hlast, LiveTable.get?_erase_self, exchangesOf_append, hgranted]
      simpa [exchangesOf, Exchange.id?, Except.map] using Phase.freed event.size handle
    · cases hlive.symm.trans hnone

theorem halted_dispatch (hplan : plan.allocator = allocator.logged)
    (hstanding : Standing allocator start (event :: events) before) {error : ReplayError}
    (hdispatch : plan.Dispatch event before (.error error) next) :
    Halted allocator start error next := by
  obtain ⟨log, hheard, hphases⟩ := hstanding
  cases hdispatch with
  | @allocateFault fault state hkind hallocate =>
    rw [hplan] at hallocate
    exact ⟨_, fault, .allocate event.id event.size, hheard.allocate hallocate,
      lives_asked hkind hphases (by simp), rfl, by simp⟩
  | @refusedFault fault state final hkind hallocate hreport =>
    rw [hplan] at hallocate hreport
    exact ⟨_, fault, .report, hheard.allocate_report hallocate hreport,
      lives_asked hkind hphases (by simp [Exchange.id?]), rfl, by simp [Except.map]⟩
  | duplicate hkind hallocate hlive =>
    obtain ⟨_, hnone, _⟩ := (own_phase hphases).of_allocate hkind
    rw [LiveTable.contains_eq_isSome, hnone] at hlive
    cases hlive
  | @grantedFault handle fault state final hkind hallocate hlive hdue hreport =>
    rw [hplan] at hallocate hreport
    exact ⟨_, fault, .report, hheard.allocate_report hallocate hreport,
      lives_asked hkind hphases (by simp [Exchange.id?]), rfl, by simp [Except.map]⟩
  | @freeFault handle fault state hkind hlive hfree =>
    rw [hplan] at hfree
    obtain ⟨_, ⟨held, hsome, hgranted⟩ | ⟨hnone, _⟩⟩ := (own_phase hphases).of_free hkind
    · cases hlive.symm.trans hsome
      refine ⟨_, fault, .free event.id event.size handle, hheard.free hfree, ?_, rfl,
        by simp [Except.map]⟩
      refine lives_after hphases (by simp [Exchange.id?]) ?_
      rw [exchangesOf_append, hgranted]
      simpa [exchangesOf, Exchange.id?] using Life.ended event.size handle _
    · cases hlive.symm.trans hnone

end Dispatch
end HeapReplay.Replay
