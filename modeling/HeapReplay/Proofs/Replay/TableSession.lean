import HeapReplay.Proofs.Replay.LiveTable
import Mathlib.Data.Finset.Lattice.Fold
import Mathlib.Data.List.Induction
import Mathlib.Order.Lattice.Nat

namespace HeapReplay.Replay.LiveTable

variable {Handle : Type}

/-- A use of a table. -/
inductive Use (Handle : Type)
  | insert (id : RequestId) (handle : Handle)
  | remove (id : RequestId)
  | contains (id : RequestId)
  deriving DecidableEq, Repr

/-- What a table says to a use. A removal is answered by the handle that was removed. -/
inductive Answer (Handle : Type)
  | inserted (result : Except ReplayError Unit)
  | removed (handle? : Option Handle)
  | contained (live : Bool)

/-- A use with the answer to it. -/
structure Exchange (Handle : Type) where
  use : Use Handle
  answer : Answer Handle

namespace Exchange

/-- Whether a handle was inserted. -/
def inserts : Exchange Handle → Bool
  | ⟨.insert _ _, .inserted (.ok ())⟩ => true
  | _ => false

/-- Whether a handle was removed. -/
def removes : Exchange Handle → Bool
  | ⟨.remove _, .removed (some _)⟩ => true
  | _ => false

/-- The handle that a request has behind an exchange, if any, when the exchange has given it one
    or taken it away. -/
def told? (id : RequestId) : Exchange Handle → Option (Option Handle)
  | ⟨.insert other handle, .inserted (.ok ())⟩ => if id = other then some (some handle) else none
  | ⟨.remove other, .removed (some _)⟩ => if id = other then some none else none
  | _ => none

end Exchange

/-- The handle of a request after a history: the one that was inserted last, if no removal has
    taken it away since. -/
def held? (history : List (Exchange Handle)) (id : RequestId) : Option Handle :=
  (history.filterMap (Exchange.told? id)).getLast?.join

/-- How a map from requests to handles answers a use, and the map behind it. -/
def Use.onMap (map : RequestId → Option Handle) : Use Handle →
    Answer Handle × (RequestId → Option Handle)
  | .insert id handle =>
    match map id with
    | some _ => (.inserted (.error (.alreadyLive id)), map)
    | none => (.inserted (.ok ()), Function.update map id (some handle))
  | .remove id => (.removed (map id), Function.update map id none)
  | .contains id => (.contained (map id).isSome, map)

/-- The answer to a use, and the table behind it. -/
def use (table : LiveTable Handle) : Use Handle → Answer Handle × LiveTable Handle
  | .insert id handle => (.inserted (table.insert id handle).1, (table.insert id handle).2)
  | .remove id => (.removed (table.get? id), table.erase id)
  | .contains id => (.contained (table.contains id), table)

/-- The table behind uses. -/
def after (table : LiveTable Handle) (uses : List (Use Handle)) : LiveTable Handle :=
  uses.foldl (fun table use => (table.use use).2) table

/-- Uses with the answers to them. -/
def transcript (table : LiveTable Handle) : List (Use Handle) → List (Exchange Handle)
  | [] => []
  | use :: uses => ⟨use, (table.use use).1⟩ :: transcript (table.use use).2 uses

/-- All that an exchange can leave of a table. -/
inductive Effect (table : LiveTable Handle) : LiveTable Handle → Exchange Handle → Prop
  | inserted {next : LiveTable Handle} {id : RequestId} {handle : Handle}
      (absent : table.get? id = none)
      (get?_eq : next.get? = Function.update table.get? id (some handle))
      (size_eq : next.size = table.size + 1)
      (peak_eq : next.peak = max table.peak next.size) :
      Effect table next ⟨.insert id handle, .inserted (.ok ())⟩
  | refused {id : RequestId} {held handle : Handle} (live : table.get? id = some held) :
      Effect table table ⟨.insert id handle, .inserted (.error (.alreadyLive id))⟩
  | removed {next : LiveTable Handle} {id : RequestId} {held : Handle}
      (live : table.get? id = some held)
      (get?_eq : next.get? = Function.update table.get? id none)
      (size_eq : next.size + 1 = table.size)
      (peak_eq : next.peak = table.peak) :
      Effect table next ⟨.remove id, .removed (some held)⟩
  | missed {next : LiveTable Handle} {id : RequestId} (absent : table.get? id = none)
      (alike : Alike next table) :
      Effect table next ⟨.remove id, .removed none⟩
  | asked {id : RequestId} :
      Effect table table ⟨.contains id, .contained (table.get? id).isSome⟩

theorem get?_erase (table : LiveTable Handle) (id : RequestId) :
    (table.erase id).get? = Function.update table.get? id none := by
  funext other
  by_cases hother : other = id
  · rw [hother, get?_erase_self, Function.update_self]
  · rw [get?_erase_of_ne hother, Function.update_of_ne hother]

theorem get?_insert {table : LiveTable Handle} {id : RequestId}
    (habsent : table.contains id = false) (handle : Handle) :
    (table.insert id handle).2.get? = Function.update table.get? id (some handle) := by
  funext other
  by_cases hother : other = id
  · rw [hother, get?_insert_self habsent, Function.update_self]
  · rw [get?_insert_of_ne habsent hother, Function.update_of_ne hother]

theorem effect_insert (table : LiveTable Handle) (id : RequestId) (handle : Handle) :
    Effect table (table.insert id handle).2
      ⟨.insert id handle, .inserted (table.insert id handle).1⟩ := by
  cases hget : table.get? id with
  | some held =>
    have hlive : table.contains id = true := by
      rw [contains_eq_isSome, hget]
      rfl
    rw [insert, if_pos hlive]
    exact .refused hget
  | none =>
    have habsent := contains_eq_false_iff.2 hget
    have hanswer : (table.insert id handle).1 = .ok () := by
      rw [insert_of_absent habsent]
    have hsize : (table.insert id handle).2.size = table.size + 1 := size_insert habsent
    rw [hanswer]
    refine .inserted hget (get?_insert habsent handle) hsize ?_
    rw [hsize]
    exact peak_insert habsent

theorem effect_remove (table : LiveTable Handle) (id : RequestId) :
    Effect table (table.erase id) ⟨.remove id, .removed (table.get? id)⟩ := by
  have hget := get?_erase table id
  cases hheld : table.get? id with
  | some held => exact .removed hheld hget (size_erase hheld) rfl
  | none =>
    rw [Function.update_eq_self_iff.2 hheld.symm] at hget
    exact .missed hheld ⟨congrFun hget, rfl⟩

theorem effect_use (table : LiveTable Handle) (use : Use Handle) :
    Effect table (table.use use).2 ⟨use, (table.use use).1⟩ := by
  cases use with
  | insert id handle => exact effect_insert table id handle
  | remove id => exact effect_remove table id
  | contains id =>
    simp only [LiveTable.use, contains_eq_isSome]
    exact .asked

namespace Effect

variable {table next : LiveTable Handle} {exchange : Exchange Handle}

/-- A table answers as the map of its handles does, and stays in step with it. -/
theorem onMap_eq (heffect : Effect table next exchange) :
    exchange.use.onMap table.get? = (exchange.answer, next.get?) := by
  cases heffect with
  | inserted absent get?_eq => simp only [Use.onMap, absent, get?_eq]
  | refused live => simp only [Use.onMap, live]
  | removed live get?_eq => simp only [Use.onMap, live, get?_eq]
  | @missed next id absent alike =>
    have hsame : Function.update table.get? id none = table.get? :=
      Function.update_eq_self_iff.2 absent.symm
    simp only [Use.onMap, absent, hsame, funext alike.get?_eq]
  | asked => rfl

/-- An exchange tells all that it changes about a request. -/
theorem get?_eq (heffect : Effect table next exchange) (id : RequestId) :
    next.get? id = (exchange.told? id).getD (table.get? id) := by
  cases heffect with
  | inserted _ get?_eq =>
    simp only [get?_eq, Exchange.told?, Function.update_apply]
    split <;> rfl
  | refused => rfl
  | removed _ get?_eq =>
    simp only [get?_eq, Exchange.told?, Function.update_apply]
    split <;> rfl
  | missed _ alike => exact alike.get?_eq id
  | asked => rfl

/-- The size grows by a handle that is inserted and shrinks by one that is removed. -/
theorem size_eq (heffect : Effect table next exchange) :
    next.size + exchange.removes.toNat = table.size + exchange.inserts.toNat := by
  cases heffect with
  | inserted _ _ size_eq => exact size_eq
  | refused => rfl
  | removed _ _ size_eq => exact size_eq
  | missed _ alike => exact alike.size_eq
  | asked => rfl

/-- The peak is raised to a size above it, and never lowered. -/
theorem peak_eq (heffect : Effect table next exchange) (hpeak : table.size ≤ table.peak) :
    next.peak = max table.peak next.size := by
  cases heffect with
  | inserted _ _ _ peak_eq => exact peak_eq
  | refused => exact (Nat.max_eq_left hpeak).symm
  | removed _ _ size_eq peak_eq => omega
  | missed _ alike => rw [alike.peak_eq, alike.size_eq, Nat.max_eq_left hpeak]
  | asked => exact (Nat.max_eq_left hpeak).symm

/-- An exchange that neither inserts nor removes a handle changes nothing. -/
theorem alike (heffect : Effect table next exchange) (hinserts : exchange.inserts = false)
    (hremoves : exchange.removes = false) : Alike next table := by
  cases heffect with
  | inserted => cases hinserts
  | refused => exact .refl table
  | removed => cases hremoves
  | missed _ alike => exact alike
  | asked => exact .refl table

end Effect

section Session

variable (table : LiveTable Handle)

theorem after_concat (uses : List (Use Handle)) (use : Use Handle) :
    table.after (uses ++ [use]) = ((table.after uses).use use).2 := by
  simp only [after, List.foldl_append, List.foldl_cons, List.foldl_nil]

theorem transcript_concat (uses : List (Use Handle)) (use : Use Handle) :
    table.transcript (uses ++ [use]) =
      table.transcript uses ++ [⟨use, ((table.after uses).use use).1⟩] := by
  induction uses generalizing table with
  | nil => rfl
  | cons first uses ih => exact congrArg _ (ih (table.use first).2)

theorem held?_concat (history : List (Exchange Handle)) (exchange : Exchange Handle)
    (id : RequestId) :
    held? (history ++ [exchange]) id = (exchange.told? id).getD (held? history id) := by
  unfold held?
  rw [List.filterMap_append, List.getLast?_append]
  cases htold : exchange.told? id <;> simp [htold]

theorem told?_eq_some_some {exchange : Exchange Handle} {id : RequestId} {handle : Handle} :
    exchange.told? id = some (some handle) ↔
      exchange = ⟨.insert id handle, .inserted (.ok ())⟩ := by
  constructor
  · intro htold
    unfold Exchange.told? at htold
    split at htold
    · split at htold
      · next hid =>
        cases htold
        rw [hid]
      · cases htold
    · split at htold <;> cases htold
    · cases htold
  · rintro rfl
    exact if_pos rfl

/-- A request holds the handle that was inserted last, when nothing has changed it since. -/
theorem held?_eq_some_iff {history : List (Exchange Handle)} {id : RequestId} {handle : Handle} :
    held? history id = some handle ↔
      ∃ before behind, history = before ++ ⟨.insert id handle, .inserted (.ok ())⟩ :: behind ∧
        ∀ exchange ∈ behind, exchange.told? id = none := by
  rw [held?, Option.join_eq_some_iff, List.getLast?_filterMap, List.findSome?_eq_some_iff]
  constructor
  · rintro ⟨behind, exchange, before, hsplit, htold, hquiet⟩
    rw [told?_eq_some_some] at htold
    refine ⟨before.reverse, behind.reverse, ?_, ?_⟩
    · rw [← history.reverse_reverse, hsplit, htold]
      simp
    · intro later hlater
      exact hquiet later (List.mem_reverse.1 hlater)
  · rintro ⟨before, behind, rfl, hquiet⟩
    refine ⟨behind.reverse, _, before.reverse, by simp, told?_eq_some_some.2 rfl, ?_⟩
    intro later hlater
    exact hquiet later (List.mem_reverse.1 hlater)

variable (uses : List (Use Handle))

/-- A table that starts empty holds what its history tells. -/
theorem get?_after (id : RequestId) :
    (({} : LiveTable Handle).after uses).get? id =
      held? (({} : LiveTable Handle).transcript uses) id := by
  induction uses using List.reverseRecOn with
  | nil => exact get?_empty
  | append_singleton uses use ih =>
    rw [after_concat, transcript_concat, held?_concat, ← ih]
    exact (effect_use _ use).get?_eq id

/-- The size is what was there and was inserted, less what was removed. -/
theorem size_after :
    (table.after uses).size + (table.transcript uses).countP Exchange.removes =
      table.size + (table.transcript uses).countP Exchange.inserts := by
  induction uses using List.reverseRecOn with
  | nil => rfl
  | append_singleton uses use ih =>
    have hstep := (effect_use (table.after uses) use).size_eq
    rw [after_concat, transcript_concat, List.countP_append, List.countP_append,
      List.countP_singleton, List.countP_singleton]
    simp only [Bool.toNat, Bool.cond_eq_ite] at hstep
    omega

theorem size_le_peak_after (hpeak : table.size ≤ table.peak) :
    (table.after uses).size ≤ (table.after uses).peak := by
  induction uses using List.reverseRecOn with
  | nil => exact hpeak
  | append_singleton uses use ih =>
    rw [after_concat, (effect_use _ use).peak_eq ih]
    exact Nat.le_max_right _ _

/-- The peak is the largest size that there has been. -/
theorem peak_after :
    (({} : LiveTable Handle).after uses).peak =
      (Finset.range (uses.length + 1)).sup fun count =>
        (({} : LiveTable Handle).after (uses.take count)).size := by
  induction uses using List.reverseRecOn with
  | nil => rfl
  | append_singleton uses use ih =>
    have hsize := size_le_peak_after ({} : LiveTable Handle) uses (Nat.le_refl 0)
    have hbefore : (Finset.range (uses.length + 1)).sup (fun count =>
          (({} : LiveTable Handle).after ((uses ++ [use]).take count)).size) =
        (({} : LiveTable Handle).after uses).peak := by
      rw [ih]
      refine Finset.sup_congr rfl ?_
      intro count hcount
      rw [List.take_append_of_le_length (Nat.lt_succ_iff.1 (Finset.mem_range.1 hcount))]
    have hlast : (uses ++ [use]).take (uses.length + 1) = uses ++ [use] :=
      List.take_of_length_le (by rw [List.length_append, List.length_singleton])
    rw [List.length_append, List.length_singleton, Finset.range_add_one, Finset.sup_insert, hlast,
      hbefore, after_concat, (effect_use _ use).peak_eq hsize]
    exact max_comm _ _

end Session

/-- Whatever a table has been used for, it is a map from requests to handles: it answers the next
    use as the map does, and the map is what the use leaves. A request holds the handle of its
    last insertion that was not refused, until it is removed. An insertion that is refused and a
    removal that finds nothing leave the handles, the size and the peak as they were. The size is
    the number of insertions less that of the removals, and the peak is the largest size that
    there has been, so that it never goes down. -/
theorem finite_map_any_use (uses : List (Use Handle)) :
    let table := ({} : LiveTable Handle).after uses
    let history := ({} : LiveTable Handle).transcript uses
    (∀ use : Use Handle,
      use.onMap table.get? = ((table.use use).1, (table.use use).2.get?) ∧
        table.peak ≤ (table.use use).2.peak ∧
        (Exchange.inserts ⟨use, (table.use use).1⟩ = false →
          Exchange.removes ⟨use, (table.use use).1⟩ = false →
          (table.use use).2.get? = table.get? ∧ (table.use use).2.size = table.size ∧
            (table.use use).2.peak = table.peak)) ∧
      (∀ id handle, table.get? id = some handle ↔
        ∃ before behind, history = before ++ ⟨.insert id handle, .inserted (.ok ())⟩ :: behind ∧
          ∀ exchange ∈ behind, exchange.told? id = none) ∧
      table.size + history.countP Exchange.removes = history.countP Exchange.inserts ∧
      table.peak = (Finset.range (uses.length + 1)).sup fun count =>
        (({} : LiveTable Handle).after (uses.take count)).size := by
  intro table history
  refine ⟨?_, ?_, ?_, peak_after uses⟩
  · intro use
    have heffect := effect_use table use
    have hpeak := heffect.peak_eq (size_le_peak_after _ uses (Nat.le_refl 0))
    refine ⟨heffect.onMap_eq, by omega, ?_⟩
    intro hinserts hremoves
    have halike := heffect.alike hinserts hremoves
    exact ⟨funext halike.get?_eq, halike.size_eq, halike.peak_eq⟩
  · intro id handle
    rw [get?_after, held?_eq_some_iff]
  · exact (size_after _ uses).trans (Nat.zero_add _)

/-- A request is inserted and removed twice, the second time in vain, and inserted anew. -/
theorem finite_map_any_use_inserted_again :
    let uses : List (Use Nat) := [.insert 1 10, .insert 1 11, .insert 2 20, .remove 3, .remove 1,
      .remove 1, .insert 1 12]
    let table := ({} : LiveTable Nat).after uses
    let next := table.use (.insert 2 21)
    next.1 = .inserted (.error (.alreadyLive 2)) ∧
      (next.2.get? = table.get? ∧ next.2.size = table.size ∧ next.2.peak = table.peak) ∧
      table.get? 1 = some 12 ∧ table.size = 2 := by
  intro uses table next
  let before : List (Exchange Nat) :=
    [⟨.insert 1 10, .inserted (.ok ())⟩, ⟨.insert 1 11, .inserted (.error (.alreadyLive 1))⟩,
      ⟨.insert 2 20, .inserted (.ok ())⟩, ⟨.remove 3, .removed none⟩,
      ⟨.remove 1, .removed (some 10)⟩, ⟨.remove 1, .removed none⟩]
  have hhistory : ({} : LiveTable Nat).transcript uses =
      before ++ [⟨.insert 1 12, .inserted (.ok ())⟩] := by
    simp [uses, before, transcript, use, insert, contains, get?, erase, Std.HashMap.getElem_insert]
  obtain ⟨hnext, hheld, hsize, _⟩ := finite_map_any_use uses
  rw [hhistory] at hheld hsize
  have hsecond : table.get? 2 = some 20 :=
    (hheld 2 20).2 ⟨before.take 2, before.drop 3 ++ [_], rfl, by simp [before, Exchange.told?]⟩
  obtain ⟨hmap, _, hsame⟩ := hnext (.insert 2 21)
  have hrefused : next.1 = .inserted (.error (.alreadyLive 2)) := by
    rw [Use.onMap, hsecond] at hmap
    exact (congrArg Prod.fst hmap).symm
  refine ⟨hrefused, hsame ?_ ?_, (hheld 1 12).2 ⟨before, [], rfl, by simp⟩, ?_⟩
  · rw [hrefused]
    rfl
  · rw [hrefused]
    rfl
  · have hcount : table.size + 1 = 3 := hsize
    omega

end HeapReplay.Replay.LiveTable
