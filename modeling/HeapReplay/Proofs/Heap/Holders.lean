import HeapReplay.Proofs.Heap.Ledger
import HeapReplay.Proofs.Heap.Life

namespace HeapReplay.Heap

/-- The requests with their blocks that an exchange leaves. -/
def hold (holders : List (RequestId × Grant)) : Exchange UInt64 → List (RequestId × Grant)
  | ⟨.allocate id size, .ok (some address)⟩ => (id, ⟨size, address⟩) :: holders
  | ⟨.free id size address, .ok _⟩ => holders.erase (id, ⟨size, address⟩)
  | _ => holders

/-- The requests that hold a block behind a log. -/
def holders (log : List (Exchange UInt64)) : List (RequestId × Grant) := log.foldl hold []

/-- The exchange by which a request comes to its block. -/
def grantOf (id : RequestId) (grant : Grant) : Exchange UInt64 :=
  ⟨.allocate id grant.size, .ok (some grant.address)⟩

/-- Whether no call of a log ended in an error. -/
def Faultless {Handle : Type} (log : List (Exchange Handle)) : Prop :=
  ∀ call error, ⟨call, .error error⟩ ∉ log

/-- Who holds what behind a log: each request that was granted a block and did not give
    it back holds that block, and nothing else is outstanding. -/
structure Held (log : List (Exchange UInt64)) : Prop where
  nodup : (holders log).Nodup
  mem_iff : ∀ id grant, (id, grant) ∈ holders log ↔ exchangesOf id log = [grantOf id grant]
  perm : (outstanding log).Perm ((holders log).map Prod.snd)

variable {log : List (Exchange UInt64)} {id : RequestId} {size address : UInt64}

theorem held_nil : Held [] where
  nodup := List.nodup_nil
  mem_iff := by simp [holders, exchangesOf]
  perm := List.Perm.nil

theorem Held.allocate (hheld : Held log) (hsilent : exchangesOf id log = []) :
    Held (log ++ [grantOf id ⟨size, address⟩]) := by
  have hholders : holders (log ++ [grantOf id ⟨size, address⟩]) =
      (id, ⟨size, address⟩) :: holders log := by
    simp [holders, grantOf, hold]
  have hfresh (grant : Grant) : (id, grant) ∉ holders log := by
    rw [hheld.mem_iff, hsilent]
    simp
  refine ⟨?_, ?_, ?_⟩
  · rw [hholders]
    exact List.nodup_cons.2 ⟨hfresh _, hheld.nodup⟩
  · intro other grant
    rw [hholders, List.mem_cons, hheld.mem_iff]
    by_cases hid : id = other
    · subst hid
      rw [exchangesOf_concat_self rfl, hsilent]
      obtain ⟨otherSize, otherAddress⟩ := grant
      simp [grantOf, eq_comm]
    · rw [exchangesOf_concat_of_ne (by simpa [grantOf, Exchange.id?] using hid)]
      simp [Ne.symm hid]
  · rw [hholders, outstanding_concat]
    exact hheld.perm.cons _

theorem Held.free (hheld : Held log) {content : Option UInt64}
    (hgranted : exchangesOf id log = [grantOf id ⟨size, address⟩]) :
    Held (log ++ [⟨.free id size address, .ok content⟩]) := by
  have hholders : holders (log ++ [⟨.free id size address, .ok content⟩]) =
      (holders log).erase (id, ⟨size, address⟩) := by
    simp [holders, hold]
  have hmem : (id, ⟨size, address⟩) ∈ holders log := (hheld.mem_iff id ⟨size, address⟩).2 hgranted
  refine ⟨?_, ?_, ?_⟩
  · rw [hholders]
    exact hheld.nodup.erase _
  · intro other grant
    rw [hholders, hheld.nodup.mem_erase_iff, hheld.mem_iff]
    by_cases hid : id = other
    · subst hid
      rw [exchangesOf_concat_self rfl, hgranted]
      obtain ⟨otherSize, otherAddress⟩ := grant
      simp [grantOf, eq_comm]
    · rw [exchangesOf_concat_of_ne (by simpa [Exchange.id?] using hid)]
      simp [Ne.symm hid]
  · rw [hholders, outstanding_concat]
    have hmoved := hheld.perm.trans ((List.perm_cons_erase hmem).map Prod.snd)
    have herased := hmoved.erase ⟨size, address⟩
    rw [List.map_cons, List.erase_cons_head] at herased
    exact herased

/-- Exchanges that neither grant nor free change no holder. -/
theorem Held.same (hheld : Held log) {exchange : Exchange UInt64}
    (hhold : ∀ holders, hold holders exchange = holders)
    (hnote : ∀ grants, note grants exchange = grants)
    (hsilent : ∀ id, exchange.id? = some id → exchangesOf id log = [])
    (hother : ∀ id grant, exchange ≠ grantOf id grant) : Held (log ++ [exchange]) := by
  have hholders : holders (log ++ [exchange]) = holders log := by
    simp [holders, hhold]
  refine ⟨hholders ▸ hheld.nodup, ?_, ?_⟩
  · intro id grant
    rw [hholders, hheld.mem_iff]
    by_cases hid : exchange.id? = some id
    · rw [exchangesOf_concat_self hid, hsilent id hid]
      simp [hother]
    · rw [exchangesOf_concat_of_ne hid]
  · rw [hholders, outstanding_concat, hnote]
    exact hheld.perm

/-- In the log of lives without a fault, the outstanding blocks are those of the
    requests that were granted one and have not given it back. -/
theorem held_of_lives (hlives : ∀ id, Life id (exchangesOf id log)) (hfaultless : Faultless log) :
    Held log := by
  induction log using List.reverseRecOn with
  | nil => exact held_nil
  | append_singleton log exchange ih =>
    have hheld : Held log := by
      refine ih (lives_of_append hlives) ?_
      intro call error hmem
      exact hfaultless call error (List.mem_append_left _ hmem)
    have hanswer (error : AllocatorError) : exchange.answer ≠ .error error := by
      intro heq
      refine hfaultless exchange.call error (List.mem_append_right _ ?_)
      rw [← heq]
      exact List.mem_singleton_self _
    obtain ⟨call, answer⟩ := exchange
    cases call with
    | allocate id size =>
      have hlife := hlives id
      rw [exchangesOf_concat_self rfl] at hlife
      obtain ⟨hsilent, _⟩ | ⟨_, _, _, _, hfree⟩ := hlife.of_concat
      · match answer with
        | .ok (some address) => exact hheld.allocate hsilent
        | .ok none =>
          refine hheld.same (fun _ => rfl) (fun _ => rfl) ?_ (by simp [grantOf])
          intro other hother
          obtain rfl : id = other := Option.some.inj hother
          exact hsilent
        | .error error => exact absurd rfl (hanswer error)
      · cases hfree
    | free id size address =>
      have hlife := hlives id
      rw [exchangesOf_concat_self rfl] at hlife
      obtain ⟨_, _, _, hallocate⟩ | ⟨_, _, _, hgranted, hfree⟩ := hlife.of_concat
      · cases hallocate
      · cases hfree
        match answer with
        | .ok content => exact hheld.free hgranted
        | .error error => exact absurd rfl (hanswer error)
    | report =>
      exact hheld.same (fun _ => rfl) (fun _ => rfl) (by simp [Exchange.id?]) (by simp [grantOf])

/-- A life frees nothing but an outstanding block. -/
theorem rightful_of_lives {exchange : Exchange UInt64}
    (hlives : ∀ id, Life id (exchangesOf id (log ++ [exchange]))) (hfaultless : Faultless log) :
    Rightful (outstanding log) exchange.call := by
  have hheld := held_of_lives (lives_of_append hlives) hfaultless
  obtain ⟨call, answer⟩ := exchange
  cases call with
  | allocate id size => exact trivial
  | free id size address =>
    have hlife := hlives id
    rw [exchangesOf_concat_self rfl] at hlife
    obtain ⟨_, _, _, hallocate⟩ | ⟨_, _, _, hgranted, hfree⟩ := hlife.of_concat
    · cases hallocate
    · cases hfree
      have hmem : (id, ⟨size, address⟩) ∈ holders log :=
        (hheld.mem_iff id ⟨size, address⟩).2 hgranted
      exact hheld.perm.mem_iff.2 (List.mem_map_of_mem hmem)
  | report => exact trivial

namespace FirstFit

/-- On a sound heap, lives free nothing but outstanding blocks, and no call ends in an
    error. -/
theorem honest_of_lives {heap : FirstFit} (hsound : heap.Sound) (calls : List (Call UInt64))
    (hlives : ∀ id, Life id (exchangesOf id (allocator.transcript heap calls))) :
    Honest (allocator.transcript heap calls) ∧
      Faultless (allocator.transcript heap calls) := by
  induction calls using List.reverseRecOn with
  | nil => exact ⟨honest_nil, fun _ _ hmem => absurd hmem List.not_mem_nil⟩
  | append_singleton calls call ih =>
    rw [Allocator.transcript_concat] at hlives ⊢
    obtain ⟨hhonest, hfaultless⟩ := ih (lives_of_append hlives)
    have hrightful := rightful_of_lives hlives hfaultless
    obtain ⟨hledger, _⟩ := ledger_after hsound calls hhonest
    obtain ⟨content, hanswer⟩ := hledger.answered hrightful
    refine ⟨honest_concat_iff.2 ⟨hhonest, hrightful⟩, ?_⟩
    intro other error hmem
    cases List.mem_append.1 hmem with
    | inl hearlier => exact hfaultless other error hearlier
    | inr hlast =>
      have hsame := congrArg Exchange.answer (List.mem_singleton.1 hlast)
      cases hsame.trans hanswer

end FirstFit
end HeapReplay.Heap
