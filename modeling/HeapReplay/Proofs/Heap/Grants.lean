import HeapReplay.Proofs.Heap.Sound

namespace HeapReplay.Heap

/-- A block that was granted: the size asked for, and the address. -/
structure Grant where
  size : UInt64
  address : UInt64
  deriving DecidableEq, Repr

/-- The grants that an exchange leaves. -/
def note (grants : List Grant) : Exchange UInt64 → List Grant
  | ⟨.allocate _ size, .ok (some address)⟩ => ⟨size, address⟩ :: grants
  | ⟨.free _ size address, .ok _⟩ => grants.erase ⟨size, address⟩
  | _ => grants

/-- The grants behind a log that were not given back, the last one first. -/
def outstanding (log : List (Exchange UInt64)) : List Grant := log.foldl note []

/-- Whether a call frees nothing but an outstanding block. -/
def Rightful (grants : List Grant) : Call UInt64 → Prop
  | .free _ size address => ⟨size, address⟩ ∈ grants
  | _ => True

instance (grants : List Grant) : DecidablePred (Rightful grants)
  | .allocate _ _ => .isTrue trivial
  | .free _ size address => inferInstanceAs (Decidable ((⟨size, address⟩ : Grant) ∈ grants))
  | .report => .isTrue trivial

/-- Whether each free of a log is of a block that is outstanding at its place. -/
def Honest (log : List (Exchange UInt64)) : Prop :=
  ∀ (place : Nat) (hplace : place < log.length),
    Rightful (outstanding (log.take place)) (log.get ⟨place, hplace⟩).call

instance : DecidablePred Honest := fun log =>
  inferInstanceAs (Decidable (∀ (place : Nat) (hplace : place < log.length),
    Rightful (outstanding (log.take place)) (log.get ⟨place, hplace⟩).call))

theorem outstanding_concat (log : List (Exchange UInt64)) (exchange : Exchange UInt64) :
    outstanding (log ++ [exchange]) = note (outstanding log) exchange := by
  simp [outstanding]

theorem honest_nil : Honest [] := by
  intro place hplace
  cases hplace

theorem honest_concat_iff {log : List (Exchange UInt64)} {exchange : Exchange UInt64} :
    Honest (log ++ [exchange]) ↔ Honest log ∧ Rightful (outstanding log) exchange.call := by
  constructor
  · intro hhonest
    constructor
    · intro place hplace
      have hrightful := hhonest place (by rw [List.length_append]; omega)
      rw [List.take_append_of_le_length hplace.le] at hrightful
      simpa [hplace] using hrightful
    · have hrightful := hhonest log.length (by simp)
      simpa using hrightful
  · rintro ⟨hhonest, hlast⟩ place hplace
    cases Nat.lt_or_ge place log.length with
    | inl hlt =>
      rw [List.take_append_of_le_length hlt.le]
      simpa [hlt] using hhonest place hlt
    | inr hge =>
      obtain rfl : place = log.length := by
        rw [List.length_append, List.length_singleton] at hplace
        omega
      simpa using hlast

end HeapReplay.Heap
