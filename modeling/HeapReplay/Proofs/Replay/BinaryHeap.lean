import Mathlib.Data.Multiset.AddSub
import Mathlib.Data.Vector.Basic

namespace HeapReplay.Replay

/-- Each entry but the one at the root, at 0, is at most the one above it. The entries
    below `place` are those at `2 * place + 1` and `2 * place + 2`. -/
def HeapOrdered {α : Type} [LE α] {n : Nat} (entries : Vector α n) : Prop :=
  ∀ place (_ : place + 1 < n), entries[place + 1] ≤ entries[place / 2]

/-- A binary heap with a largest entry at the root. -/
structure BinaryHeap (α : Type) [LE α] where
  size : Nat
  entries : Vector α size
  ordered : HeapOrdered entries

namespace BinaryHeap

theorem root_eq {α : Type} {n : Nat} {entries : Vector α (n + 1)} {first : α} {rest : List α}
    (hlist : entries.toList = first :: rest) : entries[0] = first := by
  rw [← Vector.getElem_toList (by simp)]
  simp [hlist]

/-- What is left when the last entry takes the place of the first one. -/
theorem set_root_perm {α : Type} {n : Nat} (entries : Vector α (n + 2)) :
    entries.toList.Perm (entries[0] :: (entries.pop.set 0 entries.back).toList) := by
  have hlast : entries.toList = entries.pop.toList ++ [entries.back] := by
    rw [← Vector.toList_push, Vector.push_pop_back]
  obtain ⟨first, rest, hpop⟩ := List.exists_cons_of_length_eq_add_one entries.pop.length_toList
  rw [hpop, List.cons_append] at hlast
  rw [hlast, root_eq hlast, Vector.toList_set, hpop, List.set_cons_zero]
  exact (List.perm_append_singleton _ _).cons _

variable {α : Type} [LE α] {n : Nat}

section Sift

variable [DecidableLE α]

/-- Moves the entry at a place up, to below an entry that it is at most. -/
def rise (entries : Vector α n) : (place : Nat) → place < n → Vector α n
  | 0, _ => entries
  | place + 1, _ =>
    if entries[place + 1] ≤ entries[place / 2] then entries
    else rise (entries.swap (place + 1) (place / 2)) (place / 2) (by omega)
termination_by place => place

/-- Moves the entry at a place down to the leaves, along the larger entries, and then up
    from there. -/
def sink (entries : Vector α n) (place : Nat) (hplace : place < n) : Vector α n :=
  if hright : 2 * place + 2 < n then
    if entries[2 * place + 1] ≤ entries[2 * place + 2] then
      sink (entries.swap place (2 * place + 2)) (2 * place + 2) hright
    else sink (entries.swap place (2 * place + 1)) (2 * place + 1) (by omega)
  else if hleft : 2 * place + 1 < n then
    rise (entries.swap place (2 * place + 1)) (2 * place + 1) hleft
  else rise entries place hplace
termination_by n - place

theorem rise_perm (entries : Vector α n) (place : Nat) (hplace : place < n) :
    (rise entries place hplace).Perm entries := by
  induction entries, place, hplace using rise.induct with
  | case1 entries hplace =>
    rw [rise]
  | case2 entries place hplace hle =>
    rw [rise, if_pos hle]
  | case3 entries place hplace hgt hparent ih =>
    rw [rise, if_neg hgt]
    exact ih.trans (Vector.swap_perm _ _)

theorem sink_perm (entries : Vector α n) (place : Nat) (hplace : place < n) :
    (sink entries place hplace).Perm entries := by
  induction entries, place, hplace using sink.induct with
  | case1 entries place hplace hright hle ih =>
    rw [sink, dif_pos hright, if_pos hle]
    exact ih.trans (Vector.swap_perm _ _)
  | case2 entries place hplace hright hgt ih =>
    rw [sink, dif_pos hright, if_neg hgt]
    exact ih.trans (Vector.swap_perm _ _)
  | case3 entries place hplace hright hleft =>
    rw [sink, dif_neg hright, dif_pos hleft]
    exact (rise_perm _ _ _).trans (Vector.swap_perm _ _)
  | case4 entries place hplace hright hleft =>
    rw [sink, dif_neg hright, dif_neg hleft]
    exact rise_perm _ _ _

end Sift

section Order

/-- The entry at a place is at least those below it. -/
def Tops (entries : Vector α n) (place : Nat) (_ : place < n) : Prop :=
  ∀ child (_ : child + 1 < n), child / 2 = place → entries[child + 1] ≤ entries[place]

/-- Heap order with the entry at one place left out: the entries below it are at most the
    one above it. -/
structure OrderedBut (entries : Vector α n) (hole : Nat) : Prop where
  others : ∀ place (_ : place + 1 < n), place + 1 ≠ hole → place / 2 ≠ hole →
    entries[place + 1] ≤ entries[place / 2]
  across : ∀ place child (_ : child + 1 < n) (_ : child / 2 = place + 1), hole = place + 1 →
    entries[child + 1] ≤ entries[place / 2]

variable {entries : Vector α n} {place : Nat}

theorem tops_of_leaf {hplace : place < n} (hleaf : n ≤ 2 * place + 1) :
    Tops entries place hplace := by
  intro child hchild hbelow
  omega

theorem OrderedBut.heapOrdered (hbut : OrderedBut entries place) {hplace : place < n}
    (htops : Tops entries place hplace)
    (hunder : ∀ above (_ : place = above + 1), entries[place] ≤ entries[above / 2]) :
    HeapOrdered entries := by
  intro child hchild
  by_cases hself : child + 1 = place
  · have := hunder child hself.symm
    simpa [hself] using this
  · by_cases hbelow : child / 2 = place
    · have := htops child hchild hbelow
      simpa [hbelow] using this
    · exact hbut.others child hchild hself hbelow

variable [Std.IsLinearPreorder α]

theorem le_root (hordered : HeapOrdered entries) (hplace : place < n) :
    entries[place] ≤ entries[0] := by
  induction place using Nat.strongRecOn with
  | ind place ih =>
    cases place with
    | zero => exact Std.le_refl _
    | succ above =>
      have hroot := ih (above / 2) (by omega) (by omega)
      exact Std.le_trans (hordered above hplace) hroot

/-- An entry that is larger than the one above it changes places with it. It is then at
    least the entries below it, and only its order with the one above it is open. -/
theorem OrderedBut.raise (hbut : OrderedBut entries (place + 1)) (hplace : place + 1 < n)
    (hgt : ¬ entries[place + 1] ≤ entries[place / 2]) :
    OrderedBut (entries.swap (place + 1) (place / 2)) (place / 2) ∧
      Tops (entries.swap (place + 1) (place / 2)) (place / 2) (by omega) := by
  refine ⟨⟨?_, ?_⟩, ?_⟩
  · intro other hother hne hparent
    by_cases hlowered : other / 2 = place + 1
    · have hacross := hbut.across place other hother hlowered rfl
      grind
    · have hothers := hbut.others other hother (by omega) hlowered
      grind
  · intro above child hchild hbelow hhole
    have habove := hbut.others above (by omega) (by omega) (by omega)
    by_cases hself : child = place
    · grind
    · have hsibling := hbut.others child hchild (by omega) (by omega)
      grind
  · intro child hchild hbelow
    by_cases hself : child = place
    · grind
    · have hsibling := hbut.others child hchild (by omega) (by omega)
      grind

/-- A largest one of the entries below a place changes places with the entry there. -/
theorem OrderedBut.lower (hbut : OrderedBut entries place) {larger : Nat}
    (hlarger : larger + 1 < n) (hbelow : larger / 2 = place)
    (hlargest : ∀ child (_ : child + 1 < n), child / 2 = place →
      entries[child + 1] ≤ entries[larger + 1]) :
    OrderedBut (entries.swap place (larger + 1)) (larger + 1) := by
  constructor
  · intro other hother hne hparent
    by_cases hself : other + 1 = place
    · have hacross := hbut.across other larger hlarger (by omega) hself.symm
      grind
    · by_cases hsibling : other / 2 = place
      · have := hlargest other hother hsibling
        grind
      · have hothers := hbut.others other hother hself hsibling
        grind
  · intro parent child hchild hgrand hhole
    have hothers := hbut.others child hchild (by omega) (by omega)
    grind

theorem orderedBut_push (hordered : HeapOrdered entries) (entry : α) :
    OrderedBut (entries.push entry) n := by
  constructor
  · intro place hplace hne hparent
    have hle := hordered place (by omega)
    grind
  · intro place child hchild hbelow hhole
    omega

theorem orderedBut_set_root {entries : Vector α (n + 2)} (hordered : HeapOrdered entries)
    (entry : α) : OrderedBut (entries.pop.set 0 entry) 0 := by
  constructor
  · intro place hplace hne hparent
    have hle := hordered place (by omega)
    grind
  · intro place child hchild hbelow hhole
    omega

variable [DecidableLE α]

theorem rise_ordered (entries : Vector α n) (place : Nat) (hplace : place < n)
    (hbut : OrderedBut entries place) (htops : Tops entries place hplace) :
    HeapOrdered (rise entries place hplace) := by
  induction entries, place, hplace using rise.induct with
  | case1 entries hplace =>
    rw [rise]
    exact hbut.heapOrdered htops (by simp)
  | case2 entries place hplace hle =>
    rw [rise, if_pos hle]
    refine hbut.heapOrdered htops ?_
    intro above habove
    cases habove
    exact hle
  | case3 entries place hplace hgt hparent ih =>
    rw [rise, if_neg hgt]
    obtain ⟨hbut, htops⟩ := hbut.raise hplace hgt
    exact ih hbut htops

theorem sink_ordered (entries : Vector α n) (place : Nat) (hplace : place < n)
    (hbut : OrderedBut entries place) : HeapOrdered (sink entries place hplace) := by
  induction entries, place, hplace using sink.induct with
  | case1 entries place hplace hright hle ih =>
    rw [sink, dif_pos hright, if_pos hle]
    refine ih (hbut.lower hright (by omega) ?_)
    intro child hchild hbelow
    grind
  | case2 entries place hplace hright hgt ih =>
    rw [sink, dif_pos hright, if_neg hgt]
    refine ih (hbut.lower (by omega) (by omega) ?_)
    intro child hchild hbelow
    grind
  | case3 entries place hplace hright hleft =>
    rw [sink, dif_neg hright, dif_pos hleft]
    refine rise_ordered _ _ _ (hbut.lower hleft (by omega) ?_) (tops_of_leaf (by omega))
    intro child hchild hbelow
    grind
  | case4 entries place hplace hright hleft =>
    rw [sink, dif_neg hright, dif_neg hleft]
    exact rise_ordered _ _ _ hbut (tops_of_leaf (by omega))

end Order

section Operations

def empty : BinaryHeap α := ⟨0, #v[], fun _ hplace => absurd hplace (Nat.not_lt_zero _)⟩

/-- The entry at the root. -/
def peek? (heap : BinaryHeap α) : Option α := heap.entries[0]?

variable [Std.IsLinearPreorder α] [DecidableLE α]

/-- Adds an entry at the end, from where it moves up. -/
def push (heap : BinaryHeap α) (entry : α) : BinaryHeap α where
  size := heap.size + 1
  entries := rise (heap.entries.push entry) heap.size (Nat.lt_succ_self _)
  ordered := rise_ordered _ _ _ (orderedBut_push heap.ordered entry) (tops_of_leaf (by omega))

/-- Takes the entry at the root. The last entry moves down from there. -/
def pop? : BinaryHeap α → Option (α × BinaryHeap α)
  | ⟨0, _, _⟩ => none
  | ⟨1, entries, _⟩ => some (entries[0], empty)
  | ⟨n + 2, entries, ordered⟩ =>
    some (entries[0], ⟨n + 1, sink (entries.pop.set 0 entries.back) 0 (Nat.succ_pos n),
      sink_ordered _ _ _ (orderedBut_set_root ordered entries.back)⟩)

theorem fst_pop? (heap : BinaryHeap α) : heap.pop?.map Prod.fst = heap.peek? := by
  obtain ⟨_ | _ | n, entries, ordered⟩ := heap <;> simp [pop?, peek?]

end Operations

section Contents

/-- The entries, each as often as it occurs. -/
def contents (heap : BinaryHeap α) : Multiset α := heap.entries.toList

theorem card_contents (heap : BinaryHeap α) : heap.contents.card = heap.size := by
  simp [contents]

theorem peek?_eq_none_iff {heap : BinaryHeap α} : heap.peek? = none ↔ heap.contents = 0 := by
  rw [← Multiset.card_eq_zero, card_contents, peek?, Vector.getElem?_eq_none_iff, Nat.le_zero]

/-- The entry at the root is a largest one. -/
theorem le_of_peek? [Std.IsLinearPreorder α] {heap : BinaryHeap α} {first : α}
    (hpeek : heap.peek? = some first) :
    first ∈ heap.contents ∧ ∀ entry ∈ heap.contents, entry ≤ first := by
  obtain ⟨hsize, hfirst⟩ := Vector.getElem?_eq_some_iff.1 hpeek
  subst hfirst
  simp only [contents, Multiset.mem_coe, Vector.mem_toList_iff]
  refine ⟨Vector.getElem_mem hsize, ?_⟩
  intro entry hentry
  obtain ⟨place, hplace, hentry⟩ := Vector.mem_iff_getElem.1 hentry
  subst hentry
  exact le_root heap.ordered hplace

variable [Std.IsLinearPreorder α] [DecidableLE α]

theorem contents_push (heap : BinaryHeap α) (entry : α) :
    (heap.push entry).contents = entry ::ₘ heap.contents := by
  have hperm := (rise_perm (heap.entries.push entry) heap.size (Nat.lt_succ_self _)).toList
  rw [contents, contents, Multiset.cons_coe, Multiset.coe_eq_coe]
  refine hperm.trans ?_
  rw [Vector.toList_push]
  exact List.perm_append_singleton _ _

theorem contents_of_pop? {heap rest : BinaryHeap α} {first : α}
    (hpop : heap.pop? = some (first, rest)) : heap.contents = first ::ₘ rest.contents := by
  rw [contents, contents, Multiset.cons_coe, Multiset.coe_eq_coe]
  obtain ⟨_ | _ | n, entries, ordered⟩ := heap
  · cases hpop
  · cases hpop
    obtain ⟨first, hfirst⟩ := List.length_eq_one_iff.1 entries.length_toList
    rw [hfirst, root_eq hfirst]
    rfl
  · cases hpop
    refine (set_root_perm entries).trans ?_
    exact (sink_perm _ _ _).toList.symm.cons _

end Contents
end BinaryHeap
end HeapReplay.Replay
