import HeapReplay.Replay.LiveTable

namespace HeapReplay.Replay.LiveTable

variable {Handle : Type} {table : LiveTable Handle} {id other : RequestId} {handle : Handle}

theorem contains_eq_isSome : table.contains id = (table.get? id).isSome := by
  simp [contains, get?]

theorem contains_eq_false_iff : table.contains id = false ↔ table.get? id = none := by
  simp [contains_eq_isSome]

@[simp] theorem get?_empty : ({} : LiveTable Handle).get? id = none := by
  simp [get?]

theorem insert_of_absent (habsent : table.contains id = false) :
    table.insert id handle = (.ok (),
      { entries := table.entries.insert id handle
        peak := max table.peak (table.entries.insert id handle).size }) := by
  simp [insert, habsent]

theorem get?_insert_self (habsent : table.contains id = false) :
    (table.insert id handle).2.get? id = some handle := by
  simp [insert_of_absent habsent, get?]

theorem get?_insert_of_ne (habsent : table.contains id = false) (hne : other ≠ id) :
    (table.insert id handle).2.get? other = table.get? other := by
  simp [insert_of_absent habsent, get?, Std.HashMap.getElem?_insert, Ne.symm hne]

theorem size_insert (habsent : table.contains id = false) :
    (table.insert id handle).2.size = table.size + 1 := by
  have hkey : id ∉ table.entries := by simpa [contains] using habsent
  simp [insert_of_absent habsent, size, Std.HashMap.size_insert, hkey]

theorem peak_insert (habsent : table.contains id = false) :
    (table.insert id handle).2.peak = max table.peak (table.size + 1) := by
  have hsize : (table.insert id handle).2.size = table.size + 1 := size_insert habsent
  rw [← hsize, insert_of_absent habsent]
  rfl

@[simp] theorem get?_erase_self : (table.erase id).get? id = none := by
  simp [erase, get?]

theorem get?_erase_of_ne (hne : other ≠ id) : (table.erase id).get? other = table.get? other := by
  simp [erase, get?, Std.HashMap.getElem?_erase, Ne.symm hne]

/-- A table is empty exactly when no request is live. -/
theorem size_eq_zero_iff : table.size = 0 ↔ ∀ id, table.get? id = none := by
  have hempty : table.size = 0 ↔ table.entries.isEmpty = true := by
    rw [Std.HashMap.isEmpty_eq_size_eq_zero, beq_iff_eq, size]
  rw [hempty, Std.HashMap.isEmpty_iff_forall_contains]
  exact forall_congr' fun id => contains_eq_false_iff

theorem size_erase (hlive : table.get? id = some handle) :
    (table.erase id).size + 1 = table.size := by
  have hkey : id ∈ table.entries := by
    rw [← Std.HashMap.contains_iff_mem]
    exact contains_eq_isSome.trans (Option.isSome_iff_exists.2 ⟨handle, hlive⟩)
  have hpos : table.size ≠ 0 := by
    intro hzero
    rw [size_eq_zero_iff.1 hzero id] at hlive
    cases hlive
  simp only [size] at hpos
  simp only [erase, size, Std.HashMap.size_erase, if_pos hkey]
  omega

/-- Tables with the same handles and the same peak, in whatever order they were filled. -/
structure Alike (table twin : LiveTable Handle) : Prop where
  get?_eq : ∀ id, table.get? id = twin.get? id
  peak_eq : table.peak = twin.peak

namespace Alike

variable {twin : LiveTable Handle}

theorem refl (table : LiveTable Handle) : Alike table table := ⟨fun _ => rfl, rfl⟩

theorem contains_eq (halike : Alike table twin) (id : RequestId) :
    table.contains id = twin.contains id := by
  rw [contains_eq_isSome, contains_eq_isSome, halike.get?_eq]

theorem size_eq (halike : Alike table twin) : table.size = twin.size :=
  (Std.HashMap.Equiv.of_forall_getElem?_eq halike.get?_eq).size_eq

theorem insert (halike : Alike table twin) (id : RequestId) (handle : Handle) :
    (table.insert id handle).1 = (twin.insert id handle).1 ∧
      Alike (table.insert id handle).2 (twin.insert id handle).2 := by
  cases hlive : twin.contains id with
  | true =>
    have hsame : table.contains id = true := (halike.contains_eq id).trans hlive
    simp only [LiveTable.insert, hlive, hsame, if_true]
    exact ⟨trivial, halike⟩
  | false =>
    have habsent : table.contains id = false := (halike.contains_eq id).trans hlive
    have hget (other : RequestId) :
        (table.insert id handle).2.get? other = (twin.insert id handle).2.get? other := by
      by_cases hother : other = id
      · rw [hother, get?_insert_self habsent, get?_insert_self hlive]
      · rw [get?_insert_of_ne habsent hother, get?_insert_of_ne hlive hother, halike.get?_eq]
    have hpeak : (table.insert id handle).2.peak = (twin.insert id handle).2.peak := by
      rw [peak_insert habsent, peak_insert hlive, halike.peak_eq, halike.size_eq]
    refine ⟨?_, hget, hpeak⟩
    rw [insert_of_absent habsent, insert_of_absent hlive]

/-- The order in which two requests come in leaves no trace. -/
theorem insert_comm (hid : table.contains id = false) (hother : table.contains other = false)
    (hne : id ≠ other) (first second : Handle) :
    Alike ((table.insert id first).2.insert other second).2
      ((table.insert other second).2.insert id first).2 := by
  have hsecond : (table.insert id first).2.contains other = false := by
    rwa [contains_eq_isSome, get?_insert_of_ne hid hne.symm, ← contains_eq_isSome]
  have hfirst : (table.insert other second).2.contains id = false := by
    rwa [contains_eq_isSome, get?_insert_of_ne hother hne, ← contains_eq_isSome]
  constructor
  · intro asked
    by_cases hasked : asked = id
    · subst hasked
      rw [get?_insert_self hfirst, get?_insert_of_ne hsecond hne, get?_insert_self hid]
    · rw [get?_insert_of_ne hfirst hasked]
      by_cases hlast : asked = other
      · subst hlast
        rw [get?_insert_self hsecond, get?_insert_self hother]
      · rw [get?_insert_of_ne hsecond hlast, get?_insert_of_ne hid hasked,
          get?_insert_of_ne hother hlast]
  · rw [peak_insert hsecond, peak_insert hfirst, peak_insert hid, peak_insert hother,
      size_insert hid, size_insert hother]

theorem erase (halike : Alike table twin) (id : RequestId) :
    Alike (table.erase id) (twin.erase id) := by
  refine ⟨?_, halike.peak_eq⟩
  intro other
  by_cases hother : other = id
  · rw [hother, get?_erase_self, get?_erase_self]
  · rw [get?_erase_of_ne hother, get?_erase_of_ne hother, halike.get?_eq]

end Alike
end HeapReplay.Replay.LiveTable
