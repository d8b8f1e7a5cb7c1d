import HeapReplay.CommandLine.Machine
import HeapReplay.Proofs.Except

namespace HeapReplay.CommandLine.Entry

/-- What an entry is, whatever a file holds and whatever a folder contains. -/
inductive Kind where
  | file
  | folder (isFixed : Bool)
  | device (content : List UInt8) (outlet : Outlet)
  deriving DecidableEq, Repr

def kind : Entry → Kind
  | .file _ => .file
  | .folder _ isFixed => .folder isFixed
  | .device content outlet => .device content outlet

def Kind.isFolder : Kind → Bool
  | .folder _ => true
  | _ => false

/-- What names lead to. -/
def kindAt (root : Entry) (names : List String) : Except FileError Kind :=
  (root.find? names).map kind

theorem kind_eq_file {entry : Entry} : entry.kind = .file ↔ ∃ content, entry = .file content := by
  cases entry <;> simp [kind]

theorem kind_eq_folder {entry : Entry} {isFixed : Bool} :
    entry.kind = .folder isFixed ↔ ∃ entries, entry = .folder entries isFixed := by
  cases entry <;> simp [kind]

theorem kind_eq_device {entry : Entry} {content : List UInt8} {outlet : Outlet} :
    entry.kind = .device content outlet ↔ entry = .device content outlet := by
  cases entry <;> simp [kind]

@[simp] theorem kind_isFolder (entry : Entry) : entry.kind.isFolder = entry.isFolder := by
  cases entry <;> rfl

theorem kindAt_of_find? {root entry : Entry} {names : List String}
    (hentry : root.find? names = .ok entry) : root.kindAt names = .ok entry.kind := by
  simp [kindAt, hentry, Except.map]

theorem kindAt_eq_ok {root : Entry} {names : List String} {k : Kind} :
    root.kindAt names = .ok k ↔ ∃ entry, root.find? names = .ok entry ∧ entry.kind = k := by
  cases hentry : root.find? names <;> simp [kindAt, hentry, Except.map]

theorem kindAt_eq_error {root : Entry} {names : List String} {error : FileError} :
    root.kindAt names = .error error ↔ root.find? names = .error error := by
  cases hentry : root.find? names <;> simp [kindAt, hentry, Except.map]

@[simp] theorem find?_nil (root : Entry) : root.find? [] = .ok root := rfl

theorem find?_cons (root : Entry) (name : String) (names : List String) :
    root.find? (name :: names) = root.child? name >>= fun child => child.find? names := rfl

theorem find?_append (root : Entry) (names more : List String) :
    root.find? (names ++ more) = root.find? names >>= fun entry => entry.find? more := by
  induction names generalizing root with
  | nil => rfl
  | cons name names ih =>
    rw [List.cons_append, find?_cons, find?_cons]
    cases root.child? name with
    | error error => rfl
    | ok child => exact ih child

/-- Names lead on through folders only. -/
theorem find?_cons_eq_ok {root entry : Entry} {name : String} {names : List String} :
    root.find? (name :: names) = .ok entry ↔
      ∃ entries isFixed child, root = .folder entries isFixed ∧
        entries.lookup name = some child ∧ child.find? names = .ok entry := by
  cases root with
  | folder entries isFixed =>
    cases hchild : entries.lookup name <;> simp [find?_cons, child?, hchild, bind, Except.bind]
  | file content => simp [find?_cons, child?, bind, Except.bind]
  | device content outlet => simp [find?_cons, child?, bind, Except.bind]

/-- One name further, a folder leads to what it holds. -/
theorem find?_concat {root : Entry} {names : List String} {entries : List (String × Entry)}
    {isFixed : Bool} (hfolder : root.find? names = .ok (.folder entries isFixed)) (name : String) :
    root.find? (names ++ [name]) = (entries.lookup name).elim (.error .missing) .ok := by
  rw [find?_append, hfolder]
  cases hchild : entries.lookup name <;> simp [bind, Except.bind, find?_cons, child?, hchild]

section Put

variable {entries : List (String × Entry)} {name other : String}

theorem lookup_filter_ne (hne : other ≠ name) :
    (entries.filter (·.1 != name)).lookup other = entries.lookup other := by
  induction entries with
  | nil => rfl
  | cons head entries ih =>
    obtain ⟨first, entry⟩ := head
    by_cases hfirst : first = name
    · subst hfirst
      simp [List.lookup_cons, beq_false_of_ne hne, ih]
    · simp [List.lookup_cons, hfirst, ih]

theorem find?_under {child : Entry} (hchild : entries.lookup name = some child) (isFixed : Bool)
    (others : List String) :
    (Entry.folder entries isFixed).find? (name :: others) = child.find? others := by
  simp [find?_cons, child?, hchild, bind, Except.bind]

/-- Below the first name, things move as they do in its entry. -/
theorem find?_put_under {child : Entry} (hchild : entries.lookup name = some child)
    (target : Entry) (names others : List String) (isFixed : Bool) :
    (put target (name :: names) (.folder entries isFixed)).find? (name :: others) =
      (put target names child).find? others := by
  simp [put, find?_cons, child?, hchild, bind, Except.bind]

/-- Beside the first name, nothing moves. -/
theorem find?_put_beside (target : Entry) (names others : List String) (isFixed : Bool)
    (hne : other ≠ name) :
    (put target (name :: names) (.folder entries isFixed)).find? (other :: others) =
      (Entry.folder entries isFixed).find? (other :: others) := by
  simp [put, find?_cons, child?, List.lookup_cons, beq_false_of_ne hne, lookup_filter_ne hne]

end Put

section Overwriting

variable {root old target : Entry} {names others : List String} {before content : List UInt8}

/-- An entry stands where it was put in place of another. -/
theorem find?_put_self (hold : root.find? names = .ok old) :
    (put target names root).find? names = .ok target := by
  induction names generalizing root with
  | nil => rfl
  | cons name names ih =>
    obtain ⟨entries, isFixed, child, rfl, hchild, hrest⟩ := find?_cons_eq_ok.mp hold
    rw [find?_put_under hchild]
    exact ih hrest

/-- A file in place of a file leaves all there is what it was. -/
theorem kindAt_put (hold : root.find? names = .ok (.file before)) (others : List String) :
    (put (.file content) names root).kindAt others = root.kindAt others := by
  induction names generalizing root others with
  | nil =>
    cases hold
    cases others <;> rfl
  | cons name names ih =>
    obtain ⟨entries, isFixed, child, rfl, hchild, hrest⟩ := find?_cons_eq_ok.mp hold
    cases others with
    | nil => rfl
    | cons other others =>
      by_cases hname : other = name
      · subst hname
        rw [kindAt, kindAt, find?_put_under hchild, find?_under hchild]
        exact ih hrest others
      · rw [kindAt, kindAt, find?_put_beside _ names others isFixed hname]

/-- A file in place of a file leaves all other files as they were. -/
theorem find?_put_of_ne (hold : root.find? names = .ok (.file before)) (hne : others ≠ names)
    {kept : List UInt8} (hkept : root.find? others = .ok (.file kept)) :
    (put (.file content) names root).find? others = .ok (.file kept) := by
  induction names generalizing root others with
  | nil =>
    cases hold
    cases others with
    | nil => contradiction
    | cons other others => simp [find?_cons_eq_ok] at hkept
  | cons name names ih =>
    obtain ⟨entries, isFixed, child, rfl, hchild, hrest⟩ := find?_cons_eq_ok.mp hold
    cases others with
    | nil => cases hkept
    | cons other others =>
      by_cases hname : other = name
      · subst hname
        rw [find?_under hchild] at hkept
        rw [find?_put_under hchild]
        exact ih hrest (fun h => hne (h ▸ rfl)) hkept
      · rw [find?_put_beside _ names others isFixed hname, hkept]

end Overwriting

section Adding

variable {root target : Entry} {around others : List String} {name : String}
  {entries : List (String × Entry)} {isFixed : Bool}

/-- An entry stands where it was put into a folder. -/
theorem find?_put_new (hfolder : root.find? around = .ok (.folder entries isFixed)) :
    (put target (around ++ [name]) root).find? (around ++ [name]) = .ok target := by
  induction around generalizing root with
  | nil =>
    cases hfolder
    simp [put, find?_cons, child?, bind, Except.bind]
  | cons first around ih =>
    obtain ⟨siblings, fixed, child, rfl, hchild, hrest⟩ := find?_cons_eq_ok.mp hfolder
    rw [List.cons_append, find?_put_under hchild]
    exact ih hrest

/-- What there is stays what it is when an entry is put where nothing was. -/
theorem kindAt_put_new (hfolder : root.find? around = .ok (.folder entries isFixed))
    (hnew : entries.lookup name = none) {k : Kind} (hkind : root.kindAt others = .ok k) :
    (put target (around ++ [name]) root).kindAt others = .ok k := by
  induction around generalizing root others with
  | nil =>
    cases hfolder
    cases others with
    | nil => exact hkind
    | cons other others =>
      have hname : other ≠ name := by
        rintro rfl
        simp [kindAt, find?_cons, child?, hnew, bind, Except.bind, Except.map] at hkind
      rw [List.nil_append, kindAt, find?_put_beside _ [] others isFixed hname]
      exact hkind
  | cons first around ih =>
    obtain ⟨siblings, fixed, child, rfl, hchild, hrest⟩ := find?_cons_eq_ok.mp hfolder
    cases others with
    | nil => exact hkind
    | cons other others =>
      by_cases hname : other = first
      · subst hname
        rw [kindAt, find?_under hchild] at hkind
        rw [List.cons_append, kindAt, find?_put_under hchild]
        exact ih hrest hkind
      · rw [List.cons_append, kindAt, find?_put_beside _ (around ++ [name]) others fixed hname]
        exact hkind

end Adding
end HeapReplay.CommandLine.Entry
