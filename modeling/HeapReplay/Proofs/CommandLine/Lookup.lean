import HeapReplay.Proofs.CommandLine.Tree

namespace HeapReplay.CommandLine.Machine

open Entry

/-- The names that a path leads along, and what is there. -/
def resolve (machine : Machine) (path : String) : Except FileError (List String × Kind) :=
  (machine.locate path).map fun (names, entry) => (names, entry.kind)

section Kinds

variable (machine : Machine)

/-- Where a step leads depends on what there is, and not on what files hold. -/
theorem step_eq (place : List String) (part : String) :
    machine.step place part =
      machine.root.kindAt place.reverse >>= fun around =>
        if around.isFolder then
          if part = "." then .ok place
          else if part = ".." then .ok place.tail
          else if Path.nameLimit < part.utf8ByteSize then .error .nameTooLong
          else machine.root.kindAt (part :: place).reverse >>= fun _ => .ok (part :: place)
        else .error .notFolder := by
  unfold step
  cases haround : machine.root.find? place.reverse with
  | error error => rw [kindAt_eq_error.mpr haround]; rfl
  | ok around =>
    rw [kindAt_of_find? haround]
    cases around with
    | file content => rfl
    | device content outlet => rfl
    | folder entries isFixed =>
      have hfurther := find?_concat haround part
      cases hpart : entries.lookup part with
      | none =>
        rw [hpart] at hfurther
        simp [bind, Except.bind, kind, Kind.isFolder, hpart, kindAt_eq_error.mpr hfurther]
      | some entry =>
        rw [hpart] at hfurther
        simp [bind, Except.bind, kind, Kind.isFolder, hpart, kindAt_of_find? hfurther]

theorem placeAround_eq (path : Path) :
    machine.placeAround path =
      path.around.foldlM machine.step (if path.isAbsolute then [] else machine.working.reverse) >>=
        fun place => machine.root.kindAt place.reverse >>= fun around =>
          if around.isFolder then .ok place else .error .notFolder := by
  refine congrArg (Bind.bind _) (funext fun place => ?_)
  cases haround : machine.root.find? place.reverse with
  | error error => rw [kindAt_eq_error.mpr haround]; rfl
  | ok around => rw [kindAt_of_find? haround]; simp [bind, Except.bind]

/-- The entry at a place. A slash behind a path demands a folder. -/
def enter (path : Path) (place : List String) : Except FileError (List String × Entry) :=
  machine.root.find? place.reverse >>= fun entry =>
    if path.endsInSlash && !entry.isFolder then .error .notFolder else .ok (place.reverse, entry)

/-- What there is at a place. -/
def arrive (path : Path) (place : List String) : Except FileError (List String × Kind) :=
  machine.root.kindAt place.reverse >>= fun found =>
    if path.endsInSlash && !found.isFolder then .error .notFolder else .ok (place.reverse, found)

theorem map_enter (path : Path) (place : List String) :
    (machine.enter path place).map (fun (names, entry) => (names, entry.kind)) =
      machine.arrive path place := by
  unfold enter arrive
  cases hentry : machine.root.find? place.reverse with
  | error error => rw [kindAt_eq_error.mpr hentry]; rfl
  | ok entry =>
    rw [kindAt_of_find? hentry]
    simp only [bind, Except.bind, kind_isFolder]
    split <;> rfl

theorem locate_eq (path : String) :
    machine.locate path =
      Path.ofString path >>= fun path => machine.placeAround path >>= fun around =>
        match path.last with
        | none => machine.enter path around
        | some part => machine.step around part >>= machine.enter path := by
  refine congrArg (Bind.bind _) (funext fun path => ?_)
  refine congrArg (Bind.bind _) (funext fun around => ?_)
  cases path.last <;> rfl

theorem resolve_eq (path : String) :
    machine.resolve path =
      Path.ofString path >>= fun path => machine.placeAround path >>= fun around =>
        match path.last with
        | none => machine.arrive path around
        | some part => machine.step around part >>= machine.arrive path := by
  rw [resolve, locate_eq]
  cases Path.ofString path with
  | error error => rfl
  | ok path =>
    simp only [bind, Except.bind]
    cases machine.placeAround path with
    | error error => rfl
    | ok around =>
      cases path.last with
      | none => exact machine.map_enter path around
      | some part =>
        simp only
        cases machine.step around part with
        | error error => rfl
        | ok place => exact machine.map_enter path place

end Kinds

section Locate

variable {machine : Machine} {path : String} {names : List String}

theorem find?_of_enter {path : Path} {place : List String} {entry : Entry}
    (henter : machine.enter path place = .ok (names, entry)) :
    machine.root.find? names = .ok entry := by
  obtain ⟨found, hfound, hresult⟩ := bind_eq_ok.mp henter
  split at hresult
  · cases hresult
  · cases hresult
    exact hfound

/-- What is at a path is what its names lead to. -/
theorem find?_of_locate {entry : Entry} (hlocate : machine.locate path = .ok (names, entry)) :
    machine.root.find? names = .ok entry := by
  rw [locate_eq] at hlocate
  obtain ⟨path, -, hlocate⟩ := bind_eq_ok.mp hlocate
  obtain ⟨around, -, hlocate⟩ := bind_eq_ok.mp hlocate
  cases hlast : path.last with
  | none =>
    rw [hlast] at hlocate
    exact find?_of_enter hlocate
  | some part =>
    rw [hlast] at hlocate
    obtain ⟨place, -, henter⟩ := bind_eq_ok.mp hlocate
    exact find?_of_enter henter

theorem resolve_eq_ok {k : Kind} :
    machine.resolve path = .ok (names, k) ↔
      ∃ entry, machine.locate path = .ok (names, entry) ∧ entry.kind = k := by
  cases hlocate : machine.locate path with
  | error error => simp [resolve, hlocate, Except.map]
  | ok found =>
    obtain ⟨there, entry⟩ := found
    simp only [resolve, hlocate, Except.map, Except.ok.injEq, Prod.mk.injEq]
    constructor
    · rintro ⟨rfl, rfl⟩
      exact ⟨entry, ⟨rfl, rfl⟩, rfl⟩
    · rintro ⟨_, ⟨rfl, rfl⟩, hkind⟩
      exact ⟨rfl, hkind⟩

theorem resolve_eq_error {error : FileError} :
    machine.resolve path = .error error ↔ machine.locate path = .error error := by
  cases hlocate : machine.locate path <;> simp [resolve, hlocate, Except.map]

end Locate

/-- On two machines every path leads alike: what there is is of the same kind. -/
structure SameShape (a b : Machine) : Prop where
  kinds : ∀ names, a.root.kindAt names = b.root.kindAt names
  working : a.working = b.working

/-- What there is on a machine is of the same kind on another. -/
structure Within (a b : Machine) : Prop where
  kinds : ∀ names k, a.root.kindAt names = .ok k → b.root.kindAt names = .ok k
  working : a.working = b.working

namespace SameShape

variable {a b : Machine}

theorem refl (a : Machine) : SameShape a a := ⟨fun _ => rfl, rfl⟩

theorem step (h : SameShape a b) : a.step = b.step := by
  funext place part
  simp only [step_eq, h.kinds]

theorem placeAround (h : SameShape a b) (path : Path) :
    a.placeAround path = b.placeAround path := by
  simp only [placeAround_eq, h.step, h.kinds, h.working]

theorem arrive (h : SameShape a b) (path : Path) : a.arrive path = b.arrive path := by
  funext place
  simp only [Machine.arrive, h.kinds]

/-- Every path leads along the same names to the same kind of entry, or fails alike. -/
theorem resolve (h : SameShape a b) (path : String) : a.resolve path = b.resolve path := by
  simp only [resolve_eq, h.arrive, h.placeAround, h.step]

end SameShape

namespace Within

variable {a b : Machine}

theorem step (h : Within a b) {place next : List String} {part : String}
    (hstep : a.step place part = .ok next) : b.step place part = .ok next := by
  rw [step_eq] at hstep ⊢
  obtain ⟨around, haround, hnext⟩ := bind_eq_ok.mp hstep
  refine bind_eq_ok.mpr ⟨around, h.kinds _ _ haround, ?_⟩
  cases hthere : a.root.kindAt (part :: place).reverse with
  | ok there =>
    rw [hthere] at hnext
    rwa [h.kinds _ _ hthere]
  | error error =>
    -- Where there is nothing under the name, only dots lead anywhere.
    rw [hthere] at hnext
    split at hnext
    · next hfolder =>
      rw [if_pos hfolder]
      split at hnext
      · next hdot => rwa [if_pos hdot]
      · next hdot =>
        rw [if_neg hdot]
        split at hnext
        · next hdots => rwa [if_pos hdots]
        · split at hnext <;> cases hnext
    · cases hnext

theorem walk (h : Within a b) {parts place next : List String}
    (hwalk : parts.foldlM a.step place = .ok next) : parts.foldlM b.step place = .ok next := by
  induction parts generalizing place with
  | nil => exact hwalk
  | cons part parts ih =>
    rw [List.foldlM_cons] at hwalk ⊢
    obtain ⟨between, hstep, hrest⟩ := bind_eq_ok.mp hwalk
    exact bind_eq_ok.mpr ⟨between, h.step hstep, ih hrest⟩

theorem placeAround (h : Within a b) {path : Path} {place : List String}
    (hplace : a.placeAround path = .ok place) : b.placeAround path = .ok place := by
  rw [placeAround_eq] at hplace ⊢
  obtain ⟨there, hwalk, hplace⟩ := bind_eq_ok.mp hplace
  obtain ⟨around, haround, hplace⟩ := bind_eq_ok.mp hplace
  rw [← h.working]
  exact bind_eq_ok.mpr ⟨there, h.walk hwalk, bind_eq_ok.mpr ⟨around, h.kinds _ _ haround, hplace⟩⟩

end Within
end HeapReplay.CommandLine.Machine
