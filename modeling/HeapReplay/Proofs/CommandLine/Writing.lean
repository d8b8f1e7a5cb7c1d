import HeapReplay.Proofs.CommandLine.Lookup
import HeapReplay.Proofs.CommandLine.Sparing

namespace HeapReplay.CommandLine

theorem length_writeOver (offset : Nat) (new old : List UInt8) :
    (writeOver offset new old).length = max old.length (offset + new.length) := by
  simp [writeOver]
  omega

namespace Machine

open Entry

section Log

variable {machine : Machine} {path : String}

/-- A file in place of a file leaves the shape of a machine. -/
theorem sameShape_of_put {after : Machine} {names : List String} {old content : List UInt8}
    (hold : machine.root.find? names = .ok (.file old))
    (hroot : after.root = put (.file content) names machine.root)
    (hworking : after.working = machine.working) : SameShape machine after where
  kinds others := by rw [hroot, kindAt_put hold]
  working := hworking.symm

/-- Text for the log goes to the file of the log, and nowhere else. -/
theorem writeLog_cases (machine : Machine) (text : List UInt8) :
    machine.writeLog text = machine ∨
      ∃ log old, machine.log = some log ∧ machine.root.find? log.names = .ok (.file old) ∧
        machine.writeLog text =
          { machine with
            root := put (.file (writeOver log.written text old)) log.names machine.root
            log := some { log with written := log.written + text.length } } := by
  unfold writeLog
  cases hlog : machine.log with
  | none => exact .inl rfl
  | some log =>
    cases hfound : machine.root.find? log.names with
    | error error => exact .inl (by simp [hfound])
    | ok entry =>
      cases entry with
      | file old => exact .inr ⟨log, old, rfl, hfound, by simp [hfound]⟩
      | folder entries isFixed => exact .inl (by simp [hfound])
      | device content outlet => exact .inl (by simp [hfound])

theorem sameShape_writeLog (machine : Machine) (text : List UInt8) :
    SameShape machine (machine.writeLog text) := by
  obtain hsame | ⟨log, old, -, hold, hwritten⟩ := machine.writeLog_cases text
  · rw [hsame]
    exact .refl machine
  · exact sameShape_of_put hold (by rw [hwritten]) (by rw [hwritten])

theorem writeLog_printed (machine : Machine) (text : List UInt8) :
    (machine.writeLog text).printed = machine.printed := by
  obtain hsame | ⟨log, old, -, -, hwritten⟩ := machine.writeLog_cases text
  · rw [hsame]
  · rw [hwritten]

theorem writeLog_names (machine : Machine) (text : List UInt8) :
    (machine.writeLog text).log.map OpenLog.names = machine.log.map OpenLog.names := by
  obtain hsame | ⟨log, old, hlog, -, hwritten⟩ := machine.writeLog_cases text
  · rw [hsame]
  · rw [hwritten, hlog, Option.map_some, Option.map_some]

end Log

/-- Whatever a path leads to on one machine, it leads to on a later one, and a path that
    led nowhere leads nowhere still. A file has kept its content. Only the file of
    the log may have changed, and is not shorter. -/
structure Spared (before after : Machine) (path : String) : Prop where
  missing : ∀ error, before.locate path = .error error → after.locate path = .error error
  kept : ∀ names content, before.locate path = .ok (names, .file content) →
    ∃ later, after.locate path = .ok (names, .file later) ∧ content.length ≤ later.length ∧
      ((∀ log, before.log = some log → log.names ≠ names) → later = content)

theorem Spared.refl (machine : Machine) (path : String) : Spared machine machine path where
  missing _ hmissing := hmissing
  kept _ content hlocate := ⟨content, hlocate, Nat.le_refl _, fun _ => rfl⟩

theorem Spared.trans {before between after : Machine} {path : String}
    (hfirst : Spared before between path) (hsecond : Spared between after path)
    (hlog : between.log.map OpenLog.names = before.log.map OpenLog.names) :
    Spared before after path where
  missing error hmissing := hsecond.missing error (hfirst.missing error hmissing)
  kept names content hlocate := by
    obtain ⟨later, hlater, hlength, hsame⟩ := hfirst.kept names content hlocate
    obtain ⟨last, hlast, hlonger, hstill⟩ := hsecond.kept names later hlater
    refine ⟨last, hlast, Nat.le_trans hlength hlonger, ?_⟩
    intro hother
    refine (hstill ?_).trans (hsame hother)
    intro log hopen hnames
    rw [hopen, Option.map_some] at hlog
    obtain ⟨first, hfirst, hsame⟩ := Option.map_eq_some_iff.1 hlog.symm
    exact hother first hfirst (hsame.trans hnames)

/-- Text for the log spares every path. -/
theorem spared_writeLog (machine : Machine) (text : List UInt8) (path : String) :
    Spared machine (machine.writeLog text) path where
  missing error hmissing := by
    rw [← resolve_eq_error] at hmissing ⊢
    rw [← (machine.sameShape_writeLog text).resolve, hmissing]
  kept names content hlocate := by
    have hresolve : (machine.writeLog text).resolve path = .ok (names, .file) := by
      rw [← (machine.sameShape_writeLog text).resolve]
      exact resolve_eq_ok.mpr ⟨_, hlocate, rfl⟩
    obtain ⟨entry, hentry, hkind⟩ := resolve_eq_ok.mp hresolve
    obtain ⟨later, rfl⟩ := kind_eq_file.mp hkind
    have hbefore := find?_of_locate hlocate
    have hafter := find?_of_locate hentry
    refine ⟨later, hentry, ?_⟩
    obtain hsame | ⟨log, old, hlog, hold, hwritten⟩ := machine.writeLog_cases text
    · rw [hsame, hbefore] at hafter
      cases hafter
      exact ⟨Nat.le_refl _, fun _ => rfl⟩
    · rw [hwritten] at hafter
      by_cases hnames : names = log.names
      · subst hnames
        rw [find?_put_self hold] at hafter
        rw [hold] at hbefore
        cases hafter
        cases hbefore
        refine ⟨?_, fun hother => absurd rfl (hother log hlog)⟩
        rw [length_writeOver]
        exact Nat.le_max_left _ _
      · rw [find?_put_of_ne hold hnames hbefore] at hafter
        cases hafter
        exact ⟨Nat.le_refl _, fun _ => rfl⟩

section Create

variable {machine : Machine} {path : Path} {around : List String} {name : String}

/-- The place around a path is a folder. -/
theorem kindAt_placeAround (haround : machine.placeAround path = .ok around) :
    ∃ isFixed, machine.root.kindAt around.reverse = .ok (.folder isFixed) := by
  rw [placeAround_eq] at haround
  obtain ⟨place, -, haround⟩ := bind_eq_ok.mp haround
  obtain ⟨k, hkind, haround⟩ := bind_eq_ok.mp haround
  cases k with
  | folder isFixed =>
    cases haround
    exact ⟨isFixed, hkind⟩
  | file => cases haround
  | device content outlet => cases haround

/-- A step to a name, for which a folder is searched. -/
theorem step_name {isFixed : Bool} (hname : Path.isDots name = false)
    (hfolder : machine.root.kindAt around.reverse = .ok (.folder isFixed)) :
    machine.step around name =
      if Path.nameLimit < name.utf8ByteSize then .error .nameTooLong
      else machine.root.kindAt (name :: around).reverse >>= fun _ => .ok (name :: around) := by
  obtain ⟨hdot, hdots⟩ : name ≠ "." ∧ name ≠ ".." := by simpa [Path.isDots] using hname
  rw [step_eq, hfolder]
  simp only [bind, Except.bind, Kind.isFolder, if_true, hdot, hdots, if_false]

/-- What there is under a name in a folder. -/
theorem seek_eq {isFixed : Bool} (hname : Path.isDots name = false)
    (hfolder : machine.root.kindAt around.reverse = .ok (.folder isFixed)) :
    ((machine.step around name).bind fun _ => machine.root.find? (name :: around).reverse) =
      if Path.nameLimit < name.utf8ByteSize then .error .nameTooLong
      else machine.root.find? (name :: around).reverse := by
  rw [step_name hname hfolder]
  split
  · rfl
  · cases hentry : machine.root.find? (name :: around).reverse with
    | error error => rw [kindAt_eq_error.mpr hentry]; rfl
    | ok entry => rw [kindAt_of_find? hentry]; rfl

/-- A path leads to what there is under its name. -/
theorem resolve_of_kindAt {text : String} {k : Kind} (hpath : Path.ofString text = .ok path)
    (haround : machine.placeAround path = .ok around) (hlast : path.last = some name)
    (hname : Path.isDots name = false) (hslash : path.endsInSlash = false)
    (hfits : ¬ Path.nameLimit < name.utf8ByteSize)
    (hkind : machine.root.kindAt (name :: around).reverse = .ok k) :
    machine.resolve text = .ok ((name :: around).reverse, k) := by
  obtain ⟨isFixed, hfolder⟩ := kindAt_placeAround haround
  rw [resolve_eq, hpath]
  simp only [bind, Except.bind, haround, hlast, step_name hname hfolder, hfits, if_false, hkind,
    arrive, hslash, Bool.false_and, Bool.false_eq_true]

theorem addEntry_eq (around : List String) (name : String) (entry : Entry) :
    machine.addEntry around name entry =
      machine.root.kindAt around.reverse >>= fun there =>
        if there = .folder true then .error .missing
        else .ok { machine with root := put entry (name :: around).reverse machine.root } := by
  unfold addEntry
  cases haround : machine.root.find? around.reverse with
  | error error => rw [kindAt_eq_error.mpr haround]; rfl
  | ok there =>
    rw [kindAt_of_find? haround]
    cases there with
    | file content => rfl
    | device content outlet => rfl
    | folder entries isFixed => cases isFixed <;> rfl

/-- In a folder that is not fixed, a file can be put where nothing was. -/
theorem addEntry_eq_ok {isFixed : Bool} {entry : Entry} {after : Machine}
    (hfolder : machine.root.kindAt around.reverse = .ok (.folder isFixed))
    (hmissing : machine.root.find? (name :: around).reverse = .error .missing)
    (hadd : machine.addEntry around name entry = .ok after) :
    Within machine after ∧ after.root.kindAt (name :: around).reverse = .ok entry.kind := by
  obtain ⟨there, hthere, hkind⟩ := kindAt_eq_ok.mp hfolder
  obtain ⟨entries, rfl⟩ := kind_eq_folder.mp hkind
  rw [List.reverse_cons] at hmissing ⊢
  have hnew : entries.lookup name = none := by
    rw [find?_concat hthere] at hmissing
    cases hlookup : entries.lookup name with
    | none => rfl
    | some found => simp [hlookup] at hmissing
  rw [addEntry_eq] at hadd
  obtain ⟨there, -, hadd⟩ := bind_eq_ok.mp hadd
  split at hadd
  · cases hadd
  · cases hadd
    rw [List.reverse_cons]
    exact ⟨⟨fun _ _ hkind => kindAt_put_new hthere hnew hkind, rfl⟩,
      kindAt_of_find? (find?_put_new hthere)⟩

/-- A path at which a file was created leads to a file, or to the device that was there. -/
theorem resolve_of_createFile {text : String} {after : Machine}
    (hcreate : machine.createFile text = .ok after) :
    ∃ names k, after.resolve text = .ok (names, k) ∧
      (k = .file ∨ after = machine ∧ ∃ content outlet, k = .device content outlet) := by
  obtain ⟨path, hpath, hcreate⟩ := bind_eq_ok.mp hcreate
  obtain ⟨around, haround, hcreate⟩ := bind_eq_ok.mp hcreate
  cases hlast : path.last with
  | none => simp [hlast] at hcreate
  | some name =>
    simp only [hlast] at hcreate
    split at hcreate
    · cases hcreate
    next hname =>
    obtain ⟨hdots, hslash⟩ := Bool.or_eq_false_iff.mp (Bool.eq_false_iff.mpr hname)
    obtain ⟨isFixed, hfolder⟩ := kindAt_placeAround haround
    rw [createIn, seek_eq hdots hfolder] at hcreate
    by_cases hlong : Path.nameLimit < name.utf8ByteSize
    · rw [if_pos hlong] at hcreate
      cases hcreate
    rw [if_neg hlong] at hcreate
    have hresolve (on : Machine) (haround : on.placeAround path = .ok around) {k : Kind}
        (hkind : on.root.kindAt (name :: around).reverse = .ok k) :
        on.resolve text = .ok ((name :: around).reverse, k) :=
      resolve_of_kindAt hpath haround hlast hdots hslash hlong hkind
    refine ⟨(name :: around).reverse, ?_⟩
    split at hcreate
    · cases hcreate
    · next content outlet hdevice =>
      cases hcreate
      exact ⟨_, hresolve _ haround (kindAt_of_find? hdevice), .inr ⟨rfl, content, outlet, rfl⟩⟩
    · next old hfile =>
      have hshape : SameShape machine
          { machine with root := put (.file []) (name :: around).reverse machine.root } :=
        sameShape_of_put hfile rfl rfl
      cases hcreate
      exact ⟨.file, (hshape.resolve text).symm.trans (hresolve _ haround (kindAt_of_find? hfile)),
        .inl rfl⟩
    · next hmissing =>
      obtain ⟨hwithin, hkind⟩ := addEntry_eq_ok hfolder hmissing hcreate
      exact ⟨.file, hresolve _ (hwithin.placeAround haround) hkind, .inl rfl⟩
    · cases hcreate

end Create

section Overwrite

variable {machine : Machine} {path : String} {names : List String}

/-- A file can be written to, and so can a device that is not full. -/
theorem overwriteFile_ok {k : Kind} (hresolve : machine.resolve path = .ok (names, k))
    (hkind : k = .file ∨ ∃ content outlet, k = .device content outlet ∧ outlet ≠ .full)
    (content : List UInt8) : ∃ after, machine.overwriteFile path content = .ok after := by
  obtain ⟨entry, hlocate, rfl⟩ := resolve_eq_ok.mp hresolve
  obtain hfile | ⟨held, outlet, hdevice, hroom⟩ := hkind
  · obtain ⟨old, rfl⟩ := kind_eq_file.mp hfile
    simp [overwriteFile, hlocate, bind, Except.bind]
  · rw [kind_eq_device.mp hdevice] at hlocate
    cases outlet with
    | full => contradiction
    | swallow => simp [overwriteFile, hlocate, bind, Except.bind]
    | print => simp [overwriteFile, hlocate, bind, Except.bind]

/-- What there is at a path is a device for which there is no room. -/
def IsFull (machine : Machine) (path : String) : Prop :=
  ∃ names content, machine.locate path = .ok (names, .device content .full)

theorem isFull_iff : machine.IsFull path ↔
    ∃ names content, machine.resolve path = .ok (names, .device content .full) := by
  unfold IsFull
  simp only [resolve_eq_ok, kind_eq_device, exists_eq_right]

theorem SameShape.isFull_iff {a b : Machine} (h : SameShape a b) :
    a.IsFull path ↔ b.IsFull path := by
  rw [Machine.isFull_iff, Machine.isFull_iff, h.resolve]

/-- A file that has been created can be written to as long as the shape of the machine
    stays, unless a device that is full was in its place. -/
theorem overwriteFile_of_createFile {created later : Machine}
    (hcreate : machine.createFile path = .ok created) (hroom : ¬ machine.IsFull path)
    (hshape : SameShape created later) (content : List UInt8) :
    ∃ written, later.overwriteFile path content = .ok written := by
  obtain ⟨names, k, hresolve, hkind⟩ := resolve_of_createFile hcreate
  refine overwriteFile_ok ((hshape.resolve path).symm.trans hresolve) ?_ content
  obtain hfile | ⟨rfl, held, outlet, rfl⟩ := hkind
  · exact .inl hfile
  · refine .inr ⟨held, outlet, rfl, ?_⟩
    rintro rfl
    exact hroom (isFull_iff.mpr ⟨names, held, hresolve⟩)

end Overwrite

section Promises

/-- Every path is spared, and nothing has been printed. The log is still the same file. -/
structure Kept (before after : Machine) : Prop where
  printed : after.printed = before.printed
  log : after.log.map OpenLog.names = before.log.map OpenLog.names
  spared : ∀ path, Spared before after path

theorem Kept.refl (machine : Machine) : Kept machine machine := ⟨rfl, rfl, Spared.refl machine⟩

theorem Kept.trans {before between after : Machine} (hfirst : Kept before between)
    (hsecond : Kept between after) : Kept before after where
  printed := hsecond.printed.trans hfirst.printed
  log := hsecond.log.trans hfirst.log
  spared path := (hfirst.spared path).trans (hsecond.spared path) hfirst.log

variable (input : List UInt8) (seed : UInt64) (now : Moment) (origin : Note → String)

/-- A machine keeps all files when it is only read, when it writes to its log, and when it fails
    to create a file. -/
theorem sparing_host : (host input seed now origin).Sparing Kept where
  refl := .refl
  trans := .trans
  readInput := .refl
  readFile _ := .refl
  createFile path machine error hfail := by
    simp only [host, attempt] at hfail ⊢
    cases hcreate : machine.createFile path with
    | ok created =>
      rw [hcreate] at hfail
      cases hfail
    | error error => exact .refl machine
  writeLog text machine :=
    ⟨machine.writeLog_printed _, machine.writeLog_names _, machine.spared_writeLog _⟩
  drawSeed := .refl
  now := .refl

theorem sameShape_loadRecords (machine : Machine) (trace : Option String) :
    SameShape machine (runOn machine (loadRecords (host input seed now origin) trace)).2 := by
  have hread : ((host input seed now origin).readTrace trace machine).2 = machine := by
    cases trace <;> rfl
  rw [runOn_loadRecords, hread]
  split
  · exact machine.sameShape_writeLog _
  · exact .refl machine

/-- When the records have been read, a path can be written to once a file has been created
    there, unless a full device was in its place. -/
theorem writable_host {machine : Machine} {path : String} (hroom : ¬ machine.IsFull path)
    (trace : Option String) :
    (host input seed now origin).Writable
      (runOn machine (loadRecords (host input seed now origin) trace)).2 path := by
  have hshape := sameShape_loadRecords input seed now origin machine trace
  generalize (runOn machine (loadRecords (host input seed now origin) trace)).2 = read at hshape ⊢
  intro hcreated note content
  simp only [host, attempt] at hcreated
  cases hcreate : read.createFile path with
  | error error =>
    rw [hcreate] at hcreated
    cases hcreated
  | ok created =>
    let text := (note.line (origin note) now).toUTF8.toList
    have hnoted : ((host input seed now origin).note note
        ((host input seed now origin).createFile path read).2).2 = created.writeLog text := by
      simp only [host, attempt, hcreate]
      rfl
    obtain ⟨written, hwritten⟩ := overwriteFile_of_createFile hcreate
      (fun hfull => hroom (hshape.isFull_iff.2 hfull)) (created.sameShape_writeLog text) content
    rw [hnoted]
    simp only [host, attempt, hwritten]

end Promises
end Machine
end HeapReplay.CommandLine
