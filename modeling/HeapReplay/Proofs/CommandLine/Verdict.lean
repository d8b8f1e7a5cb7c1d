import HeapReplay.Proofs.CommandLine.Fault
import HeapReplay.Proofs.CommandLine.Sparing
import HeapReplay.Proofs.CommandLine.Writing
import HeapReplay.Proofs.Replay.Faultless
import HeapReplay.Proofs.Simulation.Statistics

namespace HeapReplay

theorem ExtractionSettings.validate_eq_ok {settings : ExtractionSettings} {width : PosWord}
    (haccept : settings.validate = .ok width) :
    settings.histogramBucket ≠ 0 ∧ settings.histogramLimit ≠ 0 := by
  unfold validate at haccept
  split at haccept
  · cases haccept
  · next hbucket =>
    split at haccept
    · cases haccept
    · next hlimit => exact ⟨hbucket, hlimit⟩

theorem ExtractionSettings.validate_eq_error {settings : ExtractionSettings} {error : SettingsError}
    (hreject : settings.validate = .error error) :
    settings.histogramBucket = 0 ∧ error = .zeroBucket ∨
      settings.histogramLimit = 0 ∧ error = .zeroLimit := by
  unfold validate at hreject
  split at hreject
  · next hbucket =>
    cases hreject
    exact .inl ⟨hbucket, rfl⟩
  · split at hreject
    · next hlimit =>
      cases hreject
      exact .inr ⟨hlimit, rfl⟩
    · cases hreject

end HeapReplay

namespace HeapReplay.CommandLine

open Heap HeapReplay.Random Replay Workload

/-- A simulation that has been set up replays without an error, whatever the allocator, as long
    as its samples fit into the address space. -/
theorem replayAgainst_ok {simulation : Simulation} (hmemoized : simulation.Memoized)
    (hfits : simulation.settings.eventCount < Draw.valueLimit) (choice : AllocatorChoice)
    (heapSize : UInt64) :
    ∃ report statistics,
      replayAgainst choice heapSize simulation = some (.ok (report, statistics)) := by
  cases choice with
  | nop =>
    obtain ⟨requests, hworkload⟩ := Simulation.exists_workload hfits
    obtain ⟨_, hids, htimes⟩ := Simulation.workload_fit hworkload
    obtain ⟨report, hresult⟩ := faultless_tally.replay_ok hids htimes {}
      simulation.settings.reportThreshold simulation.historyLimit
    obtain ⟨next, hrun⟩ := hmemoized.exists_run hworkload Tally.allocator {}
    rw [hresult] at hrun
    simp [replayAgainst, hrun, Except.map]
  | firstFit =>
    obtain ⟨report, next, heap, hrun, _, _⟩ := hmemoized.run_heap hfits heapSize
    simp [replayAgainst, hrun, Except.map]

variable {World : Type}

/-- The answer of a command goes by its faults. Without one, the command succeeds.
    Otherwise it complains of a fault of the earliest stage, the same one can mend all
    faults of that stage, and the world is spared. -/
def Settles (faults : Blame → Stage → Complaint → Prop) (Spared : World → World → Prop)
    (before : World) : Except Complaint String × World → Prop
  | (.ok _, _) => ∀ blame stage complaint, ¬ faults blame stage complaint
  | (.error complaint, after) =>
    (∃ blame stage, faults blame stage complaint ∧
      ∀ blame' stage' complaint', faults blame' stage' complaint' →
        stage.rank < stage'.rank ∨ stage = stage' ∧ blame = blame') ∧
      Spared before after

namespace Settles

variable {host : Host (StateM World)} {Spared : World → World → Prop} {opened : World}
  {settings : Settings}

/-- A complaint of a fault that comes first. -/
theorem of_first {faults : Blame → Stage → Complaint → Prop} {blame : Blame} {stage : Stage}
    {complaint : Complaint} {after : World} (hfault : faults blame stage complaint)
    (hfirst : ∀ blame' stage' complaint', faults blame' stage' complaint' →
      stage.rank < stage'.rank ∨ stage = stage' ∧ blame = blame') (hspared : Spared opened after) :
    Settles faults Spared opened (.error complaint, after) :=
  ⟨⟨blame, stage, hfault, hfirst⟩, hspared⟩

/-- A histogram complains of its trace first, and then of its settings. -/
theorem histogram (hsparing : host.Sparing Spared) (options : HistogramOptions) :
    Settles (Fault host opened settings (.histogram options)) Spared opened
      (runOn opened (CommandLine.histogram host settings.extraction options)) := by
  have hspared := hsparing.loadRecords options.trace opened
  rw [runOn_histogram]
  rcases hload : runOn opened (loadRecords host options.trace) with ⟨complaint | records, read⟩
  · rw [hload] at hspared
    obtain ⟨blame, htrace⟩ := runOn_loadRecords_error hload
    refine .of_first (.histogramTrace htrace) ?_ hspared
    intro _ _ _ hother
    cases hother with
    | histogramTrace hother => exact .inr ⟨rfl, htrace.blame_eq hother⟩
    | zeroBucket => exact .inl Nat.zero_lt_one
    | zeroLimit => exact .inl Nat.zero_lt_one
  · rw [hload] at hspared
    cases hsettings : (options.apply settings.extraction).validate with
    | ok width =>
      obtain ⟨hbucket, hlimit⟩ := ExtractionSettings.validate_eq_ok hsettings
      intro _ _ _ hfault
      cases hfault with
      | histogramTrace hfault => exact not_traceFault hload hfault
      | zeroBucket hzero => exact hbucket hzero
      | zeroLimit hzero => exact hlimit hzero
    | error error =>
      have hlast : ∀ blame' stage' complaint',
          Fault host opened settings (.histogram options) blame' stage' complaint' →
            Stage.check.rank < stage'.rank ∨ Stage.check = stage' ∧ Blame.input = blame' := by
        intro _ _ _ hother
        cases hother with
        | histogramTrace hother => exact absurd hother (not_traceFault hload)
        | zeroBucket => exact .inr ⟨rfl, rfl⟩
        | zeroLimit => exact .inr ⟨rfl, rfl⟩
      obtain ⟨hzero, rfl⟩ | ⟨hzero, rfl⟩ := ExtractionSettings.validate_eq_error hsettings
      · exact .of_first (.zeroBucket hzero) hlast hspared
      · exact .of_first (.zeroLimit hzero) hlast hspared

/-- An extraction complains of its trace first, and then of its output. -/
theorem extract (hsparing : host.Sparing Spared) (options : ExtractOptions)
    (hwritable : ∀ path, options.output = some path →
      host.Writable (runOn opened (loadRecords host options.trace)).2 path) :
    Settles (Fault host opened settings (.extract options)) Spared opened
      (runOn opened (CommandLine.extract host settings.extraction options)) := by
  have hspared := hsparing.loadRecords options.trace opened
  rw [runOn_extract]
  rcases hload : runOn opened (loadRecords host options.trace) with ⟨complaint | records, read⟩
  · rw [hload] at hspared
    obtain ⟨blame, htrace⟩ := runOn_loadRecords_error hload
    refine .of_first (.extractTrace htrace) ?_ hspared
    intro _ _ _ hother
    cases hother with
    | extractTrace hother => exact .inr ⟨rfl, htrace.blame_eq hother⟩
    | createOutput => exact .inl Nat.zero_lt_two
  · rw [hload] at hspared hwritable
    cases houtput : options.output with
    | none =>
      intro _ _ _ hfault
      cases hfault with
      | extractTrace hfault => exact not_traceFault hload hfault
      | createOutput hpath => cases houtput.symm.trans hpath
    | some path =>
      have hwrite := hwritable path houtput
      have hfailed := hsparing.createFile path read
      unfold Host.Writable at hwrite
      rcases hcreate : host.createFile path read with ⟨error | ⟨⟩, created⟩
      · rw [hcreate] at hfailed
        simp only [hcreate]
        refine .of_first (.createOutput houtput (by rw [hload, hcreate])) ?_
          (hsparing.trans hspared (hfailed error rfl))
        intro _ _ _ hother
        cases hother with
        | extractTrace hother => exact absurd hother (not_traceFault hload)
        | createOutput => exact .inr ⟨rfl, rfl⟩
      · rw [hcreate] at hwrite
        have hwritten := hwrite rfl
          (.extracted (Trace.Samples.ofRecords (options.apply settings.extraction) records)
            records.length)
          (document (samplesJson
            (Trace.Samples.ofRecords (options.apply settings.extraction) records))).toUTF8.toList
        simp only [hcreate]
        split
        · next hfailing =>
          rw [hfailing] at hwritten
          cases hwritten
        · intro _ _ _ hfault
          cases hfault with
          | extractTrace hfault => exact not_traceFault hload hfault
          | createOutput hpath hfail =>
            cases houtput.symm.trans hpath
            rw [hload, hcreate] at hfail
            cases hfail

/-- A simulation complains of its parameters first, then of its settings, and then of
    its distributions. -/
theorem simulate (hsparing : host.Sparing Spared) (options : SimulateOptions)
    (hfits : (options.apply settings.simulation).eventCount < Draw.valueLimit) :
    Settles (Fault host opened settings (.simulate options)) Spared opened
      (runOn opened (CommandLine.simulate host settings.simulation options)) := by
  have hspared := hsparing.loadParameters options.params opened
  rw [runOn_simulate]
  rcases hload : runOn opened (loadParameters host options.params) with
    ⟨complaint | parameters, loaded⟩
  · rw [hload] at hspared
    obtain ⟨file, blame, hpath, hparameters⟩ := runOn_loadParameters_error hload
    refine .of_first (.parameters hpath hparameters) ?_ hspared
    intro _ _ _ hother
    cases hother with
    | parameters hsame hother =>
      cases hpath.symm.trans hsame
      exact .inr ⟨rfl, hparameters.blame_eq hother⟩
    | configuration => exact .inl Nat.zero_lt_one
    | parameterSet => exact .inl Nat.zero_lt_two
  · rw [hload] at hspared
    have hdrawn : Spared opened (host.drawSeed loaded).2 :=
      hsparing.trans hspared (hsparing.drawSeed loaded)
    simp only [simulated]
    cases hcreate : Simulation.create (options.apply settings.simulation) parameters
      (host.drawSeed loaded).1 with
    | error error =>
      obtain ⟨reason, hsettings, rfl⟩ | ⟨alignment, reason, hsettings, hparameters, rfl⟩ :=
        Simulation.create_eq_error_iff.1 hcreate
      · refine .of_first (.configuration hsettings) ?_ hdrawn
        intro _ _ _ hother
        cases hother with
        | parameters hpath hother => exact absurd hother (not_parametersFault hload hpath)
        | configuration => exact .inr ⟨rfl, rfl⟩
        | parameterSet => exact .inl Nat.one_lt_two
      · obtain ⟨quantity, set, fault, hset, hfit, rfl⟩ := ofParameters_eq_error hparameters
        refine .of_first (.parameterSet (congrArg Prod.fst hload) hset hfit) ?_ hdrawn
        intro _ _ _ hother
        cases hother with
        | parameters hpath hother => exact absurd hother (not_parametersFault hload hpath)
        | configuration hreject => cases hsettings.symm.trans hreject
        | parameterSet => exact .inr ⟨rfl, rfl⟩
    | ok simulation =>
      obtain ⟨alignment, sampler, hsettings, hparameters, _⟩ :=
        Simulation.create_eq_ok_iff.1 hcreate
      rw [← (Simulation.create_spec hcreate).1] at hfits
      obtain ⟨report, statistics, hreplay⟩ :=
        replayAgainst_ok (Simulation.memoized_of_create hcreate) hfits options.allocator
          options.heapSize
      simp only [hreplay]
      intro _ _ _ hfault
      cases hfault with
      | parameters hpath hfault => exact not_parametersFault hload hpath hfault
      | configuration hreject => cases hsettings.symm.trans hreject
      | parameterSet hother hset hreject =>
        rw [hload] at hother
        cases hother
        obtain ⟨distribution, hfit⟩ := fit_of_ofParameters hparameters hset
        cases hfit.symm.trans hreject

theorem params :
    Settles (Fault host opened settings .params) Spared opened
      (runOn opened (Command.run host settings .params)) := by
  intro _ _ _ hfault
  cases hfault

end Settles

/-- Once its log is open, the program goes by the faults of its command, on every host that
    keeps its promises: that a file that it creates can be written to, and what is spared by
    reading, by drawing a seed, by the log, and by a file that could not be created. The
    workload has to fit into memory. Without a fault the program ends with status zero.
    Otherwise it complains of a fault of the earliest stage: reading comes before checking
    settings, and that before the rest. The status is two when the user can mend the fault, and
    one when a file fails, for whatever reason, and whatever texts are put around the causes.
    The program has then printed nothing, and has neither made nor emptied a file. -/
theorem execute_by_faults {World : Type} (host : Host (StateM World))
    (Spared : World → World → Prop) (environment : String → Option String)
    (arguments : List String) (invocation : Invocation) (before opened : World)
    (hsparing : host.Sparing Spared)
    (harguments : Invocation.ofArguments? arguments = some invocation)
    (hopen : runOn before (invocation.openLog host) = (.ok (), opened))
    (hwritable : ∀ options path, invocation.command = .extract options →
      options.output = some path →
      host.Writable (runOn opened (loadRecords host options.trace)).2 path)
    (hfits : ∀ options, invocation.command = .simulate options →
      (options.apply (Settings.ofEnvironment environment).simulation).eventCount <
        Draw.valueLimit) :
    let faults := Fault host opened (.ofEnvironment environment) invocation.command
    let ended := execute host environment arguments before
    ended.1.status = 0 ∧ (∀ blame stage complaint, ¬ faults blame stage complaint) ∨
      ∃ blame stage complaint, faults blame stage complaint ∧
        (∀ blame' stage' complaint', faults blame' stage' complaint' →
          stage.rank < stage'.rank ∨ stage = stage' ∧ blame = blame') ∧
        ended.1 = { status := blame.status, complaint := complaint.report } ∧
        (∀ texts : List String,
          statusOf (texts.map .text ++ complaint.causes) = blame.status) ∧
        Spared opened ended.2 := by
  intro faults ended
  have hsettles : Settles faults Spared opened (runOn opened (invocation.command.run host
      (.ofEnvironment environment))) := by
    unfold faults
    cases hcommand : invocation.command with
    | simulate options => exact .simulate hsparing options (hfits options hcommand)
    | extract options => exact .extract hsparing options fun path => hwritable options path hcommand
    | histogram options => exact .histogram hsparing options
    | params => exact .params
  have hended : ended = _ := execute_opened harguments hopen
  rcases hanswer : runOn opened (invocation.command.run host (.ofEnvironment environment)) with
    ⟨complaint | output, after⟩
  · rw [hanswer] at hsettles hended
    obtain ⟨⟨blame, stage, hfault, hfirst⟩, hspared⟩ := hsettles
    refine .inr ⟨blame, stage, complaint, hfault, hfirst, ?_, ?_, ?_⟩
    · rw [hended, Outcome.ofAnswer, hfault.exitStatus]
    · intro texts
      rw [statusOf_texts, hfault.statusOf]
    · rw [hended]
      exact hspared
  · rw [hanswer] at hsettles hended
    exact .inl ⟨by rw [hended, Outcome.ofAnswer], hsettles⟩

/-- A trace with a malformed line leaves an old output as it was, and the status is two. Where no
    file can be created for want of permission, a sound trace leads to status one. -/
theorem execute_by_faults_output :
    let malformed : List UInt8 := [49, 32, 49, 32, 109, 97, 108, 108, 111, 99, 32, 120, 32, 49]
    let sound : List UInt8 := [49, 32, 49, 32, 109, 97, 108, 108, 111, 99, 32, 49, 32, 49]
    let denied : FileError := .other "Permission denied (os error 13)"
    let host := Machine.host malformed 0 ⟨1970, 1, 1, 0, 0, 0, 0⟩ fun _ => ""
    let locked : Host (StateM Machine) :=
      { Machine.host sound 0 ⟨1970, 1, 1, 0, 0, 0, 0⟩ fun _ => "" with
        createFile := fun _ machine => (.error denied, machine) }
    let machine : Machine := { root := .folder [("o", .file [42])] false, working := [] }
    let invocation : Invocation := { command := .extract { output := some "o" } }
    let rejected := execute host (fun _ => none) ["extract", "--output", "o"] machine
    let refused := execute locked (fun _ => none) ["extract", "--output", "o"] machine
    host.Sparing Machine.Kept ∧ locked.Sparing Machine.Kept ∧
      Invocation.ofArguments? ["extract", "--output", "o"] = some invocation ∧
      runOn machine (invocation.openLog host) = (.ok (), machine) ∧
      runOn machine (invocation.openLog locked) = (.ok (), machine) ∧
      host.Writable (runOn machine (loadRecords host none)).2 "o" ∧
      rejected.1.status = 2 ∧ rejected.1.output = "" ∧ Machine.Kept machine rejected.2 ∧
      refused.1 = { status := 1, complaint := (Complaint.createOutput "o" denied).report } ∧
      Machine.Kept machine refused.2 := by
  intro malformed sound denied host locked machine invocation rejected refused
  have hsparing : host.Sparing Machine.Kept := Machine.sparing_host ..
  have hlocked : locked.Sparing Machine.Kept :=
    { Machine.sparing_host sound 0 ⟨1970, 1, 1, 0, 0, 0, 0⟩ fun _ => "" with
      createFile := fun _ machine _ _ => .refl machine }
  have harguments : Invocation.ofArguments? ["extract", "--output", "o"] = some invocation := rfl
  -- No names lead to a device, so that the path need not be taken apart.
  have hroom : ¬ machine.IsFull "o" := by
    rintro ⟨names, _, hfull⟩
    have hfind := Machine.find?_of_locate hfull
    cases names with
    | nil => cases hfind
    | cons name names =>
      obtain ⟨_, _, child, hroot, hchild, hfind⟩ := Entry.find?_cons_eq_ok.1 hfind
      cases hroot
      rw [List.lookup_cons] at hchild
      split at hchild
      · cases hchild
        cases names with
        | nil => cases hfind
        | cons => cases hfind
      · cases hchild
  have hwritable := Machine.writable_host malformed 0 ⟨1970, 1, 1, 0, 0, 0, 0⟩ (fun _ => "") hroom
  obtain ⟨error, hmalformed⟩ : ∃ error, Trace.read malformed = .error (.malformed 1 error) :=
    ⟨_, rfl⟩
  obtain ⟨records, hsound⟩ : ∃ records, Trace.read sound = .ok records := ⟨_, rfl⟩
  have hrejected : rejected.1.status = 2 ∧ rejected.1.output = "" ∧
      Machine.Kept machine rejected.2 := by
    have hrecords : recordsIn none (.bytes malformed) =
        .error (.readTrace none (.malformed 1 error)) := by
      rw [recordsIn, hmalformed, mapError_error]
    obtain ⟨blame, htrace⟩ := recordsIn_eq_error.1 hrecords
    have hfault : Fault host machine (.ofEnvironment fun _ => none) invocation.command blame .load
        (.readTrace none (.malformed 1 error)) := .extractTrace htrace
    have hinput : blame.status = 2 := htrace.statusOf.symm
    obtain ⟨_, hnone⟩ | ⟨found, stage, complaint, _, hfirst, hended, _, hkept⟩ :=
      execute_by_faults host Machine.Kept (fun _ => none) _ invocation machine machine hsparing
        harguments rfl
        (fun _ _ hcommand houtput => by
          cases hcommand
          cases houtput
          exact hwritable none)
        (fun _ hcommand => by cases hcommand)
    · exact absurd hfault (hnone _ _ _)
    · obtain hlater | ⟨_, hblame⟩ := hfirst _ _ _ hfault
      · exact absurd hlater (Nat.not_lt_zero _)
      · rw [hblame, hinput] at hended
        exact ⟨congrArg Outcome.status hended, congrArg Outcome.output hended, hkept⟩
  have hrefused :
      refused.1 = { status := 1, complaint := (Complaint.createOutput "o" denied).report } ∧
        Machine.Kept machine refused.2 := by
    have hfault : Fault locked machine (.ofEnvironment fun _ => none) invocation.command .file
        .prepare (.createOutput "o" denied) := .createOutput rfl rfl
    obtain ⟨_, hnone⟩ | ⟨blame, stage, found, hfound, _, hended, _, hkept⟩ :=
      execute_by_faults locked Machine.Kept (fun _ => none) _ invocation machine machine hlocked
        harguments rfl (fun _ _ _ _ hcreated => by cases hcreated)
        (fun _ hcommand => by cases hcommand)
    · exact absurd hfault (hnone _ _ _)
    · cases hfound with
      | extractTrace htrace =>
        have hread : recordsIn none (.bytes sound) = .ok records := by
          rw [recordsIn, hsound, mapError_ok]
        cases hread.symm.trans (recordsIn_eq_error.2 ⟨_, htrace⟩)
      | createOutput hpath hcreate =>
        cases hpath
        cases hcreate
        exact ⟨hended, hkept⟩
  obtain ⟨hstatus, houtput, hkept⟩ := hrejected
  exact ⟨hsparing, hlocked, harguments, rfl, rfl, hwritable none, hstatus, houtput, hkept, hrefused⟩

end HeapReplay.CommandLine
