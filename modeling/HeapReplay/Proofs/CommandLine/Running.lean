import HeapReplay.CommandLine.Execution
import HeapReplay.Proofs.Except

namespace HeapReplay.CommandLine

open Workload

variable {World : Type}

section Programs

variable {α β : Type} (world : World)

/-- The answer of a program in a world, with the world that it leaves. -/
def runOn (program : ExceptT Complaint (StateM World) α) : Except Complaint α × World :=
  program.run world

@[simp] theorem runOn_pure (value : α) :
    runOn world (pure value : ExceptT Complaint (StateM World) α) = (.ok value, world) := rfl

@[simp] theorem runOn_throw (complaint : Complaint) :
    runOn world (throw complaint : ExceptT Complaint (StateM World) α) =
      (.error complaint, world) := rfl

@[simp] theorem runOn_ofExcept (result : Except Complaint α) :
    runOn world (MonadExcept.ofExcept result : ExceptT Complaint (StateM World) α) =
      (result, world) := by
  cases result <;> rfl

/-- What comes behind a complaint is not run. -/
theorem runOn_bind (program : ExceptT Complaint (StateM World) α)
    (next : α → ExceptT Complaint (StateM World) β) :
    runOn world (program >>= next) =
      match runOn world program with
      | (.ok value, world) => runOn world (next value)
      | (.error complaint, world) => (.error complaint, world) := by
  unfold runOn ExceptT.run
  simp only [bind, ExceptT.bind, ExceptT.mk, StateT.bind]
  rcases program world with ⟨_ | value, after⟩ <;> rfl

@[simp] theorem runOn_lift (action : StateM World α) :
    runOn world (liftM action) = (.ok (action world).1, (action world).2) := rfl

theorem runOn_complain (complaint : FileError → Complaint)
    (action : StateM World (Except FileError α)) :
    runOn world (orComplain complaint action) =
      ((action world).1.mapError complaint, (action world).2) := by
  rcases haction : action world with ⟨_ | value, after⟩
  · simp only [orComplain, runOn_bind, runOn_lift, haction, runOn_throw, mapError_error]
  · simp only [orComplain, runOn_bind, runOn_lift, haction, runOn_pure, mapError_ok]

end Programs

section Commands

variable (host : Host (StateM World)) (world : World)

theorem runOn_loadParameters (path : String) :
    runOn world (loadParameters host (some path)) =
      (parametersIn path (host.readFile path world).1, (host.readFile path world).2) := by
  simp only [loadParameters, runOn_bind, runOn_lift, runOn_ofExcept]

/-- A trace that is read leaves a note, one that is not leaves nothing. -/
theorem runOn_loadRecords (path : Option String) :
    runOn world (loadRecords host path) =
      match recordsIn path (host.readTrace path world).1 with
      | .ok records =>
        (.ok records, (host.note (.read records.length) (host.readTrace path world).2).2)
      | .error complaint => (.error complaint, (host.readTrace path world).2) := by
  simp only [loadRecords, runOn_bind, runOn_lift, runOn_ofExcept]
  cases recordsIn path (host.readTrace path world).1 <;> rfl

/-- A simulation needs parameters and a seed. Once it has them, its answer is settled. -/
theorem runOn_simulate (settings : SimulationSettings) (options : SimulateOptions) :
    runOn world (simulate host settings options) =
      match runOn world (loadParameters host options.params) with
      | (.ok parameters, loaded) =>
        (simulated (options.apply settings) parameters (host.drawSeed loaded).1 options.allocator
          options.heapSize, (host.drawSeed loaded).2)
      | (.error complaint, loaded) => (.error complaint, loaded) := by
  simp only [simulate, runOn_bind]
  rcases runOn world (loadParameters host options.params) with ⟨complaint | parameters, loaded⟩
  · rfl
  · simp only [runOn_lift, runOn_ofExcept]

/-- A histogram needs records, and then checks its settings. -/
theorem runOn_histogram (settings : ExtractionSettings) (options : HistogramOptions) :
    runOn world (histogram host settings options) =
      match runOn world (loadRecords host options.trace) with
      | (.ok records, read) =>
        (match (options.apply settings).validate with
          | .error error => .error (.settings error)
          | .ok width =>
            .ok (histogramText
              (Trace.histogram width (options.apply settings).histogramLimit records)), read)
      | (.error complaint, read) => (.error complaint, read) := by
  simp only [histogram, runOn_bind]
  rcases runOn world (loadRecords host options.trace) with ⟨complaint | records, read⟩
  · rfl
  · simp only
    cases (options.apply settings).validate <;> rfl

/-- An extraction needs records before it creates its file, and has its text before it
    writes to the file. -/
theorem runOn_extract (settings : ExtractionSettings) (options : ExtractOptions) :
    runOn world (extract host settings options) =
      match runOn world (loadRecords host options.trace) with
      | (.error complaint, read) => (.error complaint, read)
      | (.ok records, read) =>
        let samples := Trace.Samples.ofRecords (options.apply settings) records
        let text := document (samplesJson samples)
        let note := Note.extracted samples records.length
        match options.output with
        | none => (.ok text, (host.note note read).2)
        | some path =>
          match host.createFile path read with
          | (.error error, after) => (.error (.createOutput path error), after)
          | (.ok (), created) =>
            match host.overwriteFile path text.toUTF8.toList (host.note note created).2 with
            | (.error error, after) => (.error (.writeOutput error), after)
            | (.ok (), written) => (.ok ("Samples written to " ++ path ++ "\n"), written) := by
  simp only [extract, runOn_bind]
  rcases runOn world (loadRecords host options.trace) with ⟨complaint | records, read⟩
  · rfl
  simp only
  cases options.output with
  | none => rfl
  | some path =>
    simp only [runOn_bind, runOn_complain]
    rcases host.createFile path read with ⟨error | ⟨⟩, created⟩
    · rfl
    simp only [mapError_ok, runOn_lift]
    rcases host.overwriteFile path _ _ with ⟨error | ⟨⟩, written⟩ <;> rfl

end Commands

section Execute

variable {environment : String → Option String} {arguments : List String}
  {invocation : Invocation} {host : Host (StateM World)} {world opened : World}

/-- How the program ends on what its command gives. -/
def Outcome.ofAnswer : Except Complaint String → Outcome
  | .ok output => { status := 0, output }
  | .error complaint => { status := complaint.exitStatus, complaint := complaint.report }

/-- A program whose log is open ends as its command does. -/
theorem execute_opened (harguments : Invocation.ofArguments? arguments = some invocation)
    (hopen : runOn world (invocation.openLog host) = (.ok (), opened)) :
    execute host environment arguments world =
      (.ofAnswer (runOn opened (invocation.command.run host (.ofEnvironment environment))).1,
        (runOn opened (invocation.command.run host (.ofEnvironment environment))).2) := by
  have hrun : runOn world (invocation.run host (.ofEnvironment environment)) =
      runOn opened (invocation.command.run host (.ofEnvironment environment)) := by
    rw [Invocation.run, runOn_bind, hopen]
  rw [← hrun]
  simp only [execute, harguments, bind, StateT.bind, runOn]
  rcases (invocation.run host (.ofEnvironment environment)).run world with
    ⟨complaint | output, after⟩ <;> rfl

end Execute
end HeapReplay.CommandLine
