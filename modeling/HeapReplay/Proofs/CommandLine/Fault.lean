import HeapReplay.Proofs.CommandLine.Running
import HeapReplay.Proofs.Trace.Reading
import HeapReplay.Proofs.Workload.Parameters

namespace HeapReplay.CommandLine

open Workload

/-- Who can mend a fault: the one who gave the input, or nobody, since a file fails. -/
inductive Blame where
  | input
  | file
  deriving DecidableEq, Repr

/-- The exit status behind a fault. -/
def Blame.status : Blame → UInt8
  | .input => 2
  | .file => 1

/-- How far a command comes: it loads its text file, then checks its settings, and then
    prepares what it needs for its work. -/
inductive Stage where
  | load
  | check
  | prepare
  deriving DecidableEq, Repr

def Stage.rank : Stage → Nat
  | .load => 0
  | .check => 1
  | .prepare => 2

variable {World : Type}

/-- What can be wrong with a trace that gives a content. Lines are numbered from one. -/
inductive TraceFault (content : FileContent) (path : Option String) : Blame → Complaint → Prop
  | opening {error : FileError} (hcontent : content = .unopened error) :
      TraceFault content path .file (.openTrace (path.getD "from stdin") error)
  | reading {error : FileError} (hcontent : content = .unreadable error) :
      TraceFault content path .file (.readTrace path (.unreadable error.message))
  | encoding {bytes line : List UInt8} {before : List (List UInt8)}
      (hcontent : content = .bytes bytes)
      (hbefore : Trace.ReadUpTo (Text.lines bytes) before line)
      (htext : Text.decode? line = none) :
      TraceFault content path .file
        (.readTrace path (.unreadable "stream did not contain valid UTF-8"))
  | malformed {bytes line : List UInt8} {before : List (List UInt8)} {text : String}
      {error : Trace.FieldError} (hcontent : content = .bytes bytes)
      (hbefore : Trace.ReadUpTo (Text.lines bytes) before line)
      (htext : Text.decode? line = some text) (hparse : Trace.Record.parse text = .error error) :
      TraceFault content path .input
        (.readTrace path (.malformed (before.length + 1) error.message))

/-- What can be wrong with a file of parameters that gives a content. -/
inductive ParametersFault (content : FileContent) (path : String) : Blame → Complaint → Prop
  | opening {error : FileError} (hcontent : content = .unopened error) :
      ParametersFault content path .file (.openParameters path error)
  | reading {error : FileError} (hcontent : content = .unreadable error) :
      ParametersFault content path .file (.readParameters path error)
  | content {bytes : List UInt8} (hcontent : content = .bytes bytes)
      (hjson : (Json.parse? bytes).bind Parameters.ofJson? = none) :
      ParametersFault content path .input (.parseParameters path)

/-- What can be wrong with a command on a host whose log is open, who can mend it, and at which
    stage it shows. -/
inductive Fault (host : Host (StateM World)) (opened : World) (settings : Settings) :
    Command → Blame → Stage → Complaint → Prop
  | parameters {options : SimulateOptions} {path : String} {blame : Blame} {complaint : Complaint}
      (hpath : options.params = some path)
      (hfault : ParametersFault (host.readFile path opened).1 path blame complaint) :
      Fault host opened settings (.simulate options) blame .load complaint
  | configuration {options : SimulateOptions} {error : SettingsError}
      (hreject : (options.apply settings.simulation).validate = .error error) :
      Fault host opened settings (.simulate options) .input .check
        (.configure (.settings error))
  | parameterSet {options : SimulateOptions} {parameters : Parameters} {quantity : String}
      {set : ParameterSet} {fault : ParameterFault}
      (hload : (runOn opened (loadParameters host options.params)).1 = .ok parameters)
      (hset : (quantity, set) ∈ parameters.sets) (hreject : set.fit = .error fault) :
      Fault host opened settings (.simulate options) .input .prepare
        (.configure (.parameters ⟨some quantity, set, fault⟩))
  | extractTrace {options : ExtractOptions} {blame : Blame} {complaint : Complaint}
      (hfault : TraceFault (host.readTrace options.trace opened).1 options.trace blame complaint) :
      Fault host opened settings (.extract options) blame .load complaint
  | createOutput {options : ExtractOptions} {path : String} {error : FileError}
      (hpath : options.output = some path)
      (hcreate : (host.createFile path (runOn opened (loadRecords host options.trace)).2).1 =
        .error error) :
      Fault host opened settings (.extract options) .file .prepare (.createOutput path error)
  | histogramTrace {options : HistogramOptions} {blame : Blame} {complaint : Complaint}
      (hfault : TraceFault (host.readTrace options.trace opened).1 options.trace blame complaint) :
      Fault host opened settings (.histogram options) blame .load complaint
  | zeroBucket {options : HistogramOptions}
      (hzero : (options.apply settings.extraction).histogramBucket = 0) :
      Fault host opened settings (.histogram options) .input .check (.settings .zeroBucket)
  | zeroLimit {options : HistogramOptions}
      (hzero : (options.apply settings.extraction).histogramLimit = 0) :
      Fault host opened settings (.histogram options) .input .check (.settings .zeroLimit)

section Classify

variable {host : Host (StateM World)} {opened : World} {settings : Settings} {command : Command}
  {blame : Blame} {stage : Stage} {complaint : Complaint} {content : FileContent}

/-- Texts around a chain of causes do not change what it stands for. -/
theorem statusOf_texts (texts : List String) (causes : List Cause) :
    statusOf (texts.map .text ++ causes) = statusOf causes := by
  have htexts : (texts.map Cause.text).any Cause.isUserError = false := by
    simp [Cause.isUserError]
  simp only [statusOf, List.any_append, htexts, Bool.false_or]

theorem TraceFault.statusOf {path : Option String}
    (hfault : TraceFault content path blame complaint) :
    statusOf complaint.causes = blame.status := by
  cases hfault <;> rfl

theorem ParametersFault.statusOf {path : String}
    (hfault : ParametersFault content path blame complaint) :
    statusOf complaint.causes = blame.status := by
  cases hfault <;> rfl

/-- The causes of a complaint tell who can mend the fault. -/
theorem Fault.statusOf (hfault : Fault host opened settings command blame stage complaint) :
    statusOf complaint.causes = blame.status := by
  cases hfault with
  | parameters _ hfault => exact hfault.statusOf
  | extractTrace hfault => exact hfault.statusOf
  | histogramTrace hfault => exact hfault.statusOf
  | configuration => rfl
  | parameterSet => rfl
  | createOutput => rfl
  | zeroBucket => rfl
  | zeroLimit => rfl

/-- The status of a command that complains of a fault. -/
theorem Fault.exitStatus (hfault : Fault host opened settings command blame stage complaint) :
    complaint.exitStatus = blame.status := by
  rw [← hfault.statusOf]
  cases hfault with
  | parameters _ hfault => cases hfault <;> rfl
  | extractTrace hfault => cases hfault <;> rfl
  | histogramTrace hfault => cases hfault <;> rfl
  | configuration => rfl
  | parameterSet => rfl
  | createOutput => rfl
  | zeroBucket => rfl
  | zeroLimit => rfl

theorem Blame.eq_of_status {other : Blame} (hstatus : blame.status = other.status) :
    blame = other := by
  cases blame with
  | input =>
    cases other with
    | input => rfl
    | file => cases hstatus
  | file =>
    cases other with
    | input => cases hstatus
    | file => rfl

end Classify

section Loading

variable {content : FileContent} {path : Option String} {file : String} {blame other : Blame}
  {complaint second : Complaint}

/-- The records of a trace are missing exactly when there is a fault in the trace. -/
theorem recordsIn_eq_error : recordsIn path content = .error complaint ↔
    ∃ blame, TraceFault content path blame complaint := by
  constructor
  · intro hrecords
    cases content with
    | unopened error =>
      cases hrecords
      exact ⟨.file, .opening rfl⟩
    | unreadable error =>
      cases hrecords
      exact ⟨.file, .reading rfl⟩
    | bytes bytes =>
      cases hread : Trace.read bytes with
      | ok records => simp [recordsIn, hread] at hrecords
      | error error =>
        simp only [recordsIn, hread, mapError_error, Except.error.injEq] at hrecords
        subst hrecords
        obtain ⟨before, line, hbefore, htext | ⟨htext, hparse⟩⟩ := Trace.read_eq_error.1 hread
        · exact ⟨.file, .encoding rfl hbefore htext⟩
        · exact ⟨.input, .malformed rfl hbefore htext hparse⟩
  · have hread {bytes : List UInt8} {error : Trace.ReadError}
        (hread : Trace.read bytes = .error error) :
        recordsIn path (.bytes bytes) = .error (.readTrace path error) := by
      simp only [recordsIn, hread, mapError_error]
    rintro ⟨blame, rfl | rfl | ⟨rfl, hbefore, htext⟩ | ⟨rfl, hbefore, htext, hparse⟩⟩
    · rfl
    · rfl
    · exact hread (Trace.read_eq_error.2 ⟨_, _, hbefore, .encoding htext⟩)
    · exact hread (Trace.read_eq_error.2 ⟨_, _, hbefore, .malformed htext hparse⟩)

/-- The parameters are missing exactly when there is a fault in their file. -/
theorem parametersIn_eq_error : parametersIn file content = .error complaint ↔
    ∃ blame, ParametersFault content file blame complaint := by
  constructor
  · intro hload
    cases content with
    | unopened error =>
      cases hload
      exact ⟨.file, .opening rfl⟩
    | unreadable error =>
      cases hload
      exact ⟨.file, .reading rfl⟩
    | bytes bytes =>
      cases hjson : (Json.parse? bytes).bind Parameters.ofJson? with
      | some parameters => simp only [parametersIn, hjson, reduceCtorEq] at hload
      | none =>
        simp only [parametersIn, hjson, Except.error.injEq] at hload
        exact ⟨.input, hload ▸ .content rfl hjson⟩
  · rintro ⟨blame, rfl | rfl | ⟨rfl, hjson⟩⟩
    · rfl
    · rfl
    · simp only [parametersIn, hjson]

/-- A trace has no two faults. -/
theorem TraceFault.blame_eq (hfault : TraceFault content path blame complaint)
    (hother : TraceFault content path other second) : blame = other := by
  have hsame := (recordsIn_eq_error.2 ⟨_, hfault⟩).symm.trans (recordsIn_eq_error.2 ⟨_, hother⟩)
  cases hsame
  exact Blame.eq_of_status (hfault.statusOf.symm.trans hother.statusOf)

/-- A file of parameters has no two faults. -/
theorem ParametersFault.blame_eq (hfault : ParametersFault content file blame complaint)
    (hother : ParametersFault content file other second) : blame = other := by
  have hsame := (parametersIn_eq_error.2 ⟨_, hfault⟩).symm.trans
    (parametersIn_eq_error.2 ⟨_, hother⟩)
  cases hsame
  exact Blame.eq_of_status (hfault.statusOf.symm.trans hother.statusOf)

variable {host : Host (StateM World)} {world after : World}

theorem runOn_loadRecords_error (hload : runOn world (loadRecords host path) =
    (.error complaint, after)) :
    ∃ blame, TraceFault (host.readTrace path world).1 path blame complaint := by
  rw [runOn_loadRecords] at hload
  rw [← recordsIn_eq_error]
  split at hload
  · cases hload
  · next found hrecords =>
    cases hload
    exact hrecords

/-- There is no fault in a trace that has been read. -/
theorem not_traceFault {records : List Trace.Record}
    (hload : runOn world (loadRecords host path) = (.ok records, after)) :
    ¬ TraceFault (host.readTrace path world).1 path blame complaint := by
  intro hfault
  rw [runOn_loadRecords, recordsIn_eq_error.2 ⟨blame, hfault⟩] at hload
  cases hload

theorem runOn_loadParameters_error (hload : runOn world (loadParameters host path) =
    (.error complaint, after)) :
    ∃ file blame, path = some file ∧
      ParametersFault (host.readFile file world).1 file blame complaint := by
  cases path with
  | none => cases hload
  | some file =>
    rw [runOn_loadParameters] at hload
    obtain ⟨blame, hfault⟩ := parametersIn_eq_error.1 (congrArg Prod.fst hload)
    exact ⟨file, blame, rfl, hfault⟩

/-- There is no fault in parameters that have been loaded. -/
theorem not_parametersFault {parameters : Parameters}
    (hload : runOn world (loadParameters host path) = (.ok parameters, after))
    (hpath : path = some file) :
    ¬ ParametersFault (host.readFile file world).1 file blame complaint := by
  intro hfault
  rw [hpath, runOn_loadParameters, parametersIn_eq_error.2 ⟨blame, hfault⟩] at hload
  cases hload

end Loading
end HeapReplay.CommandLine
