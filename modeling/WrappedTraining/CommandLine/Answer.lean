import WrappedTraining.CommandLine.Invocation
import WrappedTraining.Report
import WrappedTraining.Trainer
import WrappedTraining.Yaml

/-!
# Answers

An `Answer` is what a run of the program leaves behind: an exit code and two texts. The code is 0
if all went well, 1 if a command failed, 2 if the command line was not understood, and 101 if the
run broke off because GPUs could not be added up.

* `Invocation.answer` carries out an invocation;
* `Answer.ofArguments` reads a command line and carries it out.
-/

namespace WrappedTraining.CommandLine

/-- What a run leaves behind. -/
structure Answer where
  exitCode : UInt32
  stdout : String
  stderr : String
deriving DecidableEq

/-- What the environment says about a run. -/
structure Environment where
  /-- The namespace of jobs when no option gives one. -/
  namespaceName? : Option String
  /-- A namespace that is searched for a dashboard. -/
  dashboardNamespace? : Option String
deriving DecidableEq

namespace Environment

/-- The namespace that is searched for a dashboard when none is set. -/
def defaultDashboardNamespace : String := "arena-system"

/-- The namespace that is searched for a dashboard. -/
def dashboardNamespace (e : Environment) : String :=
  e.dashboardNamespace?.getD defaultDashboardNamespace

/-- The environment of a list of variables. -/
def ofVariables (get? : String → Option String) : Environment :=
  ⟨get? "AWJOB_NAMESPACE", get? "AWJOB_ARENA_NAMESPACE"⟩

end Environment

/-! ### Failures -/

/-- Why a command failed: a message, and what is behind it, each cause before its own. -/
structure Failure where
  message : String
  causes : List String
deriving DecidableEq

namespace Failure

/-- Causes with their numbers, the first of which is `n`. -/
def numbered (n : Nat) : List String → String
  | [] => ""
  | c :: cs => "    " ++ Text.ofNat n ++ ": " ++ c ++ "\n" ++ numbered (n + 1) cs

/-- The causes below their heading; a single one has no number. -/
def causesText : List String → String
  | [] => ""
  | [c] => "\nCaused by:\n    " ++ c ++ "\n"
  | cs => "\nCaused by:\n" ++ numbered 0 cs

/-- The text of a failure. -/
def text (f : Failure) : String := "Error: " ++ f.message ++ "\n" ++ causesText f.causes

/-- A lookup that has no answer. -/
def ofLookup : LookupError → Failure
  | .notFound ns name => ⟨LookupError.notFoundMessage ns name, []⟩
  | .service => ⟨"the cluster refused to answer", []⟩
  | .decode => ⟨"decoding appwrapper", []⟩
  | .nameless =>
    let cause := "failed to validate request: A non-empty name is required"
    ⟨"Failed to build request: " ++ cause, [cause]⟩
  | .badAddress =>
    let cause := "invalid uri character"
    let reason := "failed to build request: " ++ cause
    ⟨"Failed to build request: " ++ reason, [reason, cause]⟩
  | .unreachable =>
    let cause := "client error (Connect)"
    ⟨"ServiceError: " ++ cause,
      [cause, "tcp connect error", "Network is unreachable (os error 101)"]⟩

/-- Some of the texts given to `toleration` are no tolerations. -/
def rejectedTolerations : Failure := ⟨"some tolerations were rejected", []⟩

end Failure

namespace Answer

/-- A command that went well. -/
def shown (stdout : String) : Answer := ⟨0, stdout, ""⟩

/-- A command that failed before it showed anything. -/
def failed (f : Failure) : Answer := ⟨1, "", f.text⟩

/-- A command that broke off at a sum that leaves 64 bits, after it showed something. -/
def brokenOff (stdout : String) : Answer := ⟨101, stdout, "attempt to add with overflow\n"⟩

/-- A command that shows a text with sums in it; without them, it breaks off after a first text. -/
def ofSums (before : String) (text? : Option String) : Answer :=
  match text? with
  | some text => .shown text
  | none => .brokenOff before

end Answer

/-! ### Writing records -/

/-- A record in the form of an answer. -/
def OutputFormat.record (o : OutputFormat) (j : Json) : String :=
  match o with
  | .yaml => Yaml.document j
  | .json => j.pretty ++ "\n"
  | .human => j.pretty ++ "\n"

/-! ### `submit` -/

/-- The lines that describe a job. -/
def jobText (t : TrainingJob) : String :=
  let s := t.submission
  Report.lines (
    ["job " ++ t.name ++ " (" ++ Submission.trainer ++ ") in " ++ s.job.namespaceName,
     "  inner type   " ++ s.innerType,
     "  workers      " ++ Text.ofInt s.job.workerCount.toInt,
     "  gpus/worker  " ++ Text.ofInt s.job.gpuCount.toInt,
     "  command      " ++ s.job.command]
    ++ match t.queueLabel? with
      | some (k, v) => ["  queue        " ++ k ++ "=" ++ v]
      | none => [])

/-- A job in the form of an answer. -/
def OutputFormat.job (o : OutputFormat) (t : TrainingJob) : String :=
  match o with
  | .human => jobText t
  | o => o.record t.toJson

/-- The answer to a submission. -/
def submitAnswer (o : OutputFormat) (built : Except Submission.Error TrainingJob) : Answer :=
  match built with
  | .ok t => .shown (o.job t)
  | .error e => .failed ⟨e.message, []⟩

/-! ### `toleration` -/

/-- A toleration in the form of an answer. -/
def OutputFormat.toleration (o : OutputFormat) (input : String) (t : Toleration) : String :=
  match o with
  | .human => input ++ "\t" ++ t.toPodJson.compact ++ "\n"
  | o => o.record t.toJson

/-- What is shown for texts that are tolerations. -/
def acceptedText (o : OutputFormat) : List String → String
  | [] => ""
  | input :: rest =>
    match Toleration.parse input with
    | .ok t => o.toleration input t ++ acceptedText o rest
    | .error _ => acceptedText o rest

/-- What is said about texts that are no tolerations. -/
def rejectedText : List String → String
  | [] => ""
  | input :: rest =>
    match Toleration.parse input with
    | .ok _ => rejectedText rest
    | .error e => input ++ ": " ++ e.message ++ "\n" ++ rejectedText rest

/-- The answer to reading tolerations; one that is none does not keep the others from being
shown. -/
def tolerationAnswer (o : OutputFormat) (inputs : List String) : Answer :=
  let accepted := acceptedText o inputs
  if inputs.all fun input => (Toleration.parse input).isOk then .shown accepted
  else ⟨1, accepted, rejectedText inputs ++ Failure.rejectedTolerations.text⟩

/-! ### `get` and `list` -/

/-- The answer of a lookup. -/
def lookupAnswer (x : Lookup Answer) : Answer :=
  match x.result with
  | .ok a => a
  | .error e => .failed (.ofLookup e)

/-- Look up a job and show it. -/
def showJob (o : OutputFormat) (env : Environment) (src : Source) (now : Instant)
    (ns name : String) : Lookup Answer := do
  let j ← Trainer.job src ns name
  match o with
  | .human =>
    let logUrl? ← Trainer.logPage src j env.dashboardNamespace
    return .ofSums (Report.lines (Report.headLines j now)) (Report.details? j now logUrl?)
  | o => return .ofSums "" ((j.summaryAt? now).map fun s => o.record s.toJson)

/-- Look up the jobs of a namespace, or of all, and list them. -/
def showJobs (o : OutputFormat) (src : Source) (now : Instant) (ns? : Option String) :
    Lookup Answer := do
  let jobs ← Trainer.jobs src ns?
  let summaries? := jobs.mapM fun j => j.summaryAt? now
  match o with
  | .human => return .ofSums "" (summaries?.map (Report.table ns?.isNone))
  | o => return .ofSums "" (summaries?.map fun ss => o.record (.arr (ss.map JobSummary.toJson)))

/-! ### The program -/

/-- The name and version of the program. -/
def versionText : String := "awjobctl 0.1.0\n"

/-- How the program is used. -/
def usageText : String :=
  Report.lines
    ["Submit and inspect AppWrapper training jobs", "",
     "Usage: awjobctl [OPTIONS] <COMMAND>", "",
     "Commands:",
     "  submit      Compose and validate submission arguments",
     "  toleration  Parse toleration strings",
     "  get         Show one AppWrapper job",
     "  list        List AppWrapper jobs",
     "  help        Show this text"]

/-- What is wrong with a command line. -/
def UsageError.message : UsageError → String
  | .displayHelp => ""
  | .displayVersion => ""
  | .helpForNothing => "a command is needed"
  | .missingSubcommand => "a command is needed"
  | .invalidSubcommand => "there is no such command"
  | .argumentConflict => "an option is given twice"
  | .invalidValue => "an option has no value or a wrong one"
  | .valueValidation => "the value of an option cannot be read"
  | .tooManyValues => "a switch takes no value"
  | .missingArgument => "an argument is missing"
  | .unknownArgument => "an argument is not known"

/-- The answer to a command line that is not carried out. -/
def UsageError.answer : UsageError → Answer
  | .displayHelp => .shown usageText
  | .displayVersion => .shown versionText
  | e => ⟨2, "", "error: " ++ e.message ++ "\n\n" ++ usageText⟩

/-- Carry out an invocation at the time `now`. -/
def Invocation.answer (env : Environment) (src : Source) (now : Instant) (i : Invocation) :
    Answer :=
  match i.command with
  | .submit options words => submitAnswer i.output (compose options i.namespaceName words)
  | .toleration inputs => tolerationAnswer i.output inputs
  | .get name => lookupAnswer (showJob i.output env src now i.namespaceName name)
  | .list all =>
    lookupAnswer (showJobs i.output src now (if all then none else some i.namespaceName))

/-- Read a command line and carry it out. -/
def Answer.ofArguments (env : Environment) (src : Source) (now : Instant) (args : List String) :
    Answer :=
  match Invocation.read env.namespaceName? args with
  | .ok i => i.answer env src now
  | .error e => e.answer

end WrappedTraining.CommandLine
