import WrappedTraining.Submission.Build
import WrappedTraining.Submission.Record

/-!
# Settings

A program describes a job by a list of settings, each of which changes the initial submission or
defers an option. A setting with an empty text, an empty list of pairs or a count that is not
positive leaves the default in place.

* `Setting.apply` takes one setting into account;
* `TrainingJob.ofSettings` builds the job of a list of settings.
-/

namespace WrappedTraining

/-- A text of a submission that a setting can replace. -/
inductive TextSetting where
  | name
  | namespaceName
  | image
  | shell
  | workingDir
  | priorityClass
  | schedulerName
  | syncMode
  | syncSource
  | syncImage
  | dashboardImage
  | logDir
  | cpu
  | memory
  | shareMemory
  | cleanPods
  | procsPerNode
  | queueName
  | admissionGracePeriod
  | warmupGracePeriod
  | failureGracePeriod
  | retryPausePeriod
  | successTtl
  | innerType
  | taskName
  | topologyMode
  | partitionTopologyMode
  | ringController
deriving DecidableEq

/-- The submission with a text replaced. -/
def TextSetting.set (v : String) (s : Submission) : TextSetting → Submission
  | .name => { s with job := { s.job with name := v } }
  | .namespaceName => { s with job := { s.job with namespaceName := v } }
  | .image => { s with job := { s.job with image := v } }
  | .shell => { s with job := { s.job with shell := v } }
  | .workingDir => { s with job := { s.job with workingDir := v } }
  | .priorityClass => { s with job := { s.job with priorityClass := v } }
  | .schedulerName => { s with job := { s.job with schedulerName := v } }
  | .syncMode => { s with sync := { s.sync with mode := v } }
  | .syncSource => { s with sync := { s.sync with source := v } }
  | .syncImage => { s with sync := { s.sync with image := v } }
  | .dashboardImage => { s with dashboard := { s.dashboard with image := v } }
  | .logDir => { s with dashboard := { s.dashboard with logDir := v } }
  | .cpu => { s with cpu := v }
  | .memory => { s with memory := v }
  | .shareMemory => { s with policy := { s.policy with shareMemory := v } }
  | .cleanPods => { s with policy := { s.policy with cleanPods := v } }
  | .procsPerNode => { s with policy := { s.policy with procsPerNode := v } }
  | .queueName => { s with queueName := v }
  | .admissionGracePeriod => { s with faults := { s.faults with admissionGracePeriod := v } }
  | .warmupGracePeriod => { s with faults := { s.faults with warmupGracePeriod := v } }
  | .failureGracePeriod => { s with faults := { s.faults with failureGracePeriod := v } }
  | .retryPausePeriod => { s with faults := { s.faults with retryPausePeriod := v } }
  | .successTtl => { s with faults := { s.faults with successTtl := v } }
  | .innerType => { s with innerType := v }
  | .taskName => { s with task := { s.task with name := v } }
  | .topologyMode => { s with topology := { s.topology with mode := v } }
  | .partitionTopologyMode => { s with partitionTopology := { s.partitionTopology with mode := v } }
  | .ringController => { s with ringController := v }

/-- A count of a submission that a setting can replace. -/
inductive CountSetting where
  | gpus
  | workers
  | minAvailable
  | replicas
  | masterPort
  | highestTier
  | totalPartitions
  | partitionSize
  | partitionHighestTier
  | ttlSeconds
deriving DecidableEq

/-- The submission with a count replaced. -/
def CountSetting.set (n : Int32) (s : Submission) : CountSetting → Submission
  | .gpus => { s with job := { s.job with gpuCount := n } }
  | .workers => { s with job := { s.job with workerCount := n } }
  | .minAvailable => { s with task := { s.task with minAvailable := n } }
  | .replicas => { s with task := { s.task with replicas := n } }
  | .masterPort => { s with task := { s.task with masterPort := n } }
  | .highestTier => { s with topology := { s.topology with highestTier := n } }
  | .totalPartitions => { s with totalPartitions := n }
  | .partitionSize => { s with partitionSize := n }
  | .partitionHighestTier =>
    { s with partitionTopology := { s.partitionTopology with highestTier := n } }
  | .ttlSeconds => { s with policy := { s.policy with ttlSecondsAfterFinished := n } }

/-- A limit on retries, for which zero counts as a value. -/
inductive LimitSetting where
  | retryLimit
  | maxRetry
deriving DecidableEq

/-- The submission with a limit replaced. -/
def LimitSetting.set (n : Int32) (s : Submission) : LimitSetting → Submission
  | .retryLimit => { s with faults := { s.faults with retryLimit := n } }
  | .maxRetry => { s with task := { s.task with maxRetry := n } }

/-- Something that is off until a setting switches it on. -/
inductive SwitchSetting where
  | rdma
  | coscheduling
  | dashboard
deriving DecidableEq

/-- The submission with something switched on. -/
def SwitchSetting.set (s : Submission) : SwitchSetting → Submission
  | .rdma => { s with job := { s.job with enableRdma := true } }
  | .coscheduling => { s with job := { s.job with coscheduling := true } }
  | .dashboard => { s with dashboard := { s.dashboard with enabled := true } }

/-- A deferred option that is set by pairs. -/
inductive PairSetting where
  | envs
  | nodeSelectors
  | annotations
  | labels
  | dataSets
  | dataDirs
  | devices
  | configFiles
deriving DecidableEq

/-- The name of a deferred option that is set by pairs. -/
def PairSetting.option : PairSetting → String
  | .envs => "env"
  | .nodeSelectors => "selector"
  | .annotations => "annotation"
  | .labels => "label"
  | .dataSets => "data"
  | .dataDirs => "data-dir"
  | .devices => "device"
  | .configFiles => "config-file"

/-- The character between the parts of a pair. -/
def PairSetting.separator : PairSetting → Char
  | .dataSets => ':'
  | .dataDirs => ':'
  | .configFiles => ':'
  | _ => '='

/-- A deferred option that is set by a list, also by an empty one. -/
inductive ListSetting where
  | tolerations
  | imagePullSecrets
deriving DecidableEq

/-- The name of a deferred option that is set by a list. -/
def ListSetting.option : ListSetting → String
  | .tolerations => "toleration"
  | .imagePullSecrets => "image-pull-secret"

/-- One setting of a job. -/
inductive Setting where
  | text (field : TextSetting) (value : String)
  | count (field : CountSetting) (value : Int32)
  | limit (field : LimitSetting) (value : Int32)
  | deadlineSeconds (value : Int64)
  | command (words : List String)
  | switchOn (field : SwitchSetting)
  | useServicePlugin (on : Bool)
  | pairs (field : PairSetting) (entries : List (String × String))
  | list (field : ListSetting) (entries : List String)
deriving DecidableEq

namespace Setting

/-- The words with blanks between them. -/
def commandText (words : List String) : String := Text.joined ' ' words

/-- A pair as an entry of a deferred option. -/
def entryOf (sep : Char) (p : String × String) : String := p.1 ++ sep.toString ++ p.2

/-- Change the submission of a builder. -/
def onSubmission (f : Submission → Submission) (b : Builder) : Builder :=
  { b with submission := f b.submission }

/-- Take a setting into account. The first command that is not empty stays. -/
def apply (b : Builder) : Setting → Builder
  | .text field v => if v = "" then b else onSubmission (fun s => field.set v s) b
  | .count field n => if 0 < n then onSubmission (fun s => field.set n s) b else b
  | .limit field n => if 0 ≤ n then onSubmission (fun s => field.set n s) b else b
  | .deadlineSeconds n =>
    if 0 < n then
      onSubmission (fun s => { s with policy := { s.policy with activeDeadlineSeconds := n } }) b
    else b
  | .command words =>
    if b.submission.job.command = "" then
      onSubmission (fun s => { s with job := { s.job with command := commandText words } }) b
    else b
  | .switchOn field => onSubmission (fun s => field.set s) b
  | .useServicePlugin on =>
    onSubmission (fun s => { s with task := { s.task with useServicePlugin := some on } }) b
  | .pairs field entries =>
    if entries = [] then b
    else b.add field.option (.texts (entries.map (entryOf field.separator)))
  | .list field entries => b.add field.option (.texts entries)

end Setting

/-! ### Jobs -/

/-- A submission that was built. -/
structure TrainingJob where
  name : String
  submission : Submission
deriving DecidableEq

namespace TrainingJob

/-- The job of a built submission. -/
def ofSubmission (s : Submission) : TrainingJob := ⟨s.job.name, s⟩

/-- Build the job of a builder. -/
def ofBuilder (b : Builder) : Except Submission.Error TrainingJob := b.finish.map ofSubmission

/-- Build the job of a list of settings. -/
def ofSettings (settings : List Setting) : Except Submission.Error TrainingJob :=
  ofBuilder (settings.foldl Setting.apply (.new .initial))

/-- The label of the envelope that asks a queue for admission. -/
def queueLabel? (j : TrainingJob) : Option (String × String) :=
  if j.submission.queueName = "" then none else some (Labels.queueName, j.submission.queueName)

/-- The job as a record. -/
def toJson (j : TrainingJob) : Json :=
  .obj [("name", .str j.name), ("trainer", .str Submission.trainer),
    ("args", j.submission.toJson)]

end TrainingJob

end WrappedTraining
