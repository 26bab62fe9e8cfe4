import WrappedTraining.CommandLine.Grammar
import WrappedTraining.Submission.Setting

/-!
# The options of a submission

`SubmitOptions` holds what the command line can say about a submission, with the values of options
that are not given. `SubmitOptions.table` describes the options, and `SubmitOptions.toBuilder`
turns them into a submission with its deferred options.
-/

namespace WrappedTraining.CommandLine

/-- The options that can be given more than once, with their values in order. -/
structure RepeatedOptions where
  env : List String
  selector : List String
  toleration : List String
  annotation : List String
  label : List String
  data : List String
  dataDir : List String
  imagePullSecret : List String
  device : List String
  configFile : List String
deriving DecidableEq

/-- What the command line can say about a submission. -/
structure SubmitOptions where
  name : String
  image : String
  imagePullPolicy : String
  gpus : Int32
  workers : Int32
  repeated : RepeatedOptions
  priority : String
  rdma : Bool
  gang : Bool
  workingDir : String
  shell : String
  syncMode : String
  syncSource : String
  syncImage : String
  dashboard : Bool
  dashboardImage : String
  logDir : String
  cleanPods : String
  cpu : String
  memory : String
  runningTimeout : Span
  ttlAfterFinished : Span
  shareMemory : String
  procsPerNode : String
  queueName : String
  faults : FaultTolerance
  innerType : String
  schedulerName : String
  task : TaskSpec
  topology : Topology
  totalPartitions : Int32
  partitionSize : Int32
  partitionTopology : Topology
  ringController : String
deriving DecidableEq

namespace RepeatedOptions

/-- No option is given. -/
def none : RepeatedOptions := ⟨[], [], [], [], [], [], [], [], [], []⟩

/-- The options under the names by which they are deferred. -/
def entries (r : RepeatedOptions) : List (String × List String) :=
  [("env", r.env), ("selector", r.selector), ("toleration", r.toleration),
   ("annotation", r.annotation), ("label", r.label), ("data", r.data), ("data-dir", r.dataDir),
   ("image-pull-secret", r.imagePullSecret), ("device", r.device), ("config-file", r.configFile)]

end RepeatedOptions

namespace SubmitOptions

/-- No option is given: everything is as in the initial submission. -/
def initial : SubmitOptions where
  name := Submission.initial.job.name
  image := Submission.initial.job.image
  imagePullPolicy := Submission.initial.job.imagePullPolicy
  gpus := Submission.initial.job.gpuCount
  workers := Submission.initial.job.workerCount
  repeated := .none
  priority := Submission.initial.job.priorityClass
  rdma := false
  gang := false
  workingDir := Submission.initial.job.workingDir
  shell := Submission.initial.job.shell
  syncMode := Submission.initial.sync.mode
  syncSource := Submission.initial.sync.source
  syncImage := Submission.initial.sync.image
  dashboard := false
  dashboardImage := Submission.initial.dashboard.image
  logDir := Submission.initial.dashboard.logDir
  cleanPods := Submission.initial.policy.cleanPods
  cpu := Submission.initial.cpu
  memory := Submission.initial.memory
  runningTimeout := .zero
  ttlAfterFinished := .zero
  shareMemory := Submission.initial.policy.shareMemory
  procsPerNode := Submission.initial.policy.procsPerNode
  queueName := Submission.initial.queueName
  faults := Submission.initial.faults
  innerType := Submission.initial.innerType
  schedulerName := Submission.initial.job.schedulerName
  task := Submission.initial.task
  topology := Submission.initial.topology
  totalPartitions := Submission.initial.totalPartitions
  partitionSize := Submission.initial.partitionSize
  partitionTopology := Submission.initial.partitionTopology
  ringController := Submission.initial.ringController

/-! ### The submission they describe -/

/-- The submission of the options that are not deferred. -/
def toSubmission (o : SubmitOptions) (namespaceName : String) (words : List String) :
    Submission where
  cpu := o.cpu
  memory := o.memory
  job :=
    { JobSpec.initial with
      name := o.name
      namespaceName := namespaceName
      image := o.image
      imagePullPolicy := o.imagePullPolicy
      command := Setting.commandText words
      shell := o.shell
      workingDir := o.workingDir
      gpuCount := o.gpus
      workerCount := o.workers
      priorityClass := o.priority
      enableRdma := o.rdma
      coscheduling := o.gang
      schedulerName := o.schedulerName }
  dashboard :=
    { Dashboard.initial with enabled := o.dashboard, image := o.dashboardImage, logDir := o.logDir }
  sync := ⟨o.syncMode, o.syncSource, o.syncImage, ""⟩
  policy :=
    { Submission.initial.policy with
      cleanPods := o.cleanPods
      shareMemory := o.shareMemory
      procsPerNode := o.procsPerNode }
  queueName := o.queueName
  faults := o.faults
  innerType := o.innerType
  task := o.task
  topology := o.topology
  totalPartitions := o.totalPartitions
  partitionSize := o.partitionSize
  partitionTopology := o.partitionTopology
  ringController := o.ringController

/-- The deferred options. -/
def toBag (o : SubmitOptions) : Bag :=
  (o.repeated.entries.foldl (fun b e => b.insert e.1 (.texts e.2)) Bag.empty)
    |>.insert "running-timeout" (.span o.runningTimeout)
    |>.insert "ttl-after-finished" (.span o.ttlAfterFinished)

/-- The builder of a submission. -/
def toBuilder (o : SubmitOptions) (namespaceName : String) (words : List String) : Builder :=
  ⟨o.toSubmission namespaceName words, o.toBag⟩

/-! ### Kinds of options -/

/-- An option with a text. -/
def text (long : String) (set : String → SubmitOptions → SubmitOptions) :
    OptionSpec SubmitOptions :=
  ⟨long, none, .value fun v o => .ok (set v o), false, false⟩

/-- An option with a 32-bit integer. -/
def number (long : String) (set : Int32 → SubmitOptions → SubmitOptions) :
    OptionSpec SubmitOptions :=
  ⟨long, none, .value fun v o =>
    match Text.int32? v with
    | some n => .ok (set n o)
    | none => .error .valueValidation, false, false⟩

/-- An option with a length of time; its value can be any word. -/
def span (long : String) (set : Span → SubmitOptions → SubmitOptions) :
    OptionSpec SubmitOptions :=
  ⟨long, none, .value fun v o =>
    match Span.parse v with
    | .ok d => .ok (set d o)
    | .error _ => .error .valueValidation, false, true⟩

/-- An option that stands alone. -/
def switch (long : String) (set : SubmitOptions → SubmitOptions) : OptionSpec SubmitOptions :=
  ⟨long, none, .switch set, false, false⟩

/-- An option that can be given more than once. -/
def repeatable (long : String) (short? : Option Char)
    (add : String → RepeatedOptions → RepeatedOptions) : OptionSpec SubmitOptions :=
  ⟨long, short?, .value fun v o => .ok { o with repeated := add v o.repeated }, true, false⟩

/-- The truth value of a text. -/
def truth? (v : String) : Option Bool :=
  if v = "true" then some true else if v = "false" then some false else none

/-! ### The table -/

/-- The options that can be given more than once. -/
def repeatedTable : List (OptionSpec SubmitOptions) :=
  [repeatable "env" (some 'e') fun v r => { r with env := r.env ++ [v] },
   repeatable "selector" none fun v r => { r with selector := r.selector ++ [v] },
   repeatable "toleration" none fun v r => { r with toleration := r.toleration ++ [v] },
   repeatable "annotation" none fun v r => { r with annotation := r.annotation ++ [v] },
   repeatable "label" (some 'l') fun v r => { r with label := r.label ++ [v] },
   repeatable "data" none fun v r => { r with data := r.data ++ [v] },
   repeatable "data-dir" none fun v r => { r with dataDir := r.dataDir ++ [v] },
   repeatable "image-pull-secret" none fun v r =>
     { r with imagePullSecret := r.imagePullSecret ++ [v] },
   repeatable "device" none fun v r => { r with device := r.device ++ [v] },
   repeatable "config-file" none fun v r => { r with configFile := r.configFile ++ [v] }]

/-- The options that every job has. -/
def jobTable : List (OptionSpec SubmitOptions) :=
  [text "name" fun v o => { o with name := v },
   text "image" fun v o => { o with image := v },
   text "image-pull-policy" fun v o => { o with imagePullPolicy := v },
   number "gpus" fun n o => { o with gpus := n },
   number "workers" fun n o => { o with workers := n },
   text "priority" fun v o => { o with priority := v },
   switch "rdma" fun o => { o with rdma := true },
   switch "gang" fun o => { o with gang := true },
   text "working-dir" fun v o => { o with workingDir := v },
   text "shell" fun v o => { o with shell := v },
   text "scheduler-name" fun v o => { o with schedulerName := v }]

/-- The options of code fetching and the dashboard. -/
def serviceTable : List (OptionSpec SubmitOptions) :=
  [text "sync-mode" fun v o => { o with syncMode := v },
   text "sync-source" fun v o => { o with syncSource := v },
   text "sync-image" fun v o => { o with syncImage := v },
   switch "tensorboard" fun o => { o with dashboard := true },
   text "tensorboard-image" fun v o => { o with dashboardImage := v },
   text "logdir" fun v o => { o with logDir := v }]

/-- The options of resources, run policy and fault tolerance. -/
def policyTable : List (OptionSpec SubmitOptions) :=
  [text "clean-task-policy" fun v o => { o with cleanPods := v },
   text "cpu" fun v o => { o with cpu := v },
   text "memory" fun v o => { o with memory := v },
   span "running-timeout" fun d o => { o with runningTimeout := d },
   span "ttl-after-finished" fun d o => { o with ttlAfterFinished := d },
   text "share-memory" fun v o => { o with shareMemory := v },
   text "nproc-per-node" fun v o => { o with procsPerNode := v },
   text "kueue-queue" fun v o => { o with queueName := v },
   number "retry-limit" fun n o => { o with faults := { o.faults with retryLimit := n } },
   text "admission-grace-period" fun v o =>
     { o with faults := { o.faults with admissionGracePeriod := v } },
   text "warmup-grace-period" fun v o =>
     { o with faults := { o.faults with warmupGracePeriod := v } },
   text "failure-grace-period" fun v o =>
     { o with faults := { o.faults with failureGracePeriod := v } },
   text "retry-pause-period" fun v o =>
     { o with faults := { o.faults with retryPausePeriod := v } },
   text "success-ttl" fun v o => { o with faults := { o.faults with successTtl := v } }]

/-- The options of the inner workload. -/
def innerTable : List (OptionSpec SubmitOptions) :=
  [text "inner-type" fun v o => { o with innerType := v },
   number "min-available" fun n o => { o with task := { o.task with minAvailable := n } },
   text "task-name" fun v o => { o with task := { o.task with name := v } },
   number "max-retry" fun n o => { o with task := { o.task with maxRetry := n } },
   number "replicas" fun n o => { o with task := { o.task with replicas := n } },
   number "master-port" fun n o => { o with task := { o.task with masterPort := n } },
   ⟨"use-svc-plugin", none, .value fun v o =>
     match truth? v with
     | some b => .ok { o with task := { o.task with useServicePlugin := some b } }
     | none => .error .invalidValue, false, false⟩,
   text "network-topology-mode" fun v o => { o with topology := { o.topology with mode := v } },
   number "highest-tier-allowed" fun n o =>
     { o with topology := { o.topology with highestTier := n } },
   number "total-partitions" fun n o => { o with totalPartitions := n },
   number "partition-size" fun n o => { o with partitionSize := n },
   text "partition-topology-mode" fun v o =>
     { o with partitionTopology := { o.partitionTopology with mode := v } },
   number "partition-highest-tier" fun n o =>
     { o with partitionTopology := { o.partitionTopology with highestTier := n } },
   text "ring-controller" fun v o => { o with ringController := v }]

/-- All options of a submission. -/
def table : List (OptionSpec SubmitOptions) :=
  repeatedTable ++ jobTable ++ serviceTable ++ policyTable ++ innerTable

end SubmitOptions

end WrappedTraining.CommandLine
