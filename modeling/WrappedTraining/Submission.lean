import WrappedTraining.Toleration

/-!
# Submissions

A `Submission` says all there is to say about a training job that is to run inside an envelope.
It starts from `Submission.initial`, is filled from options, and is completed and checked when it
is built.

* `JobSpec` holds what every job has: names, image, counts, variables, volumes;
* `Dashboard` and `CodeSync` are the side services of a job;
* `RunPolicy` and `FaultTolerance` say how long it may run and how often it is retried;
* `TaskSpec`, `Topology` and the partition counts matter to jobs of the inner type volcano.
-/

namespace WrappedTraining

/-- A directory of the host mounted into the containers. -/
structure HostVolume where
  name : String
  hostPath : String
  containerPath : String
deriving DecidableEq

/-- What every job has. -/
structure JobSpec where
  name : String
  namespaceName : String
  image : String
  imagePullPolicy : String
  command : String
  shell : String
  workingDir : String
  /-- GPUs of each worker. -/
  gpuCount : Int32
  workerCount : Int32
  envs : Dict String
  annotations : Dict String
  labels : Dict String
  nodeSelectors : Dict String
  tolerations : List Toleration
  /-- Mount paths of volume claims, by the name of the claim. -/
  dataSets : Dict String
  dataDirs : List HostVolume
  imagePullSecrets : List String
  /-- Counts of chips, by the name of the resource. -/
  devices : Dict String
  /-- Container paths of configuration files, by their local path. -/
  configFiles : Dict String
  priorityClass : String
  enableRdma : Bool
  /-- Pods are scheduled together or not at all. -/
  coscheduling : Bool
  podGroupName : String
  podGroupMinAvailable : String
  schedulerName : String
deriving DecidableEq

/-- The service that shows training logs. -/
structure Dashboard where
  enabled : Bool
  image : String
  logDir : String
  /-- Where logs are kept on the host. -/
  hostLogPath : String
  /-- Logs are kept on the host and not on a data set. -/
  isLocal : Bool
deriving DecidableEq

/-- How sources are fetched before the job starts. -/
structure CodeSync where
  mode : String
  source : String
  image : String
  /-- The directory that a repository is fetched into. -/
  projectName : String
deriving DecidableEq

/-- When a job ends and what is cleaned up. -/
structure RunPolicy where
  /-- Which pods are removed at the end: `None`, `Running` or `All`. -/
  cleanPods : String
  activeDeadlineSeconds : Int64
  ttlSecondsAfterFinished : Int32
  shareMemory : String
  /-- Processes of a node: `auto`, `cpu`, `gpu` or a number. -/
  procsPerNode : String
deriving DecidableEq

/-- How failures of a job are met. -/
structure FaultTolerance where
  retryLimit : Int32
  admissionGracePeriod : String
  warmupGracePeriod : String
  failureGracePeriod : String
  retryPausePeriod : String
  successTtl : String
deriving DecidableEq

/-- The task of a volcano job. -/
structure TaskSpec where
  minAvailable : Int32
  name : String
  maxRetry : Int32
  replicas : Int32
  masterPort : Int32
  useServicePlugin : Option Bool
deriving DecidableEq

/-- Where in the network the pods of a volcano job are placed. -/
structure Topology where
  /-- `hard`, `soft` or empty. -/
  mode : String
  highestTier : Int32
deriving DecidableEq

/-- A training job that is to run inside an envelope. -/
structure Submission where
  cpu : String
  memory : String
  job : JobSpec
  dashboard : Dashboard
  sync : CodeSync
  policy : RunPolicy
  /-- The queue that admits the envelope. -/
  queueName : String
  faults : FaultTolerance
  /-- The workload inside the envelope; any text until it is checked. -/
  innerType : String
  task : TaskSpec
  topology : Topology
  totalPartitions : Int32
  partitionSize : Int32
  partitionTopology : Topology
  ringController : String
deriving DecidableEq

/-- The workloads an envelope can hold. -/
inductive InnerType where
  | pytorch
  | volcano
deriving DecidableEq, Inhabited

namespace InnerType

/-- The name of a workload. -/
def name : InnerType → String
  | .pytorch => "pytorch"
  | .volcano => "volcano"

/-- The workload of a name. -/
def ofName? (s : String) : Option InnerType :=
  if s = "pytorch" then some .pytorch else if s = "volcano" then some .volcano else none

/-- The text of the error for a name that is no workload. -/
def unsupported (s : String) : String :=
  "unsupported inner job type " ++ s ++ ", supported types are 'pytorch' and 'volcano'"

end InnerType

/-! ### Initial values -/

/-- The log directory when none is given. -/
def Dashboard.defaultLogDir : String := "/training_logs"

/-- The job before any option. -/
def JobSpec.initial : JobSpec where
  name := ""
  namespaceName := "default"
  image := ""
  imagePullPolicy := "IfNotPresent"
  command := ""
  shell := "sh"
  workingDir := "/root"
  gpuCount := 0
  workerCount := 1
  envs := .empty
  annotations := .empty
  labels := .empty
  nodeSelectors := .empty
  tolerations := []
  dataSets := .empty
  dataDirs := []
  imagePullSecrets := []
  devices := .empty
  configFiles := .empty
  priorityClass := ""
  enableRdma := false
  coscheduling := false
  podGroupName := ""
  podGroupMinAvailable := ""
  schedulerName := "volcano"

/-- The dashboard before any option. -/
def Dashboard.initial : Dashboard where
  enabled := false
  image := "registry.cn-zhangjiakou.aliyuncs.com/tensorflow-samples/tensorflow:1.12.0-devel"
  logDir := Dashboard.defaultLogDir
  hostLogPath := ""
  isLocal := false

namespace Submission

/-- The kind of job that is submitted, as records and pods name it. -/
def trainer : String := "appwrapperjob"

/-- The submission before any option. -/
def initial : Submission where
  cpu := ""
  memory := ""
  job := .initial
  dashboard := .initial
  sync := ⟨"", "", "", ""⟩
  policy := ⟨"Running", 0, 0, "2Gi", ""⟩
  queueName := ""
  faults := ⟨3, "1m", "5m", "1m", "90s", ""⟩
  innerType := InnerType.pytorch.name
  task := ⟨0, "worker", 10000, 1, 23456, none⟩
  topology := ⟨"", 0⟩
  totalPartitions := 0
  partitionSize := 0
  partitionTopology := ⟨"", 0⟩
  ringController := ""

instance : Inhabited Submission := ⟨initial⟩

/-- The workload is volcano. -/
def isVolcano (s : Submission) : Bool := s.innerType = InnerType.volcano.name

/-- The workload, when the text names one. -/
def innerType? (s : Submission) : Option InnerType := InnerType.ofName? s.innerType

end Submission

end WrappedTraining
