import WrappedTraining.Json.Field
import WrappedTraining.Submission

/-!
# Submissions as records

A submission is written as one flat JSON object. `Submission.fields` is its table: the order in
which fields are written, the keys, and which fields are left out when they are empty.
-/

namespace WrappedTraining

namespace HostVolume

/-- The fields of a volume. -/
def fields : List (Json.Field HostVolume) :=
  [.text "name" (·.name) fun v x => { v with name := x },
   .text "hostPath" (·.hostPath) fun v x => { v with hostPath := x },
   .text "containerPath" (·.containerPath) fun v x => { v with containerPath := x }]

/-- The volume as a record. -/
def toJson (v : HostVolume) : Json := Json.writeAll fields v

/-- The volume of a record. -/
def ofJson? (j : Json) : Option HostVolume := Json.readRecord? fields ⟨"", "", ""⟩ j

end HostVolume

namespace Submission

/-- Change the part of a submission that every job has. -/
def setJob (s : Submission) (f : JobSpec → JobSpec) : Submission := { s with job := f s.job }

/-- The fields that every job has. -/
def jobFields : List (Json.Field Submission) :=
  [.text "name" (·.job.name) fun s x => s.setJob ({ · with name := x }),
   .text "namespace" (·.job.namespaceName) fun s x => s.setJob ({ · with namespaceName := x }),
   .text "image" (·.job.image) fun s x => s.setJob ({ · with image := x }),
   .text "imagePullPolicy" (·.job.imagePullPolicy) fun s x =>
     s.setJob ({ · with imagePullPolicy := x }),
   .text "command" (·.job.command) fun s x => s.setJob ({ · with command := x }),
   .text "shell" (·.job.shell) fun s x => s.setJob ({ · with shell := x }),
   .text "workingDir" (·.job.workingDir) fun s x => s.setJob ({ · with workingDir := x }),
   .number "gpuCount" (·.job.gpuCount) fun s x => s.setJob ({ · with gpuCount := x }),
   .number "workerCount" (·.job.workerCount) fun s x => s.setJob ({ · with workerCount := x }),
   .texts "envs" (·.job.envs) fun s x => s.setJob ({ · with envs := x }),
   .texts "annotations" (·.job.annotations) fun s x => s.setJob ({ · with annotations := x }),
   .texts "labels" (·.job.labels) fun s x => s.setJob ({ · with labels := x }),
   .texts "nodeSelectors" (·.job.nodeSelectors) fun s x =>
     s.setJob ({ · with nodeSelectors := x }),
   .list "tolerations" (·.job.tolerations) (fun s x => s.setJob ({ · with tolerations := x }))
     Toleration.toJson Toleration.ofJson?,
   .texts "dataSet" (·.job.dataSets) fun s x => s.setJob ({ · with dataSets := x }),
   .list "dataDirs" (·.job.dataDirs) (fun s x => s.setJob ({ · with dataDirs := x }))
     HostVolume.toJson HostVolume.ofJson?,
   .list "imagePullSecrets" (·.job.imagePullSecrets)
     (fun s x => s.setJob ({ · with imagePullSecrets := x })) .str Json.str?,
   .textsOrEmpty "devices" (·.job.devices) fun s x => s.setJob ({ · with devices := x }),
   .textsOrEmpty "configFiles" (·.job.configFiles) fun s x =>
     s.setJob ({ · with configFiles := x }),
   .textOrEmpty "priorityClassName" (·.job.priorityClass) fun s x =>
     s.setJob ({ · with priorityClass := x }),
   .flag "enableRdma" (·.job.enableRdma) fun s x => s.setJob ({ · with enableRdma := x }),
   .flag "coscheduling" (·.job.coscheduling) fun s x => s.setJob ({ · with coscheduling := x }),
   .textOrEmpty "podGroupName" (·.job.podGroupName) fun s x =>
     s.setJob ({ · with podGroupName := x }),
   .textOrEmpty "podGroupMinAvailable" (·.job.podGroupMinAvailable) fun s x =>
     s.setJob ({ · with podGroupMinAvailable := x }),
   .text "schedulerName" (·.job.schedulerName) fun s x => s.setJob ({ · with schedulerName := x }),
   .required "trainingType" (fun _ => ()) (fun s _ => s) (fun _ => .str trainer)
     fun j => if j.choice? Json.isNothing = some trainer then some () else none]

/-- The fields of the dashboard. -/
def dashboardFields : List (Json.Field Submission) :=
  [.flag "useTensorboard" (·.dashboard.enabled) fun s x =>
     { s with dashboard := { s.dashboard with enabled := x } },
   .text "tensorboardImage" (·.dashboard.image) fun s x =>
     { s with dashboard := { s.dashboard with image := x } },
   .text "trainingLogdir" (·.dashboard.logDir) fun s x =>
     { s with dashboard := { s.dashboard with logDir := x } },
   .textOrEmpty "hostLogPath" (·.dashboard.hostLogPath) fun s x =>
     { s with dashboard := { s.dashboard with hostLogPath := x } },
   .flag "isLocalLogging" (·.dashboard.isLocal) fun s x =>
     { s with dashboard := { s.dashboard with isLocal := x } }]

/-- The fields of code fetching. -/
def syncFields : List (Json.Field Submission) :=
  [.textOrEmpty "syncMode" (·.sync.mode) fun s x => { s with sync := { s.sync with mode := x } },
   .textOrEmpty "syncSource" (·.sync.source) fun s x =>
     { s with sync := { s.sync with source := x } },
   .textOrEmpty "syncImage" (·.sync.image) fun s x => { s with sync := { s.sync with image := x } },
   .textOrEmpty "syncGitProjectName" (·.sync.projectName) fun s x =>
     { s with sync := { s.sync with projectName := x } }]

/-- The fields of the run policy. -/
def policyFields : List (Json.Field Submission) :=
  [.text "cleanPodPolicy" (·.policy.cleanPods) fun s x =>
     { s with policy := { s.policy with cleanPods := x } },
   .required "activeDeadlineSeconds" (·.policy.activeDeadlineSeconds)
     (fun s x => { s with policy := { s.policy with activeDeadlineSeconds := x } })
     Json.ofInt64 Json.int64?,
   .number "ttlSecondsAfterFinished" (·.policy.ttlSecondsAfterFinished) fun s x =>
     { s with policy := { s.policy with ttlSecondsAfterFinished := x } },
   .text "shareMemory" (·.policy.shareMemory) fun s x =>
     { s with policy := { s.policy with shareMemory := x } },
   .textOrEmpty "nprocPerNode" (·.policy.procsPerNode) fun s x =>
     { s with policy := { s.policy with procsPerNode := x } }]

/-- The fields of queueing and fault tolerance. -/
def faultFields : List (Json.Field Submission) :=
  [.textOrEmpty "kueueQueueName" (·.queueName) fun s x => { s with queueName := x },
   .number "retryLimit" (·.faults.retryLimit) fun s x =>
     { s with faults := { s.faults with retryLimit := x } },
   .text "admissionGracePeriod" (·.faults.admissionGracePeriod) fun s x =>
     { s with faults := { s.faults with admissionGracePeriod := x } },
   .text "warmupGracePeriod" (·.faults.warmupGracePeriod) fun s x =>
     { s with faults := { s.faults with warmupGracePeriod := x } },
   .text "failureGracePeriod" (·.faults.failureGracePeriod) fun s x =>
     { s with faults := { s.faults with failureGracePeriod := x } },
   .text "retryPausePeriod" (·.faults.retryPausePeriod) fun s x =>
     { s with faults := { s.faults with retryPausePeriod := x } },
   .textOrEmpty "successTtl" (·.faults.successTtl) fun s x =>
     { s with faults := { s.faults with successTtl := x } }]

/-- The fields of the inner workload. -/
def innerFields : List (Json.Field Submission) :=
  [.text "innerJobType" (·.innerType) fun s x => { s with innerType := x },
   .number "minAvailable" (·.task.minAvailable) fun s x =>
     { s with task := { s.task with minAvailable := x } },
   .text "taskName" (·.task.name) fun s x => { s with task := { s.task with name := x } },
   .number "maxRetry" (·.task.maxRetry) fun s x => { s with task := { s.task with maxRetry := x } },
   .number "replicas" (·.task.replicas) fun s x => { s with task := { s.task with replicas := x } },
   .number "masterPort" (·.task.masterPort) fun s x =>
     { s with task := { s.task with masterPort := x } },
   .omitted "useSvcPlugin" none (·.task.useServicePlugin)
     (fun s x => { s with task := { s.task with useServicePlugin := x } })
     (fun x => match x with
       | some b => .bool b
       | none => .null)
     fun j => if j.isNull then some none else j.bool?.map some,
   .textOrEmpty "networkTopologyMode" (·.topology.mode) fun s x =>
     { s with topology := { s.topology with mode := x } },
   .number "highestTierAllowed" (·.topology.highestTier) fun s x =>
     { s with topology := { s.topology with highestTier := x } },
   .number "totalPartitions" (·.totalPartitions) fun s x => { s with totalPartitions := x },
   .number "partitionSize" (·.partitionSize) fun s x => { s with partitionSize := x },
   .textOrEmpty "partitionNetworkTopologyMode" (·.partitionTopology.mode) fun s x =>
     { s with partitionTopology := { s.partitionTopology with mode := x } },
   .number "partitionHighestTierAllowed" (·.partitionTopology.highestTier) fun s x =>
     { s with partitionTopology := { s.partitionTopology with highestTier := x } },
   .textOrEmpty "ringController" (·.ringController) fun s x => { s with ringController := x }]

/-- All fields of a submission in writing order. -/
def fields : List (Json.Field Submission) :=
  [.textOrEmpty "cpu" (·.cpu) fun s x => { s with cpu := x },
   .textOrEmpty "memory" (·.memory) fun s x => { s with memory := x }]
  ++ jobFields ++ dashboardFields ++ syncFields ++ policyFields ++ faultFields ++ innerFields

/-- The submission as a record. -/
def toJson (s : Submission) : Json := Json.writeAll fields s

/-- The submission of a record. -/
def ofJson? (j : Json) : Option Submission := Json.readAll? fields initial j

end Submission

end WrappedTraining
