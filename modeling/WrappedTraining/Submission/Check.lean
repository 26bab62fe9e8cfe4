import WrappedTraining.Submission.Error

/-!
# Checks on a submission

Every rule that a submission has to keep is a function that gives the fault it finds.
`Submission.faults` puts them in order, and `Submission.fault?` is the first fault that is found.
-/

namespace WrappedTraining.Submission

/-- There is an image. -/
def imageFault? (s : Submission) : Option Error :=
  if s.job.image = "" then some .imageMissing else none

/-- The pods to clean up are named. -/
def cleanPodsFault? (s : Submission) : Option Error :=
  if ["None", "Running", "All"].contains s.policy.cleanPods then none
  else some (.cleanPodsUnsupported s.policy.cleanPods)

/-- The GPU count is not negative. -/
def gpusFault? (s : Submission) : Option Error :=
  if s.job.gpuCount < 0 then some .gpusNegative else none

/-- A text that is given is a quantity. -/
def quantityFault? (option value : String) : Option Error :=
  if value = "" ∨ Quantity.isValid value then none else some (.quantity option)

/-- The active deadline is not negative. -/
def deadlineFault? (s : Submission) : Option Error :=
  if s.policy.activeDeadlineSeconds < 0 then some .deadlineNegative else none

/-- The time to live is not negative. -/
def ttlFault? (s : Submission) : Option Error :=
  if s.policy.ttlSecondsAfterFinished < 0 then some .ttlNegative else none

/-- The processes of a node are left out, named, or a 64-bit integer. -/
def procsPerNodeFault? (s : Submission) : Option Error :=
  if ["", "auto", "cpu", "gpu"].contains s.policy.procsPerNode ∨
      (Text.int64? s.policy.procsPerNode).isSome then none
  else some .procsPerNode

/-- The retry limit is not negative. -/
def retryLimitFault? (s : Submission) : Option Error :=
  if s.faults.retryLimit < 0 then some .retryLimitNegative else none

/-- A text that is given is a length of time. -/
def periodFault? (option value : String) : Option Error :=
  if value = "" then none
  else match Span.parse value with
    | .ok _ => none
    | .error e => some (.period option e)

/-- The inner type names a workload. -/
def innerTypeFault? (s : Submission) : Option Error :=
  if s.innerType?.isSome then none else some (.innerTypeUnsupported s.innerType)

/-- The port of the master is a port. -/
def masterPortFault? (s : Submission) : Option Error :=
  if 1 ≤ s.task.masterPort ∧ s.task.masterPort ≤ 65535 then none
  else some (.masterPort s.task.masterPort)

/-- A topology mode is left out, `hard` or `soft`. -/
def topologyFault? (option mode : String) : Option Error :=
  if ["", "hard", "soft"].contains mode then none else some (.topologyMode option mode)

/-- The number and the size of partitions are given together. -/
def partitionFault? (s : Submission) : Option Error :=
  if 0 < s.totalPartitions ∧ s.partitionSize ≤ 0 then some .partitionSizeMissing
  else if 0 < s.partitionSize ∧ s.totalPartitions ≤ 0 then some .totalPartitionsMissing
  else none

/-- What is asked of volcano jobs alone. -/
def volcanoFaults (s : Submission) : List (Option Error) :=
  if s.isVolcano then
    [s.masterPortFault?,
     topologyFault? "network-topology-mode" s.topology.mode,
     topologyFault? "partition-topology-mode" s.partitionTopology.mode,
     s.partitionFault?]
  else []

/-- The outcomes of all checks in the order in which they are made. -/
def checks (s : Submission) : List (Option Error) :=
  [s.imageFault?,
   s.cleanPodsFault?,
   s.gpusFault?,
   quantityFault? "cpu" s.cpu,
   quantityFault? "memory" s.memory,
   quantityFault? "share-memory" s.policy.shareMemory,
   s.deadlineFault?,
   s.ttlFault?,
   s.procsPerNodeFault?,
   s.retryLimitFault?,
   periodFault? "admission-grace-period" s.faults.admissionGracePeriod,
   periodFault? "warmup-grace-period" s.faults.warmupGracePeriod,
   periodFault? "failure-grace-period" s.faults.failureGracePeriod,
   periodFault? "retry-pause-period" s.faults.retryPausePeriod,
   periodFault? "success-ttl" s.faults.successTtl,
   s.innerTypeFault?] ++ s.volcanoFaults

/-- The first fault that a check finds. -/
def fault? (s : Submission) : Option Error := s.checks.findSome? id

end WrappedTraining.Submission
