import WrappedTraining.Cluster.Pod
import WrappedTraining.Envelope

/-!
# Jobs

A `Job` is an envelope together with the pods that belong to it. `Job.ofCandidates` keeps the
members of a list of pods; everything else is a view: the chief, GPUs, age and duration, the
address of the logs, and the `JobSummary` that listings show. GPUs are added up in 64 bits; a job
whose sums leave them has no summary.
-/

namespace WrappedTraining

/-- An envelope and its pods. -/
structure Job where
  envelope : Envelope
  /-- The pods that belong to the envelope. -/
  pods : List Pod
deriving DecidableEq

/-- What a listing shows of a job. -/
structure JobSummary where
  name : String
  namespaceName : String
  status : JobStatus
  ageSeconds : Int
  durationSeconds : Int
  chief? : Option String
  podCount : Nat
  requestedGpus : Int
  allocatedGpus : Int
  hostIp : String
  priorityClass : String
  retries : Int32
deriving DecidableEq

namespace Job

/-- The job of an envelope, with the candidates that belong to it in their order. -/
def ofCandidates (e : Envelope) (candidates : List Pod) : Job :=
  ⟨e, candidates.filter fun p => p.isMemberOf e.name e.namespaceName⟩

/-! ### The chief -/

/-- The place of the chief among the pods. -/
def chiefIndex? (j : Job) : Option Nat := Pod.chiefIndex? j.pods

/-- The pod that leads the others. -/
def chief? (j : Job) : Option Pod := j.chiefIndex?.bind fun i => j.pods[i]?

/-- The name of the chief. -/
def chiefName? (j : Job) : Option String := j.chief?.bind fun p => p.metadata.name?

/-! ### Status and time -/

/-- The status of the job. -/
def status (j : Job) : JobStatus := j.envelope.jobStatus

/-- The message of the first condition of a kind, empty when there is none. -/
def conditionMessage (j : Job) (kind : String) : String :=
  match j.envelope.condition? kind with
  | some c => c.message
  | none => ""

/-- When the envelope was created. -/
def started? (j : Job) : Option Instant := j.envelope.metadata.created?

/-- The time since the envelope was created. -/
def ageAt (j : Job) (now : Instant) : Span :=
  match j.started? with
  | some t => now.since t
  | none => .zero

/-- When the pods became ready: the first time that a holding condition gives. -/
def readyTime? (j : Job) : Option Instant :=
  (j.envelope.status.conditions.filter fun c =>
    c.kind = Condition.podsReady ∧ c.truth = .yes).findSome? (·.changed?)

/-- The time until the pods became ready. A job that never said so counts from its creation while
it runs and after it succeeded, and has no duration otherwise. -/
def durationAt (j : Job) (now : Instant) : Span :=
  match j.started? with
  | none => .zero
  | some created =>
    match j.readyTime? with
    | some ready => ready.since created
    | none =>
      match j.status with
      | .running => now.since created
      | .succeeded => now.since created
      | _ => .zero

/-! ### Resources -/

/-- The GPU limits of all pods together. -/
def limitGpus? (j : Job) : Option Int := Pod.together? Pod.gpus? j.pods

/-- The GPU request that a pod carries for the job, or the GPU limits of all pods together. -/
def requestedGpus? (j : Job) : Option Int :=
  match Pod.annotatedAmong? j.pods with
  | some n => some n
  | none => j.limitGpus?

/-- The GPUs that the pods hold now. -/
def allocatedGpus? (j : Job) : Option Int := Pod.together? Pod.activeGpus? j.pods

/-- What is shown for something that is not known. -/
def notAvailable : String := "N/A"

/-- The address of the chief's host while the job runs. -/
def hostIp (j : Job) : String :=
  if j.status = .running then (j.chief?.bind (·.hostIp?)).getD notAvailable else notAvailable

/-- The priority class of the chief, empty when there is none. -/
def priorityClass (j : Job) : String := (j.chief?.bind (·.priorityClass?)).getD ""

/-- The page with the logs of the chief's first container, below the address of a dashboard. -/
def logUrl? (j : Job) (dashboard : String) : Option String := do
  let chief ← j.chief?
  let container ← chief.containers.head?
  let ns ← chief.metadata.namespaceName?
  let pod ← chief.metadata.name?
  return Text.trimEnd (· = '/') dashboard ++ "/#!/log/" ++ ns ++ "/" ++ pod ++ "/" ++
    container.name ++ "?namespace=" ++ ns

/-! ### Summaries -/

/-- The summary of the job. -/
def summaryAt? (j : Job) (now : Instant) : Option JobSummary := do
  let requested ← j.requestedGpus?
  let allocated ← j.allocatedGpus?
  return {
    name := j.envelope.name
    namespaceName := j.envelope.namespaceName
    status := j.status
    ageSeconds := (j.ageAt now).seconds
    durationSeconds := (j.durationAt now).seconds
    chief? := j.chiefName?
    podCount := j.pods.length
    requestedGpus := requested
    allocatedGpus := allocated
    hostIp := j.hostIp
    priorityClass := j.priorityClass
    retries := j.envelope.status.resets }

end Job

/-- The summary as a record. -/
def JobSummary.toJson (s : JobSummary) : Json :=
  .obj ([("name", .str s.name), ("namespace", .str s.namespaceName),
      ("trainer", .str Submission.trainer), ("status", .str s.status.name),
      ("ageSeconds", .int s.ageSeconds), ("durationSeconds", .int s.durationSeconds)]
    ++ Json.optional "chief" (s.chief?.map .str)
    ++ [("pods", .int s.podCount), ("requestedGpus", .int s.requestedGpus),
      ("allocatedGpus", .int s.allocatedGpus), ("hostIp", .str s.hostIp)]
    ++ Json.optional "priorityClass" ((Text.nonEmpty? s.priorityClass).map .str)
    ++ [("retries", .ofInt32 s.retries)])

end WrappedTraining
