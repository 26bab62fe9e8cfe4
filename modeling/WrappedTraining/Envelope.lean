import WrappedTraining.Cluster.Metadata
import WrappedTraining.Labels
import WrappedTraining.Submission

/-!
# Envelopes

An `Envelope` is the cluster object that wraps the workload of a job. Its phase and its conditions
together give the status of the job: `Envelope.jobStatus`.
-/

namespace WrappedTraining

/-! ### Phases and conditions -/

/-- The stage of life of an envelope. -/
inductive Phase where
  /-- The controller has not seen the envelope. -/
  | unseen
  | suspended
  | resuming
  | running
  | resetting
  | suspending
  | succeeded
  | failed
  | terminating
  /-- A phase of another name. -/
  | unknown
deriving DecidableEq, Inhabited

namespace Phase

/-- The name of a phase. -/
def name : Phase → String
  | .unseen => ""
  | .suspended => "Suspended"
  | .resuming => "Resuming"
  | .running => "Running"
  | .resetting => "Resetting"
  | .suspending => "Suspending"
  | .succeeded => "Succeeded"
  | .failed => "Failed"
  | .terminating => "Terminating"
  | .unknown => "Unknown"

/-- The phases that a record can name. -/
def named : List Phase :=
  [unseen, suspended, resuming, running, resetting, suspending, succeeded, failed, terminating]

/-- The phase of a name. -/
def ofName (s : String) : Phase := (named.find? fun p => p.name = s).getD unknown

end Phase

/-- Whether a condition holds. -/
inductive Truth where
  | yes
  | no
  | unknown
deriving DecidableEq, Inhabited

namespace Truth

/-- The name of a truth value. -/
def name : Truth → String
  | .yes => "True"
  | .no => "False"
  | .unknown => "Unknown"

/-- The truth value of a name. -/
def ofName (s : String) : Truth := if s = "True" then yes else if s = "False" then no else unknown

end Truth

/-- A statement of the controller about an envelope. -/
structure Condition where
  /-- What the statement is about; empty when the controller did not say. -/
  kind : String
  truth : Truth
  reason : String
  message : String
  /-- When the truth value changed. -/
  changed? : Option Instant
deriving DecidableEq

/-- What the controller says about an envelope. -/
structure EnvelopeStatus where
  phase : Phase
  /-- How often the workload was started again. -/
  resets : Int32
  conditions : List Condition
deriving DecidableEq

/-- A cluster object that wraps the workload of a job. -/
structure Envelope where
  metadata : Metadata
  status : EnvelopeStatus
deriving DecidableEq

namespace Condition

/-- Quota is reserved for the workload. -/
def quotaReserved : String := "QuotaReserved"

/-- The pods of the workload are ready. -/
def podsReady : String := "PodsReady"

/-- The workload has failed and was not reset yet. -/
def unhealthy : String := "Unhealthy"

/-- The parts of a record in their order. -/
def keys : List String := ["type", "status", "reason", "message", "lastTransitionTime"]

/-- The condition of a record; each part can be missing. -/
def ofJson? (j : Json) : Option Condition := do
  let j ← j.record? keys
  let kind ← j.fieldOr? "type" "" Json.str?
  let truth ← j.fieldOr? "status" .unknown fun v =>
    (v.choice? Json.isNull).map Truth.ofName
  let reason ← j.fieldOr? "reason" "" Json.str?
  let message ← j.fieldOr? "message" "" Json.str?
  let changed? ← j.nullable? "lastTransitionTime" Metadata.instant?
  return ⟨kind, truth, reason, message, changed?⟩

/-- The condition as a record. -/
def toJson (c : Condition) : Json :=
  .obj ([("type", .str c.kind), ("status", .str c.truth.name), ("reason", .str c.reason),
      ("message", .str c.message)]
    ++ Json.optional "lastTransitionTime" (c.changed?.map fun t => .str t.text))

end Condition

namespace EnvelopeStatus

/-- The status of an envelope that no controller has seen. -/
def empty : EnvelopeStatus := ⟨.unseen, 0, []⟩

/-- The parts of a record in their order. -/
def keys : List String := ["phase", "resettingCount", "conditions"]

/-- The status of a record; each part can be missing. -/
def ofJson? (j : Json) : Option EnvelopeStatus := do
  let j ← j.record? keys
  let phase ← j.fieldOr? "phase" .unseen fun v =>
    (v.choice? Json.isNull).map Phase.ofName
  let resets ← j.fieldOr? "resettingCount" 0 Json.int32?
  let conditions ← j.fieldOr? "conditions" [] (Json.list? Condition.ofJson?)
  return ⟨phase, resets, conditions⟩

/-- The status as a record. -/
def toJson (s : EnvelopeStatus) : Json :=
  .obj [("phase", .str s.phase.name), ("resettingCount", .ofInt32 s.resets),
    ("conditions", .arr (s.conditions.map Condition.toJson))]

end EnvelopeStatus

/-! ### The status of a job -/

/-- The stages of life of a job, as they are shown. -/
inductive JobStatus where
  | queuing
  | pending
  | running
  | succeeded
  | failed
deriving DecidableEq, Inhabited

namespace JobStatus

/-- The name of a status. -/
def name : JobStatus → String
  | .queuing => "QUEUING"
  | .pending => "PENDING"
  | .running => "RUNNING"
  | .succeeded => "SUCCEEDED"
  | .failed => "FAILED"

/-- Nothing more happens to the job. -/
def isTerminal (s : JobStatus) : Bool := s = succeeded || s = failed

end JobStatus

namespace Envelope

/-- The name, empty when there is none. -/
def name (e : Envelope) : String := e.metadata.name?.getD ""

/-- The namespace, empty when there is none. -/
def namespaceName (e : Envelope) : String := e.metadata.namespaceName?.getD ""

/-- The first condition of a kind. -/
def condition? (e : Envelope) (kind : String) : Option Condition :=
  e.status.conditions.find? fun c => c.kind = kind

/-- The first condition of a kind holds. -/
def holds (e : Envelope) (kind : String) : Bool :=
  match e.condition? kind with
  | some c => c.truth = .yes
  | none => false

/-- The status of the job. A resuming envelope waits in its queue until quota is reserved, and a
running one that is unhealthy has failed. -/
def jobStatus (e : Envelope) : JobStatus :=
  match e.status.phase with
  | .unseen => .queuing
  | .suspended => .queuing
  | .resuming => if e.holds Condition.quotaReserved then .pending else .queuing
  | .running => if e.holds Condition.unhealthy then .failed else .running
  | .succeeded => .succeeded
  | .failed => .failed
  | .resetting => .pending
  | .suspending => .pending
  | .terminating => .pending
  | .unknown => .pending

/-- The envelope was created for a job of this kind. -/
def isOwned (e : Envelope) : Bool := e.metadata.hasLabel Labels.app Submission.trainer

/-- What the controller says in a record. -/
def statusOf? (j : Json) : Option EnvelopeStatus := j.fieldOr? "status" .empty EnvelopeStatus.ofJson?

/-- The metadata of a record. -/
def metadataOf? (j : Json) : Option Metadata := j.fieldOr? "metadata" .empty Metadata.ofJson?

/-- The parts of a record in their order; the workload itself is not looked at. -/
def keys : List String := ["metadata", "spec", "status"]

/-- The envelope of a record. -/
def ofJson? (j : Json) : Option Envelope := do
  let j ← j.record? keys
  return ⟨← metadataOf? j, ← statusOf? j⟩

end Envelope

end WrappedTraining
