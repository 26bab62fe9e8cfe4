import WrappedTraining.Cluster.Metadata
import WrappedTraining.Labels
import WrappedTraining.Quantity
import WrappedTraining.Submission

/-!
# Pods

A `Pod` is what a job knows about one of its instances. Three questions are answered about it:

* `Pod.isMemberOf`: does it belong to an envelope;
* `Pod.gpus?` and `Pod.activeGpus?`: how many GPUs may it use, and does it hold them now;
* `Pod.chiefRules`: the marks of the instance that leads the others, best mark first.
-/

namespace WrappedTraining

/-- A container of a pod. -/
structure Container where
  name : String
  /-- Upper limits on resources, by the name of the resource. -/
  limits : Dict String
deriving DecidableEq

/-- An instance of a job. -/
structure Pod where
  metadata : Metadata
  containers : List Container
  nodeName? : Option String
  priorityClass? : Option String
  phase? : Option String
  startTime? : Option Instant
  hostIp? : Option String
deriving DecidableEq

namespace Pod

/-! ### Records -/

/-- The object below a field that can be missing or `null`; it has no fields then. -/
def part? (j : Json) (k : String) : Option Json := do
  let v? ← j.nullable? k Json.object?
  return v?.getD (.obj [])

/-- The container of a record. -/
def containerOf? (j : Json) : Option Container := do
  let j ← j.object?
  let name? ← j.nullable? "name" Json.str?
  let resources ← part? j "resources"
  let limits? ← resources.nullable? "limits" (Json.dict? Json.str?)
  return ⟨name?.getD "", limits?.getD .empty⟩

/-- A record that says what it is says this. -/
def isOf (j : Json) (key value : String) : Bool :=
  match j.field? key with
  | none => true
  | some v => v.str? = some value

/-- The pod of a record. -/
def ofJson? (j : Json) : Option Pod := do
  let j ← j.object?
  if !(isOf j "apiVersion" "v1" && isOf j "kind" "Pod") then failure
  let metadata? ← j.nullable? "metadata" Metadata.ofJson?
  let spec ← part? j "spec"
  let containers? ← spec.nullable? "containers" (Json.list? containerOf?)
  let nodeName? ← spec.nullable? "nodeName" Json.str?
  let priorityClass? ← spec.nullable? "priorityClassName" Json.str?
  let status ← part? j "status"
  let phase? ← status.nullable? "phase" Json.str?
  let startTime? ← status.nullable? "startTime" Metadata.instant?
  let hostIp? ← status.nullable? "hostIP" Json.str?
  return ⟨metadata?.getD .empty, containers?.getD [], nodeName?, priorityClass?, phase?, startTime?,
    hostIp?⟩

/-! ### Members -/

/-- The pod belongs to the envelope of a name and namespace: the controller labelled it so, or it
has the older pair of labels with the name and the kind of job. -/
def isMemberOf (name namespaceName : String) (p : Pod) : Bool :=
  p.metadata.namespaceName? = some namespaceName &&
    (p.metadata.hasLabel Labels.envelopeName name ||
      (p.metadata.hasLabel Labels.release name && p.metadata.hasLabel Labels.app Submission.trainer))

/-! ### GPUs -/

/-- The name of the GPU resource. -/
def gpuResource : String := "nvidia.com/gpu"

/-- The GPU limit of a container; none, or a limit that is no quantity, counts as zero. -/
def gpuLimit (c : Container) : Int :=
  match c.limits.get? gpuResource with
  | some q => Quantity.count q
  | none => 0

/-- The GPU limits of all containers together. -/
def gpus? (p : Pod) : Option Int := Quantity.total? (p.containers.map gpuLimit)

/-- The pod has started and has not ended. -/
def isActive (p : Pod) : Bool :=
  p.startTime?.isSome && p.phase? != some "Succeeded" && p.phase? != some "Failed"

/-- The GPUs that the pod holds now. -/
def activeGpus? (p : Pod) : Option Int := if p.isActive then p.gpus? else some 0

/-- What all pods show of something, added up. -/
def together? (shown? : Pod → Option Int) (pods : List Pod) : Option Int :=
  (pods.mapM shown?).bind Quantity.total?

/-- The GPU request of the whole job that the pod carries, if it is positive. -/
def annotatedGpus? (p : Pod) : Option Int :=
  match (p.metadata.annotations.get? Labels.requestedGpus).bind Text.int64? with
  | some n => if 0 < n then some n.toInt else none
  | none => none

/-- The first positive GPU request that a pod carries. -/
def annotatedAmong? (pods : List Pod) : Option Int := pods.findSome? annotatedGpus?

/-! ### The chief -/

/-- The pod is labelled as a master. -/
def isMaster (p : Pod) : Bool :=
  p.metadata.hasLabel "pytorch-replica-type" "master" ||
    p.metadata.hasLabel "training.kubeflow.org/replica-type" "master"

/-- The pod is labelled as a volcano driver. -/
def isDriver (p : Pod) : Bool := p.metadata.hasLabel "volcano-role" "driver"

/-- The pod runs the first task. -/
def isFirstTask (p : Pod) : Bool := p.metadata.annotations.get? "volcano.sh/task-index" = some "0"

/-- The text ends in `-0` after a character that is no digit, so that `job-10` does not count. -/
def endsInOrdinalZero (name : String) : Bool :=
  match name.toList.reverse with
  | '0' :: '-' :: c :: _ => !c.isDigit
  | _ => false

/-- The pod's name says that it is the first of its kind. -/
def hasOrdinalZero (p : Pod) : Bool :=
  match p.metadata.name? with
  | some name => endsInOrdinalZero name
  | none => false

/-- The marks of a chief, best first. -/
def chiefRules : List (Pod → Bool) := [isMaster, isDriver, isFirstTask, hasOrdinalZero]

/-- The place of the chief: the first pod with the best mark that any pod has. -/
def chiefIndex? (pods : List Pod) : Option Nat :=
  chiefRules.findSome? fun rule => pods.findIdx? rule

end Pod

end WrappedTraining
