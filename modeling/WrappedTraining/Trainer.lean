import WrappedTraining.Cluster.Source

/-!
# Looking up jobs

Jobs are found through any `Source`.

* `Trainer.job` finds one job: its envelope, and its pods by the label of the controller or, if
  there are none, by the older labels;
* `Trainer.jobs` lists jobs, each with the pods that belong to it;
* `Trainer.logPage` finds the page with the logs of a job.
-/

namespace WrappedTraining.Trainer

/-! ### Selectors -/

/-- The selector of envelopes, and of pods with the older labels. -/
def ownSelector : String := Labels.app ++ "=" ++ Submission.trainer

/-- The selector of the pods that a controller labelled for an envelope. -/
def controllerSelector (name : String) : String := Labels.envelopeName ++ "=" ++ name

/-- The selector of the pods that carry the older labels of a job. -/
def olderSelector (name : String) : String := Labels.release ++ "=" ++ name ++ "," ++ ownSelector

/-! ### One job -/

/-- The candidates for the pods of a job. -/
def candidates (src : Source) (ns name : String) : Lookup (List Pod) := do
  let pods ← src.pods (some ns) (controllerSelector name)
  if pods.isEmpty then src.pods (some ns) (olderSelector name) else pure pods

/-- The job of a namespace and a name. An envelope of another kind counts as not found. -/
def job (src : Source) (ns name : String) : Lookup Job := do
  let e ← src.envelope ns name
  if e.isOwned then return Job.ofCandidates e (← candidates src ns name)
  else Lookup.fail (.notFound ns name)

/-! ### Listings -/

/-- Namespace and name of a pod, empty when they are missing. -/
def podKey (p : Pod) : String × String :=
  (p.metadata.namespaceName?.getD "", p.metadata.name?.getD "")

/-- Pods whose keys are not among those seen before, nor among each other. -/
def newPods (seen : List (String × String)) : List Pod → List Pod
  | [] => []
  | p :: ps =>
    if seen.contains (podKey p) then newPods seen ps
    else p :: newPods (podKey p :: seen) ps

/-- The pods of the first list, and those of the second that are not in it. -/
def mergePods (first second : List Pod) : List Pod := first ++ newPods (first.map podKey) second

/-- The jobs of a namespace, or of all. -/
def jobs (src : Source) (ns? : Option String) : Lookup (List Job) := do
  let envelopes ← src.envelopes ns? ownSelector
  let controlled ← src.pods ns? Labels.envelopeName
  let older ← src.pods ns? ownSelector
  return envelopes.map fun e => Job.ofCandidates e (mergePods controlled older)

/-! ### More questions -/

/-- The cluster knows envelopes and has the job. -/
def isSupported (src : Source) (ns name : String) : Lookup Bool := do
  if ← src.installed then (job src ns name).succeeds else return false

/-- The namespace that is searched last for a dashboard. -/
def lastNamespace : String := "kube-system"

/-- The address of the dashboard in the first of some namespaces that has one. -/
def firstDashboard (src : Source) : List String → Lookup (Option String)
  | [] => return none
  | ns :: rest => do
    match ← src.dashboard ns with
    | some url => return some url
    | none => firstDashboard src rest

/-- The page with the logs of a job. The dashboard is looked for in the namespace of the job, in a
second namespace, and in that of the system. -/
def logPage (src : Source) (j : Job) (second : String) : Lookup (Option String) := do
  let base? ← firstDashboard src [j.envelope.namespaceName, second, lastNamespace]
  return base?.bind j.logUrl?

end WrappedTraining.Trainer
