import WrappedTraining.Labels
import WrappedTraining.Path
import WrappedTraining.Submission.Bag
import WrappedTraining.Submission.Check

/-!
# Building a submission

A `Builder` holds a submission and its deferred options. `Builder.preBuild` takes over the data
sets, and `Builder.build` runs the stages that complete the submission: what every job has, code
fetching, the dashboard, the counts of volcano jobs, the run policy, the checks, and what is
derived from checked settings.

A stage that fails leaves the submission as far as it got. An `Outcome` is therefore a submission
together with the error that ended the work, if there is one.
-/

namespace WrappedTraining

/-- A submission after a stage, and the error that ended the stage. -/
structure Outcome where
  submission : Submission
  error? : Option Submission.Error

namespace Outcome

/-- The stage did its work. -/
def done (s : Submission) : Outcome := ⟨s, none⟩

/-- Go on with the next stage unless there was an error. -/
def andThen (o : Outcome) (stage : Submission → Outcome) : Outcome :=
  match o.error? with
  | none => stage o.submission
  | some _ => o

/-- Make sure that there is no fault. -/
def check (s : Submission) (fault : Option Submission.Error) : Outcome := ⟨s, fault⟩

@[simp] theorem andThen_done (s : Submission) (stage : Submission → Outcome) :
    (done s).andThen stage = stage s := rfl

@[simp] theorem andThen_check_none (s : Submission) (stage : Submission → Outcome) :
    (check s none).andThen stage = stage s := rfl

theorem andThen_of_error {o : Outcome} {e : Submission.Error} (stage : Submission → Outcome)
    (h : o.error? = some e) : o.andThen stage = o := by
  simp [andThen, h]

theorem error?_andThen_eq_none_iff {o : Outcome} {stage : Submission → Outcome} :
    (o.andThen stage).error? = none ↔ o.error? = none ∧ (stage o.submission).error? = none := by
  unfold andThen
  cases h : o.error? <;> simp [h]

end Outcome

/-! ### Entries of deferred options -/

/-- Keys and values of entries, cut at the first `sep`; entries without it are skipped. -/
def pairsOf (sep : Char) (entries : List String) : List (String × String) :=
  entries.filterMap (Text.cut? sep)

/-- The values of the entries before the first that does not read, and its error. -/
def readUntil {α ε : Type} (read : String → Except ε α) : List String → List α × Option ε
  | [] => ([], none)
  | entry :: entries =>
    match read entry with
    | .error e => ([], some e)
    | .ok x =>
      let r := readUntil read entries
      (x :: r.1, r.2)

/-- Key and value of an entry with a colon; `fault` is the error without one. -/
def colonPair (fault : String → Submission.Error) (entry : String) :
    Except Submission.Error (String × String) :=
  match Text.cut? ':' entry with
  | some p => .ok p
  | none => .error (fault entry)

namespace JobSpec

/-! ### What every job has -/

/-- A character of a name. -/
def isNameChar (c : Char) : Bool := c = '-' || c.isLower || c.isDigit

/-- A name starts with a lower-case letter, has only lower-case letters, digits and hyphens, does
not end with a hyphen, and is not too long. -/
def isName (name : String) : Bool :=
  match name.toList with
  | [] => false
  | c :: cs =>
    c.isLower && cs.all isNameChar && (c :: cs).getLast? != some '-' &&
      name.utf8ByteSize ≤ Submission.maxNameLength

/-- What is wrong with the name. -/
def nameFault? (j : JobSpec) : Option Submission.Error :=
  if j.name = "" then some .nameMissing
  else if isName j.name then none
  else some (.nameInvalid j.name)

/-- The toleration of an entry; `all` tolerates every taint. -/
def tolerationOf (entry : String) : Except Submission.Error Toleration :=
  if entry = "all" then .ok Toleration.all
  else match Toleration.parse entry with
    | .ok t => .ok t
    | .error e => .error (.toleration e)

/-- Volumes for pairs of paths, numbered from zero. -/
def volumesOf (paths : List (String × String)) : List HostVolume :=
  paths.zipIdx.map fun (p, i) => ⟨"training-data-" ++ Text.ofNat i, p.1, p.2⟩

/-- Variables, selectors, annotations and labels of the deferred options. -/
def addEntries (bag : Bag) (j : JobSpec) : JobSpec :=
  { j with
    envs := j.envs.insertAll (pairsOf '=' (bag.texts "env"))
    nodeSelectors := j.nodeSelectors.insertAll (pairsOf '=' (bag.texts "selector"))
    annotations := j.annotations.insertAll (pairsOf '=' (bag.texts "annotation"))
    labels := j.labels.insertAll (pairsOf '=' (bag.texts "label")) }

/-- Image pull secrets and devices of the deferred options. -/
def addSecrets (bag : Bag) (j : JobSpec) : JobSpec :=
  { j with
    imagePullSecrets := j.imagePullSecrets ++ bag.texts "image-pull-secret"
    devices := j.devices.insertAll (pairsOf '=' (bag.texts "device")) }

/-- The GPUs of all workers together. -/
def totalGpus (j : JobSpec) : Int := j.workerCount.toInt * j.gpuCount.toInt

/-- The worker count as a variable, for the pod group, and in the GPU request of the job. -/
def deriveWorkers (j : JobSpec) : JobSpec :=
  { j with
    envs := j.envs.insert "workers" (Text.ofInt j.workerCount.toInt)
    podGroupMinAvailable :=
      if j.coscheduling then Text.ofInt j.workerCount.toInt else j.podGroupMinAvailable
    annotations := j.annotations.insert Labels.requestedGpus (Text.ofInt j.totalGpus) }

/-- The GPU count as a variable and the name of the pod group. -/
def deriveNames (j : JobSpec) : JobSpec :=
  { j with
    envs := j.envs.insert "gpus" (Text.ofInt j.gpuCount.toInt)
    podGroupName := if j.coscheduling then "group-" ++ j.name else j.podGroupName }

end JobSpec

namespace Submission

/-- Tolerations of the deferred options, up to the first that does not read. -/
def addTolerations (bag : Bag) (s : Submission) : Outcome :=
  let r := readUntil JobSpec.tolerationOf (bag.texts "toleration")
  ⟨{ s with job := { s.job with tolerations := s.job.tolerations ++ r.1 } }, r.2⟩

/-- Volumes of the deferred options, up to the first without a colon. -/
def addDataDirs (bag : Bag) (s : Submission) : Outcome :=
  let r := readUntil (colonPair .dataDir) (bag.texts "data-dir")
  ⟨{ s with job := { s.job with dataDirs := s.job.dataDirs ++ JobSpec.volumesOf r.1 } }, r.2⟩

/-- Configuration files of the deferred options, up to the first without a colon. -/
def addConfigFiles (bag : Bag) (s : Submission) : Outcome :=
  let r := readUntil (colonPair .configFile) (bag.texts "config-file")
  ⟨{ s with job := { s.job with configFiles := s.job.configFiles.insertAll r.1 } }, r.2⟩

/-- Data sets of the deferred options, up to the first without a colon. -/
def addDataSets (bag : Bag) (s : Submission) : Outcome :=
  let r := readUntil (colonPair .dataSet) (bag.texts "data")
  ⟨{ s with job := { s.job with dataSets := s.job.dataSets.insertAll r.1 } }, r.2⟩

/-- Change what every job has. -/
def mapJob (f : JobSpec → JobSpec) (s : Submission) : Outcome := .done { s with job := f s.job }

/-- Complete what every job has. -/
def buildJob (bag : Bag) (s : Submission) : Outcome :=
  (Outcome.check s s.job.nameFault?)
    |>.andThen (mapJob (·.addEntries bag))
    |>.andThen (addTolerations bag)
    |>.andThen (addDataDirs bag)
    |>.andThen (mapJob (·.addSecrets bag))
    |>.andThen (addConfigFiles bag)
    |>.andThen (mapJob (·.deriveNames.deriveWorkers))

/-! ### Code fetching -/

/-- The image that copies sources. -/
def copyImage : String := "registry.cn-zhangjiakou.aliyuncs.com/acs/rsync:v3.1.0-aliyun"

/-- The image that checks out a repository. -/
def checkoutImage : String := "registry.cn-zhangjiakou.aliyuncs.com/acs/git-sync:v3.3.5"

/-- The text without one `ending`, if it ends so. -/
def dropEnding (ending s : String) : String :=
  if ending.toList.isSuffixOf s.toList then
    String.ofList (s.toList.take (s.toList.length - ending.toList.length))
  else s

/-- The name of a repository: the last piece of its address without `.git`. -/
def projectName? (source : String) : Option String :=
  Text.nonEmpty? (dropEnding ".git" (Path.lastPiece source))

/-- Set the image that fetches sources, unless there is one. -/
def defaultSyncImage (image : String) (s : Submission) : Submission :=
  if s.sync.image = "" then { s with sync := { s.sync with image := image } } else s

/-- There is a source. -/
def sourceFault? (s : Submission) : Option Error :=
  if s.sync.source = "" then some (.syncSourceMissing s.sync.mode) else none

/-- Name the directory of the repository. -/
def nameProject (s : Submission) : Outcome :=
  match projectName? s.sync.source with
  | some name => .done { s with sync := { s.sync with projectName := name } }
  | none => ⟨s, some (.syncSourceUnnamed s.sync.source)⟩

/-- Complete code fetching, which is off when no mode is set. -/
def buildSync (s : Submission) : Outcome :=
  if s.sync.mode = "" then .done s
  else if s.sync.mode = "rsync" then
    (Outcome.check s s.sourceFault?).andThen fun s => .done (s.defaultSyncImage copyImage)
  else if s.sync.mode = "git" then
    (Outcome.check s s.sourceFault?).andThen fun s => nameProject (s.defaultSyncImage checkoutImage)
  else ⟨s, some (.syncModeUnsupported s.sync.mode)⟩

/-! ### The dashboard -/

/-- The log directory with its default. -/
def withLogDir (s : Submission) : Submission :=
  if s.dashboard.logDir = "" then
    { s with dashboard := { s.dashboard with logDir := Dashboard.defaultLogDir } }
  else s

/-- What is wrong with the log directory. -/
def logDirFault? (s : Submission) : Option Error :=
  if Path.isAbsolute s.dashboard.logDir then none else some (.logDirRelative s.dashboard.logDir)

/-- Some mount of a published data set holds the log directory. -/
def logsOnDataSet (bag : Bag) (s : Submission) : Bool :=
  match bag.dict? Bag.dataSetMounts with
  | some mounts => mounts.values.any (Path.isBelow s.dashboard.logDir)
  | none => false

/-- Keep logs on a data set if one holds the log directory, else on the host. -/
def placeLogs (bag : Bag) (s : Submission) : Submission :=
  if s.logsOnDataSet bag then { s with dashboard := { s.dashboard with isLocal := false } }
  else
    { s with dashboard :=
      { s.dashboard with isLocal := true, hostLogPath := "/arena_logs/training-" ++ s.job.name } }

/-- Complete the dashboard, if it is on. -/
def buildDashboard (bag : Bag) (s : Submission) : Outcome :=
  if s.dashboard.enabled then
    (Outcome.check s.withLogDir s.withLogDir.logDirFault?).andThen fun s => .done (s.placeLogs bag)
  else .done s

/-! ### Counts and run policy -/

/-- A volcano job has as many workers as its task has replicas. -/
def syncReplicas (s : Submission) : Submission :=
  if s.isVolcano then
    { s with job := { s.job with workerCount := s.task.replicas }.deriveWorkers }
  else s

/-- A number of seconds in 64 bits; what does not fit is brought to the nearer end. -/
def deadlineOf (d : Span) : Int64 :=
  Int64.ofInt (max (-0x8000000000000000) (min 0x7FFFFFFFFFFFFFFF d.seconds))

/-- A number of seconds in 32 bits; what does not fit is the largest number. -/
def ttlOf (d : Span) : Int32 :=
  if -0x80000000 ≤ d.seconds ∧ d.seconds ≤ 0x7FFFFFFF then Int32.ofInt d.seconds
  else 0x7FFFFFFF

/-- Take deadline and time to live from the deferred options. -/
def setRunPolicy (bag : Bag) (s : Submission) : Submission :=
  let deadline := (bag.span? "running-timeout").map deadlineOf
  let ttl := (bag.span? "ttl-after-finished").map ttlOf
  { s with policy := { s.policy with
    activeDeadlineSeconds := deadline.getD s.policy.activeDeadlineSeconds
    ttlSecondsAfterFinished := ttl.getD s.policy.ttlSecondsAfterFinished } }

/-! ### Derived annotations and variables -/

/-- Fault tolerance settings as annotations, without what the key starts with. -/
def faultSettings (s : Submission) : List (String × String) :=
  (if 0 < s.faults.retryLimit then [("retryLimit", Text.ofInt s.faults.retryLimit.toInt)] else [])
    ++ [("admissionGracePeriodDuration", s.faults.admissionGracePeriod),
        ("warmupGracePeriodDuration", s.faults.warmupGracePeriod),
        ("failureGracePeriodDuration", s.faults.failureGracePeriod),
        ("retryPausePeriodDuration", s.faults.retryPausePeriod),
        ("successTTLDuration", s.faults.successTtl)].filter fun e => e.2 ≠ ""

/-- Fault tolerance travels as annotations of the envelope. The queue name stays off the labels,
so that it never reaches the pods. -/
def annotateFaults (s : Submission) : Submission :=
  let entries := s.faultSettings.map fun e => (Labels.envelopeAnnotations ++ e.1, e.2)
  { s with job := { s.job with annotations := s.job.annotations.insertAll entries } }

/-- The variables that follow from settings. -/
def derivedEnvs (s : Submission) : List (String × String) :=
  (if s.job.enableRdma ∧ ¬s.isVolcano then [("MASTER_ADDR", s.job.name ++ "-master-0")] else [])
    ++ (if s.policy.procsPerNode = "" then []
        else [("PET_NPROC_PER_NODE", s.policy.procsPerNode)])

/-- Set the variables that follow from settings. -/
def addDerivedEnvs (s : Submission) : Submission :=
  { s with job := { s.job with envs := s.job.envs.insertAll s.derivedEnvs } }

/-! ### All stages -/

/-- Complete a submission with its deferred options. -/
def build (bag : Bag) (s : Submission) : Outcome :=
  (buildJob bag s)
    |>.andThen buildSync
    |>.andThen (buildDashboard bag)
    |>.andThen (fun s => .done (s.syncReplicas.setRunPolicy bag))
    |>.andThen (fun s => .check s s.fault?)
    |>.andThen (fun s => .done s.annotateFaults.addDerivedEnvs)

end Submission

/-! ### Builders -/

/-- A submission in the making and its deferred options. -/
structure Builder where
  submission : Submission
  bag : Bag

namespace Builder

/-- A builder without deferred options. -/
def new (s : Submission) : Builder := ⟨s, .empty⟩

/-- Defer an option. -/
def add (b : Builder) (name : String) (v : OptionValue) : Builder :=
  { b with bag := b.bag.insert name v }

/-- Take over the data sets, and publish their mounts if all of them read. -/
def preBuild (b : Builder) : Builder × Option Submission.Error :=
  let o := b.submission.addDataSets b.bag
  match o.error? with
  | some e => ({ b with submission := o.submission }, some e)
  | none =>
    (⟨o.submission, b.bag.insert Bag.dataSetMounts (.dict o.submission.job.dataSets)⟩, none)

/-- Complete the submission. -/
def build (b : Builder) : Builder × Option Submission.Error :=
  let o := b.submission.build b.bag
  ({ b with submission := o.submission }, o.error?)

/-- Take over the data sets and complete the submission. -/
def finish (b : Builder) : Except Submission.Error Submission :=
  match b.preBuild with
  | (_, some e) => .error e
  | (b, none) =>
    match b.build with
    | (_, some e) => .error e
    | (b, none) => .ok b.submission

end Builder

end WrappedTraining
