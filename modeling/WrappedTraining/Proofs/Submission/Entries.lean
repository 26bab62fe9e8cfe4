import WrappedTraining.Proofs.Dict
import WrappedTraining.Proofs.Submission.Consistency
import WrappedTraining.Proofs.Submission.Deadlines

/-!
# What the maps of a built job hold

Variables, annotations, labels, selectors, devices, configuration files and data sets are maps that
come with a submission. Entries of deferred options override what they hold, and some variables and
annotations are derived and override both.

* `given?` : what entries give to a key, that is what the last entry with this key says
  (`given?_eq_some_iff`);
* `Builder.reconciled_of_fragments` : the job from which annotations and variables are derived;
* `Submission.lookup?_derivedEnvs`, `Submission.lookup?_faultAnnotations` : what settings give to a
  variable or an annotation;
* `Builder.fills_of_finish` : what every map holds under every key.
-/

namespace WrappedTraining

/-! ### Entries -/

/-- What an entry gives to the key `k`: the text after its first `sep`, if `k` stands before. -/
def valueIn? (sep : Char) (k entry : String) : Option String :=
  match Text.cut? sep entry with
  | some (key, value) => if key = k then some value else none
  | none => none

/-- What entries give to the key `k`; the last entry with this key counts. -/
def given? (sep : Char) (k : String) : List String → Option String
  | [] => none
  | entry :: entries => (given? sep k entries).or (valueIn? sep k entry)

variable {sep : Char} {k v entry : String} {entries : List String}

theorem valueIn?_eq_some_iff : valueIn? sep k entry = some v ↔
    entry.toList = k.toList ++ sep :: v.toList ∧ sep ∉ k.toList := by
  rw [← Text.cut?_eq_some_iff]
  unfold valueIn?
  split
  · rename_i key value hcut
    rw [hcut]
    by_cases hk : key = k <;> simp [hk]
  · rename_i hcut
    simp [hcut]

theorem given?_append (as bs : List String) :
    given? sep k (as ++ bs) = (given? sep k bs).or (given? sep k as) := by
  induction as with
  | nil => exact Option.or_none.symm
  | cons a as ih =>
    show (given? sep k (as ++ bs)).or (valueIn? sep k a) = _
    rw [ih, Option.or_assoc]
    rfl

theorem given?_eq_none_iff : given? sep k entries = none ↔
    ∀ entry ∈ entries, valueIn? sep k entry = none := by
  induction entries with
  | nil => simp [given?]
  | cons entry entries ih => simp [given?, ih, and_comm]

/-- **Which entry counts.** A key has the value of an entry that has it before its first separator
and after which no other entry has it. -/
theorem given?_eq_some_iff : given? sep k entries = some v ↔ ∃ before entry after,
    entries = before ++ entry :: after ∧
      (entry.toList = k.toList ++ sep :: v.toList ∧ sep ∉ k.toList) ∧
      ∀ later ∈ after, valueIn? sep k later = none := by
  simp only [← valueIn?_eq_some_iff]
  constructor
  · intro h
    induction entries with
    | nil => cases h
    | cons entry entries ih =>
      rcases Option.or_eq_some_iff.1 h with h | ⟨hnone, hentry⟩
      · obtain ⟨before, entry', after, rfl, hvalue, hafter⟩ := ih h
        exact ⟨entry :: before, entry', after, rfl, hvalue, hafter⟩
      · exact ⟨[], entry, entries, rfl, hentry, given?_eq_none_iff.1 hnone⟩
  · rintro ⟨before, entry, after, rfl, hvalue, hafter⟩
    rw [given?_append, given?, given?_eq_none_iff.2 hafter, hvalue]
    rfl

theorem lookup?_pairsOf (sep : Char) (k : String) (entries : List String) :
    Dict.lookup? k (pairsOf sep entries).reverse = given? sep k entries := by
  induction entries with
  | nil => rfl
  | cons entry entries ih =>
    unfold given? valueIn?
    cases hcut : Text.cut? sep entry with
    | none =>
      rw [pairsOf, List.filterMap_cons_none hcut]
      exact ih.trans Option.or_none.symm
    | some p =>
      rw [pairsOf, List.filterMap_cons_some hcut, List.reverse_cons, Dict.lookup?_append]
      exact congrArg (Option.or · _) ih

/-- A map with entries holds what they give, and else what it held. -/
theorem get?_insertAll_pairsOf (d : Dict String) (sep : Char) (k : String)
    (entries : List String) : (d.insertAll (pairsOf sep entries)).get? k =
      (given? sep k entries).or (d.get? k) := by
  rw [Dict.get?_insertAll, lookup?_pairsOf]

/-! ### The job before settings are published -/

/-- The job with the data sets and the other deferred options. -/
def JobSpec.completed (bag : Bag) (j : JobSpec) : JobSpec :=
  (j.provide (pairsOf ':' (bag.texts "data"))).withOptions bag

theorem JobSpec.withOptions_insert_mounts (bag : Bag) (mounts : OptionValue) (j : JobSpec) :
    j.withOptions (bag.insert Bag.dataSetMounts mounts) = j.withOptions bag := by
  simp (disch := decide) only [withOptions, Bag.texts_insert_of_ne]

/-- What is derived from the counts. -/
theorem JobSpec.setWorkers_deriveNames (j : JobSpec) (w : Int32) : j.deriveNames.setWorkers w =
    { j with
      workerCount := w
      envs := (j.envs.insert "gpus" (Text.ofInt j.gpuCount.toInt)).insert "workers"
        (Text.ofInt w.toInt)
      annotations := j.annotations.insert Labels.requestedGpus
        (Text.ofInt (w.toInt * j.gpuCount.toInt))
      podGroupName := if j.coscheduling then "group-" ++ j.name else j.podGroupName
      podGroupMinAvailable :=
        if j.coscheduling then Text.ofInt w.toInt else j.podGroupMinAvailable } := rfl

theorem JobSpec.deriveWorkers_eq_setWorkers (j : JobSpec) :
    j.deriveWorkers = j.setWorkers j.workerCount := rfl

namespace Submission

variable {bag : Bag} {s t : Submission}

/-- The workers of a submission that is built. -/
def builtWorkers (s : Submission) : Int32 :=
  if s.isVolcano then s.task.replicas else s.job.workerCount

/-- The workers are counted once more for a volcano job, and only that count stays. -/
theorem job_reconcile_of_fragments (h : (fragments bag s).result = .ok t) :
    (t.reconcile bag).job = (s.job.withOptions bag).deriveNames.setWorkers s.builtWorkers := by
  obtain ⟨htask, hinner⟩ := task_of_fragments h
  have hvolcano : t.isVolcano = s.isVolcano := by
    unfold isVolcano
    rw [hinner]
  have hcount : (s.job.withOptions bag).deriveNames.workerCount = s.job.workerCount :=
    (s.job.sameSettings_withOptions bag).workerCount
  have hjob := job_eq_of_fragments h
  rw [JobSpec.deriveWorkers_eq_setWorkers, hcount] at hjob
  rw [reconcile_job, syncReplicas_eq, hvolcano, htask]
  unfold builtWorkers
  -- the counts of a volcano job are derived twice, and the second time replaces the first
  split
  · show t.job.setWorkers s.task.replicas = _
    rw [hjob, JobSpec.setWorkers_setWorkers]
  · exact hjob

theorem policy_of_fragments (h : (fragments bag s).result = .ok t) :
    t.policy = s.policy ∧ t.faults = s.faults := by
  obtain ⟨-, rfl⟩ := Outcome.result_eq_ok_iff.1 h
  have hpolicy : Outcome.Keeps Submission.policy (fragments bag) :=
    fragments_keeps (fun _ _ _ => rfl) (fun _ _ => rfl) (fun _ _ => rfl) bag
  have hfaults : Outcome.Keeps Submission.faults (fragments bag) :=
    fragments_keeps (fun _ _ _ => rfl) (fun _ _ => rfl) (fun _ _ => rfl) bag
  exact ⟨hpolicy s, hfaults s⟩

theorem procsPerNode_reconcile (bag : Bag) (s : Submission) :
    (s.reconcile bag).policy.procsPerNode = s.policy.procsPerNode :=
  s.syncReplicas_keeps (fun s => s.policy.procsPerNode) fun _ _ => rfl

theorem reconcile_faults (bag : Bag) (s : Submission) : (s.reconcile bag).faults = s.faults :=
  s.syncReplicas_keeps Submission.faults fun _ _ => rfl

end Submission

namespace Builder

/-- The submission from which annotations and variables are derived at last. -/
structure Reconciled (b : Builder) (u : Submission) : Prop where
  job : u.job = (b.submission.job.completed b.bag).deriveNames.setWorkers b.submission.builtWorkers
  innerType : u.innerType = b.submission.innerType
  procsPerNode : u.policy.procsPerNode = b.submission.policy.procsPerNode
  faults : u.faults = b.submission.faults

theorem reconciled_of_fragments {b : Builder} {s t : Submission} {mounts : OptionValue}
    (hs : (b.submission.addDataSets b.bag).result = .ok s)
    (ht : (s.fragments (b.bag.insert Bag.dataSetMounts mounts)).result = .ok t) :
    b.Reconciled (t.reconcile (b.bag.insert Bag.dataSetMounts mounts)) := by
  obtain rfl := (Submission.addDataSets_makes b.bag).of_result hs
  obtain ⟨hpolicy, hfaults⟩ := Submission.policy_of_fragments ht
  refine ⟨?_, ?_, ?_, ?_⟩
  · rw [Submission.job_reconcile_of_fragments ht, JobSpec.withOptions_insert_mounts]
    rfl
  · rw [Submission.reconcile_innerType, (Submission.task_of_fragments ht).2]
    rfl
  · rw [Submission.procsPerNode_reconcile, hpolicy]
    rfl
  · rw [Submission.reconcile_faults, hfaults]
    rfl

theorem reconciled_of_finish {b : Builder} {r : Submission} (h : b.finish = .ok r) :
    ∃ u, b.Reconciled u ∧ r = u.publish := by
  obtain ⟨s, hs, hbuild⟩ := finish_eq_ok_iff.1 h
  obtain ⟨t, ht, -, rfl⟩ := Submission.result_build_eq_ok_iff.1 hbuild
  exact ⟨_, reconciled_of_fragments hs ht, rfl⟩

end Builder

/-! ### Derived entries -/

namespace Submission

/-- What the settings of a submission give to a variable. -/
def settingEnv? (s : Submission) (k : String) : Option String :=
  if k = "MASTER_ADDR" ∧ s.job.enableRdma ∧ ¬s.isVolcano then some (s.job.name ++ "-master-0")
  else if k = "PET_NPROC_PER_NODE" ∧ s.policy.procsPerNode ≠ "" then some s.policy.procsPerNode
  else none

/-- What the counts and settings of a submission give to a variable. -/
def derivedEnv? (s : Submission) (k : String) : Option String :=
  if k = "workers" then some (Text.ofInt s.builtWorkers.toInt)
  else if k = "gpus" then some (Text.ofInt s.job.gpuCount.toInt)
  else s.settingEnv? k

/-- The settings that travel as they are written, under the names of their annotations. -/
def durationSettings (f : FaultTolerance) : List (String × String) :=
  [(Labels.envelopeAnnotations ++ "admissionGracePeriodDuration", f.admissionGracePeriod),
   (Labels.envelopeAnnotations ++ "warmupGracePeriodDuration", f.warmupGracePeriod),
   (Labels.envelopeAnnotations ++ "failureGracePeriodDuration", f.failureGracePeriod),
   (Labels.envelopeAnnotations ++ "retryPausePeriodDuration", f.retryPausePeriod),
   (Labels.envelopeAnnotations ++ "successTTLDuration", f.successTtl)]

/-- What fault tolerance settings give to an annotation. -/
def faultAnnotation? (f : FaultTolerance) (k : String) : Option String :=
  if k = Labels.envelopeAnnotations ++ "retryLimit" ∧ 0 < f.retryLimit then
    some (Text.ofInt f.retryLimit.toInt)
  else (Dict.lookup? k (durationSettings f)).filter (· ≠ "")

/-- What the counts and settings of a submission give to an annotation. -/
def derivedAnnotation? (s : Submission) (k : String) : Option String :=
  if k = Labels.requestedGpus then
    some (Text.ofInt (s.builtWorkers.toInt * s.job.gpuCount.toInt))
  else faultAnnotation? s.faults k

theorem lookup?_derivedEnvs (s : Submission) (k : String) :
    Dict.lookup? k s.derivedEnvs.reverse = s.settingEnv? k := by
  have hnodup : (s.derivedEnvs.map (·.1)).Nodup := by
    unfold derivedEnvs
    split <;> split <;> simp
  have hprocs : (if s.policy.procsPerNode = "" then []
      else [("PET_NPROC_PER_NODE", s.policy.procsPerNode)]) =
      if s.policy.procsPerNode ≠ "" then [("PET_NPROC_PER_NODE", s.policy.procsPerNode)]
      else [] := (ite_not ..).symm
  rw [Dict.lookup?_reverse hnodup, derivedEnvs, hprocs, Dict.lookup?_append,
    Dict.lookup?_ite_singleton, Dict.lookup?_ite_singleton, settingEnv?]
  split <;> rfl

/-- The annotations of the fault tolerance settings under their full names. -/
def faultAnnotations (f : FaultTolerance) : List (String × String) :=
  (if 0 < f.retryLimit then
    [(Labels.envelopeAnnotations ++ "retryLimit", Text.ofInt f.retryLimit.toInt)] else []) ++
    (durationSettings f).filter fun e => e.2 ≠ ""

theorem map_faultSettings (s : Submission) :
    (s.faultSettings.map fun e => (Labels.envelopeAnnotations ++ e.1, e.2)) =
      faultAnnotations s.faults := by
  have hnames : durationSettings s.faults =
      [("admissionGracePeriodDuration", s.faults.admissionGracePeriod),
        ("warmupGracePeriodDuration", s.faults.warmupGracePeriod),
        ("failureGracePeriodDuration", s.faults.failureGracePeriod),
        ("retryPausePeriodDuration", s.faults.retryPausePeriod),
        ("successTTLDuration", s.faults.successTtl)].map
        fun e => (Labels.envelopeAnnotations ++ e.1, e.2) := rfl
  unfold faultSettings faultAnnotations
  rw [List.map_append, hnames, List.filter_map]
  congr 1
  split <;> rfl

/-- No two derived annotations have one name. -/
theorem nodup_annotationNames (f : FaultTolerance) :
    (Labels.requestedGpus :: (Labels.envelopeAnnotations ++ "retryLimit") ::
      (durationSettings f).map (·.1)).Nodup := by
  simp only [durationSettings, List.map_cons, List.map_nil]
  decide

theorem faultAnnotations_sublist (f : FaultTolerance) :
    ((faultAnnotations f).map (·.1)).Sublist
      ((Labels.envelopeAnnotations ++ "retryLimit") :: (durationSettings f).map (·.1)) := by
  have hdurations := (List.filter_sublist (p := fun e : String × String => e.2 ≠ "")
    (l := durationSettings f)).map (·.1)
  rw [faultAnnotations, List.map_append]
  split
  · exact hdurations.cons_cons _
  · exact hdurations.cons _

theorem lookup?_faultAnnotations (f : FaultTolerance) (k : String) :
    Dict.lookup? k (faultAnnotations f).reverse = faultAnnotation? f k := by
  have hnames := (nodup_annotationNames f).of_cons
  have hdurations := Dict.lookup?_filter hnames.of_cons (fun v => v ≠ "") k
  rw [Dict.lookup?_reverse (hnames.sublist (faultAnnotations_sublist f)), faultAnnotations,
    Dict.lookup?_append, hdurations, Dict.lookup?_ite_singleton, faultAnnotation?]
  split <;> rfl

/-- No fault tolerance setting has the name of the GPU request. -/
theorem lookup?_faultAnnotations_requestedGpus (f : FaultTolerance) :
    Dict.lookup? Labels.requestedGpus (faultAnnotations f).reverse = none := by
  refine Dict.lookup?_eq_none_of_notMem fun hmem => ?_
  rw [List.map_reverse, List.mem_reverse] at hmem
  exact (List.nodup_cons.1 (nodup_annotationNames f)).1 ((faultAnnotations_sublist f).subset hmem)

end Submission

namespace Builder

/-- What a map holds that takes over the entries of a deferred option: what they give, and else
what it held. -/
def merged? (b : Builder) (sep : Char) (option : String) (start : Dict String) (k : String) :
    Option String :=
  (given? sep k (b.bag.texts option)).or (start.get? k)

/-- What the maps of a job hold that a builder completes. -/
structure Fills (b : Builder) (j : JobSpec) : Prop where
  envs : ∀ k, j.envs.get? k =
    (b.submission.derivedEnv? k).or (b.merged? '=' "env" b.submission.job.envs k)
  annotations : ∀ k, j.annotations.get? k = (b.submission.derivedAnnotation? k).or
    (b.merged? '=' "annotation" b.submission.job.annotations k)
  labels : ∀ k, j.labels.get? k = b.merged? '=' "label" b.submission.job.labels k
  nodeSelectors : ∀ k,
    j.nodeSelectors.get? k = b.merged? '=' "selector" b.submission.job.nodeSelectors k
  devices : ∀ k, j.devices.get? k = b.merged? '=' "device" b.submission.job.devices k
  configFiles : ∀ k,
    j.configFiles.get? k = b.merged? ':' "config-file" b.submission.job.configFiles k
  dataSets : ∀ k, j.dataSets.get? k = b.merged? ':' "data" b.submission.job.dataSets k

variable {b : Builder} {u : Submission}

/-- Deriving from counts and settings changes only variables, annotations, the worker count and the
pod group. -/
theorem Reconciled.view_publish {α : Type} {view : JobSpec → α}
    (hview : ∀ (j : JobSpec) envs annotations workers group minimum, view { j with
      envs := envs, annotations := annotations, workerCount := workers,
      podGroupName := group, podGroupMinAvailable := minimum } = view j) (h : b.Reconciled u) :
    view u.publish.job = view (b.submission.job.completed b.bag) := by
  have hpublish : view u.publish.job = view u.job := hview u.job _ _ _ _ _
  rw [hpublish, h.job, JobSpec.setWorkers_deriveNames]
  exact hview _ _ _ _ _ _

/-- The map of a completed job that is filled from one option. -/
theorem get?_eq_merged? {sep : Char} {option : String} {d start : Dict String}
    (h : d = start.insertAll (pairsOf sep (b.bag.texts option))) (k : String) :
    d.get? k = b.merged? sep option start k := by
  rw [h]
  exact get?_insertAll_pairsOf start sep k _

theorem Reconciled.derivedEnvs (h : b.Reconciled u) :
    u.annotateFaults.derivedEnvs = b.submission.derivedEnvs := by
  have hname : u.job.name = b.submission.job.name := by
    rw [h.job, JobSpec.setWorkers_deriveNames]
    rfl
  have hrdma : u.job.enableRdma = b.submission.job.enableRdma := by
    rw [h.job, JobSpec.setWorkers_deriveNames]
    rfl
  have hvolcano : u.isVolcano = b.submission.isVolcano := by
    unfold Submission.isVolcano
    rw [h.innerType]
  have hannotated : u.annotateFaults.derivedEnvs = u.derivedEnvs := rfl
  rw [hannotated]
  unfold Submission.derivedEnvs
  rw [hname, hrdma, hvolcano, h.procsPerNode]

theorem Reconciled.get?_envs (h : b.Reconciled u) (k : String) : u.publish.job.envs.get? k =
    (b.submission.derivedEnv? k).or (b.merged? '=' "env" b.submission.job.envs k) := by
  have henvs : u.publish.job.envs = u.job.envs.insertAll u.annotateFaults.derivedEnvs := rfl
  have hmerged : (b.submission.job.completed b.bag).envs.get? k =
      b.merged? '=' "env" b.submission.job.envs k := get?_eq_merged? rfl k
  have hgpus : (b.submission.job.completed b.bag).gpuCount = b.submission.job.gpuCount := rfl
  rw [henvs, h.derivedEnvs, Dict.get?_insertAll, Submission.lookup?_derivedEnvs, h.job,
    JobSpec.setWorkers_deriveNames]
  simp only [Dict.get?_insert, hmerged, hgpus, Submission.derivedEnv?]
  -- no setting has the name of a count
  by_cases hworkers : k = "workers"
  · simp [hworkers, Submission.settingEnv?]
  · by_cases hg : k = "gpus"
    · simp [hg, Submission.settingEnv?]
    · simp [hworkers, hg]

theorem Reconciled.get?_annotations (h : b.Reconciled u) (k : String) :
    u.publish.job.annotations.get? k = (b.submission.derivedAnnotation? k).or
      (b.merged? '=' "annotation" b.submission.job.annotations k) := by
  have hann : u.publish.job.annotations =
      u.job.annotations.insertAll (Submission.faultAnnotations u.faults) := by
    rw [← u.map_faultSettings]
    rfl
  have hmerged : (b.submission.job.completed b.bag).annotations.get? k =
      b.merged? '=' "annotation" b.submission.job.annotations k := get?_eq_merged? rfl k
  have hgpus : (b.submission.job.completed b.bag).gpuCount = b.submission.job.gpuCount := rfl
  rw [hann, h.faults, Dict.get?_insertAll, h.job, JobSpec.setWorkers_deriveNames]
  simp only [Dict.get?_insert, hmerged, hgpus, Submission.derivedAnnotation?]
  -- settings come after the request, but none has its name
  by_cases hrequested : k = Labels.requestedGpus
  · simp [hrequested, Submission.lookup?_faultAnnotations_requestedGpus]
  · simp [hrequested, Submission.lookup?_faultAnnotations]

theorem Reconciled.fills (h : b.Reconciled u) : b.Fills u.publish.job := by
  have hlabels : u.publish.job.labels = (b.submission.job.completed b.bag).labels :=
    h.view_publish fun _ _ _ _ _ _ => rfl
  have hselectors : u.publish.job.nodeSelectors =
      (b.submission.job.completed b.bag).nodeSelectors := h.view_publish fun _ _ _ _ _ _ => rfl
  have hdevices : u.publish.job.devices = (b.submission.job.completed b.bag).devices :=
    h.view_publish fun _ _ _ _ _ _ => rfl
  have hfiles : u.publish.job.configFiles = (b.submission.job.completed b.bag).configFiles :=
    h.view_publish fun _ _ _ _ _ _ => rfl
  have hsets : u.publish.job.dataSets = (b.submission.job.completed b.bag).dataSets :=
    h.view_publish fun _ _ _ _ _ _ => rfl
  exact {
    envs := h.get?_envs
    annotations := h.get?_annotations
    labels := get?_eq_merged? hlabels
    nodeSelectors := get?_eq_merged? hselectors
    devices := get?_eq_merged? hdevices
    configFiles := get?_eq_merged? hfiles
    dataSets := get?_eq_merged? hsets }

/-- **What the maps of a built job hold.** A derived value comes first, then what the last entry
with the key says, and then what the submission came with. -/
theorem fills_of_finish {r : Submission} (h : b.finish = .ok r) : b.Fills r.job := by
  obtain ⟨u, hu, rfl⟩ := reconciled_of_finish h
  exact hu.fills

/-- Entries that collide with each other, with a derived value and with what was there before. -/
theorem fills_of_finish_colliding :
    let demo : Submission := { Submission.initial with
      job := { JobSpec.initial with
        name := "demo", image := "x", gpuCount := 8, enableRdma := true
        envs := Dict.ofList [("A", "0"), ("B", "0")] } }
    let b := (Builder.new demo).add "env" (.texts ["A=1", "workers=9", "plain", "A=2=3"])
    ∃ r, b.finish = .ok r ∧ b.Fills r.job ∧ r.job.envs.get? "workers" = some "1" ∧
      r.job.envs.get? "A" = some "2=3" ∧ r.job.envs.get? "B" = some "0" := by
  intro demo b
  have hsucceeds : b.Succeeds := by decide +kernel
  obtain ⟨r, hr⟩ := hsucceeds
  have hfills : b.Fills r.job := fills_of_finish hr
  refine ⟨r, hr, hfills, ?_, ?_, ?_⟩
  · exact (hfills.envs "workers").trans (by decide +kernel)
  · exact (hfills.envs "A").trans (by decide +kernel)
  · exact (hfills.envs "B").trans (by decide +kernel)

end Builder

end WrappedTraining
