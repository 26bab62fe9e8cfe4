import WrappedTraining.Proofs.Submission.Deadlines
import WrappedTraining.Proofs.Submission.Rules

/-!
# Which submissions are accepted

`Builder.rules` lists what is asked of a submission and its deferred options, in the order in which
it counts. Most rules are asked of the submission as it comes; those of the checks are asked of the
submission with counts and run policy brought together, and no stage before changes what they look
at.

* `Submission.judged_buildJob`, `Submission.judged_buildSync`, `Submission.judged_buildDashboard`,
  `Submission.judges_fault?` : the rules of each part;
* `Submission.judged_build` : the rules of a build;
* `Builder.succeeds_iff_rules_hold` : a submission is accepted if all rules hold, and else it is
  refused for the first that does not.
-/

namespace WrappedTraining

/-! ### Rules -/

/-- A name that a job can have. -/
structure IsLabel (name : String) : Prop where
  short : name.utf8ByteSize ≤ 63
  start : ∃ c cs, name.toList = c :: cs ∧ 'a' ≤ c ∧ c ≤ 'z'
  inside : ∀ c ∈ name.toList, 'a' ≤ c ∧ c ≤ 'z' ∨ '0' ≤ c ∧ c ≤ '9' ∨ c = '-'
  ending : name.toList.getLast? ≠ some '-'

/-- A job has a name, and it is a label. -/
def nameRules (name : String) : List Rule :=
  [.condition (name ≠ "") .nameMissing, .condition (IsLabel name) (.nameInvalid name)]

/-- Every entry has a colon. -/
def colonRules (fault : String → Submission.Error) (entries : List String) : List Rule :=
  entries.map fun entry => .condition (':' ∈ entry.toList) (fault entry)

/-- Every entry is a toleration, or `all`. -/
def tolerationRules (entries : List String) : List Rule :=
  entries.map fun entry => (Rule.reads (Toleration.parse entry) .toleration).exempt (entry = "all")

namespace CodeSync

/-- The name of the repository, which can be empty. -/
def repository (c : CodeSync) : String :=
  Submission.dropEnding ".git" (Path.lastPiece c.source)

/-- Code fetching is off, or has a source, and a repository has a name. -/
def rules (c : CodeSync) : List Rule :=
  [.condition (c.mode ∈ ["", "rsync", "git"]) (.syncModeUnsupported c.mode),
   .condition (c.mode ∈ ["rsync", "git"] → c.source ≠ "") (.syncSourceMissing c.mode),
   .condition (c.mode = "git" → c.repository ≠ "") (.syncSourceUnnamed c.source)]

end CodeSync

namespace Dashboard

/-- The log directory, or the default if there is none. -/
def givenLogDir (d : Dashboard) : String := if d.logDir = "" then defaultLogDir else d.logDir

/-- The log directory of a dashboard that is on is absolute. -/
def rules (d : Dashboard) : List Rule :=
  [.condition (d.enabled → d.givenLogDir.toList.head? = some '/') (.logDirRelative d.givenLogDir)]

end Dashboard

/-- A text that is given is a quantity. -/
def quantityRule (option value : String) : Rule :=
  .condition (value = "" ∨ Quantity.isValid value) (.quantity option)

/-- A text that is given is a length of time. -/
def periodRule (option value : String) : Rule :=
  (Rule.reads (Span.parse value) (.period option)).exempt (value = "")

/-- A topology mode is left out, `hard` or `soft`. -/
def topologyRule (option mode : String) : Rule :=
  .condition (mode ∈ ["", "hard", "soft"]) (.topologyMode option mode)

namespace Submission

/-- What is asked of volcano jobs alone. -/
def volcanoRules (s : Submission) : List Rule :=
  [.condition (1 ≤ s.task.masterPort ∧ s.task.masterPort ≤ 65535) (.masterPort s.task.masterPort),
   topologyRule "network-topology-mode" s.topology.mode,
   topologyRule "partition-topology-mode" s.partitionTopology.mode,
   .condition (0 < s.totalPartitions → 0 < s.partitionSize) .partitionSizeMissing,
   .condition (0 < s.partitionSize → 0 < s.totalPartitions) .totalPartitionsMissing]

/-- What is asked of a submission whose counts and run policy are brought together. -/
def checkRules (s : Submission) : List Rule :=
  [.condition (s.job.image ≠ "") .imageMissing,
   .condition (s.policy.cleanPods ∈ ["None", "Running", "All"])
     (.cleanPodsUnsupported s.policy.cleanPods),
   .condition (0 ≤ s.job.gpuCount) .gpusNegative,
   quantityRule "cpu" s.cpu,
   quantityRule "memory" s.memory,
   quantityRule "share-memory" s.policy.shareMemory,
   .condition (0 ≤ s.policy.activeDeadlineSeconds) .deadlineNegative,
   .condition (0 ≤ s.policy.ttlSecondsAfterFinished) .ttlNegative,
   .condition (s.policy.procsPerNode ∈ ["", "auto", "cpu", "gpu"] ∨
     ∃ n, Text.int64? s.policy.procsPerNode = some n) .procsPerNode,
   .condition (0 ≤ s.faults.retryLimit) .retryLimitNegative,
   periodRule "admission-grace-period" s.faults.admissionGracePeriod,
   periodRule "warmup-grace-period" s.faults.warmupGracePeriod,
   periodRule "failure-grace-period" s.faults.failureGracePeriod,
   periodRule "retry-pause-period" s.faults.retryPausePeriod,
   periodRule "success-ttl" s.faults.successTtl,
   .condition (s.innerType ∈ ["pytorch", "volcano"]) (.innerTypeUnsupported s.innerType)] ++
  s.volcanoRules.map (·.exempt (s.innerType ≠ "volcano"))

/-- What is asked of a submission while its parts are completed. -/
def partRules (bag : Bag) (s : Submission) : List Rule :=
  nameRules s.job.name ++ tolerationRules (bag.texts "toleration") ++
    colonRules .dataDir (bag.texts "data-dir") ++
    colonRules .configFile (bag.texts "config-file") ++ s.sync.rules ++ s.dashboard.rules

/-- What is asked of a submission that is built. -/
def buildRules (bag : Bag) (s : Submission) : List Rule :=
  s.partRules bag ++ (s.reconcile bag).checkRules

end Submission

/-- **What is asked of a submission and its deferred options**, in the order in which it counts. -/
def Builder.rules (b : Builder) : List Rule :=
  colonRules .dataSet (b.bag.texts "data") ++ b.submission.buildRules b.bag

/-! ### Options -/

theorem isLower_iff (c : Char) : c.isLower = true ↔ 'a' ≤ c ∧ c ≤ 'z' := by
  have hbounds : c.isLower = (decide ('a' ≤ c) && decide (c ≤ 'z')) := rfl
  simp [hbounds]

theorem isDigit_iff (c : Char) : c.isDigit = true ↔ '0' ≤ c ∧ c ≤ '9' := by
  simp [Char.isDigit, Char.le_def]

theorem isNameChar_iff (c : Char) :
    JobSpec.isNameChar c = true ↔ 'a' ≤ c ∧ c ≤ 'z' ∨ '0' ≤ c ∧ c ≤ '9' ∨ c = '-' := by
  simp only [JobSpec.isNameChar, Bool.or_eq_true, decide_eq_true_eq, isLower_iff, isDigit_iff]
  tauto

theorem isName_iff {name : String} : JobSpec.isName name = true ↔ IsLabel name := by
  unfold JobSpec.isName
  split
  · rename_i hnil
    exact iff_of_false (by simp) fun h => by
      obtain ⟨c, cs, hcons, -⟩ := h.start
      rw [hnil] at hcons
      cases hcons
  · rename_i c cs hcons
    simp only [Bool.and_eq_true, decide_eq_true_eq, List.all_eq_true, bne_iff_ne, isLower_iff,
      isNameChar_iff]
    constructor
    · rintro ⟨⟨⟨hstart, hinside⟩, hending⟩, hshort⟩
      refine ⟨hshort, ⟨c, cs, hcons, hstart⟩, ?_, hcons ▸ hending⟩
      rw [hcons]
      exact List.forall_mem_cons.2 ⟨.inl hstart, hinside⟩
    · rintro ⟨hshort, ⟨c', cs', hcons', hstart⟩, hinside, hending⟩
      obtain ⟨rfl, rfl⟩ := List.cons.inj (hcons.symm.trans hcons')
      rw [hcons] at hinside hending
      exact ⟨⟨⟨hstart, (List.forall_mem_cons.1 hinside).2⟩, hending⟩, hshort⟩

theorem judges_nameFault? (j : JobSpec) : Judges (nameRules j.name) j.nameFault? :=
  (judges_if_kept isName_iff _).ite Iff.rfl

theorem judges_colonPairs (fault : String → Submission.Error) (entries : List String) :
    Judges (colonRules fault entries) (readUntil (colonPair fault) entries).2 := by
  refine judges_readUntil (fun entry => ?_) entries
  have hfault : faultOf (colonPair fault entry) =
      if ':' ∉ entry.toList then some (fault entry) else none := by
    unfold colonPair
    split
    · rename_i p hcut
      have hcolon : ':' ∈ entry.toList := by
        by_contra hcolon
        rw [Text.cut?_eq_none_iff.2 hcolon] at hcut
        cases hcut
      rw [if_neg (not_not_intro hcolon)]
      rfl
    · rename_i hcut
      rw [if_pos (Text.cut?_eq_none_iff.1 hcut)]
      rfl
  rw [hfault]
  exact judges_if_violated Decidable.not_not _

theorem judges_tolerations (entries : List String) :
    Judges (tolerationRules entries) (readUntil JobSpec.tolerationOf entries).2 := by
  refine judges_readUntil (fun entry => ?_) entries
  have hfault : faultOf (JobSpec.tolerationOf entry) =
      if entry = "all" then none
      else (Rule.reads (Toleration.parse entry) .toleration).error? := by
    unfold JobSpec.tolerationOf
    split
    · rfl
    · cases Toleration.parse entry <;> rfl
  rw [hfault]
  exact (judges_reads _ _).exempt

namespace Submission

variable (bag : Bag)

open Outcome

theorem judged_addOptions : Judged (addOptions bag) fun s =>
    nameRules s.job.name ++ tolerationRules (bag.texts "toleration") ++
      colonRules .dataDir (bag.texts "data-dir") ++
      colonRules .configFile (bag.texts "config-file") := by
  have hname : Judged (fun s => .check s s.job.nameFault?) fun s => nameRules s.job.name :=
    fun s => judges_nameFault? s.job
  have htols : Judged (addTolerations bag) fun _ => tolerationRules (bag.texts "toleration") :=
    fun _ => judges_tolerations _
  have hdirs : Judged (addDataDirs bag) fun _ => colonRules .dataDir (bag.texts "data-dir") :=
    fun _ => judges_colonPairs .dataDir _
  have hfiles : Judged (addConfigFiles bag) fun _ =>
      colonRules .configFile (bag.texts "config-file") :=
    fun _ => judges_colonPairs .configFile _
  -- every rule looks at the name of the job or at the bag, and no option changes those
  refine Judged.andThen ?_ hfiles fun _ => rfl
  refine Judged.andThen_done ?_ _
  refine Judged.andThen ?_ hdirs fun _ => rfl
  exact (hname.andThen_done _).andThen htols fun _ => rfl

/-! ### Services -/

theorem source_defaultSyncImage (image : String) (s : Submission) :
    (s.defaultSyncImage image).sync.source = s.sync.source := by
  unfold defaultSyncImage
  split <;> rfl

theorem error?_nameProject (image : String) (s : Submission) :
    (nameProject (s.defaultSyncImage image)).error? =
      if s.sync.repository = "" then some (.syncSourceUnnamed s.sync.source) else none := by
  have hname : projectName? s.sync.source =
      if s.sync.repository = "" then none else some s.sync.repository := rfl
  unfold nameProject
  rw [source_defaultSyncImage, hname]
  by_cases hempty : s.sync.repository = ""
  · simp only [hempty, if_true]
  · simp only [hempty, if_false]
    rfl

theorem error?_sourceFault?_andThen (stage : Submission → Outcome) (s : Submission) :
    ((Outcome.check s s.sourceFault?).andThen stage).error? =
      if s.sync.source = "" then some (.syncSourceMissing s.sync.mode) else (stage s).error? := by
  unfold sourceFault?
  split <;> rfl

/-- The first of three conditions that code fetching does not meet. -/
theorem error?_buildSync (s : Submission) : (buildSync s).error? =
    if s.sync.mode ∉ ["", "rsync", "git"] then some (.syncModeUnsupported s.sync.mode)
    else if s.sync.mode ∈ ["rsync", "git"] ∧ s.sync.source = "" then
      some (.syncSourceMissing s.sync.mode)
    else if s.sync.mode = "git" ∧ s.sync.repository = "" then
      some (.syncSourceUnnamed s.sync.source)
    else none := by
  unfold buildSync
  split
  · rename_i hmode
    simp [hmode, done]
  · rename_i hoff
    split
    · rename_i hmode
      simp [error?_sourceFault?_andThen, hmode, done]
    · rename_i hcopy
      split
      · rename_i hmode
        simp [error?_sourceFault?_andThen, error?_nameProject, hmode]
      · rename_i hcheckout
        simp [hoff, hcopy, hcheckout]

theorem judged_buildSync : Judged buildSync fun s => s.sync.rules := by
  intro s
  rw [error?_buildSync]
  exact ((judges_if_violated not_and _).ite not_and).ite not_not

theorem logDir_withLogDir (s : Submission) :
    s.withLogDir.dashboard.logDir = s.dashboard.givenLogDir := by
  unfold withLogDir Dashboard.givenLogDir
  split <;> rfl

theorem error?_buildDashboard (s : Submission) : (buildDashboard bag s).error? =
    if s.dashboard.enabled ∧ s.dashboard.givenLogDir.toList.head? ≠ some '/' then
      some (.logDirRelative s.dashboard.givenLogDir)
    else none := by
  unfold buildDashboard
  split
  · rename_i henabled
    have hcheck : ((Outcome.check s.withLogDir s.withLogDir.logDirFault?).andThen
        fun s => .done (s.placeLogs bag)).error? = s.withLogDir.logDirFault? := by
      cases s.withLogDir.logDirFault? <;> rfl
    rw [hcheck]
    unfold logDirFault? Path.isAbsolute
    rw [logDir_withLogDir]
    simp [henabled]
  · rename_i henabled
    simp [henabled, done]

theorem judged_buildDashboard : Judged (buildDashboard bag) fun s => s.dashboard.rules := by
  intro s
  rw [error?_buildDashboard]
  exact judges_if_violated (by simp) _

theorem judged_fragments : Judged (fragments bag) (partRules bag) := by
  have hderive : Judged (derive bag) fun s => s.sync.rules ++ s.dashboard.rules :=
    ((judged_buildSync.andThen (judged_buildDashboard bag)
      (buildSync_keeps fun _ _ => rfl)).mapJob_andThen fun _ => rfl)
  have hparts := (judged_addOptions bag).andThen hderive (addOptions_keeps (fun _ _ _ => rfl) bag)
  intro s
  rw [fragments_eq]
  unfold partRules
  rw [List.append_assoc _ s.sync.rules]
  exact hparts s

/-! ### Checks -/

theorem judges_quantity (option value : String) :
    Judges [quantityRule option value] (quantityFault? option value) :=
  judges_if_kept Iff.rfl _

theorem judges_period (option value : String) :
    Judges [periodRule option value] (periodFault? option value) := by
  have hfault : periodFault? option value =
      if value = "" then none else (Rule.reads (Span.parse value) (.period option)).error? := by
    unfold periodFault?
    cases Span.parse value <;> rfl
  rw [hfault]
  exact (judges_reads _ _).exempt

theorem judges_topology (option mode : String) :
    Judges [topologyRule option mode] (topologyFault? option mode) :=
  judges_if_kept List.contains_iff_mem _

theorem judges_partition (s : Submission) :
    Judges [.condition (0 < s.totalPartitions → 0 < s.partitionSize) .partitionSizeMissing,
      .condition (0 < s.partitionSize → 0 < s.totalPartitions) .totalPartitionsMissing]
      s.partitionFault? :=
  (judges_if_violated (not_and.trans (imp_congr_right fun _ => Int32.not_le)) _).ite
    (not_and.trans (imp_congr_right fun _ => Int32.not_le))

theorem judges_volcanoFaults (s : Submission) :
    Judges (s.volcanoRules.map (·.exempt (s.innerType ≠ "volcano")))
      (s.volcanoFaults.findSome? id) := by
  have hfaults : s.volcanoFaults.findSome? id = if s.innerType ≠ "volcano" then none else
      [s.masterPortFault?, topologyFault? "network-topology-mode" s.topology.mode,
        topologyFault? "partition-topology-mode" s.partitionTopology.mode,
        s.partitionFault?].findSome? id := by
    have hvolcano : s.isVolcano = true ↔ s.innerType = "volcano" := decide_eq_true_iff
    unfold volcanoFaults
    by_cases h : s.innerType = "volcano"
    · rw [if_pos (hvolcano.2 h), if_neg (not_not_intro h)]
    · rw [if_neg (mt hvolcano.1 h), if_pos h]
      rfl
  have hport : Judges [.condition (1 ≤ s.task.masterPort ∧ s.task.masterPort ≤ 65535)
      (.masterPort s.task.masterPort)] s.masterPortFault? := judges_if_kept Iff.rfl _
  rw [hfaults]
  exact (judges_findSome? (.cons hport (.cons (judges_topology _ _)
    (.cons (judges_topology _ _) (.cons s.judges_partition .nil))))).exempt

theorem judges_fault? (s : Submission) : Judges s.checkRules s.fault? := by
  have himage : Judges [.condition (s.job.image ≠ "") .imageMissing] s.imageFault? :=
    judges_if_violated Iff.rfl _
  have hclean : Judges [.condition (s.policy.cleanPods ∈ ["None", "Running", "All"])
      (.cleanPodsUnsupported s.policy.cleanPods)] s.cleanPodsFault? :=
    judges_if_kept List.contains_iff_mem _
  have hgpus : Judges [.condition (0 ≤ s.job.gpuCount) .gpusNegative] s.gpusFault? :=
    judges_if_violated Int32.not_lt _
  have hdeadline : Judges [.condition (0 ≤ s.policy.activeDeadlineSeconds) .deadlineNegative]
      s.deadlineFault? := judges_if_violated Int64.not_lt _
  have httl : Judges [.condition (0 ≤ s.policy.ttlSecondsAfterFinished) .ttlNegative]
      s.ttlFault? := judges_if_violated Int32.not_lt _
  have hprocs : Judges [.condition (s.policy.procsPerNode ∈ ["", "auto", "cpu", "gpu"] ∨
      ∃ n, Text.int64? s.policy.procsPerNode = some n) .procsPerNode] s.procsPerNodeFault? :=
    judges_if_kept (or_congr List.contains_iff_mem Option.isSome_iff_exists) _
  have hretry : Judges [.condition (0 ≤ s.faults.retryLimit) .retryLimitNegative]
      s.retryLimitFault? := judges_if_violated Int32.not_lt _
  have hinner : Judges [.condition (s.innerType ∈ ["pytorch", "volcano"])
      (.innerTypeUnsupported s.innerType)] s.innerTypeFault? := by
    refine judges_if_kept ?_ _
    unfold innerType? InnerType.ofName?
    split
    · rename_i h
      simp [h]
    · split
      · rename_i h
        simp [h]
      · rename_i hpytorch hvolcano
        simp [hpytorch, hvolcano]
  have hchecks := judges_findSome? (.cons himage (.cons hclean (.cons hgpus
    (.cons (judges_quantity "cpu" s.cpu) (.cons (judges_quantity "memory" s.memory)
    (.cons (judges_quantity "share-memory" s.policy.shareMemory) (.cons hdeadline (.cons httl
    (.cons hprocs (.cons hretry
    (.cons (judges_period "admission-grace-period" s.faults.admissionGracePeriod)
    (.cons (judges_period "warmup-grace-period" s.faults.warmupGracePeriod)
    (.cons (judges_period "failure-grace-period" s.faults.failureGracePeriod)
    (.cons (judges_period "retry-pause-period" s.faults.retryPausePeriod)
    (.cons (judges_period "success-ttl" s.faults.successTtl)
    (.cons hinner .nil))))))))))))))))
  rw [fault?, checks, List.findSome?_append]
  exact hchecks.or s.judges_volcanoFaults

/-- The checks look at nothing of a job but its image and its GPUs. -/
theorem checkRules_congr {s : Submission} {j : JobSpec} (himage : j.image = s.job.image)
    (hgpus : j.gpuCount = s.job.gpuCount) : { s with job := j }.checkRules = s.checkRules := by
  unfold checkRules
  simp only [himage, hgpus]
  rfl

/-- The checks do not look at the counts that are brought together. -/
theorem checkRules_reconcile (s : Submission) :
    (s.reconcile bag).checkRules = (s.setRunPolicy bag).checkRules := by
  unfold reconcile syncReplicas
  split
  · exact checkRules_congr (s := s.setRunPolicy bag) rfl rfl
  · rfl

/-- No part that is completed changes what the checks look at. -/
theorem checkRules_keeps : Keeps (fun s => (s.reconcile bag).checkRules) (fragments bag) := by
  simp only [checkRules_reconcile]
  exact fragments_keeps
    (fun s j hj => checkRules_congr (s := s.setRunPolicy bag) hj.image hj.gpuCount)
    (fun _ _ => rfl) (fun _ _ => rfl) bag

theorem judged_build : Judged (build bag) (buildRules bag) := by
  have hcheck : Judged (fun t => .check (t.reconcile bag) (t.reconcile bag).fault?)
      fun t => (t.reconcile bag).checkRules := fun t => judges_fault? (t.reconcile bag)
  intro s
  rw [build_eq]
  exact (judged_fragments bag).andThen (hcheck.andThen_done publish) (checkRules_keeps bag) s

/-! ### Data sets -/

theorem setRunPolicy_insert_mounts (mounts : OptionValue) (s : Submission) :
    s.setRunPolicy (bag.insert Bag.dataSetMounts mounts) = s.setRunPolicy bag := by
  unfold setRunPolicy
  rw [Bag.span?_insert_of_ne (by decide), Bag.span?_insert_of_ne (by decide)]

/-- No rule looks at the mounts that are published. -/
theorem buildRules_insert_mounts (mounts : OptionValue) (s : Submission) :
    s.buildRules (bag.insert Bag.dataSetMounts mounts) = s.buildRules bag := by
  unfold buildRules partRules
  rw [checkRules_reconcile, checkRules_reconcile, setRunPolicy_insert_mounts,
    Bag.texts_insert_of_ne (by decide), Bag.texts_insert_of_ne (by decide),
    Bag.texts_insert_of_ne (by decide)]

/-- Taking over the data sets and building, one after the other. -/
def finish (s : Submission) : Outcome :=
  (addDataSets bag s).andThen fun t =>
    t.build (bag.insert Bag.dataSetMounts (.dict t.job.dataSets))

theorem judged_finish : Judged (finish bag) fun s =>
    colonRules .dataSet (bag.texts "data") ++ s.buildRules bag := by
  have hsets : Judged (addDataSets bag) fun _ => colonRules .dataSet (bag.texts "data") :=
    fun _ => judges_colonPairs .dataSet _
  have hbuild : Judged (fun t => t.build (bag.insert Bag.dataSetMounts (.dict t.job.dataSets)))
      (buildRules bag) := fun t => by
    rw [← buildRules_insert_mounts bag (.dict t.job.dataSets)]
    exact judged_build _ t
  refine hsets.andThen hbuild fun s => ?_
  unfold buildRules
  rw [checkRules_reconcile, checkRules_reconcile]
  rfl

end Submission

namespace Builder

theorem finish_eq_result (b : Builder) : b.finish = (b.submission.finish b.bag).result := by
  rw [finish_eq, Submission.finish, Outcome.result_andThen]
  rfl

theorem judges_finish (b : Builder) : Judges b.rules (b.submission.finish b.bag).error? :=
  Submission.judged_finish b.bag b.submission

/-- The error is that of the first violated rule. -/
theorem finish_eq_error_iff {b : Builder} {e : Submission.Error} :
    b.finish = .error e ↔ FirstViolated b.rules e := by
  rw [← b.judges_finish.eq_some_iff, ← Outcome.result_eq_error_iff, finish_eq_result]

/-- **Which submissions are accepted.** Taking over the data sets and building succeeds exactly if
all rules hold, and else the error is that of the first violated rule. -/
theorem succeeds_iff_rules_hold (b : Builder) :
    (b.Succeeds ↔ ∀ ρ ∈ b.rules, ρ.holds) ∧
      ∀ e, b.finish = .error e ↔ FirstViolated b.rules e := by
  constructor
  · rw [← b.judges_finish.eq_none_iff, ← Outcome.exists_result_eq_ok_iff, ← finish_eq_result]
    rfl
  · intro e
    exact finish_eq_error_iff

end Builder

end WrappedTraining
