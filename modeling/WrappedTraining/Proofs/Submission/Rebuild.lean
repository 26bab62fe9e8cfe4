import WrappedTraining.Proofs.Submission.Acceptance
import WrappedTraining.Proofs.Submission.Entries

/-!
# Building again

A builder that succeeded holds its outcome and the deferred options that went into it, and can be
asked to take over the data sets and to build once more. It then starts from maps that hold what was
derived, from counts that were brought together, and from side services that are complete.

* `Submission.built` : what a build that succeeds makes of a submission, as one function
  (`Builder.eq_built_of_finish`);
* `Submission.built_built` : made of its own outcome, it adds to three lists and changes nothing
  else, since entries that are inserted twice are there once (`Dict.insertAll_insertAll`);
* `Submission.buildRules_built` : the outcome of a build keeps the rules that the submission kept;
* `Builder.rebuild_of_build` : the second build succeeds, and adds to the three lists.
-/

namespace WrappedTraining

/-- Entries that are there already change nothing. -/
theorem Dict.insertAll_insertAll {α : Type} (d : Dict α) (es : List (String × α)) :
    (d.insertAll es).insertAll es = d.insertAll es := by
  refine ext_get? fun k => ?_
  simp only [get?_insertAll]
  cases lookup? k es.reverse <;> rfl

theorem Dict.insertAll_append {α : Type} (d : Dict α) (es es' : List (String × α)) :
    d.insertAll (es ++ es') = (d.insertAll es).insertAll es' :=
  List.foldl_append

theorem Bag.insert_insert (b : Bag) (name : String) (v w : OptionValue) :
    (b.insert name v).insert name w = b.insert name w :=
  congrArg Bag.mk (Dict.insert_insert b.options name v w)

/-! ### Completed services -/

namespace CodeSync

/-- The image that fetches sources when none is given. -/
def defaultImage (mode : String) : String :=
  if mode = "rsync" then Submission.copyImage
  else if mode = "git" then Submission.checkoutImage
  else ""

/-- The image that fetches sources. -/
def givenImage (c : CodeSync) : String := if c.image = "" then defaultImage c.mode else c.image

/-- Code fetching when it is complete. -/
def completed (c : CodeSync) : CodeSync :=
  { c with
    image := c.givenImage
    projectName := if c.mode = "git" then c.repository else c.projectName }

theorem completed_completed (c : CodeSync) : c.completed.completed = c.completed := by
  have himage : c.completed.givenImage = c.givenImage := by
    unfold completed givenImage
    by_cases hempty : c.image = "" <;> simp [hempty]
  have hname : c.completed.completed.projectName = c.completed.projectName := by
    by_cases hmode : c.mode = "git"
    · exact (if_pos hmode).trans (if_pos hmode).symm
    · exact if_neg hmode
  calc c.completed.completed
      = { c with
          image := c.completed.givenImage
          projectName := c.completed.completed.projectName } :=
        rfl
    _ = c.completed := by rw [himage, hname]; rfl

theorem completed_of_off {c : CodeSync} (h : c.mode = "") : c.completed = c := by
  obtain ⟨mode, source, image, projectName⟩ := c
  obtain rfl : mode = "" := h
  by_cases hempty : image = "" <;> simp [completed, givenImage, defaultImage, hempty]

/-- Completing changes nothing that is asked of code fetching. -/
theorem rules_completed (c : CodeSync) : c.completed.rules = c.rules := rfl

end CodeSync

namespace Dashboard

/-- The dashboard when it is complete, for data sets at these mounts and a job of this name. -/
def completed (mounts : Dict String) (name : String) (d : Dashboard) : Dashboard :=
  if d.enabled then
    if mounts.values.any (Path.isBelow d.givenLogDir) then
      { d with logDir := d.givenLogDir, isLocal := false }
    else
      { d with
        logDir := d.givenLogDir
        isLocal := true
        hostLogPath := "/arena_logs/training-" ++ name }
  else d

variable (mounts : Dict String) (name : String) (d : Dashboard)

theorem enabled_completed : (d.completed mounts name).enabled = d.enabled := by
  unfold completed
  split
  · split <;> rfl
  · rfl

theorem givenLogDir_of_eq {d d' : Dashboard} (h : d'.logDir = d.givenLogDir) :
    d'.givenLogDir = d.givenLogDir := by
  have hne : d.givenLogDir ≠ "" := by
    unfold givenLogDir
    split
    · decide
    · assumption
  rw [givenLogDir, h, if_neg hne]

theorem givenLogDir_completed : (d.completed mounts name).givenLogDir = d.givenLogDir := by
  unfold completed
  split
  · split <;> exact givenLogDir_of_eq rfl
  · rfl

theorem completed_completed :
    (d.completed mounts name).completed mounts name = d.completed mounts name := by
  have henabled := d.enabled_completed mounts name
  have hdir := d.givenLogDir_completed mounts name
  rw [completed, henabled, hdir]
  unfold completed
  split
  · split <;> rfl
  · rfl

theorem rules_completed : (d.completed mounts name).rules = d.rules := by
  unfold rules
  rw [enabled_completed, givenLogDir_completed]

end Dashboard

/-! ### What a build makes of a submission -/

namespace Submission

variable {bag : Bag} {s t : Submission} {mounts : Dict String}

/-- The variables of the deferred options, and those that are derived. -/
def builtEnvs (bag : Bag) (s : Submission) : List (String × String) :=
  pairsOf '=' (bag.texts "env") ++
    [("gpus", Text.ofInt s.job.gpuCount.toInt), ("workers", Text.ofInt s.builtWorkers.toInt)] ++
    s.derivedEnvs

/-- The annotations of the deferred options, and those that are derived. -/
def builtAnnotations (bag : Bag) (s : Submission) : List (String × String) :=
  pairsOf '=' (bag.texts "annotation") ++
    [(Labels.requestedGpus, Text.ofInt (s.builtWorkers.toInt * s.job.gpuCount.toInt))] ++
    faultAnnotations s.faults

/-- The data sets of the submission and of the deferred options. -/
def builtDataSets (bag : Bag) (s : Submission) : Dict String :=
  s.job.dataSets.insertAll (pairsOf ':' (bag.texts "data"))

/-- The job that a build makes. -/
def builtJob (bag : Bag) (s : Submission) : JobSpec :=
  { s.job with
    workerCount := s.builtWorkers
    envs := s.job.envs.insertAll (s.builtEnvs bag)
    annotations := s.job.annotations.insertAll (s.builtAnnotations bag)
    labels := s.job.labels.insertAll (pairsOf '=' (bag.texts "label"))
    nodeSelectors := s.job.nodeSelectors.insertAll (pairsOf '=' (bag.texts "selector"))
    tolerations :=
      s.job.tolerations ++ (readUntil JobSpec.tolerationOf (bag.texts "toleration")).1
    dataSets := s.builtDataSets bag
    dataDirs := s.job.dataDirs ++
      JobSpec.volumesOf (readUntil (colonPair .dataDir) (bag.texts "data-dir")).1
    imagePullSecrets := s.job.imagePullSecrets ++ bag.texts "image-pull-secret"
    devices := s.job.devices.insertAll (pairsOf '=' (bag.texts "device"))
    configFiles := s.job.configFiles.insertAll (pairsOf ':' (bag.texts "config-file"))
    podGroupName := if s.job.coscheduling then "group-" ++ s.job.name else s.job.podGroupName
    podGroupMinAvailable :=
      if s.job.coscheduling then Text.ofInt s.builtWorkers.toInt
      else s.job.podGroupMinAvailable }

/-- The submission that a build makes. -/
def built (bag : Bag) (s : Submission) : Submission :=
  { s with
    job := s.builtJob bag
    dashboard := s.dashboard.completed (s.builtDataSets bag) s.job.name
    sync := s.sync.completed
    policy := (s.setRunPolicy bag).policy }

theorem eq_of_done (h : (Outcome.done s).result = .ok t) : t = s := (Except.ok.inj h).symm

theorem eq_of_check_andThen {fault? : Option Error} {stage : Submission → Outcome}
    (h : ((Outcome.check s fault?).andThen stage).result = .ok t) : (stage s).result = .ok t := by
  cases fault? with
  | none => exact h
  | some e => cases h

theorem defaultSyncImage_eq (image : String) (s : Submission) : s.defaultSyncImage image =
    { s with sync := { s.sync with
      image := if s.sync.image = "" then image else s.sync.image } } := by
  unfold defaultSyncImage
  split <;> rfl

theorem eq_of_nameProject (h : (nameProject s).result = .ok t) :
    t = { s with sync := { s.sync with projectName := s.sync.repository } } := by
  unfold nameProject at h
  split at h
  · rename_i name hname
    have hrepository : s.sync.repository = name := by
      unfold projectName? Text.nonEmpty? at hname
      split at hname
      · cases hname
      · exact Option.some.inj hname
    rw [eq_of_done h, hrepository]
  · cases h

theorem eq_of_buildSync (h : (buildSync s).result = .ok t) :
    t = { s with sync := s.sync.completed } := by
  unfold buildSync at h
  split at h
  · rename_i hoff
    rw [CodeSync.completed_of_off hoff]
    exact eq_of_done h
  · split at h
    · rename_i hmode
      have hdone := eq_of_check_andThen h
      rw [eq_of_done hdone, defaultSyncImage_eq]
      simp [CodeSync.completed, CodeSync.givenImage, CodeSync.defaultImage, hmode]
    · split at h
      · rename_i hmode
        have hname := eq_of_check_andThen h
        rw [eq_of_nameProject hname, defaultSyncImage_eq]
        simp [CodeSync.completed, CodeSync.givenImage, CodeSync.defaultImage,
          CodeSync.repository, hmode]
      · cases h

theorem withLogDir_eq (s : Submission) : s.withLogDir =
    { s with dashboard := { s.dashboard with logDir := s.dashboard.givenLogDir } } := by
  unfold withLogDir Dashboard.givenLogDir
  split <;> rfl

theorem eq_of_buildDashboard (hmounts : bag.dict? Bag.dataSetMounts = some mounts)
    (h : (buildDashboard bag s).result = .ok t) :
    t = { s with dashboard := s.dashboard.completed mounts s.job.name } := by
  unfold buildDashboard at h
  unfold Dashboard.completed
  split at h
  · rename_i hon
    have hdone := eq_of_check_andThen h
    rw [eq_of_done hdone, withLogDir_eq, if_pos hon]
    simp only [placeLogs, logsOnDataSet, hmounts]
    split <;> rfl
  · rename_i hoff
    rw [if_neg hoff]
    exact eq_of_done h

theorem eq_of_services (hmounts : bag.dict? Bag.dataSetMounts = some mounts)
    (h : (services bag s).result = .ok t) :
    t = { s with
      dashboard := s.dashboard.completed mounts s.job.name
      sync := s.sync.completed } := by
  rw [services, Outcome.result_andThen] at h
  cases hsync : (buildSync s).result with
  | error e =>
    rw [hsync] at h
    cases h
  | ok p =>
    rw [hsync] at h
    rw [eq_of_buildDashboard hmounts h, eq_of_buildSync hsync]

/-- The parts of a submission that are completed on their own. -/
theorem eq_of_fragments (hmounts : bag.dict? Bag.dataSetMounts = some mounts)
    (h : (fragments bag s).result = .ok t) :
    t = { s with
      job := t.job
      dashboard := s.dashboard.completed mounts s.job.name
      sync := s.sync.completed } := by
  rw [fragments_eq, Outcome.result_andThen] at h
  cases hadd : (addOptions bag s).result with
  | error e =>
    rw [hadd] at h
    cases h
  | ok p =>
    rw [hadd] at h
    obtain rfl := (addOptions_makes bag).of_result hadd
    rw [eq_of_services hmounts h]
    rfl

theorem publish_reconcile (bag : Bag) (s : Submission) : (s.reconcile bag).publish =
    { s with
      job := (s.reconcile bag).publish.job
      policy := (s.setRunPolicy bag).policy } := by
  unfold reconcile syncReplicas
  split <;> rfl

end Submission

namespace Builder

variable {b : Builder} {u r : Submission}

theorem Reconciled.job_publish (h : b.Reconciled u) :
    u.publish.job = b.submission.builtJob b.bag := by
  have hpublish : u.publish.job = { u.job with
      annotations := u.job.annotations.insertAll (Submission.faultAnnotations u.faults)
      envs := u.job.envs.insertAll u.annotateFaults.derivedEnvs } := by
    rw [← u.map_faultSettings]
    rfl
  rw [hpublish, h.derivedEnvs, h.faults, h.job, JobSpec.setWorkers_deriveNames]
  simp only [Submission.builtJob, Submission.builtEnvs, Submission.builtAnnotations,
    Dict.insertAll_append]
  rfl

/-- **What a build that succeeds makes of a submission.** -/
theorem eq_built_of_finish (h : b.finish = .ok r) : r = b.submission.built b.bag := by
  obtain ⟨s, hs, hbuild⟩ := finish_eq_ok_iff.1 h
  obtain ⟨t, ht, -, rfl⟩ := Submission.result_build_eq_ok_iff.1 hbuild
  have hjob := (reconciled_of_fragments hs ht).job_publish
  have hmounts : (b.bag.insert Bag.dataSetMounts (.dict s.job.dataSets)).dict?
      Bag.dataSetMounts = some s.job.dataSets := by
    rw [Bag.dict?_insert_dict, if_pos rfl]
  have hparts := Submission.eq_of_fragments hmounts ht
  rw [Submission.publish_reconcile, hjob, hparts]
  obtain rfl := (Submission.addDataSets_makes b.bag).of_result hs
  simp only [Submission.setRunPolicy_insert_mounts]
  rfl

end Builder

/-! ### Building what was built -/

namespace Submission

variable (bag : Bag) (s : Submission)

theorem builtWorkers_built : (s.built bag).builtWorkers = s.builtWorkers := by
  have hvolcano : (s.built bag).isVolcano = s.isVolcano := rfl
  have hcount : (s.built bag).job.workerCount = s.builtWorkers := rfl
  rw [builtWorkers, hvolcano, hcount]
  unfold builtWorkers
  split <;> rfl

theorem builtEnvs_built : (s.built bag).builtEnvs bag = s.builtEnvs bag := by
  have hderived : (s.built bag).derivedEnvs = s.derivedEnvs := rfl
  rw [builtEnvs, builtWorkers_built, hderived]
  rfl

theorem builtAnnotations_built :
    (s.built bag).builtAnnotations bag = s.builtAnnotations bag := by
  rw [builtAnnotations, builtWorkers_built]
  rfl

theorem builtDataSets_built : (s.built bag).builtDataSets bag = s.builtDataSets bag :=
  Dict.insertAll_insertAll _ _

/-- Built again, a job has the same maps and counts, and three longer lists. -/
theorem builtJob_built : (s.built bag).builtJob bag = { s.builtJob bag with
    tolerations := (s.builtJob bag).tolerations ++
      (readUntil JobSpec.tolerationOf (bag.texts "toleration")).1
    dataDirs := (s.builtJob bag).dataDirs ++
      JobSpec.volumesOf (readUntil (colonPair .dataDir) (bag.texts "data-dir")).1
    imagePullSecrets := (s.builtJob bag).imagePullSecrets ++ bag.texts "image-pull-secret" } := by
  rw [builtJob, builtWorkers_built, builtEnvs_built, builtAnnotations_built, builtDataSets_built]
  simp only [built, builtJob, Dict.insertAll_insertAll]
  by_cases hc : s.job.coscheduling = true
  · simp only [if_pos hc]
  · simp only [if_neg hc]

theorem setRunPolicy_built :
    ((s.built bag).setRunPolicy bag).policy = (s.setRunPolicy bag).policy := by
  simp only [setRunPolicy, built]
  cases bag.span? "running-timeout" <;> cases bag.span? "ttl-after-finished" <;> rfl

/-- **Built again, a submission changes in three lists of its job and nowhere else.** -/
theorem built_built : (s.built bag).built bag =
    { s.built bag with job := (s.built bag).builtJob bag } := by
  have hdashboard : (s.built bag).dashboard.completed ((s.built bag).builtDataSets bag)
      (s.built bag).job.name = (s.built bag).dashboard := by
    rw [builtDataSets_built]
    exact Dashboard.completed_completed _ _ _
  have hsync : (s.built bag).sync.completed = (s.built bag).sync :=
    CodeSync.completed_completed s.sync
  have hpolicy : ((s.built bag).setRunPolicy bag).policy = (s.built bag).policy :=
    setRunPolicy_built bag s
  rw [built, hdashboard, hsync, hpolicy]

/-- The outcome of a build keeps the same rules. -/
theorem buildRules_built : (s.built bag).buildRules bag = s.buildRules bag := by
  have hsync : (s.built bag).sync.rules = s.sync.rules := s.sync.rules_completed
  have hdashboard : (s.built bag).dashboard.rules = s.dashboard.rules :=
    s.dashboard.rules_completed _ _
  have hpolicy : (s.built bag).setRunPolicy bag =
      { s.built bag with policy := (s.setRunPolicy bag).policy } := by
    rw [← setRunPolicy_built]
    rfl
  rw [buildRules, buildRules, partRules, partRules, checkRules_reconcile, checkRules_reconcile,
    hsync, hdashboard, hpolicy]
  rfl

theorem builtDataSets_insert_mounts (mounts : OptionValue) :
    s.builtDataSets (bag.insert Bag.dataSetMounts mounts) = s.builtDataSets bag := by
  rw [builtDataSets, Bag.texts_insert_of_ne (by decide)]
  rfl

/-- Building does not look at the mounts that were published before. -/
theorem built_insert_mounts (mounts : OptionValue) :
    s.built (bag.insert Bag.dataSetMounts mounts) = s.built bag := by
  simp (disch := decide) only [built, builtJob, builtEnvs, builtAnnotations, builtDataSets,
    setRunPolicy_insert_mounts, Bag.texts_insert_of_ne]

/-- Entries that all read are read one by one. -/
theorem mapM_eq_of_readUntil {α : Type} {read : String → Except Error α} {entries : List String}
    (h : (readUntil read entries).2 = none) :
    entries.mapM read = .ok (readUntil read entries).1 := by
  induction entries with
  | nil => rfl
  | cons entry entries ih =>
    unfold readUntil at h ⊢
    cases hread : read entry with
    | error e => simp [hread] at h
    | ok x =>
      simp only [hread] at h ⊢
      rw [List.mapM_cons, hread, ih h]
      rfl

end Submission

namespace Builder

variable {b b₁ b₂ : Builder} {r : Submission}

/-- Taking over the data sets and building, step by step. -/
theorem finish_eq_ok_iff_steps : b.finish = .ok r ↔
    ∃ b₁ b₂, b.preBuild = (b₁, none) ∧ b₁.build = (b₂, none) ∧ b₂.submission = r := by
  unfold finish
  obtain ⟨b₁, e?⟩ := b.preBuild
  cases e? with
  | some e => simp
  | none =>
    simp only [Prod.mk.injEq, and_true, exists_and_left, exists_eq_left']
    obtain ⟨b₂, e?⟩ := b₁.build
    cases e? <;> simp

theorem eq_of_preBuild (hpre : b.preBuild = (b₁, none)) : b₁.bag =
    b.bag.insert Bag.dataSetMounts (.dict (b.submission.builtDataSets b.bag)) := by
  unfold preBuild at hpre
  cases herror : (b.submission.addDataSets b.bag).error? with
  | some e => simp [herror] at hpre
  | none =>
    have hsets := Submission.addDataSets_makes b.bag b.submission herror
    simp only [herror, hsets] at hpre
    rw [← (Prod.mk.inj hpre).1]
    rfl

/-- The builder when both steps have succeeded. -/
theorem eq_of_steps (hpre : b.preBuild = (b₁, none)) (hbuild : b₁.build = (b₂, none)) :
    b₂ = ⟨b.submission.built b.bag,
      b.bag.insert Bag.dataSetMounts (.dict (b.submission.builtDataSets b.bag))⟩ := by
  have hsubmission : b₂.submission = b.submission.built b.bag :=
    eq_built_of_finish (finish_eq_ok_iff_steps.2 ⟨b₁, b₂, hpre, hbuild, rfl⟩)
  have hbag : b₂.bag = b₁.bag := congrArg (fun p => p.1.bag) hbuild.symm
  rw [eq_of_preBuild hpre] at hbag
  obtain ⟨s, bag⟩ := b₂
  obtain rfl : s = _ := hsubmission
  obtain rfl : bag = _ := hbag
  rfl

theorem exists_finish_iff (b : Builder) :
    (∃ r, b.finish = .ok r) ↔ ∀ ρ ∈ b.rules, ρ.holds := by
  have hjudges : Judges b.rules (b.submission.finish b.bag).error? :=
    Submission.judged_finish b.bag b.submission
  rw [finish_eq_result, Outcome.exists_result_eq_ok_iff, hjudges.eq_none_iff]

/-- What a builder has made is accepted again. -/
theorem exists_finish_built (h : b.finish = .ok r) (mounts : OptionValue) :
    ∃ r', finish ⟨b.submission.built b.bag, b.bag.insert Bag.dataSetMounts mounts⟩ = .ok r' := by
  have hrules : rules ⟨b.submission.built b.bag, b.bag.insert Bag.dataSetMounts mounts⟩ =
      b.rules := by
    simp only [rules]
    rw [Submission.buildRules_insert_mounts, Submission.buildRules_built,
      Bag.texts_insert_of_ne (by decide)]
  rw [exists_finish_iff, hrules, ← exists_finish_iff]
  exact ⟨r, h⟩

/-- A builder that succeeds has read all of its tolerations and volumes. -/
theorem error?_readUntil_of_finish (h : b.finish = .ok r) :
    (readUntil JobSpec.tolerationOf (b.bag.texts "toleration")).2 = none ∧
      (readUntil (colonPair .dataDir) (b.bag.texts "data-dir")).2 = none := by
  have hrules := (exists_finish_iff b).1 ⟨r, h⟩
  rw [(judges_tolerations _).eq_none_iff, (judges_colonPairs .dataDir _).eq_none_iff]
  simp only [rules, Submission.buildRules, Submission.partRules, List.forall_mem_append] at hrules
  exact ⟨hrules.2.1.1.1.1.1.2, hrules.2.1.1.1.1.2⟩

/-- **Building again changes three lists of the job and nothing else.** When taking over the data
sets and building succeeds, it succeeds a second time on the same builder, and tolerations, volumes
and image pull secrets of the deferred options are appended once more. -/
theorem rebuild_of_build (hpre : b.preBuild = (b₁, none)) (hbuild : b₁.build = (b₂, none)) :
    ∃ b₃ ts, b₂.preBuild = (b₃, none) ∧
      (b.bag.texts "toleration").mapM JobSpec.tolerationOf = .ok ts ∧
      b₃.build = ({ b₂ with
        submission := { b₂.submission with
          job := { b₂.submission.job with
            tolerations := b₂.submission.job.tolerations ++ ts
            dataDirs := b₂.submission.job.dataDirs ++
              JobSpec.volumesOf (pairsOf ':' (b.bag.texts "data-dir"))
            imagePullSecrets := b₂.submission.job.imagePullSecrets ++
              b.bag.texts "image-pull-secret" } } }, none) := by
  have hfinish := finish_eq_ok_iff_steps.2 ⟨b₁, b₂, hpre, hbuild, rfl⟩
  obtain ⟨htols, hdirs⟩ := error?_readUntil_of_finish hfinish
  obtain rfl := eq_of_steps hpre hbuild
  obtain ⟨r', hagain⟩ := exists_finish_built hfinish _
  obtain ⟨b₃, b₄, hpre', hbuild', -⟩ := finish_eq_ok_iff_steps.1 hagain
  refine ⟨b₃, _, hpre', Submission.mapM_eq_of_readUntil htols, ?_⟩
  -- the mounts are published again, and they are the same
  have hsets := Submission.builtDataSets_insert_mounts b.bag (b.submission.built b.bag)
    (.dict (b.submission.builtDataSets b.bag))
  rw [Submission.builtDataSets_built] at hsets
  rw [hbuild', eq_of_steps hpre' hbuild', ← Submission.readUntil_colonPair hdirs]
  simp only [Submission.built_insert_mounts, Submission.built_built, Submission.builtJob_built,
    hsets, Bag.insert_insert]
  rfl

/-- A volcano job with logs, sources, variables and volumes, built twice: its volume is there twice,
and its variables are the same. -/
theorem rebuild_of_build_volcano :
    let demo : Submission := { Submission.initial with
      innerType := "volcano"
      job := { JobSpec.initial with name := "demo", image := "x", gpuCount := 8 }
      task := { Submission.initial.task with replicas := 3 }
      dashboard := { Dashboard.initial with enabled := true, logDir := "" }
      sync := ⟨"git", "team/code.git", "", ""⟩ }
    let b := (((Builder.new demo).add "env" (.texts ["A=1", "workers=9"])).add "data-dir"
      (.texts ["/data:/mnt"])).add "data" (.texts ["logs:/training_logs"])
    ∃ b₁ b₂ b₃ b₄, b.preBuild = (b₁, none) ∧ b₁.build = (b₂, none) ∧
      b₂.preBuild = (b₃, none) ∧ b₃.build = (b₄, none) ∧
      b₄.submission.job.envs = b₂.submission.job.envs ∧
      b₄.submission.job.dataDirs =
        [⟨"training-data-0", "/data", "/mnt"⟩, ⟨"training-data-0", "/data", "/mnt"⟩] := by
  intro demo b
  have hsucceeds : b.Succeeds := by decide +kernel
  obtain ⟨r, hr⟩ := hsucceeds
  obtain ⟨b₁, b₂, hpre, hbuild, -⟩ := finish_eq_ok_iff_steps.1 hr
  obtain ⟨b₃, ts, hpre', -, hbuild'⟩ := rebuild_of_build hpre hbuild
  refine ⟨b₁, b₂, b₃, _, hpre, hbuild, hpre', hbuild', rfl, ?_⟩
  show b₂.submission.job.dataDirs ++ JobSpec.volumesOf (pairsOf ':' (b.bag.texts "data-dir")) = _
  rw [eq_of_steps hpre hbuild]
  decide +kernel

end Builder

end WrappedTraining
