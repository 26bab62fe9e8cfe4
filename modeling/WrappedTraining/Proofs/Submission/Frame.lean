import Mathlib.Data.List.Induction
import WrappedTraining.Proofs.Dict
import WrappedTraining.Proofs.Submission.History

/-!
# What building leaves alone

A build that fails leaves the submission as far as it got, and a builder can be used again after
that. `Submission.Frame` says what can have changed between two moments in the life of a builder, no
matter which stages ran, how often, and which of them failed.

* `JobSpec.Frame` : entries of a job are added and replaced but never lost;
* `Submission.Frame.trans` : frames compose, so that a frame of each stage is one of every run;
* `Submission.frame_build` : building stays in the frame wherever it stops;
* `Builder.run_eq_or_written` : what a run leaves somewhere is what was there at the start or what
  one of its steps wrote there;
* `Builder.frame_of_run` : submission, limits and deferred options after any run.
-/

namespace WrappedTraining

/-! ### Frames -/

/-- **What can change in a job**: entries are added, the worker count and the pod group are set. -/
structure JobSpec.Frame (j j' : JobSpec) : Prop where
  rest : j' = { j with
    workerCount := j'.workerCount
    envs := j'.envs
    annotations := j'.annotations
    labels := j'.labels
    nodeSelectors := j'.nodeSelectors
    tolerations := j'.tolerations
    dataSets := j'.dataSets
    dataDirs := j'.dataDirs
    imagePullSecrets := j'.imagePullSecrets
    devices := j'.devices
    configFiles := j'.configFiles
    podGroupName := j'.podGroupName
    podGroupMinAvailable := j'.podGroupMinAvailable }
  envs : j.envs.keys ⊆ j'.envs.keys
  annotations : j.annotations.keys ⊆ j'.annotations.keys
  labels : j.labels.keys ⊆ j'.labels.keys
  nodeSelectors : j.nodeSelectors.keys ⊆ j'.nodeSelectors.keys
  dataSets : j.dataSets.keys ⊆ j'.dataSets.keys
  devices : j.devices.keys ⊆ j'.devices.keys
  configFiles : j.configFiles.keys ⊆ j'.configFiles.keys
  tolerations : j.tolerations <+: j'.tolerations
  dataDirs : j.dataDirs <+: j'.dataDirs
  imagePullSecrets : j.imagePullSecrets <+: j'.imagePullSecrets
  /-- The pod group is named and counted only if pods are scheduled together. -/
  podGroup : j.coscheduling = false →
    j'.podGroupName = j.podGroupName ∧ j'.podGroupMinAvailable = j.podGroupMinAvailable

/-- **What can change in a submission**: the job in its own frame, the limits of the run policy,
and of the side services what is set when it is missing and what is derived. -/
structure Submission.Frame (s s' : Submission) : Prop where
  rest : s' = { s with
    job := s'.job
    dashboard := { s.dashboard with
      logDir := s'.dashboard.logDir
      hostLogPath := s'.dashboard.hostLogPath
      isLocal := s'.dashboard.isLocal }
    sync := { s.sync with
      image := s'.sync.image
      projectName := s'.sync.projectName }
    policy := { s.policy with
      activeDeadlineSeconds := s'.policy.activeDeadlineSeconds
      ttlSecondsAfterFinished := s'.policy.ttlSecondsAfterFinished } }
  job : s.job.Frame s'.job
  /-- Only a volcano job gets another worker count. -/
  workerCount : s.isVolcano = false → s'.job.workerCount = s.job.workerCount
  logDir : s.dashboard.logDir ≠ "" → s'.dashboard.logDir = s.dashboard.logDir
  /-- Logs are placed only if the dashboard is on. -/
  logs : s.dashboard.enabled = false →
    s'.dashboard.isLocal = s.dashboard.isLocal ∧
      s'.dashboard.hostLogPath = s.dashboard.hostLogPath
  syncImage : s.sync.image ≠ "" → s'.sync.image = s.sync.image
  /-- Only a repository has a directory of its own. -/
  projectName : s.sync.mode ≠ "git" → s'.sync.projectName = s.sync.projectName

/-! ### Jobs -/

namespace JobSpec.Frame

variable {j j' j'' : JobSpec}

theorem refl (j : JobSpec) : j.Frame j where
  rest := rfl
  envs := List.Subset.refl _
  annotations := List.Subset.refl _
  labels := List.Subset.refl _
  nodeSelectors := List.Subset.refl _
  dataSets := List.Subset.refl _
  devices := List.Subset.refl _
  configFiles := List.Subset.refl _
  tolerations := List.prefix_rfl
  dataDirs := List.prefix_rfl
  imagePullSecrets := List.prefix_rfl
  podGroup _ := ⟨rfl, rfl⟩

theorem coscheduling (h : j.Frame j') : j'.coscheduling = j.coscheduling := by
  rw [h.rest]

theorem trans (h : j.Frame j') (h' : j'.Frame j'') : j.Frame j'' where
  rest := h'.rest.trans (by rw [h.rest])
  envs := List.Subset.trans h.envs h'.envs
  annotations := List.Subset.trans h.annotations h'.annotations
  labels := List.Subset.trans h.labels h'.labels
  nodeSelectors := List.Subset.trans h.nodeSelectors h'.nodeSelectors
  dataSets := List.Subset.trans h.dataSets h'.dataSets
  devices := List.Subset.trans h.devices h'.devices
  configFiles := List.Subset.trans h.configFiles h'.configFiles
  tolerations := h.tolerations.trans h'.tolerations
  dataDirs := h.dataDirs.trans h'.dataDirs
  imagePullSecrets := h.imagePullSecrets.trans h'.imagePullSecrets
  podGroup hc := by
    obtain ⟨hname, hcount⟩ := h.podGroup hc
    obtain ⟨hname', hcount'⟩ := h'.podGroup (h.coscheduling.trans hc)
    exact ⟨hname'.trans hname, hcount'.trans hcount⟩

end JobSpec.Frame

namespace JobSpec

variable (bag : Bag) (j : JobSpec)

theorem frame_addEntries : j.Frame (j.addEntries bag) where
  __ := Frame.refl j
  rest := rfl
  envs := Dict.keys_subset_insertAll _ _
  nodeSelectors := Dict.keys_subset_insertAll _ _
  annotations := Dict.keys_subset_insertAll _ _
  labels := Dict.keys_subset_insertAll _ _

theorem frame_addSecrets : j.Frame (j.addSecrets bag) where
  __ := Frame.refl j
  rest := rfl
  imagePullSecrets := List.prefix_append _ _
  devices := Dict.keys_subset_insertAll _ _

theorem frame_deriveNames : j.Frame j.deriveNames where
  __ := Frame.refl j
  rest := rfl
  envs := Dict.keys_subset_insert _ _ _
  podGroup hc := by simp [deriveNames, hc]

theorem frame_deriveWorkers : j.Frame j.deriveWorkers where
  __ := Frame.refl j
  rest := rfl
  envs := Dict.keys_subset_insert _ _ _
  annotations := Dict.keys_subset_insert _ _ _
  podGroup hc := by simp [deriveWorkers, hc]

theorem frame_withWorkers (w : Int32) : j.Frame { j with workerCount := w } :=
  { Frame.refl j with rest := rfl }

end JobSpec

/-! ### Submissions -/

namespace Submission

variable {s s' s'' : Submission}

namespace Frame

theorem refl (s : Submission) : s.Frame s where
  rest := rfl
  job := .refl _
  workerCount _ := rfl
  logDir _ := rfl
  logs _ := ⟨rfl, rfl⟩
  syncImage _ := rfl
  projectName _ := rfl

theorem isVolcano (h : s.Frame s') : s'.isVolcano = s.isVolcano := by
  rw [h.rest]
  rfl

theorem enabled (h : s.Frame s') : s'.dashboard.enabled = s.dashboard.enabled := by
  rw [h.rest]

theorem mode (h : s.Frame s') : s'.sync.mode = s.sync.mode := by
  rw [h.rest]

theorem trans (h : s.Frame s') (h' : s'.Frame s'') : s.Frame s'' where
  rest := h'.rest.trans (by rw [h.rest])
  job := h.job.trans h'.job
  workerCount hv := (h'.workerCount (h.isVolcano.trans hv)).trans (h.workerCount hv)
  logDir hne := (h'.logDir (h.logDir hne ▸ hne)).trans (h.logDir hne)
  logs hoff := by
    obtain ⟨hlocal, hpath⟩ := h.logs hoff
    obtain ⟨hlocal', hpath'⟩ := h'.logs (h.enabled.trans hoff)
    exact ⟨hlocal'.trans hlocal, hpath'.trans hpath⟩
  syncImage hne := (h'.syncImage (h.syncImage hne ▸ hne)).trans (h.syncImage hne)
  projectName hmode := (h'.projectName (h.mode ▸ hmode)).trans (h.projectName hmode)

/-- A change of the job alone. -/
theorem ofJob {j : JobSpec} (h : s.job.Frame j)
    (hcount : s.isVolcano = false → j.workerCount = s.job.workerCount) :
    s.Frame { s with job := j } :=
  { refl s with rest := rfl, job := h, workerCount := hcount }

end Frame

end Submission

/-! ### Stages -/

/-- A stage stays in the frame, also when it fails. -/
def Outcome.Framed (stage : Submission → Outcome) : Prop :=
  ∀ s : Submission, s.Frame (stage s).submission

/-- A stage that is only reached without an error need not stay in the frame otherwise. -/
theorem Outcome.frame_andThen {s : Submission} {o : Outcome} {stage : Submission → Outcome}
    (h : s.Frame o.submission) (hstage : o.submission.Frame (stage o.submission).submission) :
    s.Frame (o.andThen stage).submission := by
  unfold andThen
  cases o.error? with
  | none => exact h.trans hstage
  | some e => exact h

theorem Outcome.Framed.andThen {first second : Submission → Outcome} (h₁ : Framed first)
    (h₂ : Framed second) : Framed fun s => (first s).andThen second :=
  fun s => frame_andThen (h₁ s) (h₂ (first s).submission)

namespace Submission

open Outcome (Framed)

theorem framed_check (fault? : Submission → Option Error) :
    Framed fun s => .check s (fault? s) :=
  fun s => .refl s

theorem framed_mapJob {f : JobSpec → JobSpec} (h : ∀ j : JobSpec, j.Frame (f j))
    (hcount : ∀ j, (f j).workerCount = j.workerCount) : Framed (mapJob f) :=
  fun s => .ofJob (h s.job) fun _ => hcount s.job

theorem framed_addTolerations (bag : Bag) : Framed (addTolerations bag) := fun s =>
  .ofJob { JobSpec.Frame.refl s.job with rest := rfl, tolerations := List.prefix_append _ _ }
    fun _ => rfl

theorem framed_addDataDirs (bag : Bag) : Framed (addDataDirs bag) := fun s =>
  .ofJob { JobSpec.Frame.refl s.job with rest := rfl, dataDirs := List.prefix_append _ _ }
    fun _ => rfl

theorem framed_addConfigFiles (bag : Bag) : Framed (addConfigFiles bag) := fun s =>
  .ofJob { JobSpec.Frame.refl s.job with
    rest := rfl, configFiles := Dict.keys_subset_insertAll _ _ } fun _ => rfl

theorem framed_addDataSets (bag : Bag) : Framed (addDataSets bag) := fun s =>
  .ofJob { JobSpec.Frame.refl s.job with
    rest := rfl, dataSets := Dict.keys_subset_insertAll _ _ } fun _ => rfl

theorem framed_buildJob (bag : Bag) : Framed (buildJob bag) := by
  have hcheck : Framed fun s => .check s s.job.nameFault? := framed_check fun s => s.job.nameFault?
  have hentries : Framed (mapJob (·.addEntries bag)) :=
    framed_mapJob (JobSpec.frame_addEntries bag) fun _ => rfl
  have hsecrets : Framed (mapJob (·.addSecrets bag)) :=
    framed_mapJob (JobSpec.frame_addSecrets bag) fun _ => rfl
  have hderive : Framed (mapJob (·.deriveNames.deriveWorkers)) :=
    framed_mapJob (fun j => j.frame_deriveNames.trans (JobSpec.frame_deriveWorkers _))
      fun _ => rfl
  exact (((((hcheck.andThen hentries).andThen (framed_addTolerations bag)).andThen
    (framed_addDataDirs bag)).andThen hsecrets).andThen (framed_addConfigFiles bag)).andThen hderive

theorem frame_defaultSyncImage (image : String) (s : Submission) :
    s.Frame (s.defaultSyncImage image) := by
  unfold defaultSyncImage
  split
  · rename_i hempty
    exact { Frame.refl s with rest := rfl, syncImage := fun hne => absurd hempty hne }
  · exact .refl s

theorem frame_nameProject {s : Submission} (hmode : s.sync.mode = "git") :
    s.Frame s.nameProject.submission := by
  unfold nameProject
  split
  · exact { Frame.refl s with rest := rfl, projectName := fun hne => absurd hmode hne }
  · exact .refl s

theorem framed_buildSync : Framed buildSync := by
  have hcheck : Framed fun s => .check s s.sourceFault? := framed_check sourceFault?
  have hcopy : Framed fun s => .done (s.defaultSyncImage copyImage) :=
    frame_defaultSyncImage copyImage
  intro s
  unfold buildSync
  split
  · exact .refl s
  · split
    · exact hcheck.andThen hcopy s
    · split
      · rename_i hmode
        have himage := frame_defaultSyncImage checkoutImage s
        exact Outcome.frame_andThen (.refl s)
          (himage.trans (frame_nameProject (himage.mode.trans hmode)))
      · exact .refl s

theorem frame_withLogDir (s : Submission) : s.Frame s.withLogDir := by
  unfold withLogDir
  split
  · rename_i hempty
    exact { Frame.refl s with rest := rfl, logDir := fun hne => absurd hempty hne }
  · exact .refl s

theorem frame_placeLogs {s : Submission} (hon : s.dashboard.enabled = true) (bag : Bag) :
    s.Frame (s.placeLogs bag) := by
  have hlogs {t : Submission} (hoff : s.dashboard.enabled = false) :
      t.dashboard.isLocal = s.dashboard.isLocal ∧
        t.dashboard.hostLogPath = s.dashboard.hostLogPath := by
    rw [hon] at hoff
    cases hoff
  unfold placeLogs
  split
  · exact { Frame.refl s with rest := rfl, logs := hlogs }
  · exact { Frame.refl s with rest := rfl, logs := hlogs }

theorem framed_buildDashboard (bag : Bag) : Framed (buildDashboard bag) := by
  intro s
  unfold buildDashboard
  split
  · rename_i hon
    have hdir := frame_withLogDir s
    exact Outcome.frame_andThen hdir (frame_placeLogs (hdir.enabled.trans hon) bag)
  · exact .refl s

theorem frame_syncReplicas (s : Submission) : s.Frame s.syncReplicas := by
  unfold syncReplicas
  split
  · rename_i hvolcano
    refine .ofJob ((s.job.frame_withWorkers _).trans (JobSpec.frame_deriveWorkers _)) fun hv => ?_
    rw [hvolcano] at hv
    cases hv
  · exact .refl s

theorem frame_reconcile (bag : Bag) (s : Submission) : s.Frame (s.reconcile bag) :=
  (frame_syncReplicas s).trans { Frame.refl s.syncReplicas with rest := rfl }

theorem frame_publish (s : Submission) : s.Frame s.publish :=
  .ofJob { JobSpec.Frame.refl s.job with
    rest := rfl
    annotations := Dict.keys_subset_insertAll _ _
    envs := Dict.keys_subset_insertAll _ _ } fun _ => rfl

/-- What follows the parts of a build. -/
theorem framed_conclude (bag : Bag) : Framed fun s =>
    (Outcome.check (s.reconcile bag) (s.reconcile bag).fault?).andThen fun s =>
      .done s.publish := by
  have hcheck : Framed fun s => .check (s.reconcile bag) (s.reconcile bag).fault? :=
    frame_reconcile bag
  have hpublish : Framed fun s => .done s.publish := frame_publish
  exact hcheck.andThen hpublish

/-- **Building stays in the frame**, wherever it stops. -/
theorem frame_build (bag : Bag) (s : Submission) : s.Frame (build bag s).submission := by
  have hfragments : Framed (fragments bag) :=
    (framed_buildJob bag).andThen (framed_buildSync.andThen (framed_buildDashboard bag))
  rw [build_eq]
  exact hfragments.andThen (framed_conclude bag) s

/-! ### Limits -/

/-- A build sets the limits of the deferred options or gets nowhere near them. -/
theorem policy_build (bag : Bag) (s : Submission) :
    (build bag s).submission.policy = s.policy ∨
      (build bag s).submission.policy = (s.setRunPolicy bag).policy := by
  have hkeeps : (fragments bag s).submission.policy = s.policy :=
    fragments_keeps (fun _ _ _ => rfl) (fun _ _ => rfl) (fun _ _ => rfl) bag s
  rw [build_eq]
  cases herror : (fragments bag s).error? with
  | some e =>
    rw [Outcome.andThen_of_error _ herror]
    exact .inl hkeeps
  | none =>
    right
    have hpolicy : ((fragments bag s).submission.reconcile bag).policy =
        (s.setRunPolicy bag).policy := by
      have hsync : (fragments bag s).submission.syncReplicas.policy = s.policy :=
        (syncReplicas_keeps _ Submission.policy fun _ _ => rfl).trans hkeeps
      simp only [reconcile, setRunPolicy, hsync]
    rw [Outcome.andThen_of_none _ herror]
    cases ((fragments bag s).submission.reconcile bag).fault? <;> exact hpolicy

/-- `view` is a limit of the run policy that is deferred under `name`. -/
def IsLimit {α : Type} (view : RunPolicy → α) (name : String) (convert : Span → α) : Prop :=
  ∀ bag s, view (setRunPolicy bag s).policy =
    ((bag.span? name).map convert).getD (view s.policy)

theorem isLimit_deadline : IsLimit (·.activeDeadlineSeconds) "running-timeout" deadlineOf :=
  fun _ _ => rfl

theorem isLimit_ttl : IsLimit (·.ttlSecondsAfterFinished) "ttl-after-finished" ttlOf :=
  fun _ _ => rfl

theorem IsLimit.build {α : Type} {view : RunPolicy → α} {name : String} {convert : Span → α}
    (h : IsLimit view name convert) (bag : Bag) (s : Submission) :
    view (build bag s).submission.policy = view s.policy ∨
      ∃ d, bag.span? name = some d ∧ view (build bag s).submission.policy = convert d := by
  rcases policy_build bag s with hpolicy | hpolicy
  · exact .inl (congrArg view hpolicy)
  · rw [hpolicy, h bag s]
    cases bag.span? name with
    | none => exact .inl rfl
    | some d => exact .inr ⟨d, rfl, rfl⟩

end Submission

namespace Builder

/-! ### Runs -/

/-- The step is one of the builder: no one else changes the submission. -/
def Step.IsOwn : Step → Prop
  | .edit _ => False
  | _ => True

instance : DecidablePred Step.IsOwn := fun st =>
  match st with
  | .edit _ => .isFalse id
  | .add _ _ | .preBuild | .build | .check => .isTrue trivial

variable {start : Builder} {history : List Step}

theorem run_append (start : Builder) (history : List Step) (st : Step) :
    start.run (history ++ [st]) = (start.run history).step st := by
  simp [run]

theorem submission_preBuild (b : Builder) :
    b.preBuild.1.submission = (b.submission.addDataSets b.bag).submission := by
  dsimp only [preBuild]
  split <;> rfl

/-- The mounts are published only if all data sets were taken over. -/
theorem bag_preBuild (b : Builder) : b.preBuild.1.bag =
    if b.preBuild.2 = none then
      b.bag.insert Bag.dataSetMounts (.dict b.preBuild.1.submission.job.dataSets)
    else b.bag := by
  cases herror : (b.submission.addDataSets b.bag).error? <;> simp [preBuild, herror]

theorem frame_step (b : Builder) {st : Step} (h : st.IsOwn) :
    b.submission.Frame (b.step st).submission := by
  cases st with
  | edit f => cases h
  | add name v => exact .refl _
  | preBuild =>
    show b.submission.Frame b.preBuild.1.submission
    rw [submission_preBuild]
    exact Submission.framed_addDataSets b.bag b.submission
  | build => exact Submission.frame_build b.bag b.submission
  | check => exact .refl _

theorem frame_run (hown : ∀ st ∈ history, st.IsOwn) (start : Builder) :
    start.submission.Frame (start.run history).submission := by
  induction history generalizing start with
  | nil => exact .refl _
  | cons st history ih =>
    obtain ⟨hst, hrest⟩ := List.forall_mem_cons.1 hown
    exact (frame_step start hst).trans (ih hrest (start.step st))

/-- **What a run leaves somewhere** is what was there at the start, or else one of its steps wrote
it there. -/
theorem run_eq_or_written {α : Type} (view : Builder → α) (Writes : Builder → Step → α → Prop)
    (hstep : ∀ b st, st.IsOwn → view (b.step st) = view b ∨ Writes b st (view (b.step st)))
    (hown : ∀ st ∈ history, st.IsOwn) (start : Builder) :
    view (start.run history) = view start ∨ ∃ before st after, history = before ++ st :: after ∧
      Writes (start.run before) st (view (start.run history)) := by
  induction history using List.reverseRecOn with
  | nil => exact .inl rfl
  | append_singleton history st ih =>
    have hbefore := ih fun x hx => hown x (List.mem_append_left _ hx)
    rw [run_append]
    -- the last step wrote it, or it is there from before
    rcases hstep (start.run history) st (hown st (by simp)) with hkept | hwritten
    · rw [hkept]
      refine hbefore.imp id ?_
      rintro ⟨before, x, after, rfl, hwrite⟩
      exact ⟨before, x, after ++ [st], by simp, hwrite⟩
    · exact .inr ⟨history, st, [], rfl, hwritten⟩

/-- A step puts a value under a name of the deferred options: the value of an option that is
deferred, or the mounts of the data sets when all of them were taken over. -/
inductive Defers (b : Builder) : Step → String → OptionValue → Prop where
  | add (name : String) (v : OptionValue) : Defers b (.add name v) name v
  | preBuild : b.preBuild.2 = none →
      Defers b .preBuild Bag.dataSetMounts (.dict b.preBuild.1.submission.job.dataSets)

theorem step_defers (k : String) (b : Builder) (st : Step) (h : st.IsOwn) :
    (b.step st).bag.options.get? k = b.bag.options.get? k ∨
      ∃ v, (b.step st).bag.options.get? k = some v ∧ b.Defers st k v := by
  cases st with
  | edit f => cases h
  | add name v =>
    by_cases hk : k = name
    · subst hk
      exact .inr ⟨v, by simp [step, add, Bag.insert], .add k v⟩
    · exact .inl (by simp [step, add, Bag.insert, hk])
  | preBuild =>
    show b.preBuild.1.bag.options.get? k = _ ∨ ∃ v, b.preBuild.1.bag.options.get? k = _ ∧ _
    rw [bag_preBuild]
    split
    · rename_i hnone
      by_cases hk : k = Bag.dataSetMounts
      · subst hk
        exact .inr ⟨_, by simp [Bag.insert], .preBuild hnone⟩
      · exact .inl (by simp [Bag.insert, hk])
    · exact .inl rfl
  | build => exact .inl rfl
  | check => exact .inl rfl

/-- A limit is set by builds alone. -/
theorem limit_run {α : Type} {view : RunPolicy → α} {name : String} {convert : Span → α}
    (h : Submission.IsLimit view name convert) (hown : ∀ st ∈ history, st.IsOwn)
    (start : Builder) :
    view (start.run history).submission.policy = view start.submission.policy ∨
      ∃ before after d, history = before ++ .build :: after ∧
        (start.run before).bag.span? name = some d ∧
        view (start.run history).submission.policy = convert d := by
  have hstep : ∀ (b : Builder) (st : Step), st.IsOwn →
      view (b.step st).submission.policy = view b.submission.policy ∨
        st = .build ∧ ∃ d, b.bag.span? name = some d ∧
          view (b.step st).submission.policy = convert d := by
    intro b st hst
    cases st with
    | edit f => cases hst
    | add name v => exact .inl rfl
    | preBuild => exact .inl (congrArg (fun s => view s.policy) (submission_preBuild b))
    | build => exact (h.build b.bag b.submission).imp id fun h => ⟨rfl, h⟩
    | check => exact .inl rfl
  refine (run_eq_or_written (fun b => view b.submission.policy)
    (fun b st x => st = .build ∧ ∃ d, b.bag.span? name = some d ∧ x = convert d) hstep hown
    start).imp id ?_
  rintro ⟨before, _, after, hhistory, rfl, d, hspan, hset⟩
  exact ⟨before, after, d, hhistory, hspan, hset⟩

/-- **What a builder leaves alone**, whatever it is asked to do and whether or not it succeeds. The
submission stays in its frame; a limit is what it was unless a build found a length of time for it
among the deferred options; and what is deferred under a name is what it was unless it was deferred
under that name since, or is the mounts that were published. -/
theorem frame_of_run (start : Builder) (history : List Step) (hown : ∀ st ∈ history, st.IsOwn) :
    let final := start.run history
    start.submission.Frame final.submission ∧
    (final.submission.policy.activeDeadlineSeconds =
        start.submission.policy.activeDeadlineSeconds ∨
      ∃ before after d, history = before ++ .build :: after ∧
        (start.run before).bag.span? "running-timeout" = some d ∧
        final.submission.policy.activeDeadlineSeconds = Submission.deadlineOf d) ∧
    (final.submission.policy.ttlSecondsAfterFinished =
        start.submission.policy.ttlSecondsAfterFinished ∨
      ∃ before after d, history = before ++ .build :: after ∧
        (start.run before).bag.span? "ttl-after-finished" = some d ∧
        final.submission.policy.ttlSecondsAfterFinished = Submission.ttlOf d) ∧
    ∀ k, final.bag.options.get? k = start.bag.options.get? k ∨
      ∃ before st after v, history = before ++ st :: after ∧
        (start.run before).Defers st k v ∧ final.bag.options.get? k = some v := by
  intro final
  refine ⟨frame_run hown start, limit_run Submission.isLimit_deadline hown start,
    limit_run Submission.isLimit_ttl hown start, fun k => ?_⟩
  refine (run_eq_or_written (·.bag.options.get? k) (fun b st x => ∃ v, x = some v ∧ b.Defers st k v)
    (step_defers k) hown start).imp id ?_
  rintro ⟨before, st, after, hhistory, v, hget, hdefers⟩
  exact ⟨before, st, after, v, hhistory, hdefers, hget⟩

/-- A build without an image fails each time, but by then the deadline is set. The label that the
submission came with is there afterwards. -/
theorem frame_of_run_without_image :
    let start := Builder.new { Submission.initial with
      job := { JobSpec.initial with name := "demo", labels := .ofList [("team", "ml")] } }
    let history : List Step := [.build, .add "label" (.texts ["a=b"]),
      .add "running-timeout" (.span ⟨60000000000⟩), .preBuild, .build, .check]
    let final := start.run history
    final.build.2 = some .imageMissing ∧ start.submission.Frame final.submission ∧
      "team" ∈ final.submission.job.labels.keys ∧
      final.submission.policy.activeDeadlineSeconds = 60 := by
  intro start history final
  have hfails : final.build.2 = some .imageMissing := by decide +kernel
  have hdeadline : final.submission.policy.activeDeadlineSeconds = 60 := by decide +kernel
  have hown : ∀ st ∈ history, st.IsOwn := by decide
  obtain ⟨hframe, -⟩ := frame_of_run start history hown
  have hteam : "team" ∈ start.submission.job.labels.keys := by decide +kernel
  exact ⟨hfails, hframe, hframe.job.labels hteam, hdeadline⟩

end Builder

end WrappedTraining
