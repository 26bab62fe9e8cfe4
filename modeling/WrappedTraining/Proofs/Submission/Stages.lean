import WrappedTraining.Submission.Build

/-!
# The stages of a build

A build first adds the deferred options to what every job has (`Submission.addOptions`), then runs
the stages that own a part of the submission (`Submission.services`), and at last brings counts
and run policy together (`Submission.reconcile`), checks the outcome and derives annotations and
variables (`Submission.publish`).

* `Submission.result_build` : the submission of a build, or its error, from these four;
* `Outcome.Commutes` : a stage that does not look at what a change of the submission changes.
  `Submission.addOptions_withWorkers` says it of the worker count, and `Submission.Apart.services`
  of every change that code fetching and the dashboard do not see;
* `Outcome.Keeps` : a stage that leaves a part of the submission alone. `Submission.fragments_keeps`
  says it of everything but job, code fetching and dashboard, and of a job's name, image and counts.
-/

namespace WrappedTraining

namespace Outcome

/-! ### Results -/

/-- The submission of a stage that did its work, or the error that ended it. -/
def result (o : Outcome) : Except Submission.Error Submission :=
  match o.error? with
  | none => .ok o.submission
  | some e => .error e

theorem result_eq_ok_iff {o : Outcome} {s : Submission} :
    o.result = .ok s ↔ o.error? = none ∧ o.submission = s := by
  unfold result
  cases o.error? <;> simp

theorem exists_result_eq_ok_iff {o : Outcome} : (∃ s, o.result = .ok s) ↔ o.error? = none := by
  unfold result
  cases o.error? <;> simp

theorem result_eq_error_iff {o : Outcome} {e : Submission.Error} :
    o.result = .error e ↔ o.error? = some e := by
  unfold result
  cases o.error? <;> simp

/-- After a stage without an error the next one goes on from where it got. -/
theorem andThen_of_none {o : Outcome} (stage : Submission → Outcome) (h : o.error? = none) :
    o.andThen stage = stage o.submission := by
  unfold andThen
  rw [h]

theorem result_andThen (o : Outcome) (stage : Submission → Outcome) :
    (o.andThen stage).result = o.result >>= fun s => (stage s).result := by
  unfold andThen result
  cases h : o.error? with
  | none => rfl
  | some e => rw [h]; rfl

theorem andThen_assoc (o : Outcome) (f g : Submission → Outcome) :
    (o.andThen f).andThen g = o.andThen fun s => (f s).andThen g := by
  unfold andThen
  cases h : o.error? with
  | none => rfl
  | some e => simp only [h]

/-! ### Stages that do not look at a change -/

/-- Change the submission, whether or not the stage did its work. -/
def map (f : Submission → Submission) (o : Outcome) : Outcome := ⟨f o.submission, o.error?⟩

theorem result_map (f : Submission → Submission) (o : Outcome) :
    (o.map f).result = o.result.map f := by
  unfold map result
  cases o.error? <;> rfl

/-- A change before a stage can be made after it, if the stage turns it into another change. -/
theorem result_map_andThen (f g : Submission → Submission) (stage : Submission → Outcome)
    (h : ∀ s, (stage (f s)).result = (stage s).result.map g) (o : Outcome) :
    ((o.map f).andThen stage).result = (o.andThen stage).result.map g := by
  obtain ⟨s, e?⟩ := o
  cases e? with
  | none => exact h s
  | some e => rfl

/-- A stage does the same before and after the change `f` of the submission. -/
def Commutes (f : Submission → Submission) (stage : Submission → Outcome) : Prop :=
  ∀ s, stage (f s) = (stage s).map f

theorem Commutes.andThen {f : Submission → Submission} {first second : Submission → Outcome}
    (h₁ : Commutes f first) (h₂ : Commutes f second) :
    Commutes f fun s => (first s).andThen second := by
  intro s
  show (first (f s)).andThen second = ((first s).andThen second).map f
  rw [h₁ s]
  obtain ⟨t, e?⟩ := first s
  cases e? with
  | none => exact h₂ t
  | some e => rfl

/-- A stage leaves a part of the submission alone, also when it fails. -/
def Keeps {α : Type} (view : Submission → α) (stage : Submission → Outcome) : Prop :=
  ∀ s, view (stage s).submission = view s

theorem Keeps.submission_andThen {α : Type} {view : Submission → α}
    {stage : Submission → Outcome} (h : Keeps view stage) (o : Outcome) :
    view (o.andThen stage).submission = view o.submission := by
  cases herror : o.error? with
  | none =>
    rw [andThen_of_none stage herror]
    exact h o.submission
  | some e => rw [andThen_of_error stage herror]

theorem Keeps.andThen {α : Type} {view : Submission → α} {first second : Submission → Outcome}
    (h₁ : Keeps view first) (h₂ : Keeps view second) :
    Keeps view fun s => (first s).andThen second :=
  fun s => (h₂.submission_andThen (first s)).trans (h₁ s)

end Outcome

/-- The jobs have the same name, image and counts. -/
structure JobSpec.SameSettings (j j' : JobSpec) : Prop where
  name : j.name = j'.name
  image : j.image = j'.image
  gpuCount : j.gpuCount = j'.gpuCount
  workerCount : j.workerCount = j'.workerCount

namespace Submission

variable (bag : Bag) (s : Submission)

/-! ### The four parts of a build -/

/-- Check the name and add the deferred options to what every job has. -/
def addOptions : Outcome :=
  (Outcome.check s s.job.nameFault?)
    |>.andThen (mapJob (·.addEntries bag))
    |>.andThen (addTolerations bag)
    |>.andThen (addDataDirs bag)
    |>.andThen (mapJob (·.addSecrets bag))
    |>.andThen (addConfigFiles bag)

/-- Complete code fetching and the dashboard. -/
def services : Outcome := (buildSync s).andThen (buildDashboard bag)

/-- Complete every part of the submission on its own. -/
def fragments : Outcome := (buildJob bag s).andThen (services bag)

/-- Derive from the counts, and complete the services after that. -/
def derive : Outcome := (mapJob (·.deriveNames.deriveWorkers) s).andThen (services bag)

/-- Bring the counts of a volcano job together and take over the run policy. -/
def reconcile : Submission := s.syncReplicas.setRunPolicy bag

/-- Derive annotations and variables from checked settings. -/
def publish : Submission := s.annotateFaults.addDerivedEnvs

theorem fragments_eq : fragments bag s = (addOptions bag s).andThen (derive bag) :=
  Outcome.andThen_assoc (addOptions bag s) (mapJob (·.deriveNames.deriveWorkers)) (services bag)

@[simp] theorem publish_task : s.publish.task = s.task := rfl

@[simp] theorem publish_innerType : s.publish.innerType = s.innerType := rfl

@[simp] theorem publish_workerCount : s.publish.job.workerCount = s.job.workerCount := rfl

/-- Bringing the counts together changes nothing but the job. -/
theorem syncReplicas_keeps {α : Type} (view : Submission → α)
    (h : ∀ s j, view { s with job := j } = view s) : view s.syncReplicas = view s := by
  unfold syncReplicas
  split
  · exact h s _
  · rfl

@[simp] theorem reconcile_job : (s.reconcile bag).job = s.syncReplicas.job := rfl

@[simp] theorem reconcile_task : (s.reconcile bag).task = s.task :=
  s.syncReplicas_keeps Submission.task fun _ _ => rfl

@[simp] theorem reconcile_innerType : (s.reconcile bag).innerType = s.innerType :=
  s.syncReplicas_keeps Submission.innerType fun _ _ => rfl

theorem build_eq :
    build bag s = (fragments bag s).andThen fun t =>
      (Outcome.check (t.reconcile bag) (t.reconcile bag).fault?).andThen
        fun t => .done t.publish := by
  have hfrag : ((buildJob bag s).andThen buildSync).andThen (buildDashboard bag) =
      fragments bag s := Outcome.andThen_assoc _ _ _
  unfold build
  rw [hfrag, Outcome.andThen_assoc, Outcome.andThen_assoc]
  rfl

theorem result_build :
    (build bag s).result = (fragments bag s).result >>= fun t =>
      match (t.reconcile bag).fault? with
      | none => .ok (t.reconcile bag).publish
      | some e => .error e := by
  rw [build_eq, Outcome.result_andThen]
  congr 1
  funext t
  cases h : (t.reconcile bag).fault? <;> rfl

variable {bag s}

/-- **When a build succeeds**: the parts are completed on their own, no check finds a fault in the
reconciled submission, and what is derived from it is the outcome. -/
theorem result_build_eq_ok_iff {r : Submission} :
    (build bag s).result = .ok r ↔ ∃ t, (fragments bag s).result = .ok t ∧
      (t.reconcile bag).fault? = none ∧ (t.reconcile bag).publish = r := by
  rw [result_build]
  cases (fragments bag s).result with
  | error e => simp [bind, Except.bind]
  | ok t =>
    simp only [bind, Except.bind]
    cases h : (t.reconcile bag).fault? <;> simp [h]

/-! ### What a stage leaves alone -/

section Keeps

variable {α : Type} {view : Submission → α}

/-- Adding options changes nothing but the job, and not its name, image and counts. -/
theorem addOptions_keeps
    (h : ∀ s j, j.SameSettings s.job → view { s with job := j } = view s) (bag : Bag) :
    Outcome.Keeps view (addOptions bag) := by
  have hcheck : Outcome.Keeps view fun s => Outcome.check s s.job.nameFault? := fun _ => rfl
  have hentries : Outcome.Keeps view (mapJob (·.addEntries bag)) :=
    fun s => h s _ ⟨rfl, rfl, rfl, rfl⟩
  have htols : Outcome.Keeps view (addTolerations bag) := fun s => h s _ ⟨rfl, rfl, rfl, rfl⟩
  have hdirs : Outcome.Keeps view (addDataDirs bag) := fun s => h s _ ⟨rfl, rfl, rfl, rfl⟩
  have hsecrets : Outcome.Keeps view (mapJob (·.addSecrets bag)) :=
    fun s => h s _ ⟨rfl, rfl, rfl, rfl⟩
  have hfiles : Outcome.Keeps view (addConfigFiles bag) := fun s => h s _ ⟨rfl, rfl, rfl, rfl⟩
  exact ((((hcheck.andThen hentries).andThen htols).andThen hdirs).andThen hsecrets).andThen hfiles

theorem defaultSyncImage_keeps (h : ∀ s c, view { s with sync := c } = view s) (image : String)
    (s : Submission) : view (s.defaultSyncImage image) = view s := by
  unfold defaultSyncImage
  split
  · exact h s _
  · rfl

theorem nameProject_keeps (h : ∀ s c, view { s with sync := c } = view s) :
    Outcome.Keeps view nameProject := by
  intro s
  unfold nameProject
  split
  · exact h s _
  · rfl

theorem buildSync_keeps (h : ∀ s c, view { s with sync := c } = view s) :
    Outcome.Keeps view buildSync := by
  have hcheck : Outcome.Keeps view fun s => Outcome.check s s.sourceFault? := fun _ => rfl
  have hcopy : Outcome.Keeps view fun s => .done (s.defaultSyncImage copyImage) :=
    defaultSyncImage_keeps h copyImage
  have hcheckout : Outcome.Keeps view fun s => nameProject (s.defaultSyncImage checkoutImage) :=
    fun s => (nameProject_keeps h _).trans (defaultSyncImage_keeps h checkoutImage s)
  intro s
  unfold buildSync
  split
  · rfl
  · split
    · exact hcheck.andThen hcopy s
    · split
      · exact hcheck.andThen hcheckout s
      · rfl

theorem withLogDir_keeps (h : ∀ s d, view { s with dashboard := d } = view s) (s : Submission) :
    view s.withLogDir = view s := by
  unfold withLogDir
  split
  · exact h s _
  · rfl

theorem placeLogs_keeps (h : ∀ s d, view { s with dashboard := d } = view s) (bag : Bag)
    (s : Submission) : view (s.placeLogs bag) = view s := by
  unfold placeLogs
  split
  · exact h s _
  · exact h s _

theorem buildDashboard_keeps (h : ∀ s d, view { s with dashboard := d } = view s) (bag : Bag) :
    Outcome.Keeps view (buildDashboard bag) := by
  have hcheck : Outcome.Keeps view fun s => .check s.withLogDir s.withLogDir.logDirFault? :=
    withLogDir_keeps h
  have hplace : Outcome.Keeps view fun s => .done (s.placeLogs bag) := placeLogs_keeps h bag
  intro s
  unfold buildDashboard
  split
  · exact hcheck.andThen hplace s
  · rfl

theorem services_keeps (hsync : ∀ s c, view { s with sync := c } = view s)
    (hdash : ∀ s d, view { s with dashboard := d } = view s) (bag : Bag) :
    Outcome.Keeps view (services bag) :=
  (buildSync_keeps hsync).andThen (buildDashboard_keeps hdash bag)

theorem fragments_keeps (hjob : ∀ s j, j.SameSettings s.job → view { s with job := j } = view s)
    (hsync : ∀ s c, view { s with sync := c } = view s)
    (hdash : ∀ s d, view { s with dashboard := d } = view s) (bag : Bag) :
    Outcome.Keeps view (fragments bag) := by
  have hadd : Outcome.Keeps view (addOptions bag) := addOptions_keeps hjob bag
  have hderive : Outcome.Keeps view (mapJob (·.deriveNames.deriveWorkers)) :=
    fun s => hjob s _ ⟨rfl, rfl, rfl, rfl⟩
  exact (hadd.andThen hderive).andThen (services_keeps hsync hdash bag)

end Keeps

/-! ### What a stage does not look at -/

/-- The submission with another worker count, nothing else changed. -/
def withWorkers (w : Int32) (s : Submission) : Submission :=
  { s with job := { s.job with workerCount := w } }

theorem nameFault?_congr {j j' : JobSpec} (h : j.name = j'.name) :
    j.nameFault? = j'.nameFault? := by
  unfold JobSpec.nameFault?
  rw [h]

/-- Adding options does not look at the worker count. -/
theorem addOptions_withWorkers (bag : Bag) (w : Int32) :
    Outcome.Commutes (withWorkers w) (addOptions bag) := by
  have hcheck : Outcome.Commutes (withWorkers w) fun s => .check s s.job.nameFault? :=
    fun s => congrArg (Outcome.check (withWorkers w s)) (nameFault?_congr rfl)
  have hentries : Outcome.Commutes (withWorkers w) (mapJob (·.addEntries bag)) := fun _ => rfl
  have htols : Outcome.Commutes (withWorkers w) (addTolerations bag) := fun _ => rfl
  have hdirs : Outcome.Commutes (withWorkers w) (addDataDirs bag) := fun _ => rfl
  have hsecrets : Outcome.Commutes (withWorkers w) (mapJob (·.addSecrets bag)) := fun _ => rfl
  have hfiles : Outcome.Commutes (withWorkers w) (addConfigFiles bag) := fun _ => rfl
  exact ((((hcheck.andThen hentries).andThen htols).andThen hdirs).andThen hsecrets).andThen hfiles

/-- A change that code fetching and the dashboard do not see, and that they leave in place. -/
structure Apart (f : Submission → Submission) : Prop where
  name : ∀ s, (f s).job.name = s.job.name
  sync : ∀ s, (f s).sync = s.sync
  dashboard : ∀ s, (f s).dashboard = s.dashboard
  setSync : ∀ s c, f { s with sync := c } = { f s with sync := c }
  setDashboard : ∀ s d, f { s with dashboard := d } = { f s with dashboard := d }

namespace Apart

variable {f : Submission → Submission}

theorem nameProject (h : Apart f) : Outcome.Commutes f nameProject := by
  intro s
  unfold Submission.nameProject
  rw [h.sync]
  split
  · exact congrArg Outcome.done (h.setSync s _).symm
  · rfl

theorem defaultSyncImage (h : Apart f) (image : String) (s : Submission) :
    (f s).defaultSyncImage image = f (s.defaultSyncImage image) := by
  unfold Submission.defaultSyncImage
  rw [h.sync]
  split
  · exact (h.setSync s _).symm
  · rfl

theorem buildSync (h : Apart f) : Outcome.Commutes f buildSync := by
  have hcheck : Outcome.Commutes f fun s => .check s s.sourceFault? := by
    intro s
    have hfault : (f s).sourceFault? = s.sourceFault? := by
      unfold sourceFault?
      rw [h.sync]
    exact congrArg (Outcome.check (f s)) hfault
  have hcopy : Outcome.Commutes f fun s => .done (s.defaultSyncImage copyImage) :=
    fun s => congrArg Outcome.done (h.defaultSyncImage copyImage s)
  have hcheckout : Outcome.Commutes f fun s =>
      Submission.nameProject (s.defaultSyncImage checkoutImage) := fun s =>
    (congrArg Submission.nameProject (h.defaultSyncImage checkoutImage s)).trans (h.nameProject _)
  intro s
  unfold Submission.buildSync
  rw [h.sync]
  split
  · rfl
  · split
    · exact hcheck.andThen hcopy s
    · split
      · exact hcheck.andThen hcheckout s
      · rfl

theorem withLogDir (h : Apart f) (s : Submission) : (f s).withLogDir = f s.withLogDir := by
  unfold Submission.withLogDir
  rw [h.dashboard]
  split
  · exact (h.setDashboard s _).symm
  · rfl

theorem placeLogs (h : Apart f) (bag : Bag) (s : Submission) :
    (f s).placeLogs bag = f (s.placeLogs bag) := by
  have hlogs : (f s).logsOnDataSet bag = s.logsOnDataSet bag := by
    unfold logsOnDataSet
    rw [h.dashboard]
  unfold Submission.placeLogs
  rw [hlogs, h.dashboard, h.name]
  split
  · exact (h.setDashboard s _).symm
  · exact (h.setDashboard s _).symm

theorem buildDashboard (h : Apart f) (bag : Bag) : Outcome.Commutes f (buildDashboard bag) := by
  have hcheck : Outcome.Commutes f fun s => .check s.withLogDir s.withLogDir.logDirFault? := by
    intro s
    have hfault : (f s.withLogDir).logDirFault? = s.withLogDir.logDirFault? := by
      unfold logDirFault?
      rw [h.dashboard]
    show Outcome.check (f s).withLogDir (f s).withLogDir.logDirFault? = _
    rw [h.withLogDir, hfault]
    rfl
  have hplace : Outcome.Commutes f fun s => .done (s.placeLogs bag) :=
    fun s => congrArg Outcome.done (h.placeLogs bag s)
  intro s
  unfold Submission.buildDashboard
  rw [h.dashboard]
  split
  · exact hcheck.andThen hplace s
  · rfl

/-- Code fetching and the dashboard do the same before and after the change. -/
theorem services (h : Apart f) (bag : Bag) : Outcome.Commutes f (services bag) :=
  h.buildSync.andThen (h.buildDashboard bag)

end Apart

/-- The submission with a changed job. -/
def changeJob (f : JobSpec → JobSpec) (s : Submission) : Submission := { s with job := f s.job }

theorem apart_changeJob {f : JobSpec → JobSpec} (hname : ∀ j, (f j).name = j.name) :
    Apart (changeJob f) where
  name s := hname s.job
  sync _ := rfl
  dashboard _ := rfl
  setSync _ _ := rfl
  setDashboard _ _ := rfl

/-- Code fetching and the dashboard look at nothing of a job but its name. -/
theorem services_changeJob {f : JobSpec → JobSpec} (hname : ∀ j, (f j).name = j.name)
    (bag : Bag) : Outcome.Commutes (changeJob f) (services bag) :=
  (apart_changeJob hname).services bag

end Submission

end WrappedTraining
