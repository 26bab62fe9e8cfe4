import WrappedTraining.Proofs.Submission.Stages

/-!
# What the stages make of a job

Stages that take over deferred options change nothing but the job, and when all options read the job
is the one that it was with the options added (`JobSpec.withOptions`).

* `Outcome.Makes` : a stage that makes a change of the job, unless it ends in an error;
* `Submission.addDataSets_makes`, `Submission.addOptions_makes` : what taking over data sets and the
  other options makes of a job;
* `Submission.job_eq_of_fragments` : the job when all parts of a submission are completed.
-/

namespace WrappedTraining

/-! ### Changes of a job -/

namespace Outcome

open Submission

/-- A stage makes the change `f` of the job and nothing else, unless it ends in an error. -/
def Makes (f : JobSpec → JobSpec) (stage : Submission → Outcome) : Prop :=
  ∀ s, (stage s).error? = none → (stage s).submission = changeJob f s

theorem Makes.andThen {f g : JobSpec → JobSpec} {first second : Submission → Outcome}
    (h₁ : Makes f first) (h₂ : Makes g second) :
    Makes (fun j => g (f j)) fun s => (first s).andThen second := by
  intro s hnone
  obtain ⟨hfirst, hsecond⟩ := error?_andThen_eq_none_iff.1 hnone
  show ((first s).andThen second).submission = changeJob (fun j => g (f j)) s
  rw [andThen_of_none second hfirst, h₂ _ hsecond, h₁ s hfirst]
  rfl

theorem Makes.of_result {f : JobSpec → JobSpec} {stage : Submission → Outcome}
    (h : Makes f stage) {s t : Submission} (hresult : (stage s).result = .ok t) :
    t = changeJob f s := by
  obtain ⟨hnone, rfl⟩ := result_eq_ok_iff.1 hresult
  exact h s hnone

end Outcome

namespace JobSpec

/-- The job with more tolerations. -/
def tolerate (ts : List Toleration) (j : JobSpec) : JobSpec :=
  { j with tolerations := j.tolerations ++ ts }

/-- The job with more volumes. -/
def mount (volumes : List HostVolume) (j : JobSpec) : JobSpec :=
  { j with dataDirs := j.dataDirs ++ volumes }

/-- The job with more data sets. -/
def provide (sets : List (String × String)) (j : JobSpec) : JobSpec :=
  { j with dataSets := j.dataSets.insertAll sets }

/-- The job with more configuration files. -/
def configure (files : List (String × String)) (j : JobSpec) : JobSpec :=
  { j with configFiles := j.configFiles.insertAll files }

/-- The job with the deferred options, all of which read. -/
def withOptions (bag : Bag) (j : JobSpec) : JobSpec :=
  { j with
    envs := j.envs.insertAll (pairsOf '=' (bag.texts "env"))
    nodeSelectors := j.nodeSelectors.insertAll (pairsOf '=' (bag.texts "selector"))
    annotations := j.annotations.insertAll (pairsOf '=' (bag.texts "annotation"))
    labels := j.labels.insertAll (pairsOf '=' (bag.texts "label"))
    tolerations := j.tolerations ++ (readUntil tolerationOf (bag.texts "toleration")).1
    dataDirs :=
      j.dataDirs ++ volumesOf (readUntil (colonPair .dataDir) (bag.texts "data-dir")).1
    imagePullSecrets := j.imagePullSecrets ++ bag.texts "image-pull-secret"
    devices := j.devices.insertAll (pairsOf '=' (bag.texts "device"))
    configFiles := j.configFiles.insertAll (pairsOf ':' (bag.texts "config-file")) }

/-- Options change neither the name of a job nor its image and counts. -/
theorem sameSettings_withOptions (bag : Bag) (j : JobSpec) :
    (j.withOptions bag).SameSettings j := ⟨rfl, rfl, rfl, rfl⟩

end JobSpec

/-! ### Taking over options -/

namespace Submission

variable {bag : Bag} {s t : Submission}

/-- Entries that all have a colon are read in full. -/
theorem readUntil_colonPair {fault : String → Error} {entries : List String}
    (h : (readUntil (colonPair fault) entries).2 = none) :
    (readUntil (colonPair fault) entries).1 = pairsOf ':' entries := by
  induction entries with
  | nil => rfl
  | cons entry entries ih =>
    unfold readUntil colonPair at h ⊢
    cases hcut : Text.cut? ':' entry with
    | none => simp [hcut] at h
    | some p =>
      simp only [hcut] at h ⊢
      rw [pairsOf, List.filterMap_cons_some hcut]
      exact congrArg (p :: ·) (ih h)

theorem addDataSets_makes (bag : Bag) :
    Outcome.Makes (·.provide (pairsOf ':' (bag.texts "data"))) (addDataSets bag) := fun s hnone =>
  congrArg (fun sets => changeJob (·.provide sets) s) (readUntil_colonPair hnone)

theorem addOptions_makes (bag : Bag) : Outcome.Makes (·.withOptions bag) (addOptions bag) := by
  have hcheck : Outcome.Makes id fun s => .check s s.job.nameFault? := fun _ _ => rfl
  have hentries : Outcome.Makes (·.addEntries bag) (mapJob (·.addEntries bag)) := fun _ _ => rfl
  have htols : Outcome.Makes (·.tolerate _) (addTolerations bag) := fun _ _ => rfl
  have hdirs : Outcome.Makes (·.mount _) (addDataDirs bag) := fun _ _ => rfl
  have hsecrets : Outcome.Makes (·.addSecrets bag) (mapJob (·.addSecrets bag)) := fun _ _ => rfl
  have hfiles : Outcome.Makes (·.configure (pairsOf ':' (bag.texts "config-file")))
      (addConfigFiles bag) := fun s hnone =>
    congrArg (fun files => changeJob (·.configure files) s) (readUntil_colonPair hnone)
  have hall := ((((hcheck.andThen hentries).andThen htols).andThen hdirs).andThen
    hsecrets).andThen hfiles
  intro s hnone
  refine (hall s hnone).trans (congrArg (fun f => changeJob f s) (funext fun j => ?_))
  cases j
  rfl

theorem job_eq_of_fragments (h : (fragments bag s).result = .ok t) :
    t.job = (s.job.withOptions bag).deriveNames.deriveWorkers := by
  have hservices : Outcome.Keeps Submission.job (services bag) :=
    services_keeps (fun _ _ => rfl) (fun _ _ => rfl) bag
  rw [fragments_eq, Outcome.result_andThen] at h
  cases hadd : (addOptions bag s).result with
  | error e =>
    rw [hadd] at h
    cases h
  | ok p =>
    obtain rfl := (addOptions_makes bag).of_result hadd
    rw [hadd] at h
    obtain ⟨-, rfl⟩ := Outcome.result_eq_ok_iff.1 h
    exact hservices _

end Submission

end WrappedTraining
