import WrappedTraining.Proofs.Dict
import WrappedTraining.Proofs.Submission.Completion
import WrappedTraining.Proofs.Submission.History

/-!
# Derived values agree with the counts

A job publishes its counts in several places: in the variables `workers` and `gpus`, in the GPU
request of the whole job, and in the pod group. `JobSpec.Consistent` says that all of them agree
with the counts.

* `JobSpec.Consistent.setWorkers` : setting the worker count keeps a job consistent, so the stage
  that gives a volcano job its count leaves no stale value;
* `Submission.result_withWorkers` : a volcano job does not depend on the worker count that it
  starts from;
* `Builder.consistent_of_run` : both, for every submission, deferred options and history.
-/

namespace WrappedTraining

namespace JobSpec

/-- **What a job derives from its counts agrees with them**: the variables with the counts, the
GPU request with their product, and the pod group, if there is one, with the name of the job and
its worker count. -/
structure Consistent (j : JobSpec) : Prop where
  workers : j.envs.get? "workers" = some (Text.ofInt j.workerCount.toInt)
  gpus : j.envs.get? "gpus" = some (Text.ofInt j.gpuCount.toInt)
  requestedGpus : j.annotations.get? Labels.requestedGpus =
    some (Text.ofInt (j.workerCount.toInt * j.gpuCount.toInt))
  podGroupName : j.coscheduling = true → j.podGroupName = "group-" ++ j.name
  podGroupMinAvailable : j.coscheduling = true →
    j.podGroupMinAvailable = Text.ofInt j.workerCount.toInt

/-- Set the worker count and derive from it. -/
def setWorkers (w : Int32) (j : JobSpec) : JobSpec := { j with workerCount := w }.deriveWorkers

/-! ### Stages that keep a job consistent -/

theorem consistent_derive (j : JobSpec) : j.deriveNames.deriveWorkers.Consistent where
  workers := by simp [deriveWorkers]
  gpus := by simp [deriveWorkers, deriveNames]
  requestedGpus := by simp [deriveWorkers, totalGpus]
  podGroupName h := if_pos h
  podGroupMinAvailable h := if_pos h

variable {j : JobSpec}

theorem Consistent.setWorkers (h : j.Consistent) (w : Int32) : (j.setWorkers w).Consistent where
  workers := by simp [JobSpec.setWorkers, deriveWorkers]
  gpus := by simpa [JobSpec.setWorkers, deriveWorkers] using h.gpus
  requestedGpus := by simp [JobSpec.setWorkers, deriveWorkers, totalGpus]
  podGroupName := h.podGroupName
  podGroupMinAvailable hc := if_pos hc

/-- More variables do no harm, unless they have the name of a derived one. -/
theorem Consistent.insertEnvs (h : j.Consistent) {es : List (String × String)}
    (hw : ∀ e ∈ es, e.1 ≠ "workers") (hg : ∀ e ∈ es, e.1 ≠ "gpus") :
    { j with envs := j.envs.insertAll es }.Consistent where
  workers := (Dict.get?_insertAll_of_ne _ hw).trans h.workers
  gpus := (Dict.get?_insertAll_of_ne _ hg).trans h.gpus
  requestedGpus := h.requestedGpus
  podGroupName := h.podGroupName
  podGroupMinAvailable := h.podGroupMinAvailable

/-- More annotations do no harm, unless they have the name of the GPU request. -/
theorem Consistent.insertAnnotations (h : j.Consistent) {es : List (String × String)}
    (hr : ∀ e ∈ es, e.1 ≠ Labels.requestedGpus) :
    { j with annotations := j.annotations.insertAll es }.Consistent where
  workers := h.workers
  gpus := h.gpus
  requestedGpus := (Dict.get?_insertAll_of_ne _ hr).trans h.requestedGpus
  podGroupName := h.podGroupName
  podGroupMinAvailable := h.podGroupMinAvailable

/-- Only the last worker count that is set leaves a trace. -/
theorem setWorkers_setWorkers (j : JobSpec) (v w : Int32) :
    (j.setWorkers v).setWorkers w = j.setWorkers w := by
  simp only [setWorkers, deriveWorkers, totalGpus, Dict.insert_insert]
  cases j.coscheduling <;> rfl

end JobSpec

namespace Submission

/-! ### From stage to stage -/

variable {s : Submission}

theorem syncReplicas_eq (s : Submission) :
    s.syncReplicas = if s.isVolcano then changeJob (JobSpec.setWorkers s.task.replicas) s else s :=
  rfl

theorem consistent_reconcile (h : s.job.Consistent) (bag : Bag) :
    (s.reconcile bag).job.Consistent := by
  rw [reconcile_job, syncReplicas_eq]
  split
  · exact h.setWorkers _
  · exact h

/-- No fault tolerance setting has the name of the GPU request: their names start otherwise. -/
theorem faultAnnotation_ne_requestedGpus (name : String) :
    Labels.envelopeAnnotations ++ name ≠ Labels.requestedGpus := by
  intro h
  have hhead : Labels.envelopeAnnotations.toList.head? = Labels.requestedGpus.toList.head? := by
    rw [← h, String.toList_append, List.head?_append]
    rfl
  exact absurd hhead (by decide)

theorem derivedEnvs_ne {k : String} (hm : "MASTER_ADDR" ≠ k) (hp : "PET_NPROC_PER_NODE" ≠ k)
    (s : Submission) : ∀ e ∈ s.derivedEnvs, e.1 ≠ k := by
  intro e he
  simp only [derivedEnvs, List.mem_append] at he
  rcases he with he | he
  · split at he
    · rw [List.mem_singleton.1 he]
      exact hm
    · cases he
  · split at he
    · cases he
    · rw [List.mem_singleton.1 he]
      exact hp

theorem consistent_publish (h : s.job.Consistent) : s.publish.job.Consistent := by
  have hann : s.annotateFaults.job.Consistent := h.insertAnnotations fun e he => by
    obtain ⟨x, -, rfl⟩ := List.mem_map.1 he
    exact faultAnnotation_ne_requestedGpus x.1
  exact hann.insertEnvs (derivedEnvs_ne (by decide) (by decide) _)
    (derivedEnvs_ne (by decide) (by decide) _)

/-! ### What a successful build leaves -/

variable {bag : Bag} {t r : Submission}

/-- Completing the parts on their own ends with deriving from the counts, which are the ones that
the submission came with. -/
theorem job_of_fragments (h : (fragments bag s).result = .ok t) :
    ∃ j : JobSpec, t.job = j.deriveNames.deriveWorkers ∧ j.workerCount = s.job.workerCount :=
  ⟨_, job_eq_of_fragments h, (s.job.sameSettings_withOptions bag).workerCount⟩

theorem task_of_fragments (h : (fragments bag s).result = .ok t) :
    t.task = s.task ∧ t.innerType = s.innerType := by
  obtain ⟨-, rfl⟩ := Outcome.result_eq_ok_iff.1 h
  have htask : Outcome.Keeps Submission.task (fragments bag) :=
    fragments_keeps (fun _ _ _ => rfl) (fun _ _ => rfl) (fun _ _ => rfl) bag
  have hinner : Outcome.Keeps Submission.innerType (fragments bag) :=
    fragments_keeps (fun _ _ _ => rfl) (fun _ _ => rfl) (fun _ _ => rfl) bag
  exact ⟨htask s, hinner s⟩

theorem consistent_of_result (h : (build bag s).result = .ok r) : r.job.Consistent := by
  obtain ⟨t, ht, -, rfl⟩ := result_build_eq_ok_iff.1 h
  obtain ⟨j, hj, -⟩ := job_of_fragments ht
  exact consistent_publish (consistent_reconcile (hj ▸ JobSpec.consistent_derive j) bag)

theorem task_of_result (h : (build bag s).result = .ok r) :
    r.task = s.task ∧ r.innerType = s.innerType := by
  obtain ⟨t, ht, -, rfl⟩ := result_build_eq_ok_iff.1 h
  simpa using task_of_fragments ht

theorem workerCount_of_result (h : (build bag s).result = .ok r) :
    r.job.workerCount = if s.isVolcano then s.task.replicas else s.job.workerCount := by
  obtain ⟨t, ht, -, rfl⟩ := result_build_eq_ok_iff.1 h
  obtain ⟨j, hj, hcount⟩ := job_of_fragments ht
  obtain ⟨htask, hinner⟩ := task_of_fragments ht
  have hvolcano : t.isVolcano = s.isVolcano := by
    unfold isVolcano
    rw [hinner]
  rw [publish_workerCount, reconcile_job, syncReplicas_eq, hvolcano, htask]
  split
  · rfl
  · rw [hj]
    exact hcount

/-! ### The worker count that a volcano job starts from -/

theorem derive_withWorkers (w : Int32) (s : Submission) :
    mapJob (·.deriveNames.deriveWorkers) (s.withWorkers w) =
      (mapJob (·.deriveNames.deriveWorkers) s).map (changeJob (JobSpec.setWorkers w)) := by
  have hjob : { s.job with workerCount := w }.deriveNames.deriveWorkers =
      s.job.deriveNames.deriveWorkers.setWorkers w :=
    (JobSpec.setWorkers_setWorkers s.job.deriveNames s.job.workerCount w).symm
  exact congrArg (fun j => Outcome.done { s with job := j }) hjob

theorem result_derive_withWorkers (bag : Bag) (w : Int32) (s : Submission) :
    (derive bag (s.withWorkers w)).result =
      (derive bag s).result.map (changeJob (JobSpec.setWorkers w)) := by
  unfold derive
  rw [derive_withWorkers]
  refine Outcome.result_map_andThen _ _ (services bag) (fun t => ?_) _
  rw [services_changeJob (f := JobSpec.setWorkers w) (fun _ => rfl) bag t, Outcome.result_map]

theorem result_fragments_withWorkers (bag : Bag) (w : Int32) (s : Submission) :
    (fragments bag (s.withWorkers w)).result =
      (fragments bag s).result.map (changeJob (JobSpec.setWorkers w)) := by
  -- the other count passes the options as it is and becomes a change of the job in what follows
  rw [fragments_eq, fragments_eq, addOptions_withWorkers bag w s]
  exact Outcome.result_map_andThen _ _ (derive bag) (result_derive_withWorkers bag w) _

theorem syncReplicas_setWorkers (hv : s.isVolcano) (w : Int32) :
    (changeJob (JobSpec.setWorkers w) s).syncReplicas = s.syncReplicas := by
  have hv' : (changeJob (JobSpec.setWorkers w) s).isVolcano := hv
  have hjob := JobSpec.setWorkers_setWorkers s.job w s.task.replicas
  rw [syncReplicas_eq, syncReplicas_eq, if_pos hv, if_pos hv']
  unfold changeJob
  simp only [hjob]

/-- **A volcano job does not depend on the worker count that it starts from**, neither in its
record nor in its error. -/
theorem result_withWorkers (hv : s.isVolcano) (bag : Bag) (w : Int32) :
    (build bag (s.withWorkers w)).result = (build bag s).result := by
  rw [result_build, result_build, result_fragments_withWorkers]
  cases h : (fragments bag s).result with
  | error e => rfl
  | ok t =>
    have hvt : t.isVolcano := by
      unfold isVolcano
      rw [(task_of_fragments h).2]
      exact hv
    have hreconcile : (changeJob (JobSpec.setWorkers w) t).reconcile bag = t.reconcile bag :=
      congrArg (setRunPolicy bag) (syncReplicas_setWorkers hvt w)
    simp only [Except.map, bind, Except.bind, hreconcile]

end Submission

namespace Builder

/-! ### After any history -/

/-- **Derived values agree with the counts whenever a build succeeds**, whatever is deferred and
whatever happened to the builder before. A volcano job ends with as many workers as its task has
replicas, whatever it starts from; every other job keeps its worker count. -/
theorem consistent_of_run (start : Builder) (history : List Step) {b : Builder}
    (hrun : start.run history = b) :
    (∀ built, b.build = (built, none) →
      built.submission.job.Consistent ∧
      built.submission.innerType = b.submission.innerType ∧
      built.submission.job.workerCount =
        if b.submission.isVolcano then built.submission.task.replicas
        else b.submission.job.workerCount) ∧
    (b.submission.isVolcano → ∀ w,
      result { b with submission := b.submission.withWorkers w } = b.result) := by
  subst hrun
  refine ⟨fun built hbuilt => ?_, fun hv w => Submission.result_withWorkers hv _ w⟩
  have hbag : built.bag = (start.run history).bag := congrArg (fun p => p.1.bag) hbuilt.symm
  have hresult : (start.run history).result = .ok built.submission := by
    rw [result_eq_ok_iff, hbuilt, ← hbag]
  obtain ⟨htask, hinner⟩ := Submission.task_of_result hresult
  refine ⟨Submission.consistent_of_result hresult, hinner, ?_⟩
  rw [Submission.workerCount_of_result hresult, htask]

/-- A gang of volcano workers with a variable of its own for the worker count, built once, edited
and built again. -/
theorem consistent_of_run_gang :
    let gang : Submission := { Submission.initial with
      innerType := "volcano"
      job := { JobSpec.initial with
        name := "demo", image := "x", gpuCount := 8, coscheduling := true }
      task := { Submission.initial.task with replicas := 3 } }
    let history := [.add "env" (.texts ["workers=9"]), .build, .edit (Submission.withWorkers 7)]
    let b := (Builder.new gang).run history
    b.build.2 = none ∧ b.build.1.submission.job.Consistent ∧
      b.build.1.submission.job.workerCount = b.build.1.submission.task.replicas := by
  intro gang history b
  have hsucceeds : b.build.2 = none := by decide +kernel
  have hvolcano : b.submission.isVolcano := by decide +kernel
  obtain ⟨hconsistent, -, hcount⟩ :=
    (consistent_of_run (.new gang) history rfl).1 b.build.1 (Prod.ext rfl hsucceeds)
  exact ⟨hsucceeds, hconsistent, hcount.trans (if_pos hvolcano)⟩

end Builder

end WrappedTraining
