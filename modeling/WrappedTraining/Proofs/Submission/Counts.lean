import WrappedTraining.Proofs.Cluster.GpuRequest
import WrappedTraining.Proofs.Submission.Rebuild

/-!
# The sign of counts

A job derives numbers from its counts: its pod group waits for as many pods as it has workers, and
its request asks for the GPUs of all of them. The GPU count is checked, but no rule looks at the
worker count, nor at the replicas that it is taken from.

* `JobSpec.Counted` : no number that a job derives from its counts is negative, and
  `JobSpec.Consistent.counted_iff` : that hangs on the worker count alone;
* `Builder.exists_finish_withCounts` : other counts make no difference to whether a submission is
  accepted;
* `Builder.counted_of_finish` : both together, for every submission that is accepted.
-/

namespace WrappedTraining

/-! ### Numbers that are not negative -/

/-- The text is that of a number in 64 bits that is not negative. -/
def Text.IsCount (s : String) : Prop := ∃ n, Text.int64? s = some n ∧ 0 ≤ n

theorem Text.isCount_ofInt_iff {n : Int} (hlo : -0x8000000000000000 ≤ n)
    (hhi : n ≤ 0x7FFFFFFFFFFFFFFF) : Text.IsCount (Text.ofInt n) ↔ 0 ≤ n := by
  have hvalue : (Int64.ofInt n).toInt = n := Int64.toInt_ofInt_of_le hlo (by omega)
  have hsign : 0 ≤ Int64.ofInt n ↔ 0 ≤ n := by
    rw [Int64.le_iff_toInt_le, hvalue, Int64.toInt_zero]
  unfold Text.IsCount
  rw [Text.int64?_ofInt hlo hhi]
  constructor
  · rintro ⟨m, hm, hnonneg⟩
    obtain rfl := Option.some.inj hm
    exact hsign.1 hnonneg
  · exact fun hn => ⟨_, rfl, hsign.2 hn⟩

namespace JobSpec

variable {j : JobSpec}

/-- The GPU request of the job is a number that is not negative. -/
def RequestCounted (j : JobSpec) : Prop :=
  ∃ v, j.annotations.get? Labels.requestedGpus = some v ∧ Text.IsCount v

/-- **No number that a job derives from its counts is negative.** -/
structure Counted (j : JobSpec) : Prop where
  workers : 0 ≤ j.workerCount
  podGroup : j.coscheduling = true → Text.IsCount j.podGroupMinAvailable
  request : j.RequestCounted

/-- The GPUs of all workers are not negative unless the number of workers is, and they have GPUs. -/
theorem totalGpus_nonneg_iff (h : 0 ≤ j.gpuCount) :
    0 ≤ j.totalGpus ↔ 0 ≤ j.workerCount ∨ j.gpuCount = 0 := by
  rw [Int32.le_iff_toInt_le, Int32.toInt_zero] at h ⊢
  rw [← Int32.toInt_inj, Int32.toInt_zero, totalGpus]
  constructor
  · intro htotal
    by_contra hneither
    obtain ⟨hworkers, hgpus⟩ := not_or.1 hneither
    have hnegative : j.workerCount.toInt * j.gpuCount.toInt < 0 :=
      Int.mul_neg_of_neg_of_pos (by omega) (by omega)
    omega
  · rintro (hworkers | hgpus)
    · exact Int.mul_nonneg hworkers h
    · rw [hgpus, Int.mul_zero]

namespace Consistent

theorem podGroup_iff (h : j.Consistent) (hgang : j.coscheduling = true) :
    Text.IsCount j.podGroupMinAvailable ↔ 0 ≤ j.workerCount := by
  have hlo := j.workerCount.le_toInt
  have hhi := j.workerCount.toInt_lt
  rw [h.podGroupMinAvailable hgang, Text.isCount_ofInt_iff (by omega) (by omega),
    Int32.le_iff_toInt_le, Int32.toInt_zero]

theorem request_iff (h : j.Consistent) (hgpus : 0 ≤ j.gpuCount) :
    j.RequestCounted ↔ 0 ≤ j.workerCount ∨ j.gpuCount = 0 := by
  obtain ⟨hlo, hhi⟩ := j.totalGpus_bounds
  have hrequest : j.annotations.get? Labels.requestedGpus = some (Text.ofInt j.totalGpus) :=
    h.requestedGpus
  rw [← totalGpus_nonneg_iff hgpus, ← Text.isCount_ofInt_iff (by omega) (by omega), RequestCounted,
    hrequest]
  constructor
  · rintro ⟨v, hv, hcount⟩
    rwa [Option.some.inj hv]
  · exact fun hcount => ⟨_, rfl, hcount⟩

/-- **The worker count alone decides** whether a number derived from the counts is negative. -/
theorem counted_iff (h : j.Consistent) (hgpus : 0 ≤ j.gpuCount) :
    j.Counted ↔ 0 ≤ j.workerCount := by
  constructor
  · exact Counted.workers
  · intro hworkers
    exact {
      workers := hworkers
      podGroup := fun hgang => (h.podGroup_iff hgang).2 hworkers
      request := (h.request_iff hgpus).2 (.inl hworkers) }

end Consistent

end JobSpec

/-! ### Other counts -/

/-- The submission with other numbers of workers and replicas. -/
def Submission.withCounts (workers replicas : Int32) (s : Submission) : Submission :=
  { s with
    job := { s.job with workerCount := workers }
    task := { s.task with replicas := replicas } }

namespace Builder

variable {b : Builder} {r : Submission}

/-- The builder with other numbers of workers and replicas. -/
def withCounts (workers replicas : Int32) (b : Builder) : Builder :=
  { b with submission := b.submission.withCounts workers replicas }

/-- No rule looks at the numbers of workers and replicas. -/
theorem rules_withCounts (workers replicas : Int32) (b : Builder) :
    (b.withCounts workers replicas).rules = b.rules := by
  have hchecks : ((b.submission.withCounts workers replicas).setRunPolicy b.bag).checkRules =
      (b.submission.setRunPolicy b.bag).checkRules := rfl
  simp only [rules, withCounts, Submission.buildRules, Submission.checkRules_reconcile, hchecks]
  rfl

/-- **Other counts are accepted alike.** -/
theorem exists_finish_withCounts (workers replicas : Int32) (b : Builder) :
    (∃ r, (b.withCounts workers replicas).finish = .ok r) ↔ ∃ r, b.finish = .ok r := by
  rw [exists_finish_iff, exists_finish_iff, rules_withCounts]

theorem consistent_of_finish (h : b.finish = .ok r) : r.job.Consistent := by
  obtain ⟨s, -, hbuild⟩ := finish_eq_ok_iff.1 h
  exact Submission.consistent_of_result hbuild

/-- The GPU count of a submission that is accepted is not negative. -/
theorem gpuCount_nonneg (h : b.finish = .ok r) : 0 ≤ b.submission.job.gpuCount := by
  have hrule : Rule.condition (0 ≤ b.submission.job.gpuCount) .gpusNegative ∈ b.rules := by
    rw [rules, Submission.buildRules, Submission.checkRules_reconcile]
    refine List.mem_append_right _ (List.mem_append_right _ (List.mem_append_left _ ?_))
    exact .tail _ (.tail _ (.head _))
  exact (exists_finish_iff b).1 ⟨r, h⟩ _ hrule

/-- **Which counts make negative numbers.** A submission that is accepted has as many workers as it
came with, or as many as its task has replicas if it is a volcano job, and a GPU count that is not
negative. So no derived number is negative exactly if the worker count is not: the pod group waits
for that number, and the request is negative with it unless there are no GPUs. Nothing rules out a
worker count below zero, for the submission is accepted with any other counts as well. -/
theorem counted_of_finish (h : b.finish = .ok r) :
    (r.job.workerCount = b.submission.builtWorkers ∧
      0 ≤ r.job.gpuCount ∧
      (r.job.Counted ↔ 0 ≤ r.job.workerCount) ∧
      (r.job.coscheduling = true →
        (Text.IsCount r.job.podGroupMinAvailable ↔ 0 ≤ r.job.workerCount)) ∧
      (r.job.RequestCounted ↔ 0 ≤ r.job.workerCount ∨ r.job.gpuCount = 0)) ∧
    ∀ workers replicas, ∃ r', (b.withCounts workers replicas).finish = .ok r' ∧
      r'.job.workerCount = if b.submission.isVolcano then replicas else workers := by
  have hconsistent := consistent_of_finish h
  have hworkers : r.job.workerCount = b.submission.builtWorkers := by
    rw [eq_built_of_finish h]
    rfl
  have hgpus : 0 ≤ r.job.gpuCount := by
    rw [eq_built_of_finish h]
    exact gpuCount_nonneg h
  refine ⟨⟨hworkers, hgpus, hconsistent.counted_iff hgpus, hconsistent.podGroup_iff,
    hconsistent.request_iff hgpus⟩, fun workers replicas => ?_⟩
  obtain ⟨r', hr'⟩ := (exists_finish_withCounts workers replicas b).2 ⟨r, h⟩
  refine ⟨r', hr', ?_⟩
  rw [eq_built_of_finish hr']
  rfl

/-- A gang of volcano workers whose own worker count is below zero, with three replicas and with
three below zero. -/
theorem counted_of_finish_volcano :
    let gang : Submission := { Submission.initial with
      innerType := "volcano"
      job := { JobSpec.initial with
        name := "demo", image := "x", gpuCount := 8, workerCount := -7, coscheduling := true }
      task := { Submission.initial.task with replicas := 3 } }
    let b := Builder.new gang
    ∃ r r', b.finish = .ok r ∧ r.job.Counted ∧
      (b.withCounts 7 (-3)).finish = .ok r' ∧ ¬r'.job.Counted := by
  intro gang b
  have hsucceeds : b.Succeeds := by decide +kernel
  obtain ⟨r, hr⟩ := hsucceeds
  obtain ⟨⟨hworkers, -, hcounted, -, -⟩, hother⟩ := counted_of_finish hr
  obtain ⟨r', hr', hreplicas⟩ := hother 7 (-3)
  obtain ⟨⟨-, -, hcounted', -, -⟩, -⟩ := counted_of_finish hr'
  refine ⟨r, r', hr, hcounted.2 ?_, hr', mt hcounted'.1 ?_⟩
  · rw [hworkers]
    decide +kernel
  · rw [hreplicas]
    decide +kernel

/-- A gang of three workers below zero with two GPUs each is accepted: its pod group waits for `-3`
pods, and its request asks for `-6` GPUs. -/
theorem counts_below_zero :
    let gang : Submission := { Submission.initial with
      job := { JobSpec.initial with
        name := "demo", image := "x", gpuCount := 2, workerCount := -3, coscheduling := true } }
    ∃ r, (Builder.new gang).finish = .ok r ∧ ¬0 ≤ r.job.workerCount ∧
      r.job.podGroupMinAvailable = "-3" ∧
      r.job.annotations.get? Labels.requestedGpus = some "-6" := by
  intro gang
  have hsucceeds : (Builder.new gang).Succeeds := by decide +kernel
  obtain ⟨r, hr⟩ := hsucceeds
  refine ⟨r, hr, ?_⟩
  rw [eq_built_of_finish hr]
  decide +kernel

end Builder

end WrappedTraining
